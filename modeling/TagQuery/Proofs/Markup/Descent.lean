import TagQuery.Markup.Extraction
import TagQuery.Proofs.Markup.Reading
import TagQuery.Proofs.Markup.Tiling

/-!
# Deep extraction by recursion

Deep extraction reads the bodies of elements in place and keeps the levels that are still to be
visited in a list. Here it is said by recursion on copies: the element of a slice, and after it,
where deep extraction looks inside, all elements of its inner text taken as a document of its own
(`extractRecursively`).

The two agree because a capture is faithful to the document (`Capture.Faithful`): the span of its
body holds the inner text of its element, and a scanned slice without a body is an element without
inner text. `faithful_scan` says so of every span that is scanned, and `visit_eq_flatMap` carries
it along all pending levels.
-/

namespace TagQuery.Markup

/-! ## Captures are faithful -/

/-- What a capture says of its body is true of the document. -/
structure Capture.Faithful (input : Text) (capture : Capture) : Prop where
  /-- The body is the inner text of the element. -/
  body : ∀ span, capture.body? = some span →
    ∃ element, Element.ofSlice? capture.slice.text = some element ∧
      span.of input = element.innerText
  /-- Where a scanned slice has no body there is no inner text. -/
  empty : capture.slice.origin = .scanned → capture.body? = none →
    ∀ element, Element.ofSlice? capture.slice.text = some element → element.innerText = []

theorem Span.of_append (front body back : Text) :
    Span.of ⟨front.length, front.length + body.length⟩ (front ++ body ++ back) = body := by
  rw [Span.of, ← List.length_append, List.take_left, List.drop_left]

theorem faithful_withoutBody {input : Text} {slice : Slice}
    (empty : slice.origin = .scanned → ∀ element, Element.ofSlice? slice.text = some element →
      element.innerText = []) : Capture.Faithful input ⟨slice, none⟩ where
  body span found := by cases found
  empty scanned _ := empty scanned

theorem faithful_captures {options : ScanOptions} {segment : Segment} {rest before : Text}
    (after : Text) (fits : segment.Fits options rest) {capture : Capture}
    (member : capture ∈ segment.captures before.length) :
    capture.Faithful (before ++ segment.text ++ after) := by
  cases segment with
  | tag opening =>
    obtain ⟨name, area, rfl, opening, _⟩ := fits
    obtain rfl := List.mem_singleton.mp member
    apply faithful_withoutBody
    intro _ element read
    obtain rfl := Option.some.inj (opening.ofSlice?_tag.symm.trans read)
    rfl
  | element opening body closing =>
    obtain ⟨name, area, rfl, opening, _, _, first⟩ := fits
    simp only [Segment.captures] at member
    split at member
    · obtain rfl := List.mem_singleton.mp member
      constructor
      · intro span found
        obtain rfl := Option.some.inj found
        refine ⟨_, opening.ofSlice?_of_balances first.balances, ?_⟩
        have inside := Span.of_append (before ++ openingTag name area) body (closing ++ after)
        rw [List.length_append] at inside
        simpa only [Segment.text, List.append_assoc] using inside
      · intro _ absent
        cases absent
    · rcases List.mem_cons.mp member with rfl | piece
      · apply faithful_withoutBody
        intro scanned
        cases scanned
      · obtain ⟨slice, nested, rfl⟩ := List.mem_map.mp piece
        apply faithful_withoutBody
        intro scanned
        rw [origin_of_mem_nested nested] at scanned
        cases scanned
  | _ => cases member

theorem faithful_captures_segments {options : ScanOptions} {parts : List Segment}
    (before after : Text)
    (fits : ∀ front segment back, parts = front ++ segment :: back →
      segment.Fits options (back.flatMap Segment.text)) {capture : Capture}
    (member : capture ∈ captures before.length parts) :
    capture.Faithful (before ++ parts.flatMap Segment.text ++ after) := by
  obtain ⟨front, segment, back, rfl, here⟩ := exists_segment_of_mem_captures member
  rw [← List.length_append] at here
  have faithful := faithful_captures (back.flatMap Segment.text ++ after)
    (fits front segment back rfl) here
  simpa only [List.flatMap_append, List.flatMap_cons, List.append_assoc] using faithful

/-- A span that holds something has the rest of the text around it. -/
theorem Span.exists_around {span : Span} {text : Text} (inhabited : span.of text ≠ []) :
    ∃ before after, text = before ++ span.of text ++ after ∧ before.length = span.start := by
  have inside : span.start < min span.stop text.length := by
    by_contra outside
    refine inhabited (List.drop_eq_nil_of_le ?_)
    rw [List.length_take]
    omega
  refine ⟨text.take span.start, text.drop span.stop, ?_, ?_⟩
  · rw [Span.take_append_of (by omega), List.take_append_drop]
  · rw [List.length_take]
    omega

/-- What a scan of a span hands over are the captures of its segments. -/
theorem scan_eq (reader : IdleScanner) (span : Span) :
    (reader.scan span).1 =
      captures span.start (segments reader.scanner.options (span.of reader.scanner.input)) := by
  have window : Span.of ⟨span.start, min span.stop reader.scanner.input.length⟩
      reader.scanner.input = span.of reader.scanner.input := by
    rw [Span.of, Span.of, ← List.take_eq_take_min]
  simp only [IdleScanner.scan, Scanner.scan, Scanner.run, reader.idle, List.nil_append,
    Scanner.window, window]

/-- What is scanned in any span of a document is faithful to it. -/
theorem faithful_scan (reader : IdleScanner) (span : Span) {capture : Capture}
    (member : capture ∈ (reader.scan span).1) : capture.Faithful reader.scanner.input := by
  rw [scan_eq] at member
  by_cases inhabited : span.of reader.scanner.input = []
  · rw [inhabited, segments] at member
    cases member
  · obtain ⟨before, after, whole, start⟩ := Span.exists_around inhabited
    rw [← start] at member
    have faithful := faithful_captures_segments before after
      (fun _ _ _ split => (fits_segments split).2) member
    rwa [segments_text, ← whole] at faithful

/-! ## Recursion on copies -/

/-- The inner text that deep extraction enters is shorter than the document. -/
theorem innerText_length_lt {options : ScanOptions} {html : Text} {slice : Slice}
    {element : Element} (member : slice ∈ slices options html)
    (read : Element.ofSlice? slice.text = some element) (scanned : slice.origin = .scanned)
    (markup : '<' ∈ element.innerText) : element.innerText.length < html.length := by
  rw [slices_eq_map] at member
  obtain ⟨capture, here, rfl⟩ := List.mem_map.mp member
  have faithful := faithful_captures_segments [] []
    (fun _ _ _ split => (fits_segments split).2) here
  rw [segments_text, List.nil_append, List.append_nil] at faithful
  cases found : capture.body? with
  | none =>
    rw [faithful.empty scanned found element read] at markup
    cases markup
  | some span =>
    obtain ⟨again, readAgain, inside⟩ := faithful.body span found
    obtain rfl := Option.some.inj (readAgain.symm.trans read)
    have light := weight_captures_segments_le options (html.filter (· != '\n')) 0
    have heavy := weight_le_of_mem here
    have kept := List.length_filter_le (· != '\n') html
    have fits := Span.length_of_le span (html.filter (· != '\n'))
    simp only [Capture.weight, found, Option.map_some, Option.getD_some] at heavy
    rw [← inside]
    omega

/-- The elements of a document by recursion: after the element of a slice come, where deep
extraction looks inside, the elements of a copy of its inner text. -/
def extractRecursively (html : Text) : List Element :=
  (slices {} html).attach.flatMap fun slice =>
    match _read : Element.ofSlice? slice.val.text with
    | none => []
    | some element =>
      element ::
        if _inside : slice.val.origin = .scanned ∧ isRawText slice.val.name = false ∧
            '<' ∈ element.innerText then
          extractRecursively element.innerText
        else []
termination_by html.length
decreasing_by exact innerText_length_lt slice.property _read _inside.1 _inside.2.2

/-- The element of a slice with the elements that recursion finds inside it. -/
def elementsOf (slice : Slice) : List Element :=
  match Element.ofSlice? slice.text with
  | none => []
  | some element =>
    element ::
      if slice.origin = .scanned ∧ isRawText slice.name = false ∧ '<' ∈ element.innerText then
        extractRecursively element.innerText
      else []

theorem extractRecursively_eq (html : Text) :
    extractRecursively html = (slices {} html).flatMap elementsOf := by
  have step (slice : Slice) (member : slice ∈ slices {} html) :
      (match _read : Element.ofSlice? slice.text with
        | none => []
        | some element =>
          element ::
            if _inside : slice.origin = .scanned ∧ isRawText slice.name = false ∧
                '<' ∈ element.innerText then
              extractRecursively element.innerText
            else []) = elementsOf slice := by
    unfold elementsOf
    split <;> simp_all
  rw [extractRecursively]
  calc
    _ = (slices {} html).attach.flatMap fun slice => elementsOf slice.val :=
      congrArg (List.flatMap · _) (funext fun slice => step slice.val slice.property)
    _ = ((slices {} html).attach.map Subtype.val).flatMap elementsOf := by rw [List.flatMap_map]
    _ = _ := by rw [List.attach_map_subtype_val]

/-! ## The pending levels -/

/-- Scanning a span finds what recursion finds in a copy of it. -/
theorem scan_elementsOf {reader : IdleScanner} (default : reader.scanner.options = {})
    (stripped : '\n' ∉ reader.scanner.input) (span : Span) :
    (reader.scan span).1.flatMap (fun capture => elementsOf capture.slice) =
      extractRecursively (span.of reader.scanner.input) := by
  have absent : '\n' ∉ span.of reader.scanner.input := fun present =>
    stripped (List.mem_of_mem_take (List.mem_of_mem_drop present))
  have copy : (span.of reader.scanner.input).filter (· != '\n') = span.of reader.scanner.input :=
    List.filter_eq_self.mpr (Text.all_bne_of_notMem absent)
  rw [extractRecursively_eq, slices_eq_flatMap, copy, scan_eq, default,
    ← map_slice_captures_segments span.start, List.flatMap_map]

theorem descends_iff {slice : Slice} {element : Element} :
    descends slice element = true ↔
      slice.origin = .scanned ∧ isRawText slice.name = false ∧ '<' ∈ element.innerText := by
  simp [descends, and_assoc]

/-- Where the body of a faithful capture is not scanned, recursion finds nothing either. -/
theorem elementsOf_of_bodyToScan?_none {input : Text} {capture : Capture} {element : Element}
    (faithful : capture.Faithful input)
    (read : Element.ofSlice? capture.slice.text = some element)
    (absent : bodyToScan? capture element = none) : elementsOf capture.slice = [element] := by
  simp only [elementsOf, read]
  rw [if_neg]
  intro inside
  rw [bodyToScan?, if_pos (descends_iff.mpr inside)] at absent
  obtain ⟨scanned, _, markup⟩ := inside
  rw [faithful.empty scanned absent element read] at markup
  cases markup

/-- Where the body of a faithful capture is scanned, recursion enters the text of that span. -/
theorem elementsOf_of_bodyToScan?_some {input : Text} {capture : Capture} {element : Element}
    {body : Span} (faithful : capture.Faithful input)
    (read : Element.ofSlice? capture.slice.text = some element)
    (found : bodyToScan? capture element = some body) :
    elementsOf capture.slice = element :: extractRecursively (body.of input) := by
  unfold bodyToScan? at found
  split at found
  · rename_i inside
    obtain ⟨again, readAgain, same⟩ := faithful.body body found
    obtain rfl := Option.some.inj (readAgain.symm.trans read)
    simp only [elementsOf, read]
    rw [if_pos (descends_iff.mp inside), same]
  · cases found

theorem forall_levels_tail {P : Capture → Prop} {capture : Capture} {level : List Capture}
    {levels : List (List Capture)}
    (all : ∀ other ∈ (capture :: level) :: levels, ∀ pending ∈ other, P pending) :
    ∀ other ∈ level :: levels, ∀ pending ∈ other, P pending := by
  intro other member pending present
  rcases List.mem_cons.mp member with rfl | later
  · exact all _ List.mem_cons_self pending (List.mem_cons_of_mem _ present)
  · exact all other (List.mem_cons_of_mem _ later) pending present

/-- Visiting the pending levels gives, level by level, what recursion finds. -/
theorem visit_eq_flatMap (reader : IdleScanner) (levels : List (List Capture))
    (default : reader.scanner.options = {}) (stripped : '\n' ∉ reader.scanner.input)
    (faithful : ∀ level ∈ levels, ∀ capture ∈ level, capture.Faithful reader.scanner.input) :
    visit reader levels =
      levels.flatMap fun level => level.flatMap fun capture => elementsOf capture.slice := by
  fun_induction visit reader levels with
  | case1 => rfl
  | case2 reader levels ih =>
    exact ih default stripped fun level member => faithful level (List.mem_cons_of_mem _ member)
  | case3 reader capture level levels unread ih =>
    rw [ih default stripped (forall_levels_tail faithful), List.flatMap_cons, List.flatMap_cons,
      List.flatMap_cons]
    simp only [elementsOf, unread, List.nil_append]
  | case4 reader capture level levels element read ihAfter ihInside =>
    have here := faithful _ List.mem_cons_self capture List.mem_cons_self
    have remaining := forall_levels_tail faithful
    rw [List.flatMap_cons, List.flatMap_cons]
    split
    · rename_i absent
      rw [ihAfter default stripped remaining, elementsOf_of_bodyToScan?_none here read absent]
      rfl
    · rename_i body found
      -- Scanning moves the reader on, but leaves it on the same document.
      have scanned : ∀ other ∈ (reader.scan body).1 :: level :: levels, ∀ pending ∈ other,
          pending.Faithful reader.scanner.input := by
        intro other member pending present
        rcases List.mem_cons.mp member with rfl | later
        · exact faithful_scan reader body present
        · exact remaining other later pending present
      rw [ihInside body found default stripped scanned, List.flatMap_cons, List.flatMap_cons,
        scan_elementsOf default stripped, elementsOf_of_bodyToScan?_some here read found]
      simp only [List.cons_append, List.append_assoc]

/-- Deep extraction gives each slice of the document with what recursion finds inside it. -/
theorem extractDeep_eq_flatMap (html : Text) :
    extractDeep html = (slices {} html).flatMap elementsOf := by
  have stripped : '\n' ∉ html.filter (· != '\n') := by simp
  let reader : IdleScanner := ⟨Scanner.ofText {} html, rfl⟩
  let whole : Span := ⟨0, (html.filter (· != '\n')).length⟩
  have faithful : ∀ level ∈ [(reader.scan whole).1], ∀ capture ∈ level,
      capture.Faithful (html.filter (· != '\n')) := by
    intro level member capture present
    rw [List.mem_singleton.mp member] at present
    exact faithful_scan reader whole present
  calc
    extractDeep html = visit (reader.scan whole).2 [(reader.scan whole).1] := rfl
    _ = (reader.scan whole).1.flatMap fun capture => elementsOf capture.slice := by
      rw [visit_eq_flatMap _ _ rfl stripped faithful, List.flatMap_singleton]
    _ = extractRecursively (whole.of (html.filter (· != '\n'))) :=
      scan_elementsOf rfl stripped whole
    _ = (slices {} html).flatMap elementsOf := by
      rw [Span.of_whole, extractRecursively_eq, slices_eq_flatMap, slices_eq_flatMap,
        List.filter_filter]
      simp only [Bool.and_self]

/-- Deep extraction is the recursion on copies, and the span of every body that any scan of the
document hands over holds the inner text of its element. -/
theorem extractDeep_eq_extractRecursively (html : Text) :
    extractDeep html = extractRecursively html ∧
      ∀ (reader : IdleScanner) (span : Span), ∀ capture ∈ (reader.scan span).1,
        ∀ body, capture.body? = some body →
          ∃ element, Element.ofSlice? capture.slice.text = some element ∧
            body.of reader.scanner.input = element.innerText := by
  refine ⟨?_, fun reader span capture member => (faithful_scan reader span member).body⟩
  rw [extractDeep_eq_flatMap, extractRecursively_eq]

end TagQuery.Markup
