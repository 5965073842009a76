import TagQuery.Proofs.Markup.Fragments
import TagQuery.Proofs.Markup.Sequence

/-!
# Deep extraction of written markup

Deep extraction reports the elements of a quiet forest in pre-order, whatever follows its rendering
(`Quiet.reports_elementsIn`). Line breaks are no elements. A well-formed forest has none, and all of
its elements are reported (`extractDeep_render`).

An element is found in one of three ways. The children of a wrapper or a line break stand beside it
in the document, the children of an element with a body are found by descending, and inside a
nestable element that holds one of its own name all elements are fragments. One induction covers
the first two; in it a body is a document of its own.
-/

namespace TagQuery.Markup

/-! ## Documents -/

/-- The elements that the segments of a document without line feeds give. -/
def elementsIn (text : Text) : List Element :=
  ((segments {} text).flatMap Segment.slices).flatMap elementsOf

theorem extractDeep_eq_elementsIn (html : Text) :
    extractDeep html = elementsIn (html.filter (· != '\n')) := by
  rw [extractDeep_eq_flatMap, slices_eq_flatMap, elementsIn]

theorem extractRecursively_eq_elementsIn {text : Text} (oneLine : '\n' ∉ text) :
    extractRecursively text = elementsIn text := by
  rw [extractRecursively_eq, slices_eq_flatMap,
    List.filter_eq_self.mpr (Text.all_bne_of_notMem oneLine), elementsIn]

theorem elementsIn_eq (text : Text) : elementsIn text = (slicesIn text).flatMap elementsOf := rfl

theorem elementsIn_nil : elementsIn [] = [] := by
  rw [elementsIn_eq, slicesIn_nil, List.flatMap_nil]

theorem elementsIn_cons_of_ne {c : Char} (other : c ≠ '<') (rest : Text) :
    elementsIn (c :: rest) = elementsIn rest := by
  rw [elementsIn_eq, slicesIn_cons_of_ne other, elementsIn_eq]

theorem elementsIn_append_of_notMem {run : Text} (absent : '<' ∉ run) (rest : Text) :
    elementsIn (run ++ rest) = elementsIn rest := by
  rw [elementsIn_eq, slicesIn_append_of_notMem absent, elementsIn_eq]

/-- A segment gives its elements in front of those of the rest. -/
theorem elementsIn_of_fits {segment : Segment} {rest : Text} (fits : segment.Fits {} rest)
    (markup : '<' ∈ segment.text) :
    elementsIn (segment.text ++ rest) = segment.slices.flatMap elementsOf ++ elementsIn rest := by
  rw [elementsIn_eq, slicesIn_of_fits fits markup, List.flatMap_append, elementsIn_eq]

theorem elementsIn_of_cutMarkup {segment : Segment} {whole rest : Text}
    (cut : cutMarkup {} whole = (segment, rest)) :
    elementsIn ('<' :: whole) = segment.slices.flatMap elementsOf ++ elementsIn rest := by
  rw [elementsIn, segments, if_pos rfl, cut, List.flatMap_cons, List.flatMap_append, elementsIn]

/-- A closer that closes nothing gives no element. -/
theorem elementsIn_closer {name : Text} (tag : IsTagName name) (rest : Text) :
    elementsIn (closer name ++ rest) = elementsIn rest :=
  elementsIn_of_fits (fits_closer tag rest) List.mem_cons_self

theorem elementsIn_comment {content : Text} (closed : ¬ ['-', '-', '>'] <:+: content)
    (rest : Text) : elementsIn (comment content ++ rest) = elementsIn rest :=
  elementsIn_of_fits (fits_comment closed rest) List.mem_cons_self

/-- A line break gives no element. -/
theorem elementsIn_lineBreak {name area : Text} (opening : IsOpening name area)
    (lineBreak : isLineBreak name = true) (rest : Text) :
    elementsIn (openingTag name area ++ rest) = elementsIn rest :=
  elementsIn_of_fits (opening.fits_lineBreak lineBreak rest) List.mem_cons_self

/-- A tag by itself gives one element. -/
theorem IsOpening.elementsOf_tag {name area : Text} (opening : IsOpening name area) :
    elementsOf (.ofText (openingTag name area) .scanned) = [⟨name, attributesOf name area, []⟩] := by
  simp [elementsOf, Slice.ofText, opening.ofSlice?_tag]

theorem IsOpening.elementsIn_tag {name area : Text} (opening : IsOpening name area)
    (other : isLineBreak name = false) (ends : ¬ LeavesOpen {} name area) (rest : Text) :
    elementsIn (openingTag name area ++ rest) =
      ⟨name, attributesOf name area, []⟩ :: elementsIn rest := by
  have step := elementsIn_of_fits (opening.fits_tag other ends rest) List.mem_cons_self
  rwa [Segment.slices, List.flatMap_singleton, opening.elementsOf_tag] at step

section Whole
variable {name area body : Text} (opening : IsOpening name area) (matched : Matched name body)
  (oneLine : '\n' ∉ body)

include opening matched

theorem IsOpening.ofSlice?_of_matched :
    Element.ofSlice? (openingTag name area ++ body ++ closer name) =
      some ⟨name, attributesOf name area, body⟩ :=
  opening.ofSlice?_of_balances (matched.balances opening.toIsTagName (Text.sameName_refl name))

include oneLine

/-- An element that is not refined comes with what descending into it finds. -/
theorem IsOpening.elementsOf_scanned :
    elementsOf (.ofText (openingTag name area ++ body ++ closer name) .scanned) =
      ⟨name, attributesOf name area, body⟩ :: if isRawText name then [] else elementsIn body := by
  have read := opening.ofSlice?_of_matched matched
  have named : tagName (openingTag name area ++ body ++ closer name) = name := by
    rw [List.append_assoc, opening.tagName_openingTag]
  simp only [elementsOf, Slice.ofText, read, named, true_and]
  cases isRawText name with
  | true => rfl
  | false =>
    by_cases markup : '<' ∈ body
    · rw [if_pos ⟨rfl, markup⟩, extractRecursively_eq_elementsIn oneLine]
      rfl
    · have nothing := elementsIn_append_of_notMem markup []
      rw [List.append_nil, elementsIn_nil] at nothing
      rw [if_neg fun inside => markup inside.2, nothing]
      rfl

/-- An element that is cut out whole comes with what descending into it finds, or with the fragments
of its body if its body opens its name again. -/
theorem IsOpening.elementsOf_slices (unopened : '<' ∉ area) :
    ∃ within, (Segment.element (openingTag name area) body (closer name)).slices.flatMap elementsOf =
        ⟨name, attributesOf name area, body⟩ :: within ∧
      (within = (if isRawText name then [] else elementsIn body) ∨
        Category.ofName name = .nestable ∧ countOpeners name body ≠ 0 ∧
          within = fragmentsIn (body ++ closer name)) := by
  have pieces := opening.nested_openingTag unopened (body ++ closer name)
  have apart : Apart (closer name) := apart_markup _
  rw [← List.append_assoc, countOpeners_append opening.toIsTagName apart,
    countOpeners_closer opening.toIsTagName (Text.sameName_refl name), Nat.add_zero] at pieces
  simp only [Segment.slices]
  split
  · rw [List.flatMap_singleton]
    exact ⟨_, opening.elementsOf_scanned matched oneLine, .inl rfl⟩
  · rename_i refined
    split at pieces
    · rename_i opens
      have origin : Origin.refined ≠ Origin.scanned := by decide
      refine ⟨_, ?_, .inr ⟨opens.1, opens.2, rfl⟩⟩
      rw [List.flatMap_cons, elementsOf_of_not_scanned origin (opening.ofSlice?_of_matched matched),
        pieces]
      rfl
    · rw [pieces] at refined
      exact (refined rfl).elim

theorem IsOpening.elementsIn_whole (other : isLineBreak name = false) (unopened : '<' ∉ area)
    (leaves : LeavesOpen {} name area) (rest : Text) :
    ∃ within, elementsIn (openingTag name area ++ (body ++ (closer name ++ rest))) =
        ⟨name, attributesOf name area, body⟩ :: (within ++ elementsIn rest) ∧
      (within = (if isRawText name then [] else elementsIn body) ∨
        Category.ofName name = .nestable ∧ countOpeners name body ≠ 0 ∧
          within = fragmentsIn (body ++ closer name)) := by
  obtain ⟨within, whole, kinds⟩ := opening.elementsOf_slices matched oneLine unopened
  have step := elementsIn_of_fits (opening.fits_element other leaves matched rest) List.mem_cons_self
  rw [whole, Segment.text, List.append_assoc, List.append_assoc] at step
  exact ⟨within, step, kinds⟩

end Whole

/-! ## Forests -/

section Element
variable {name : Text} {attributes : List Attribute} {children : Forest}
  {ancestors : List (Text × Forest)} (tag : IsTagName name)
  (writable : ∀ entry ∈ attributes, IsWritable entry)

include tag writable

/-- A wrapper, a void element and a line break give what stands beside them too. -/
theorem reports_beside (bare : isLineBreak name = true ∨ (Category.ofName name).hasBody = false) :
    Reports elementsIn (openingTag name (writeAttributes attributes))
      ([(⟨ancestors, name, attributes, children⟩ : Place)].filter fun place =>
        !isLineBreak place.name) := by
  intro rest
  have opening := isOpening_writeAttributes tag writable
  cases lineBreak : isLineBreak name with
  | true => exact ⟨[], elementsIn_lineBreak opening lineBreak rest, by simp [lineBreak]⟩
  | false =>
    have none : (Category.ofName name).hasBody = false := by simpa [lineBreak] using bare
    have ends : ¬ LeavesOpen {} name (writeAttributes attributes) := fun leaves => by
      rw [leavesOpen_writeAttributes.mp leaves] at none
      cases none
    have here : Place.Reported ⟨ancestors, name, attributes, children⟩
        ⟨name, attributesOf name (writeAttributes attributes), []⟩ :=
      ⟨rfl, attributesOf_writeAttributes writable, fun body => by rw [none] at body; cases body⟩
    exact ⟨[_], opening.elementsIn_tag lineBreak ends rest, by simp [lineBreak, here]⟩

/-- An element that is cut out whole reports itself, and then what its body reports. -/
theorem reports_whole (other : isLineBreak name = false)
    (body : (Category.ofName name).hasBody = true) (matched : Matched name children.render)
    (oneLine : '\n' ∉ children.render)
    (plain : isRawText name = true → children.isText = true)
    (inside : isRawText name = false →
      Reports elementsIn children.render (children.reported ((name, children) :: ancestors)))
    (refined : Category.ofName name = .nestable → countOpeners name children.render ≠ 0 →
      Reports fragmentsIn children.render (children.reported ((name, children) :: ancestors))) :
    Reports elementsIn
      (openingTag name (writeAttributes attributes) ++ (children.render ++ closer name))
      (⟨ancestors, name, attributes, children⟩ ::
        children.reported ((name, children) :: ancestors)) := by
  intro rest
  have opening := isOpening_writeAttributes tag writable
  obtain ⟨within, whole, kinds⟩ := opening.elementsIn_whole matched oneLine other
    (unopened_writeAttributes writable) (leavesOpen_writeAttributes.mpr body) rest
  have here : Place.Reported ⟨ancestors, name, attributes, children⟩
      ⟨name, attributesOf name (writeAttributes attributes), children.render⟩ :=
    ⟨rfl, attributesOf_writeAttributes writable, fun _ _ => rfl⟩
  have below : List.Forall₂ Place.Reported (children.reported ((name, children) :: ancestors))
      within := by
    rcases kinds with rfl | ⟨nestable, opens, rfl⟩
    · cases raw : isRawText name with
      | true =>
        rw [reported_of_isText (plain raw)]
        exact .nil
      | false =>
        obtain ⟨elements, found, reported⟩ := inside raw []
        rw [elementsIn_nil, List.append_nil, List.append_nil] at found
        rw [if_neg (by simp), found]
        exact reported
    · obtain ⟨elements, found, reported⟩ := refined nestable opens (closer name)
      have last := fragmentsIn_closer tag []
      rw [List.append_nil, fragmentsIn_nil] at last
      rw [found, last, List.append_nil]
      exact reported
  refine ⟨_ :: within, ?_, .cons here below⟩
  rw [List.append_assoc, List.append_assoc, whole, List.cons_append]

/-- A written element reports itself, unless it is a line break, and then its children. -/
theorem reports_element (empty : Category.ofName name = .void → children = .nil)
    (matched : (Category.ofName name).hasBody = true → Matched name children.render)
    (oneLine : '\n' ∉ children.render)
    (plain : isRawText name = true → children.isText = true)
    (inside : isRawText name = false →
      Reports elementsIn children.render (children.reported ((name, children) :: ancestors)))
    (refined : Category.ofName name = .nestable → countOpeners name children.render ≠ 0 →
      Reports fragmentsIn children.render (children.reported ((name, children) :: ancestors))) :
    Reports elementsIn
      (openingTag name (writeAttributes attributes) ++
        (if Category.ofName name = .void then [] else children.render ++ closer name))
      ([(⟨ancestors, name, attributes, children⟩ : Place)].filter (fun place =>
        !isLineBreak place.name) ++ children.reported ((name, children) :: ancestors)) := by
  by_cases bare : isLineBreak name = true ∨ (Category.ofName name).hasBody = false
  · have markup : isRawText name = false := by
      rw [← Bool.not_eq_true]
      intro raw
      rw [isLineBreak_of_isRawText raw, ofName_of_isRawText raw] at bare
      simp [Category.hasBody] at bare
    exact (reports_beside tag writable bare).append
      (reports_body (elementsIn_closer tag) empty (inside markup))
  · obtain ⟨other, body⟩ := not_or.mp bare
    rw [Bool.not_eq_true] at other
    rw [Bool.not_eq_false] at body
    have visible : Category.ofName name ≠ .void := fun void => by
      rw [void] at body
      cases body
    have whole := reports_whole tag writable other body (matched body) oneLine plain inside refined
    rw [if_neg visible]
    simpa [other] using whole

end Element

/-- The elements of a quiet forest are reported in pre-order. -/
theorem Forest.Quiet.reports_elementsIn {around : List Enclosing} {forest : Forest}
    (quiet : forest.Quiet around) {ancestors : List (Text × Forest)}
    (same : Place.enclosing ancestors = around) :
    Reports elementsIn forest.render (forest.reported ancestors) := by
  induction quiet generalizing ancestors with
  | nil => exact reports_nothing fun _ => rfl
  | text unopened _ _ ih =>
    exact (reports_nothing (elementsIn_append_of_notMem unopened)).append (ih same)
  | comment closed _ _ _ ih =>
    exact (reports_nothing (elementsIn_comment closed)).append (ih same)
  | raw raw tag writable plain oneLine harmless _ ih =>
    rw [Forest.reported_element, ← List.append_assoc]
    refine (reports_element tag writable (fun void => absurd void (not_void_of_isRawText raw))
      (harmless.matched _ List.mem_cons_self) oneLine (fun _ => plain) (fun markup => ?_)
      (fun nestable => ?_)).append (ih same)
    · rw [raw] at markup
      cases markup
    · rw [ofName_of_isRawText raw] at nestable
      cases nestable
  | element markup tag writable empty inside _ insideIh laterIh =>
    rw [Forest.reported_element, ← List.append_assoc]
    refine (reports_element tag writable empty (fun body => ?_) inside.oneLine_render
      (fun raw => ?_) (fun _ => insideIh (same ▸ rfl)) (fun nestable opens => ?_)).append
      (laterIh same)
    · exact matched_of_passes tag (inside.passes_render List.mem_cons_self tag body 0)
    · rw [markup] at raw
      cases raw
    · exact inside.reports_fragmentsIn (same ▸ rfl)
        ⟨_, List.mem_cons_self, nestable, inside.hasName_of_countOpeners tag nestable opens⟩

/-- The elements of a well-formed forest are reported in pre-order. -/
theorem elementsIn_render {forest : Forest} (formed : forest.WellFormed)
    (ancestors : List (Text × Forest)) (rest : Text) :
    ∃ elements, elementsIn (forest.render ++ rest) = elements ++ elementsIn rest ∧
      List.Forall₂ Place.Reported (forest.places ancestors) elements := by
  rw [← formed.reported_eq]
  exact (formed.quiet _).reports_elementsIn rfl rest

/-- Deep extraction of a well-formed forest with anything after it gives the elements of the forest
in pre-order, and then those of what is after it. -/
theorem extractDeep_render {forest : Forest} (formed : forest.WellFormed) (rest : Text) :
    ∃ elements, extractDeep (forest.render ++ rest) = elements ++ extractDeep rest ∧
      List.Forall₂ Place.Reported (forest.places []) elements := by
  have kept := List.filter_eq_self.mpr (Text.all_bne_of_notMem (oneLine_render formed))
  rw [extractDeep_eq_elementsIn, extractDeep_eq_elementsIn, List.filter_append, kept]
  exact elementsIn_render formed [] _

/-- A list with a void element in it, before a tag that is never closed. -/
theorem extractDeep_render_list :
    let forest : Forest :=
      .element "ul".toList [⟨"id".toList, "a".toList⟩]
        (.element "li".toList [] (.text "b".toList (.element "hr".toList [] .nil .nil)) .nil)
        (.text "c".toList .nil)
    forest.render = "<ul id=\"a\"><li>b<hr></li></ul>c".toList ∧ forest.WellFormed ∧
      ∃ elements, extractDeep (forest.render ++ "<p>".toList) =
        elements ++ extractDeep "<p>".toList ∧
          List.Forall₂ Place.Reported (forest.places []) elements := by
  intro forest
  have rule : (Forest.element "hr".toList [] .nil .nil).WellFormed :=
    .element ⟨by decide, List.all_eq_true.mp (by decide)⟩ (by decide) nofun (fun _ => rfl) (by decide) .nil .nil
  have item : (Forest.text "b".toList (.element "hr".toList [] .nil .nil)).WellFormed :=
    .text (by decide) (by decide) rule
  have inside : (Forest.element "li".toList [] (.text "b".toList
      (.element "hr".toList [] .nil .nil)) .nil).WellFormed :=
    .element ⟨by decide, List.all_eq_true.mp (by decide)⟩ (by decide) nofun (fun void => absurd void (by decide))
      (fun raw => absurd raw (by decide)) item .nil
  have writable : ∀ entry ∈ [(⟨"id".toList, "a".toList⟩ : Attribute)], IsWritable entry := by
    intro entry member
    obtain rfl := List.mem_singleton.mp member
    exact ⟨by decide, List.all_eq_true.mp (by decide), by decide, by decide, by decide, by decide⟩
  have formed : forest.WellFormed :=
    .element ⟨by decide, List.all_eq_true.mp (by decide)⟩ (by decide) writable (fun void => absurd void (by decide))
      (fun raw => absurd raw (by decide)) inside (.text (by decide) (by decide) .nil)
  exact ⟨by decide, formed, extractDeep_render formed _⟩

end TagQuery.Markup
