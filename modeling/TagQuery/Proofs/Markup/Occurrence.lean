import TagQuery.Proofs.Markup.Enclosure
import TagQuery.Proofs.Markup.Preorder

/-!
# Where elements stand

Extraction reads some parts of a document more than once: a slice is scanned as a whole, cut into
fragments, or entered for the elements of its body. No tag is reported twice all the same, and the
tags come in the order of the document (`extract_inOrder`).

Each element that is reported starts with an opening tag of the document (`Opens`), and the tags of
those after it stand in what follows its `<` (`InOrder`). A slice keeps this order in itself: its
own tag comes first, and then either its fragments or the elements of its body, never both.
-/

namespace TagQuery.Markup

/-! ## Order -/

/-- A text that starts with the opening tag of an element. -/
def Opens (text : Text) (element : Element) : Prop :=
  ∃ area rest, IsOpening element.name area ∧ text = openingTag element.name area ++ rest ∧
    element.attributes = attributesOf element.name area

/-- Elements whose opening tags stand in a text, each one behind the `<` of the one before. -/
inductive InOrder : Text → List Element → Prop
  | nil (text : Text) : InOrder text []
  | cons {front tail : Text} {element : Element} {elements : List Element}
      (opens : Opens ('<' :: tail) element) (later : InOrder tail elements) :
      InOrder (front ++ '<' :: tail) (element :: elements)

theorem Opens.append {text : Text} {element : Element} (opens : Opens text element) (more : Text) :
    Opens (text ++ more) element := by
  obtain ⟨area, rest, opening, rfl, attributes⟩ := opens
  exact ⟨area, rest ++ more, opening, List.append_assoc .., attributes⟩

namespace InOrder
variable {text first second : Text} {elements earlier later : List Element}

theorem prepend (inOrder : InOrder text elements) (front : Text) :
    InOrder (front ++ text) elements := by
  cases inOrder with
  | nil => exact .nil _
  | cons opens later =>
    rw [← List.append_assoc]
    exact .cons opens later

theorem append (before : InOrder first earlier) (after : InOrder second later) :
    InOrder (first ++ second) (earlier ++ later) := by
  induction before with
  | nil text => exact after.prepend text
  | cons opens _ ih =>
    rw [List.append_assoc, List.cons_append, List.cons_append]
    exact .cons (opens.append second) ih

theorem sublist (inOrder : InOrder text elements) {fewer : List Element}
    (kept : fewer.Sublist elements) : InOrder text fewer := by
  induction inOrder generalizing fewer with
  | nil text =>
    obtain rfl := List.sublist_nil.mp kept
    exact .nil text
  | @cons front tail element elements opens _ ih =>
    cases kept with
    | cons _ kept =>
      have inTail := (ih kept).prepend (front ++ ['<'])
      rwa [List.append_assoc, List.singleton_append] at inTail
    | cons_cons _ kept => exact .cons opens (ih kept)

theorem length_le_count (inOrder : InOrder text elements) :
    elements.length ≤ text.count '<' := by
  induction inOrder with
  | nil => exact Nat.zero_le _
  | cons _ _ ih =>
    rw [List.length_cons, List.count_append, List.count_cons_self]
    omega

/-- The tag of an element stands in front of those that follow its `<`. -/
theorem of_tail {tail : Text} {element : Element} (opens : Opens ('<' :: tail) element)
    (later : InOrder tail elements) : InOrder ('<' :: tail) (element :: elements) := by
  have atStart : InOrder ([] ++ '<' :: tail) (element :: elements) := .cons opens later
  exact atStart

end InOrder

theorem IsOpening.opens {name area : Text} (opening : IsOpening name area) (innerText rest : Text) :
    Opens (openingTag name area ++ rest) ⟨name, attributesOf name area, innerText⟩ :=
  ⟨area, rest, opening, rfl, rfl⟩

/-- An element with elements in what follows its opening tag. -/
theorem IsOpening.inOrder {name area rest : Text} {elements : List Element}
    (opening : IsOpening name area) (innerText : Text) (later : InOrder rest elements) :
    InOrder (openingTag name area ++ rest)
      (⟨name, attributesOf name area, innerText⟩ :: elements) :=
  .of_tail (opening.opens innerText rest) (later.prepend (name ++ area ++ ['>']))

/-! ## Fragments -/

theorem opens_of_fragment? {tail : Text} {slice : Slice}
    (made : fragment? ('<' :: tail) = some slice) :
    ∃ element, elementsOf slice = [element] ∧ Opens ('<' :: tail) element := by
  obtain ⟨name, area, run, opening, other, whole⟩ := exists_opening_of_fragment? made
  obtain ⟨again, innerText, found, single⟩ := opening.fragment?_openingTag other run
  rw [whole, found] at made
  obtain rfl := Option.some.inj made
  refine ⟨_, single, ?_⟩
  rw [whole]
  exact opening.opens innerText run

/-- The fragments of a text stand in it one after the other. -/
theorem inOrder_fragmentsIn (text : Text) : InOrder text (fragmentsIn text) := by
  fun_induction pieces text with
  | case1 =>
    rw [fragmentsIn_nil]
    exact .nil []
  | case2 rest ih =>
    let tail := rest.takeWhile (· != '<')
    have whole : '<' :: rest = '<' :: tail ++ rest.dropWhile (· != '<') :=
      congrArg ('<' :: ·) List.takeWhile_append_dropWhile.symm
    have cut : pieces ('<' :: rest) = ('<' :: tail) :: pieces (rest.dropWhile (· != '<')) := by
      rw [pieces, if_pos rfl]
    rw [fragmentsIn, cut, whole]
    cases made : fragment? ('<' :: tail) with
    | none =>
      rw [List.filterMap_cons_none made]
      exact ih.prepend ('<' :: tail)
    | some slice =>
      obtain ⟨element, single, opens⟩ := opens_of_fragment? made
      have first : InOrder ('<' :: tail) [element] := .of_tail opens (.nil tail)
      rw [List.filterMap_cons_some made, List.flatMap_cons, single]
      exact first.append ih
  | case3 c rest other ih =>
    have same : fragmentsIn (c :: rest) = fragmentsIn rest := by
      rw [fragmentsIn, pieces, if_neg other, fragmentsIn]
    rw [same]
    exact ih.prepend [c]

/-- The fragments of a slice stand behind its first character. -/
theorem inOrder_nested (c : Char) (tail : Text) :
    InOrder tail ((nested (c :: tail)).flatMap elementsOf) := by
  unfold nested fragments
  split
  · split
    · exact .nil tail
    · split
      · exact .nil tail
      · exact inOrder_fragmentsIn tail
  · exact .nil tail

/-! ## Documents -/

/-- The elements of a segment stand in its text, if those of the bodies in it do. -/
theorem inOrder_slices {segment : Segment} {rest : Text} (fits : segment.Fits {} rest)
    (oneLine : '\n' ∉ segment.text)
    (inside : ∀ body : Text, body.length < segment.text.length → '\n' ∉ body →
      InOrder body (elementsIn body)) :
    InOrder segment.text (segment.slices.flatMap elementsOf) := by
  cases segment with
  | tag opening =>
    obtain ⟨name, area, rfl, opening, _⟩ := fits
    have alone := opening.inOrder [] (.nil [])
    rw [List.append_nil] at alone
    rw [Segment.slices, List.flatMap_singleton, opening.elementsOf_tag]
    exact alone
  | element opening body closing =>
    obtain ⟨name, area, rfl, opening, other, leaves, first⟩ := fits
    have read := opening.ofSlice?_of_balances first.balances
    let tail := name ++ area ++ ['>'] ++ body ++ closing
    have whole : openingTag name area ++ body ++ closing = '<' :: tail := rfl
    simp only [Segment.slices]
    split
    · rw [List.flatMap_singleton, elementsOf, Slice.ofText, read, Segment.text, List.append_assoc]
      apply opening.inOrder
      split
      · have stripped : '\n' ∉ body := fun present => oneLine (by simp [Segment.text, present])
        have shorter : body.length < (openingTag name area ++ body ++ closing).length := by
          simp only [openingTag, List.length_append, List.length_cons]
          omega
        rw [extractRecursively_eq_elementsIn stripped]
        have within := (inside body shorter stripped).append (.nil closing)
        rwa [List.append_nil] at within
      · exact .nil _
    · have origin : Origin.refined ≠ Origin.scanned := by decide
      rw [List.flatMap_cons, elementsOf_of_not_scanned origin read, Segment.text, whole]
      have opens := opening.opens body (body ++ closing)
      rw [← List.append_assoc, whole] at opens
      exact .of_tail opens (inOrder_nested '<' tail)
  | _ => exact .nil _

/-- The elements of a document without line feeds stand in it one after the other. -/
theorem inOrder_elementsIn {text : Text} (oneLine : '\n' ∉ text) :
    InOrder text (elementsIn text) := by
  induction size : text.length using Nat.strongRecOn generalizing text with
  | _ n ih =>
    cases text with
    | nil =>
      rw [elementsIn_nil]
      exact .nil []
    | cons c rest =>
      by_cases markup : c = '<'
      · subst markup
        have fits := fits_cutMarkup {} rest
        have whole := cutMarkup_text {} rest
        have positive := cutMarkup_text_pos {} rest
        cases cut : cutMarkup {} rest with
        | mk segment after =>
          rw [cut] at fits whole positive
          dsimp only at fits whole positive
          rw [← whole, List.length_append] at size
          rw [← whole, List.mem_append, not_or] at oneLine
          rw [elementsIn_of_cutMarkup cut, ← whole]
          apply InOrder.append
          · apply inOrder_slices fits oneLine.1
            intro body shorter stripped
            exact ih body.length (by omega) stripped rfl
          · exact ih after.length (by omega) oneLine.2 rfl
      · have later : '\n' ∉ rest := fun present => oneLine (List.mem_cons_of_mem c present)
        rw [elementsIn_cons_of_ne markup]
        exact (ih rest.length (by simp [← size]) later rfl).prepend [c]

/-! ## Places -/

/-- An element whose opening tag stands at a place of a text. -/
structure StandsAt (text : Text) (place : Nat) (element : Element) : Prop where
  markup : text[place]? = some '<'
  /-- The name is the run of word characters behind the `<`. -/
  name : element.name = (text.drop (place + 1)).takeWhile Text.isWord
  named : element.name ≠ []
  closed : '>' ∈ text.drop (place + 1)
  /-- The attributes are those between the name and the first `>`. -/
  attributes : element.attributes =
    attributesOf element.name
      ((text.drop (place + 1 + element.name.length)).takeWhile (· != '>'))

theorem Opens.standsAt {text : Text} {place : Nat} {element : Element}
    (opens : Opens (text.drop place) element) : StandsAt text place element := by
  obtain ⟨area, rest, opening, whole, attributes⟩ := opens
  have tail : text.drop (place + 1) = element.name ++ area ++ '>' :: rest := by
    rw [← List.drop_drop, whole]
    simp [openingTag]
  have first : text[place]? = some '<' := by
    rw [← List.head?_drop, whole]
    rfl
  have behind : text.drop (place + 1 + element.name.length) = area ++ '>' :: rest := by
    rw [← List.drop_drop, tail, List.append_assoc, List.drop_left]
  have plain := Text.all_bne_of_notMem opening.plain
  have stop : ∀ c ∈ ('>' :: rest).head?, (c != '>') = false := by simp
  refine ⟨first, ?_, opening.nonempty, by simp [tail], ?_⟩
  · rw [tail, opening.takeWhile_word]
  · rw [behind, Text.takeWhile_run plain stop, attributes]

/-- Elements that stand in a text one after the other stand at places that go up. -/
theorem InOrder.exists_places {text : Text} {elements : List Element}
    (inOrder : InOrder text elements) :
    ∃ places : List Nat, places.Pairwise (· < ·) ∧
      List.Forall₂ (fun place element => Opens (text.drop place) element) places elements := by
  induction inOrder with
  | nil => exact ⟨[], .nil, .nil⟩
  | @cons front tail element elements opens _ ih =>
    obtain ⟨places, increasing, stand⟩ := ih
    refine ⟨front.length :: places.map (front.length + 1 + ·), ?_, ?_⟩
    · apply List.pairwise_cons.mpr
      constructor
      · intro place member
        obtain ⟨inTail, _, rfl⟩ := List.mem_map.mp member
        omega
      · apply List.pairwise_map.mpr
        apply increasing.imp
        intro place next before
        omega
    · apply List.Forall₂.cons
      · rwa [List.drop_left]
      · apply List.forall₂_map_left_iff.mpr
        apply stand.imp
        intro place element opensAt
        rwa [← List.drop_drop, ← List.drop_drop, List.drop_left, List.drop_succ_cons,
          List.drop_zero]

theorem elementsOf_eq_cons {slice : Slice} {element : Element}
    (read : Element.ofSlice? slice.text = some element) :
    ∃ inside, elementsOf slice = element :: inside := by
  rw [elementsOf, read]
  exact ⟨_, rfl⟩

/-- Shallow extraction leaves out elements that deep extraction reports. -/
theorem extractShallow_sublist (html : Text) :
    (extractShallow html).Sublist (extractDeep html) := by
  rw [extractDeep_eq_flatMap, extractShallow]
  induction slices {} html with
  | nil => exact .slnil
  | cons slice rest ih =>
    rw [List.filterMap_cons, List.flatMap_cons]
    cases read : Element.ofSlice? slice.text with
    | none => exact ih.trans (List.sublist_append_right _ _)
    | some element =>
      obtain ⟨inside, whole⟩ := elementsOf_eq_cons read
      rw [whole, List.cons_append]
      exact (ih.trans (List.sublist_append_right _ _)).cons_cons element

theorem inOrder_extract (mode : ExtractMode) (html : Text) :
    InOrder (html.filter (· != '\n')) (extract mode html) := by
  have stripped : '\n' ∉ html.filter (· != '\n') := by simp
  have deep : InOrder (html.filter (· != '\n')) (extractDeep html) := by
    rw [extractDeep_eq_elementsIn]
    exact inOrder_elementsIn stripped
  cases mode with
  | shallow => exact deep.sublist (extractShallow_sublist html)
  | deep => exact deep

/-- The opening tags of the elements of a document stand at places that go up, so that no two
elements share one, and there are no more elements than there are `<`. -/
theorem extract_inOrder (mode : ExtractMode) (html : Text) :
    (∃ places : List Nat, places.Pairwise (· < ·) ∧
      List.Forall₂ (StandsAt (html.filter (· != '\n'))) places (extract mode html)) ∧
    (extract mode html).length ≤ (html.filter (· != '\n')).count '<' := by
  have inOrder := inOrder_extract mode html
  refine ⟨?_, inOrder.length_le_count⟩
  obtain ⟨places, increasing, stand⟩ := inOrder.exists_places
  exact ⟨places, increasing, stand.imp fun _ _ opens => opens.standsAt⟩

/-- Three of the five `<` open an element, and the other two start closers. -/
example :
    let html := "<div>a<div></div>\n<img src='x'></div>".toList
    (html.filter (· != '\n')).findIdxs (· == '<') = [0, 6, 11, 17, 30] ∧
      extract .deep html =
        [⟨"div".toList, ⟨[]⟩, "a<div></div><img src='x'>".toList⟩, ⟨"div".toList, ⟨[]⟩, []⟩,
          ⟨"img".toList, ⟨[⟨"src".toList, ['x']⟩]⟩, []⟩] := by
  dsimp only
  rw [extract, extractDeep_eq_flatMap]
  decide +kernel

end TagQuery.Markup
