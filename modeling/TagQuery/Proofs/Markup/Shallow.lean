import TagQuery.Proofs.Markup.Fragments
import TagQuery.Proofs.Markup.Sequence

/-!
# Shallow extraction part by part

Shallow extraction gives one element for each slice, so that the elements of a document are put
together from those of its segments (`shallowIn_of_fits`). An element that is cut out whole gives
itself and, if it is nestable and opened again inside, the elements of its fragments
(`Segment.elements_element`, `IsOpening.filterMap_nested`). The inner text of a fragment holds no
tag (`unopened_of_mem_fragmentsIn`).
-/

namespace TagQuery.Markup

/-- The elements of the slices of a segment. -/
def Segment.elements (segment : Segment) : List Element :=
  segment.slices.filterMap fun slice => Element.ofSlice? slice.text

/-- The elements that shallow extraction finds in a document without line feeds. -/
def shallowIn (text : Text) : List Element :=
  (slicesIn text).filterMap fun slice => Element.ofSlice? slice.text

theorem extractShallow_eq_shallowIn (html : Text) :
    extractShallow html = shallowIn (html.filter (· != '\n')) := by
  rw [extractShallow, slices_eq_slicesIn, shallowIn]

theorem shallowIn_nil : shallowIn [] = [] := by
  rw [shallowIn, slicesIn_nil, List.filterMap_nil]

theorem shallowIn_append_of_notMem {run : Text} (absent : '<' ∉ run) (rest : Text) :
    shallowIn (run ++ rest) = shallowIn rest := by
  rw [shallowIn, slicesIn_append_of_notMem absent, shallowIn]

theorem shallowIn_of_notMem {run : Text} (absent : '<' ∉ run) : shallowIn run = [] := by
  rw [← List.append_nil run, shallowIn_append_of_notMem absent, shallowIn_nil]

/-- A segment gives its elements in front of those of the rest. -/
theorem shallowIn_of_fits {segment : Segment} {rest : Text} (fits : segment.Fits {} rest)
    (markup : '<' ∈ segment.text) :
    shallowIn (segment.text ++ rest) = segment.elements ++ shallowIn rest := by
  rw [shallowIn, slicesIn_of_fits fits markup, List.filterMap_append, ← Segment.elements,
    ← shallowIn]

/-- What is cut off at a `<` gives its elements in front of those of the rest. -/
theorem shallowIn_markup (rest : Text) :
    shallowIn ('<' :: rest) =
      (cutMarkup {} rest).1.elements ++ shallowIn (cutMarkup {} rest).2 := by
  rw [shallowIn, slicesIn, segments, if_pos rfl, List.flatMap_cons, List.filterMap_append,
    ← Segment.elements, ← slicesIn, ← shallowIn]

/-- A closer that closes nothing gives no element. -/
theorem shallowIn_closer {name : Text} (tag : IsTagName name) (rest : Text) :
    shallowIn (closer name ++ rest) = shallowIn rest :=
  shallowIn_of_fits (fits_closer tag rest) List.mem_cons_self

/-- Fragments give their elements and nothing inside of them. -/
theorem filterMap_fragments (text : Text) :
    ((pieces text).filterMap fragment?).filterMap (fun slice => Element.ofSlice? slice.text) =
      fragmentsIn text := by
  have single : ∀ slice ∈ (pieces text).filterMap fragment?,
      (Element.ofSlice? slice.text).toList = elementsOf slice := by
    intro slice member
    obtain ⟨piece, _, made⟩ := List.mem_filterMap.mp member
    have origin : slice.origin ≠ .scanned := by
      rw [origin_of_fragment? made]
      decide
    cases read : Element.ofSlice? slice.text with
    | none => simp [elementsOf, read]
    | some element => rw [elementsOf_of_not_scanned origin read, Option.toList_some]
  rw [List.filterMap_eq_flatMap_toList, List.flatMap_congr single, fragmentsIn]

/-- A fragment ends before the next tag, and a closer that is added to it is not part of its inner
text. -/
theorem unopened_of_mem_fragmentsIn {text : Text} {element : Element}
    (member : element ∈ fragmentsIn text) : '<' ∉ element.innerText := by
  rw [← filterMap_fragments] at member
  obtain ⟨slice, cut, read⟩ := List.mem_filterMap.mp member
  obtain ⟨piece, inside, made⟩ := List.mem_filterMap.mp cut
  obtain ⟨tail, rfl, plain, _⟩ := exists_of_mem_pieces inside
  obtain ⟨name, area, run, opening, _, _, noneAfter, rfl⟩ := exists_parts_of_fragment? plain made
  dsimp only at read
  split at read
  · obtain rfl := Option.some.inj (opening.ofSlice?_tag.symm.trans read)
    exact nofun
  · have matched : Matched name run := matched_of_notMem noneAfter
    have balances := matched.balances opening.toIsTagName (Text.sameName_refl name)
    obtain rfl := Option.some.inj ((opening.ofSlice?_of_balances balances).symm.trans read)
    exact noneAfter

/-- A closed element gives the element of its whole text and those of the slices that follow it. -/
theorem Segment.elements_element {opening body closing : Text} {element : Element}
    (read : Element.ofSlice? (opening ++ body ++ closing) = some element) :
    (Segment.element opening body closing).elements =
      element :: (nested (opening ++ body ++ closing)).filterMap fun slice =>
        Element.ofSlice? slice.text := by
  simp only [Segment.elements, Segment.slices]
  split
  · rename_i none
    rw [List.isEmpty_iff.mp none]
    exact List.filterMap_cons_some read
  · exact List.filterMap_cons_some read

namespace IsOpening
variable {name area : Text} (opening : IsOpening name area)

include opening

theorem elements_tag :
    (Segment.tag (openingTag name area)).elements = [⟨name, attributesOf name area, []⟩] := by
  simp [Segment.elements, Segment.slices, Slice.ofText, opening.ofSlice?_tag]

/-- The slices that follow a nestable element which is opened again inside are its fragments. -/
theorem filterMap_nested (inside : Text) :
    ((nested (openingTag name area ++ inside)).filterMap fun slice => Element.ofSlice? slice.text) =
      if Category.ofName name = .nestable ∧ countOpeners name inside ≠ 0 then
        fragmentsIn (name ++ area ++ ['>'] ++ inside)
      else [] := by
  have tail : (openingTag name area ++ inside).drop 1 = name ++ area ++ ['>'] ++ inside := rfl
  simp only [nested, fragments, opening.tagName_openingTag, opening.splitAfter?_openingTag, tail]
  by_cases nestable : Category.ofName name = .nestable
  · by_cases plain : countOpeners name inside = 0
    · simp [nestable, plain]
    · simp only [nestable, plain, ↓reduceIte, ne_eq, not_false_eq_true, and_self,
        filterMap_fragments]
  · simp [nestable]

end IsOpening

end TagQuery.Markup
