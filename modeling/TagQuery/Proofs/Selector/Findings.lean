import TagQuery.Proofs.Markup.AttributeReading
import TagQuery.Proofs.Markup.Descent
import TagQuery.Proofs.Markup.Enclosure
import TagQuery.Selector.Matching

/-!
# What can be found

Elements come from scanned slices, from fragments, and again from the inner texts that a chain or a
deep extraction enters. Whatever holds of the element of every slice of every document holds of all
of them (`forall_extract`, `forall_find`).

`find_clean` uses this for the form of elements: their names, their attributes and the one line of
their inner texts are as `Element.Clean` says, for any markup and any chain.
-/

namespace TagQuery

open Markup

/-- The form of an element that comes from a document. -/
structure Element.Clean (element : Element) : Prop where
  tag : IsTagName element.name
  noBreak : isLineBreak element.name = false
  named : ∀ entry ∈ element.attributes.toList,
    entry.name ≠ [] ∧ ∀ c ∈ entry.name, Attributes.isNameChar c = true
  distinct : element.attributes.toList.Pairwise fun first second =>
    Text.sameName first.name second.name = false
  trimmed : ∀ entry ∈ element.attributes.toList, Text.Trimmed entry.value
  inside : ∀ entry ∈ element.attributes.toList, '>' ∉ entry.value ∧ '\n' ∉ entry.value
  oneLine : '\n' ∉ element.innerText
  empty : (Category.ofName element.name).hasBody = false → element.innerText = []

namespace Markup

/-! ## Slices without line feeds -/

section Absent
variable {c : Char} (mark : c ≠ '<' ∧ c ≠ '/' ∧ c ≠ '>')

include mark

theorem notMem_closeUnmatched {name text : Text} (unnamed : c ∉ name) (absent : c ∉ text) :
    c ∉ closeUnmatched name text := by
  obtain ⟨less, slash, greater⟩ := mark
  have outside : c ∉ closer name := by simp [closer, less, slash, greater, unnamed]
  rw [closeUnmatched, List.mem_append, not_or]
  refine ⟨absent, fun present => ?_⟩
  obtain ⟨copy, repeated, inside⟩ := List.mem_flatten.mp present
  rw [List.eq_of_mem_replicate repeated] at inside
  exact outside inside

/-- A fragment has no characters besides those of its piece and of closers. -/
theorem notMem_of_fragment? {piece : Text} {slice : Slice} (absent : c ∉ piece)
    (made : fragment? piece = some slice) : c ∉ slice.text := by
  have unnamed : c ∉ tagName piece := fun present =>
    absent ((List.drop_subset 1 piece) ((List.takeWhile_prefix _).subset present))
  unfold fragment? at made
  dsimp only at made
  split at made
  · cases made
  · split at made
    · cases made
    · rename_i opening rest cut
      obtain rfl := Option.some.inj made
      have front : c ∉ opening := fun present => by
        rw [← Text.append_of_splitAfter? cut] at absent
        exact absent (List.mem_append_left rest present)
      dsimp only
      split
      · exact front
      · exact notMem_closeUnmatched mark unnamed absent

theorem notMem_of_mem_segment_slices {segment : Segment} (absent : c ∉ segment.text) {slice : Slice}
    (member : slice ∈ segment.slices) : c ∉ slice.text := by
  cases segment with
  | tag opening =>
    obtain rfl := List.mem_singleton.mp member
    exact absent
  | element opening body closing =>
    simp only [Segment.slices] at member
    split at member
    · obtain rfl := List.mem_singleton.mp member
      exact absent
    · rcases List.mem_cons.mp member with rfl | piece
      · exact absent
      · obtain ⟨tail, _, within, made⟩ := exists_of_mem_nested piece
        exact notMem_of_fragment? mark (fun present => absent (within.subset present)) made
  | _ => cases member

end Absent

/-- Slices have no line feeds. -/
theorem oneLine_of_mem_slices {options : ScanOptions} {html : Text} {slice : Slice}
    (member : slice ∈ slices options html) : '\n' ∉ slice.text := by
  rw [slices_eq_flatMap] at member
  obtain ⟨segment, part, inside⟩ := List.mem_flatMap.mp member
  refine notMem_of_mem_segment_slices (by decide) (fun present => ?_) inside
  have held := List.mem_flatMap.mpr ⟨segment, part, present⟩
  rw [segments_text] at held
  simp at held

/-! ## The elements of slices -/

/-- What an opening tag says is as it should be, and so is the element if its inner text is. -/
theorem IsOpening.clean {name area innerText : Text} (opening : IsOpening name area)
    (other : isLineBreak name = false) (stripped : '\n' ∉ area) (oneLine : '\n' ∉ innerText)
    (empty : (Category.ofName name).hasBody = false → innerText = []) :
    Element.Clean ⟨name, attributesOf name area, innerText⟩ := by
  obtain ⟨distinct, each⟩ := Attributes.ofTag_spec (Category.ofName name == .void) area
  refine ⟨opening.toIsTagName, other, fun entry member => ?_, distinct,
    fun entry member => (each entry member).trimmed, fun entry member => ?_, oneLine, empty⟩
  · exact ⟨(each entry member).nonempty, (each entry member).named⟩
  · exact ⟨fun present => opening.plain ((each entry member).inside present),
      fun present => stripped ((each entry member).inside present)⟩

theorem LeavesOpen.hasBody {name area : Text} (leaves : LeavesOpen {} name area) :
    (Category.ofName name).hasBody = true := by
  obtain ⟨_, category⟩ := leaves
  cases found : Category.ofName name with
  | void | wrapper =>
    rw [found] at category
    cases category
  | nestable | generic => rfl

theorem Capture.Shape.clean {capture : Capture} {element : Element} (shape : capture.Shape {})
    (oneLine : '\n' ∉ capture.slice.text)
    (read : Element.ofSlice? capture.slice.text = some element) : element.Clean := by
  cases shape with
  | @tag name area opening other whole =>
    rw [whole] at read oneLine
    obtain rfl := Option.some.inj (opening.ofSlice?_tag.symm.trans read)
    refine opening.clean other (fun present => oneLine ?_) nofun fun _ => rfl
    simp [openingTag, present]
  | @element name area body spelling opening other leaves matched same whole =>
    rw [whole] at read oneLine
    have balances := matched.balances opening.toIsTagName same
    obtain rfl := Option.some.inj ((opening.ofSlice?_of_balances balances).symm.trans read)
    refine opening.clean other (fun present => oneLine ?_) (fun present => oneLine ?_) fun none => ?_
    · simp [openingTag, present]
    · simp [present]
    · rw [leaves.hasBody] at none
      cases none

theorem clean_of_mem_slices {html : Text} {slice : Slice} {element : Element}
    (member : slice ∈ slices {} html) (read : Element.ofSlice? slice.text = some element) :
    element.Clean := by
  have oneLine := oneLine_of_mem_slices member
  rw [slices_eq_map] at member
  obtain ⟨capture, here, rfl⟩ := List.mem_map.mp member
  exact (shape_captures_segments here).clean oneLine read

/-! ## All elements -/

section Forall
variable {P : Element → Prop}
  (own : ∀ html slice element, slice ∈ slices {} html → Element.ofSlice? slice.text = some element →
    P element)

include own

theorem forall_extractRecursively (html : Text) :
    ∀ element ∈ extractRecursively html, P element := by
  induction size : html.length using Nat.strongRecOn generalizing html with
  | _ n ih =>
    intro element member
    rw [extractRecursively_eq] at member
    obtain ⟨slice, present, inside⟩ := List.mem_flatMap.mp member
    unfold elementsOf at inside
    split at inside
    · cases inside
    · rename_i whole read
      rcases List.mem_cons.mp inside with rfl | deeper
      · exact own html slice element present read
      · split at deeper
        · rename_i enters
          have shorter := innerText_length_lt present read enters.1 enters.2.2
          exact ih _ (size ▸ shorter) whole.innerText rfl element deeper
        · cases deeper

/-- What holds of the elements of slices holds of all elements of a document. -/
theorem forall_extract (mode : ExtractMode) (html : Text) :
    ∀ element ∈ extract mode html, P element := by
  cases mode with
  | shallow =>
    intro element member
    obtain ⟨slice, present, read⟩ := List.mem_filterMap.mp member
    exact own html slice element present read
  | deep =>
    change ∀ element ∈ extractDeep html, P element
    rw [extractDeep_eq_flatMap, ← extractRecursively_eq]
    exact forall_extractRecursively own html

/-- What holds of the elements of slices holds of all that a chain finds. -/
theorem forall_find (selector : Selector) {elements : List Element}
    (all : ∀ element ∈ elements, P element) : ∀ element ∈ selector.find elements, P element := by
  induction selector generalizing elements with
  | last link => exact fun element member => all element (List.mem_filter.mp member).1
  | parent link child ih =>
    intro element member
    obtain ⟨around, _, inside⟩ := List.mem_flatMap.mp member
    exact ih (forall_extract own .shallow around.innerText) element inside

end Forall

end Markup

/-- Whatever a chain finds in a document, in either mode, has the form of an element. -/
theorem find_clean (mode : ExtractMode) (html : Text) (selector : Selector) :
    ∀ element ∈ selector.find (extract mode html), element.Clean :=
  have own html slice element (member : slice ∈ slices {} html)
      (read : Element.ofSlice? slice.text = some element) : element.Clean :=
    clean_of_mem_slices member read
  forall_find own selector (forall_extract own mode html)

/-- An element inside another one, with a repeated attribute and a line feed in its text. -/
theorem find_clean_chain :
    let html := "<div>a<b Id=1 id=' 2 '>x\n</b></div>".toList
    let chain : Selector := .parent { Link.any with tag := some "div".toList } (.last .any)
    let element : Element := ⟨"b".toList, ⟨[⟨"Id".toList, "2".toList⟩]⟩, "x".toList⟩
    element ∈ chain.find (extract .shallow html) ∧ element.Clean := by
  intro html chain element
  have member : element ∈ chain.find (extract .shallow html) := by decide +kernel
  exact ⟨member, find_clean .shallow html chain element member⟩

end TagQuery
