import TagQuery.Proofs.Markup.Forest
import TagQuery.Proofs.Markup.Shallow
import TagQuery.Proofs.Selector.Findings

/-!
# Searching link by link

What a chain finds is put together from what its parts find: a chain that goes on with another one
finds what the other one finds among the elements inside each of its own findings, and more elements
are searched one after the other (`find_composes`).

A search ends where an element holds nothing. Void elements and wrappers never have an inner text, so
that a chain finds nothing if any of its links but the last asks for one of their names
(`find_extract_eq_nil`).
-/

namespace TagQuery

open Markup

theorem Markup.forall_clean_extract (mode : ExtractMode) (html : Text) :
    ∀ element ∈ extract mode html, element.Clean :=
  forall_extract (fun _ _ _ member read => clean_of_mem_slices member read) mode html

namespace Selector

/-! ## Composition -/

theorem find_append (selector : Selector) (first second : List Element) :
    selector.find (first ++ second) = selector.find first ++ selector.find second := by
  cases selector with
  | last link => exact List.filter_append ..
  | parent link child => rw [find, List.filter_append, List.flatMap_append, find, find]

/-- What the rest of a chain finds is looked for inside of what its first part finds. -/
theorem find_attach (outer inner : Selector) (elements : List Element) :
    (outer.attach inner).find elements =
      (outer.find elements).flatMap fun element => inner.find (extractShallow element.innerText) := by
  induction outer generalizing elements with
  | last link => rfl
  | parent link child ih =>
    calc (attach (.parent link child) inner).find elements
      _ = (elements.filter link.accepts).flatMap fun around =>
            (child.find (extractShallow around.innerText)).flatMap fun element =>
              inner.find (extractShallow element.innerText) := by simp only [attach, find, ih]
      _ = _ := List.flatMap_assoc.symm

theorem links_attach (outer inner : Selector) :
    (outer.attach inner).links = outer.links ++ inner.links := by
  induction outer with
  | last link => rfl
  | parent link child ih => exact congrArg (link :: ·) ih

/-- A chain of two parts looks for the second inside of what the first one finds, element by element,
and any chain searches one element after the other. -/
theorem find_composes (outer inner : Selector) (first second : List Element) :
    (outer.attach inner).links = outer.links ++ inner.links ∧
      (outer.attach inner).find first =
        (outer.find first).flatMap (fun element =>
          inner.find (extractShallow element.innerText)) ∧
      outer.find (first ++ second) = outer.find first ++ outer.find second :=
  ⟨links_attach outer inner, find_attach outer inner first, find_append outer first second⟩

/-- The second form holds no paragraph, and the last link looks inside of those of the first. -/
example :
    let named (name : String) : Link := ⟨some name.toList, none, ∅, none⟩
    let elements := extractShallow
      "<form><p><b>x</b></p><p><b>y</b></p></form><form>z</form>".toList
    let outer : Selector := .parent (named "form") (.last (named "p"))
    outer.find elements =
        [⟨"p".toList, ⟨[]⟩, "<b>x</b>".toList⟩, ⟨"p".toList, ⟨[]⟩, "<b>y</b>".toList⟩] ∧
      (outer.attach (.last (named "b"))).find elements =
        [⟨"b".toList, ⟨[]⟩, ['x']⟩, ⟨"b".toList, ⟨[]⟩, ['y']⟩] := by
  decide +kernel

/-! ## Dead ends -/

theorem find_nil (selector : Selector) : selector.find [] = [] := by
  cases selector <;> rfl

theorem dropLast_links_parent (link : Link) (child : Selector) :
    (parent link child).links.dropLast = link :: child.links.dropLast := by
  have filled : child.links ≠ [] := by
    cases child <;> exact List.cons_ne_nil _ _
  exact List.dropLast_cons_of_ne_nil filled

/-- Nothing is found behind a link that accepts only elements without inner text. -/
theorem find_eq_nil_of_empty {selector : Selector} {link : Link}
    (goesOn : link ∈ selector.links.dropLast)
    (empty : ∀ element : Element, element.Clean → link.accepts element = true →
      element.innerText = [])
    {elements : List Element} (clean : ∀ element ∈ elements, element.Clean) :
    selector.find elements = [] := by
  induction selector generalizing elements with
  | last only => cases goesOn
  | parent first child ih =>
    rw [dropLast_links_parent] at goesOn
    refine List.flatMap_eq_nil_iff.mpr fun element member => ?_
    obtain ⟨present, accepted⟩ := List.mem_filter.mp member
    rcases List.mem_cons.mp goesOn with rfl | later
    · have nothing : extractShallow [] = [] := (extractShallow_eq_shallowIn []).trans shallowIn_nil
      rw [empty element (clean element present) accepted, nothing, find_nil]
    · exact ih later (forall_clean_extract .shallow element.innerText)

end Selector

theorem Category.hasBody_ofName_of_listed {name listed : Text}
    (member : listed ∈ voidNames ++ wrapperNames) (same : Text.sameName listed name = true) :
    (ofName name).hasBody = false := by
  have named (names : List Text) (inside : listed ∈ names) :
      names.any (Text.sameName · name) = true := List.any_eq_true.mpr ⟨listed, inside, same⟩
  unfold ofName
  rcases List.mem_append.mp member with void | wrapper
  · rw [if_pos (named _ void)]
    rfl
  · split
    · rfl
    · rw [if_pos (named _ wrapper)]
      rfl

theorem Link.sameName_of_accepts {link : Link} {tag : Text} {element : Element}
    (asked : link.tag = some tag) (accepted : link.accepts element = true) :
    Text.sameName tag element.name = true := by
  simp only [Link.accepts, asked, Option.all_some, Bool.and_eq_true] at accepted
  exact accepted.1.1.1

/-- A chain finds nothing in any document if a link with a child asks for the name of a void element
or of a wrapper. -/
theorem find_extract_eq_nil (mode : ExtractMode) (html : Text) {selector : Selector} {link : Link}
    {tag listed : Text} (goesOn : link ∈ selector.links.dropLast) (asked : link.tag = some tag)
    (member : listed ∈ Category.voidNames ++ Category.wrapperNames)
    (same : Text.sameName listed tag = true) : selector.find (extract mode html) = [] := by
  refine Selector.find_eq_nil_of_empty goesOn (fun element clean accepted => ?_)
    (forall_clean_extract mode html)
  apply clean.empty
  rw [← ofName_eq_of_sameName (Link.sameName_of_accepts asked accepted)]
  exact Category.hasBody_ofName_of_listed member same

/-- The items of a list are found by themselves, and not through the list. -/
theorem find_extract_eq_nil_items :
    let html := "<div><UL><li>x</li></UL></div>".toList
    let named (tag : String) : Link := { Link.any with tag := some tag.toList }
    let chain : Selector := .parent (named "div") (.parent (named "Ul") (.last (named "li")))
    let direct : Selector := .parent (named "div") (.last (named "li"))
    named "Ul" ∈ chain.links.dropLast ∧
      "ul".toList ∈ Category.voidNames ++ Category.wrapperNames ∧
      chain.find (extract .shallow html) = [] ∧
      direct.find (extract .shallow html) = [⟨"li".toList, ∅, "x".toList⟩] := by
  intro html named chain direct
  have goesOn : named "Ul" ∈ chain.links.dropLast := by decide
  have wrapper : "ul".toList ∈ Category.voidNames ++ Category.wrapperNames := by decide
  have nothing := find_extract_eq_nil .shallow html goesOn rfl wrapper (by decide)
  exact ⟨goesOn, wrapper, nothing, by decide +kernel⟩

end TagQuery
