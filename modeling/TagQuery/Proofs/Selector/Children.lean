import TagQuery.Proofs.Markup.Exposure
import TagQuery.Proofs.Selector.RoundTrip

/-!
# Chains in well-formed markup

A chain goes from an element to what shallow extraction shows of its inner text. In well-formed
markup this is the rendering of the children, unless the element was shown by another one around
it, and then there is nothing to go on to. What a chain finds can therefore be read off the forest
(`Selector.wellShown_find`).

What is shown of the inner text need not be a child. Where a child is nestable and holds another
element of its own name, the elements at any depth inside it are shown beside it, and so are the
children of a wrapper. `query_children` says that there is no other way for a chain of two links to
find what is no child.
-/

namespace TagQuery

open Markup

/-- Whether a link accepts the elements of a name with some attributes. -/
def Link.acceptsTag (link : Link) (tag : Text × Attributes) : Bool := link.accepts ⟨tag.1, tag.2, []⟩

/-- The inner text plays no part in what a link accepts. -/
theorem Link.accepts_eq_acceptsTag (link : Link) (element : Element) :
    link.accepts element = link.acceptsTag element.tag := rfl

namespace Markup

/-- What is shown of the inner text of an element. -/
def Place.below (place : Place) : List Place :=
  if place.isWhole then place.children.shown [] else []

/-- A shown element of a well-formed forest. -/
def Place.WellShown (place : Place) (element : Element) : Prop :=
  place.children.WellFormed ∧ place.Shown element

theorem wellShown_shown {forest : Forest} (formed : forest.WellFormed) :
    List.Forall₂ Place.WellShown (forest.shown []) (shallowIn forest.render) :=
  (List.forall₂_and_left _ _).mpr ⟨fun _ member => formed.children (Forest.of_mem_shown member).1,
    shown_shallowIn formed⟩

/-- The inner text of an element that is shown as a whole shows its children, and other inner texts
show nothing. -/
theorem Place.WellShown.below {place : Place} {element : Element} (shown : place.WellShown element) :
    List.Forall₂ Place.WellShown place.below (extractShallow element.innerText) := by
  obtain ⟨formed, here⟩ := shown
  rw [extractShallow_eq_shallowIn, Place.below]
  cases whole : place.isWhole with
  | true =>
    have stripped := List.filter_eq_self.mpr (Text.all_bne_of_notMem (oneLine_render formed))
    rw [here.whole whole, stripped]
    exact wellShown_shown formed
  | false =>
    have absent : '<' ∉ element.innerText.filter (· != '\n') := fun present =>
      here.cut whole (List.mem_filter.mp present).1
    rw [shallowIn_of_notMem absent]
    exact .nil

end Markup

namespace Selector

/-- What a chain finds among the elements of a forest that are shown. -/
def findShown (places : List Place) : Selector → List Place
  | .last link => places.filter fun place => link.acceptsTag place.tag
  | .parent link child =>
    (places.filter fun place => link.acceptsTag place.tag).flatMap fun place =>
      child.findShown place.below

/-- What a chain finds in well-formed markup is what is to be found. -/
theorem wellShown_find (selector : Selector) {places : List Place} {elements : List Element}
    (shown : List.Forall₂ Place.WellShown places elements) :
    List.Forall₂ Place.WellShown (selector.findShown places) (selector.find elements) := by
  have accepts (link : Link) {place : Place} {element : Element} (here : place.WellShown element) :
      link.acceptsTag place.tag = true ↔ link.accepts element = true := by
    rw [link.accepts_eq_acceptsTag, here.2.tag]
  induction selector generalizing places elements with
  | last link => exact List.rel_filter (fun _ _ here => accepts link here) shown
  | parent link child ih =>
    exact List.rel_flatMap (List.rel_filter (fun _ _ here => accepts link here) shown)
      fun _ _ here => ih here.below

end Selector

/-- Where an element is found by a chain of two links: inside an element that the first one accepts,
and either as a child or at some depth inside a permeable child. -/
structure FoundBelow (outer inner : Link) (forest : Forest) (place : Place) : Prop where
  accepted : inner.acceptsTag place.tag = true
  parent : ∃ parent ∈ forest.places [], outer.acceptsTag parent.tag = true ∧
    place ∈ parent.children.places []
  between : ∀ child ∈ place.ancestors.getLast?, Permeable child

theorem foundBelow_of_mem {outer inner : Link} {forest : Forest} {place : Place}
    (member : place ∈ Selector.findShown (forest.shown []) (.parent outer (.last inner))) :
    FoundBelow outer inner forest place := by
  obtain ⟨parent, present, inside⟩ := List.mem_flatMap.mp member
  obtain ⟨shown, accepted⟩ := List.mem_filter.mp present
  obtain ⟨found, accepts⟩ := List.mem_filter.mp inside
  rw [Place.below] at found
  split at found
  · obtain ⟨child, between, whole, permeable⟩ := Forest.of_mem_shown found
    rw [List.append_nil] at whole
    exact ⟨accepts, ⟨parent, (Forest.of_mem_shown shown).1, accepted, child⟩, whole ▸ permeable⟩
  · cases found

/-- In well-formed markup a chain of two links finds nothing but elements inside those that its first
link accepts, and what it finds there deeper than a child is inside a permeable child. -/
theorem query_children {forest : Forest} (formed : forest.oneLine.WellFormed) {source : Text}
    {outer inner : Link} (read : Selector.parse source = .ok (.parent outer (.last inner))) :
    let places := Selector.findShown (forest.oneLine.shown []) (.parent outer (.last inner))
    ∃ found, query .shallow forest.render source = .ok found ∧
      found.map Element.tag = places.map Place.tag ∧
      ∀ place ∈ places, FoundBelow outer inner forest.oneLine place := by
  refine ⟨_, query_of_parse read .shallow forest.render, ?_, fun _ => foundBelow_of_mem⟩
  have stripped : withoutLineFeeds forest.render = forest.oneLine.render :=
    Forest.render_oneLine (formed.quiet [])
  rw [extract, extractShallow_eq_shallowIn, ← withoutLineFeeds, stripped]
  have shown := Selector.wellShown_find (.parent outer (.last inner)) (wellShown_shown formed)
  exact Place.map_tag shown fun _ _ here => here.2.tag

/-- A paragraph in a link, and one that is no child of it. -/
theorem query_children_paragraph :
    let paragraph : Forest :=
      .element "p".toList [⟨"x".toList, "1".toList⟩] (.text "\n".toList .nil) .nil
    let forest : Forest := .element "a".toList []
      (.element "b".toList [] paragraph paragraph) .nil
    let outer : Link := { Link.any with tag := some "a".toList }
    let inner : Link := { Link.any with tag := some "p".toList }
    let places := Selector.findShown (forest.oneLine.shown []) (.parent outer (.last inner))
    forest.render = "<a><b><p x=\"1\">\n</p></b><p x=\"1\">\n</p></a>".toList ∧
      forest.oneLine.WellFormed ∧ Selector.parse "a > p".toList = .ok (.parent outer (.last inner)) ∧
      ∃ found, query .shallow forest.render "a > p".toList = .ok found ∧
        found.map Element.tag = [("p".toList, ⟨[⟨"x".toList, "1".toList⟩]⟩)] ∧
        ∀ place ∈ places, FoundBelow outer inner forest.oneLine place := by
  intro paragraph forest outer inner places
  have writable : ∀ entry ∈ [(⟨"x".toList, "1".toList⟩ : Attribute)], IsWritable entry := by
    intro entry member
    obtain rfl := List.mem_singleton.mp member
    exact ⟨by decide, by decide, by decide, by decide, by decide, by decide⟩
  have written : paragraph.oneLine.WellFormed :=
    .element (by decide) (by decide) writable (absurd · (by decide)) (by decide)
      (.text (by decide) (by decide) .nil) .nil
  have formed : forest.oneLine.WellFormed :=
    .element (by decide) (by decide) nofun (absurd · (by decide)) (by decide)
      (.element (by decide) (by decide) nofun (absurd · (by decide)) (by decide) written written) .nil
  have read : Selector.parse "a > p".toList = .ok (.parent outer (.last inner)) := by
    decide +kernel
  obtain ⟨found, queried, tags, below⟩ := query_children formed read
  have shown : places.map Place.tag = [("p".toList, ⟨[⟨"x".toList, "1".toList⟩]⟩)] := by
    decide +kernel
  exact ⟨by decide, formed, read, found, queried, tags.trans shown, below⟩

/-- A chain of two links finds what is inside a child that holds another element of its own name. -/
theorem query_children_refined :
    let paragraph : Forest := .element "p".toList [] .nil .nil
    let forest : Forest := .element "a".toList []
      (.element "div".toList [] (.element "div".toList [] paragraph .nil) .nil) .nil
    forest.WellFormed ∧ forest.render = "<a><div><div><p></p></div></div></a>".toList ∧
      query .shallow forest.render "a > p".toList = .ok [⟨"p".toList, ∅, []⟩] ∧
      ∀ parent ∈ forest.places [], Text.sameName "a".toList parent.name = true →
        ∀ child ∈ parent.children.places [], child.ancestors = [] →
          Text.sameName "p".toList child.name = false := by
  intro paragraph forest
  have element (name : Text) {children : Forest} (tag : IsTagName name)
      (other : isLineBreak name = false) (visible : Category.ofName name ≠ .void)
      (markup : isRawText name = false) (inside : children.WellFormed) :
      (Forest.element name [] children .nil).WellFormed :=
    .element tag other nofun (absurd · visible) (fun raw => by rw [markup] at raw; cases raw) inside
      .nil
  have formed : forest.WellFormed :=
    element _ (by decide) (by decide) (by decide) (by decide)
      (element _ (by decide) (by decide) (by decide) (by decide)
        (element _ (by decide) (by decide) (by decide) (by decide)
          (element _ (by decide) (by decide) (by decide) (by decide) .nil)))
  exact ⟨formed, by decide, by decide +kernel, by decide⟩

end TagQuery
