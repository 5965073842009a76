import TagQuery.Proofs.Markup.Shallow
import TagQuery.Proofs.Markup.Transparency

/-!
# What shallow extraction shows of a forest

Shallow extraction shows the outermost elements of a forest, and more where an element lets its
children be seen (`Permeable`): those of a wrapper stand beside it, and all elements inside a
refined one are its fragments. `Forest.shown` lists what is shown, and `shown_shallowIn` says
that it is reported so. Of what is shown some elements are there as a whole, with the rendering
of their children as inner text; the inner text of the others holds no tag.
-/

namespace TagQuery.Markup

/-- Whether the elements inside an element are shown together with it: it has no body, or it is
nestable and holds another element of its own name. -/
def Permeable (around : Text × Forest) : Prop :=
  (Category.ofName around.1).hasBody = false ∨
    Category.ofName around.1 = .nestable ∧ around.2.hasName around.1 = true

/-- The elements of a forest that shallow extraction shows. -/
def Forest.shown (ancestors : List (Text × Forest)) : Forest → List Place
  | nil => []
  | text _ rest => rest.shown ancestors
  | element name attributes children rest =>
    ⟨ancestors, name, attributes, children⟩ ::
      ((if (Category.ofName name).hasBody then
          if Category.ofName name = .nestable ∧ children.hasName name = true then
            children.places ((name, children) :: ancestors)
          else []
        else children.shown ((name, children) :: ancestors)) ++ rest.shown ancestors)

namespace Place

/-- Whether an element is cut out with its body: it has one, and no refined element is around it. -/
def isWhole (place : Place) : Bool :=
  (Category.ofName place.name).hasBody && !(enclosing place.ancestors).any Enclosing.refined

/-- What is shown of an element of a forest. -/
structure Shown (place : Place) (element : Element) : Prop where
  tag : element.tag = place.tag
  whole : place.isWhole = true → element.innerText = place.children.render
  cut : place.isWhole = false → '<' ∉ element.innerText

end Place

/-! ## Places -/

theorem suffix_of_mem_places {forest : Forest} {ancestors : List (Text × Forest)} {place : Place}
    (member : place ∈ forest.places ancestors) : ancestors <:+ place.ancestors := by
  induction forest generalizing ancestors with
  | nil => cases member
  | text _ _ ih => exact ih member
  | element name attributes children rest insideIh laterIh =>
    rcases List.mem_cons.mp member with rfl | deeper
    · exact List.suffix_rfl
    · rcases List.mem_append.mp deeper with inside | later
      · exact (List.suffix_cons _ _).trans (insideIh inside)
      · exact laterIh later

theorem Forest.WellFormed.children {forest : Forest} (formed : forest.WellFormed)
    {ancestors : List (Text × Forest)} {place : Place} (member : place ∈ forest.places ancestors) :
    place.children.WellFormed := by
  induction formed generalizing ancestors with
  | nil => cases member
  | text _ _ _ ih => exact ih member
  | element _ _ _ _ _ inside _ insideIh laterIh =>
    rcases List.mem_cons.mp member with rfl | deeper
    · exact inside
    · exact (List.mem_append.mp deeper).elim insideIh laterIh

/-- What is shown is an element of the forest, and the outermost of those around it is permeable. -/
theorem Forest.of_mem_shown {forest : Forest} {ancestors : List (Text × Forest)} {place : Place}
    (member : place ∈ forest.shown ancestors) :
    place ∈ forest.places ancestors ∧
      ∃ between, place.ancestors = between ++ ancestors ∧
        ∀ outer ∈ between.getLast?, Permeable outer := by
  induction forest generalizing ancestors with
  | nil => cases member
  | text _ _ ih => exact ih member
  | element name attributes children rest insideIh laterIh =>
    have outermost {between : List (Text × Forest)} (permeable : Permeable (name, children)) :
        ∀ outer ∈ (between ++ [(name, children)]).getLast?, Permeable outer := by
      rw [List.getLast?_concat]
      rintro outer same
      exact Option.some.inj same ▸ permeable
    rcases List.mem_cons.mp member with rfl | deeper
    · exact ⟨List.mem_cons_self, [], rfl, nofun⟩
    · rcases List.mem_append.mp deeper with inside | later
      · split at inside
        · split at inside
          · rename_i refined
            obtain ⟨between, whole⟩ := suffix_of_mem_places inside
            exact ⟨List.mem_cons_of_mem _ (List.mem_append_left _ inside),
              between ++ [(name, children)], by simp [← whole], outermost (.inr refined)⟩
          · cases inside
        · rename_i bare
          obtain ⟨present, between, whole, _⟩ := insideIh inside
          exact ⟨List.mem_cons_of_mem _ (List.mem_append_left _ present),
            between ++ [(name, children)], by simp [whole],
            outermost (.inl (Bool.not_eq_true _ ▸ bare))⟩
      · obtain ⟨present, around⟩ := laterIh later
        exact ⟨List.mem_cons_of_mem _ (List.mem_append_right _ present), around⟩

/-! ## Elements that are opened again inside -/

/-- In a well-formed rendering the openers of a name are those of the elements of that name. -/
theorem countOpeners_render_eq_zero_iff {forest : Forest} (formed : forest.WellFormed) {name : Text}
    (tag : IsTagName name) (rest : Text) :
    countOpeners name (forest.render ++ rest) = 0 ↔
      forest.hasName name = false ∧ countOpeners name rest = 0 := by
  induction formed generalizing rest with
  | nil => simp [Forest.render, Forest.hasName]
  | text unopened _ _ ih =>
    rw [Forest.render, List.append_assoc, countOpeners_append_of_notMem unopened, ih, Forest.hasName]
  | @element other _ children after word _ writable empty _ _ _ insideIh laterIh =>
    have body : countOpeners name ((if Category.ofName other = .void then []
        else children.render ++ closer other) ++ (after.render ++ rest)) = 0 ↔
        children.hasName name = false ∧ countOpeners name (after.render ++ rest) = 0 := by
      split
      · rename_i void
        simp [empty void, Forest.hasName]
      · rw [List.append_assoc, insideIh, countOpeners_closer_append tag word]
    rw [Forest.render, List.append_assoc, List.append_assoc,
      countOpeners_openingTag tag (isOpening_writeAttributes word writable)
        (unopened_writeAttributes writable), Nat.add_eq_zero_iff, body, laterIh, Forest.hasName]
    cases Text.sameName name other <;> simp [and_assoc]

/-! ## Shown elements -/

/-- Read in front of any rest, a text gives elements that show some places. -/
def Shows (text : Text) (places : List Place) : Prop :=
  ∀ rest, ∃ elements, shallowIn (text ++ rest) = elements ++ shallowIn rest ∧
    List.Forall₂ Place.Shown places elements

theorem Shows.append {first second : Text} {before after : List Place} (here : Shows first before)
    (there : Shows second after) : Shows (first ++ second) (before ++ after) := by
  intro rest
  obtain ⟨elements, found, shown⟩ := here (second ++ rest)
  obtain ⟨later, foundLater, shownLater⟩ := there rest
  refine ⟨elements ++ later, ?_, List.rel_append shown shownLater⟩
  rw [List.append_assoc, found, foundLater, List.append_assoc]

/-- What is reported of fragments shows them. -/
theorem shown_of_reported {places : List Place} {elements : List Element}
    (reported : List.Forall₂ Place.Reported places elements)
    (cut : ∀ place ∈ places, place.isWhole = false)
    (unopened : ∀ element ∈ elements, '<' ∉ element.innerText) :
    List.Forall₂ Place.Shown places elements := by
  induction reported with
  | nil => exact .nil
  | cons here _ ih =>
    obtain ⟨first, later⟩ := List.forall_mem_cons.mp cut
    obtain ⟨own, others⟩ := List.forall_mem_cons.mp unopened
    refine .cons ⟨here.tag_eq, fun whole => ?_, fun _ => own⟩ (ih later others)
    rw [first] at whole
    cases whole

section Element
variable {name : Text} {attributes : List Attribute} {children : Forest}
  {ancestors : List (Text × Forest)} (tag : IsTagName name) (other : isLineBreak name = false)
  (writable : ∀ entry ∈ attributes, IsWritable entry)

include tag other writable

/-- A wrapper and a void element show themselves, and beside them what their children show. -/
theorem shows_beside (bare : (Category.ofName name).hasBody = false)
    (empty : Category.ofName name = .void → children = .nil)
    (inside : Shows children.render (children.shown ((name, children) :: ancestors))) :
    Shows (openingTag name (writeAttributes attributes) ++
        (if Category.ofName name = .void then [] else children.render ++ closer name))
      (⟨ancestors, name, attributes, children⟩ ::
        children.shown ((name, children) :: ancestors)) := by
  have opening := isOpening_writeAttributes tag writable
  have ends : ¬ LeavesOpen {} name (writeAttributes attributes) := fun leaves => by
    rw [leavesOpen_writeAttributes.mp leaves] at bare
    cases bare
  have here : Place.Shown ⟨ancestors, name, attributes, children⟩
      ⟨name, attributesOf name (writeAttributes attributes), []⟩ := by
    refine ⟨congrArg (name, ·) (attributesOf_writeAttributes writable), fun whole => ?_,
      fun _ => nofun⟩
    rw [Place.isWhole, bare] at whole
    cases whole
  have own : Shows (openingTag name (writeAttributes attributes))
      [⟨ancestors, name, attributes, children⟩] := by
    intro rest
    have step := shallowIn_of_fits (opening.fits_tag other ends rest) List.mem_cons_self
    rw [opening.elements_tag] at step
    exact ⟨_, step, .cons here .nil⟩
  have below : Shows (if Category.ofName name = .void then [] else children.render ++ closer name)
      (children.shown ((name, children) :: ancestors)) := by
    split
    · rename_i void
      rw [empty void]
      exact fun rest => ⟨[], rfl, .nil⟩
    · have silent : Shows (closer name) [] := fun rest => ⟨[], shallowIn_closer tag rest, .nil⟩
      simpa using inside.append silent
  exact own.append below

omit other writable in
/-- The fragments of a refined element show all elements inside it. -/
theorem shown_fragments (refined : Place.WithinRefined ((name, children) :: ancestors))
    (fragments : Reports fragmentsIn children.render (children.places ((name, children) :: ancestors))) :
    List.Forall₂ Place.Shown (children.places ((name, children) :: ancestors))
      (fragmentsIn (children.render ++ closer name)) := by
  obtain ⟨elements, found, reported⟩ := fragments (closer name)
  have last := fragmentsIn_closer tag []
  rw [List.append_nil, fragmentsIn_nil] at last
  rw [last, List.append_nil] at found
  rw [found]
  refine shown_of_reported reported (fun place member => ?_) fun element member =>
    unopened_of_mem_fragmentsIn (found ▸ member)
  obtain ⟨between, whole⟩ := suffix_of_mem_places member
  obtain ⟨outer, around, yes⟩ := Place.withinRefined_iff.mp refined
  have within : outer ∈ Place.enclosing place.ancestors := by
    rw [← whole, Place.enclosing, List.map_append]
    exact List.mem_append_right _ around
  simp [Place.isWhole, List.any_eq_true.mpr ⟨outer, within, yes⟩]

/-- An element with a body shows itself, and all elements inside if it is refined. -/
theorem shows_whole (body : (Category.ofName name).hasBody = true)
    (matched : Matched name children.render)
    (outside : (Place.enclosing ancestors).any Enclosing.refined = false)
    (opens : countOpeners name (children.render ++ closer name) = 0 ↔ children.hasName name = false)
    (fragments : Place.WithinRefined ((name, children) :: ancestors) →
      Reports fragmentsIn children.render (children.places ((name, children) :: ancestors))) :
    Shows (openingTag name (writeAttributes attributes) ++ (children.render ++ closer name))
      (⟨ancestors, name, attributes, children⟩ ::
        if Category.ofName name = .nestable ∧ children.hasName name = true then
          children.places ((name, children) :: ancestors)
        else []) := by
  intro rest
  have opening := isOpening_writeAttributes tag writable
  have leaves : LeavesOpen {} name (writeAttributes attributes) :=
    leavesOpen_writeAttributes.mpr body
  have step := shallowIn_of_fits (opening.fits_element other leaves matched rest) List.mem_cons_self
  have inner := opening.filterMap_nested (children.render ++ closer name)
  rw [fragmentsIn_append_of_notMem (opening.notMem_tail (unopened_writeAttributes writable)),
    ← List.append_assoc] at inner
  rw [Segment.elements_element (opening.ofSlice?_of_matched matched), inner, Segment.text,
    List.append_assoc (openingTag _ _)] at step
  have here : Place.Shown ⟨ancestors, name, attributes, children⟩
      ⟨name, attributesOf name (writeAttributes attributes), children.render⟩ := by
    refine ⟨congrArg (name, ·) (attributesOf_writeAttributes writable), fun _ => rfl, fun cut => ?_⟩
    simp [Place.isWhole, body, outside] at cut
  refine ⟨_, step, .cons here ?_⟩
  simp only [ne_eq, opens, Bool.not_eq_false]
  split
  · rename_i refined
    have within : Place.WithinRefined ((name, children) :: ancestors) :=
      ⟨_, List.mem_cons_self, refined⟩
    exact shown_fragments tag within (fragments within)
  · exact .nil

end Element

/-- Of a well-formed forest shallow extraction shows what is to be shown. -/
theorem Forest.WellFormed.shows {forest : Forest} (formed : forest.WellFormed)
    {ancestors : List (Text × Forest)}
    (outside : (Place.enclosing ancestors).any Enclosing.refined = false) :
    Shows forest.render (forest.shown ancestors) := by
  induction formed generalizing ancestors with
  | nil => exact fun rest => ⟨[], rfl, .nil⟩
  | @text run _ unopened _ _ ih =>
    have silent : Shows run [] := fun rest =>
      ⟨[], shallowIn_append_of_notMem unopened rest, .nil⟩
    exact silent.append (ih outside)
  | @element name attributes children rest tag other writable empty _ inside _ insideIh laterIh =>
    rw [render, shown, ← List.cons_append]
    refine Shows.append ?_ (laterIh outside)
    cases body : (Category.ofName name).hasBody with
    | false =>
      have unrefined : Category.ofName name ≠ .nestable := fun nestable => by
        rw [nestable] at body
        cases body
      refine shows_beside tag other writable body empty (insideIh ?_)
      simpa [Place.enclosing, Enclosing.refined, unrefined] using outside
    | true =>
      have visible : Category.ofName name ≠ .void := fun void => by
        rw [void] at body
        cases body
      have quiet := inside.quiet (⟨name, children.hasName name⟩ :: Place.enclosing ancestors)
      have opens := countOpeners_render_eq_zero_iff inside tag (closer name)
      rw [countOpeners_closer tag (Text.sameName_refl name), and_iff_left rfl] at opens
      rw [if_neg visible]
      refine shows_whole tag other writable body
        (matched_of_passes tag (quiet.passes_render List.mem_cons_self tag body 0)) outside opens
        fun within => ?_
      rw [← inside.reported_eq]
      exact quiet.reports_fragmentsIn rfl within

/-- Of a document that is the rendering of a well-formed forest, shallow extraction gives the elements
that are to be shown. -/
theorem shown_shallowIn {forest : Forest} (formed : forest.WellFormed) :
    List.Forall₂ Place.Shown (forest.shown []) (shallowIn forest.render) := by
  have outside : (Place.enclosing []).any Enclosing.refined = false := rfl
  obtain ⟨elements, found, shown⟩ := formed.shows outside []
  rw [List.append_nil, shallowIn_nil, List.append_nil] at found
  rwa [found]

end TagQuery.Markup
