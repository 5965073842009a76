import Mathlib.Data.List.Forall2
import TagQuery.Proofs.Markup.Quiet

/-!
# Places and fragments

What is reported of the elements of a forest is said of each of them by itself (`Place.Reported`),
and of a text that holds some of them by what reading it adds in front of any rest (`Reports`).
Both readings of a document are put together in these terms from those of its parts.

This module has the first reading, which cuts a text into fragments. A fragment ends at the next
tag, so that only the name and the attributes of its element are certain. Inside an element that
is refined there is one of them for each element of a quiet forest (`Quiet.reports_fragmentsIn`).
-/

namespace TagQuery.Markup

/-! ## Places -/

/-- An element of a forest, with the names and the children of the elements around it, innermost
first. -/
structure Place where
  ancestors : List (Text × Forest)
  name : Text
  attributes : List Attribute
  children : Forest

/-- The elements of a forest in pre-order. -/
def Forest.places (ancestors : List (Text × Forest)) : Forest → List Place
  | nil => []
  | text _ rest => rest.places ancestors
  | element name attributes children rest =>
    ⟨ancestors, name, attributes, children⟩ ::
      (children.places ((name, children) :: ancestors) ++ rest.places ancestors)

namespace Place

/-- Whether one of the elements around a place is nestable and holds another one of its own
name. -/
def WithinRefined (ancestors : List (Text × Forest)) : Prop :=
  ∃ ancestor ∈ ancestors, Category.ofName ancestor.1 = .nestable ∧
    ancestor.2.hasName ancestor.1 = true

/-- What is reported of an element of a forest. Where it has a body and no refined element is
around it, its inner text is the rendering of its children. -/
structure Reported (place : Place) (element : Element) : Prop where
  name : element.name = place.name
  attributes : element.attributes = Attributes.ofList (place.attributes.map trimValue)
  innerText : (Category.ofName place.name).hasBody = true → ¬ WithinRefined place.ancestors →
    element.innerText = place.children.render

end Place

theorem Place.withinRefined_cons {ancestors : List (Text × Forest)} (within : WithinRefined ancestors)
    (ancestor : Text × Forest) : WithinRefined (ancestor :: ancestors) := by
  obtain ⟨outer, member, refined⟩ := within
  exact ⟨outer, List.mem_cons_of_mem _ member, refined⟩

/-- What the elements around a place are for the texts inside them. -/
def Place.enclosing (ancestors : List (Text × Forest)) : List Enclosing :=
  ancestors.map fun ancestor => ⟨ancestor.1, ancestor.2.hasName ancestor.1⟩

theorem Place.withinRefined_iff {ancestors : List (Text × Forest)} :
    WithinRefined ancestors ↔ ∃ outer ∈ enclosing ancestors, outer.refined = true := by
  simp [WithinRefined, enclosing, Enclosing.refined]

/-- The elements of a forest that are reported: all but the line breaks. -/
def Forest.reported (ancestors : List (Text × Forest)) (forest : Forest) : List Place :=
  (forest.places ancestors).filter fun place => !isLineBreak place.name

theorem Forest.reported_element (ancestors : List (Text × Forest)) (name : Text)
    (attributes : List Attribute) (children rest : Forest) :
    (Forest.element name attributes children rest).reported ancestors =
      [(⟨ancestors, name, attributes, children⟩ : Place)].filter (fun place =>
        !isLineBreak place.name) ++
        (children.reported ((name, children) :: ancestors) ++ rest.reported ancestors) := by
  simp only [Forest.reported, Forest.places, ← List.filter_append, List.singleton_append]

theorem places_of_isText {forest : Forest} (plain : forest.isText = true)
    (ancestors : List (Text × Forest)) : forest.places ancestors = [] := by
  induction forest with
  | nil => rfl
  | text _ _ ih => exact ih plain
  | element => cases plain

theorem reported_of_isText {forest : Forest} (plain : forest.isText = true)
    (ancestors : List (Text × Forest)) : forest.reported ancestors = [] := by
  rw [Forest.reported, places_of_isText plain, List.filter_nil]

theorem Forest.WellFormed.reported_eq {forest : Forest} (formed : forest.WellFormed)
    (ancestors : List (Text × Forest)) : forest.reported ancestors = forest.places ancestors := by
  induction formed generalizing ancestors with
  | nil => rfl
  | text _ _ _ ih => exact ih ancestors
  | element _ other _ _ _ _ _ insideIh laterIh =>
    rw [Forest.reported_element, insideIh, laterIh, Forest.places]
    simp [other]

/-! ## Raw elements -/

theorem exists_of_isRawText {name : Text} (raw : isRawText name = true) :
    ∃ listed ∈ rawTextNames, Text.sameName listed name = true := by
  simpa [isRawText] using raw

/-- Raw elements run to their closer and are not refined. -/
theorem ofName_of_isRawText {name : Text} (raw : isRawText name = true) :
    Category.ofName name = .generic := by
  obtain ⟨listed, member, same⟩ := exists_of_isRawText raw
  rw [← ofName_eq_of_sameName same]
  have generic : ∀ other ∈ rawTextNames, Category.ofName other = .generic := by decide
  exact generic listed member

theorem not_void_of_isRawText {name : Text} (raw : isRawText name = true) :
    Category.ofName name ≠ .void := by
  rw [ofName_of_isRawText raw]
  decide

theorem isLineBreak_of_isRawText {name : Text} (raw : isRawText name = true) :
    isLineBreak name = false := by
  obtain ⟨listed, member, same⟩ := exists_of_isRawText raw
  have other : ∀ other ∈ rawTextNames, Text.lower other ≠ Text.lower "br".toList := by decide
  rw [← Bool.not_eq_true, isLineBreak, Text.sameName_iff, ← Text.sameName_iff.mp same]
  exact fun lineBreak => other listed member lineBreak.symm

/-! ## Fragments -/

/-- A tag is a piece together with the text after it. -/
theorem pieces_tag {tail : Text} (absent : '<' ∉ tail) (rest : Text) :
    ∃ run, '<' ∉ run ∧ pieces ('<' :: (tail ++ rest)) = ('<' :: (tail ++ run)) :: pieces rest := by
  have inside := Text.all_bne_of_notMem absent
  obtain ⟨run, after, rfl, plain, ends⟩ := Text.exists_run (· != '<') rest
  have unopened : '<' ∉ run := fun member => by simpa using plain _ member
  have whole : ∀ c ∈ tail ++ run, (c != '<') = true := fun c member =>
    (List.mem_append.mp member).elim (inside c) (plain c)
  refine ⟨run, unopened, ?_⟩
  rw [pieces, if_pos rfl, ← List.append_assoc, Text.takeWhile_run whole ends,
    Text.dropWhile_run whole ends, pieces_append_of_notMem unopened]

/-- The fragments of an element, if it is nestable and an opener of its name follows its tag, are
those of its inside. -/
theorem IsOpening.nested_openingTag {name area : Text} (opening : IsOpening name area)
    (absent : '<' ∉ area) (inside : Text) :
    nested (openingTag name area ++ inside) =
      if Category.ofName name = .nestable ∧ countOpeners name inside ≠ 0 then
        (pieces inside).filterMap fragment?
      else [] := by
  have tail : (openingTag name area ++ inside).drop 1 = name ++ area ++ ['>'] ++ inside := rfl
  simp only [nested, fragments, opening.tagName_openingTag, opening.splitAfter?_openingTag, tail,
    pieces_append_of_notMem (opening.notMem_tail absent)]
  by_cases nestable : Category.ofName name = .nestable
  · by_cases plain : countOpeners name inside = 0 <;> simp [nestable, plain]
  · simp [nestable]

theorem elementsOf_of_not_scanned {slice : Slice} {element : Element}
    (origin : slice.origin ≠ .scanned) (read : Element.ofSlice? slice.text = some element) :
    elementsOf slice = [element] := by
  simp only [elementsOf, read, origin, false_and, ↓reduceIte]

/-- The fragment of an opening tag has the name and the attributes of the tag. -/
theorem IsOpening.fragment?_openingTag {name area : Text} (opening : IsOpening name area)
    (other : isLineBreak name = false) (run : Text) :
    ∃ slice innerText, fragment? (openingTag name area ++ run) = some slice ∧
      elementsOf slice = [⟨name, attributesOf name area, innerText⟩] := by
  have named : name.isEmpty = false := by simpa using opening.nonempty
  have origin : Origin.fragment ≠ Origin.scanned := by decide
  simp only [fragment?, opening.tagName_openingTag, opening.splitAfter?_openingTag, named, other,
    Bool.or_self, Bool.false_eq_true, ↓reduceIte]
  split
  · exact ⟨_, [], rfl, elementsOf_of_not_scanned origin opening.ofSlice?_tag⟩
  · obtain ⟨closers, closed⟩ : ∃ closers, closeUnmatched name (openingTag name area ++ run) =
        openingTag name area ++ (run ++ closers) := ⟨_, List.append_assoc ..⟩
    have read := opening.ofSlice?_openingTag (run ++ closers)
    rw [← closed] at read
    exact ⟨_, _, rfl, elementsOf_of_not_scanned origin read⟩

/-- The elements that the fragments of a text give. -/
def fragmentsIn (text : Text) : List Element :=
  ((pieces text).filterMap fragment?).flatMap elementsOf

theorem fragmentsIn_nil : fragmentsIn [] = [] := by
  rw [fragmentsIn, pieces, List.filterMap_nil, List.flatMap_nil]

theorem fragmentsIn_append_of_notMem {run : Text} (absent : '<' ∉ run) (rest : Text) :
    fragmentsIn (run ++ rest) = fragmentsIn rest := by
  rw [fragmentsIn, pieces_append_of_notMem absent, fragmentsIn]

theorem fragmentsIn_openingTag {name area : Text} (opening : IsOpening name area)
    (absent : '<' ∉ area) (other : isLineBreak name = false) (rest : Text) :
    ∃ innerText, fragmentsIn (openingTag name area ++ rest) =
      ⟨name, attributesOf name area, innerText⟩ :: fragmentsIn rest := by
  obtain ⟨run, _, cut⟩ := pieces_tag (opening.notMem_tail absent) rest
  obtain ⟨slice, innerText, made, single⟩ := opening.fragment?_openingTag other run
  refine ⟨innerText, ?_⟩
  rw [openingTag, List.cons_append] at made ⊢
  rw [fragmentsIn, cut, List.filterMap_cons_some made, List.flatMap_cons, single]
  rfl

/-- A piece that makes no fragment adds nothing. -/
theorem fragmentsIn_piece {run rest : Text} (unopened : '<' ∉ run)
    (ends : ∀ c ∈ rest.head?, (c != '<') = false) (silent : fragment? ('<' :: run) = none) :
    fragmentsIn ('<' :: (run ++ rest)) = fragmentsIn rest := by
  have inside := Text.all_bne_of_notMem unopened
  rw [fragmentsIn, pieces, if_pos rfl, Text.takeWhile_run inside ends,
    Text.dropWhile_run inside ends, List.filterMap_cons_none silent, fragmentsIn]

/-- A `<` in front of no name gives no fragment. -/
theorem fragmentsIn_bracket {rest : Text} (ends : ∀ c ∈ rest.head?, Text.isWord c = false) :
    fragmentsIn ('<' :: rest) = fragmentsIn rest := by
  obtain ⟨run, after, rfl, inside, stops⟩ := Text.exists_run (· != '<') rest
  have unopened : '<' ∉ run := fun member => by simpa using inside _ member
  have unnamed : ∀ c ∈ run.head?, Text.isWord c = false := by
    cases run with
    | nil => exact nofun
    | cons c run => exact Text.stop_of_cons (ends c rfl) run
  rw [fragmentsIn_piece unopened stops (fragment?_of_unnamed unnamed),
    fragmentsIn_append_of_notMem unopened]

theorem fragmentsIn_closer {name : Text} (tag : IsTagName name) (rest : Text) :
    fragmentsIn (closer name ++ rest) = fragmentsIn rest := by
  have absent := notMem_tail_closer tag (Text.sameName_refl name)
  have mark : ∀ c ∈ ('/' :: (name ++ ['>']) ++ rest).head?, Text.isWord c = false :=
    Text.stop_of_cons (by decide) _
  rw [closer, List.cons_append, fragmentsIn_bracket mark, fragmentsIn_append_of_notMem absent]

/-- Line breaks give no fragments. -/
theorem fragmentsIn_lineBreak {name area : Text} (opening : IsOpening name area)
    (absent : '<' ∉ area) (lineBreak : isLineBreak name = true) (rest : Text) :
    fragmentsIn (openingTag name area ++ rest) = fragmentsIn rest := by
  obtain ⟨run, _, cut⟩ := pieces_tag (opening.notMem_tail absent) rest
  have named := opening.tagName_openingTag run
  rw [openingTag, List.cons_append] at named ⊢
  have none : fragment? ('<' :: (name ++ area ++ ['>'] ++ run)) = none := by
    simp only [fragment?, named, lineBreak, Bool.or_true, ↓reduceIte]
  rw [fragmentsIn, cut, List.filterMap_cons_none none, fragmentsIn]

theorem fragment?_eq_none_iff {piece : Text} :
    fragment? piece = none ↔
      tagName piece = [] ∨ isLineBreak (tagName piece) = true ∨ '>' ∉ piece := by
  unfold fragment?
  dsimp only
  rw [← Text.splitAfter?_eq_none_iff, ← or_assoc, ← List.isEmpty_iff, ← Bool.or_eq_true]
  split
  · rename_i unnamed
    exact iff_of_true rfl (.inl unnamed)
  · rename_i named
    split
    · rename_i uncut
      exact iff_of_true rfl (.inr uncut)
    · rename_i cut
      exact iff_of_false nofun (not_or.mpr ⟨named, by rw [cut]; exact nofun⟩)

/-- What follows the `>` of a piece does not make a fragment of it. -/
theorem fragment?_append_of_closed {tail : Text} (closed : '>' ∈ tail) (run : Text)
    (silent : fragment? ('<' :: tail) = none) : fragment? ('<' :: (tail ++ run)) = none := by
  have ended : tail.dropWhile Text.isWord ≠ [] := fun nothing =>
    absurd (List.dropWhile_eq_nil_iff.mp nothing '>' closed) (by decide)
  have named : tagName ('<' :: (tail ++ run)) = tagName ('<' :: tail) :=
    (Text.run_append tail run fun nothing => absurd nothing ended).1
  rw [fragment?_eq_none_iff] at silent ⊢
  rw [named]
  exact silent.imp_right fun other => other.imp_right fun absent =>
    absurd (List.mem_cons_of_mem _ closed) absent

/-- A text that ends with a `>` and has no fragments adds none to what follows it. -/
theorem fragmentsIn_append_of_fragmentless {text : Text} (silent : Fragmentless text)
    (ends : text.getLast? = some '>') (rest : Text) :
    fragmentsIn (text ++ rest) = fragmentsIn rest := by
  unfold Fragmentless at silent
  fun_induction pieces text with
  | case1 => cases ends
  | case2 tail ih =>
    obtain ⟨run, after, rfl, inside, stops⟩ := Text.exists_run (· != '<') tail
    have unopened : '<' ∉ run := fun member => by simpa using inside _ member
    rw [Text.takeWhile_run inside stops, Text.dropWhile_run inside stops] at silent
    rw [Text.dropWhile_run inside stops] at ih
    obtain ⟨here, later⟩ := List.forall_mem_cons.mp silent
    cases after with
    | nil =>
      -- The last piece goes on in what follows, up to the next `<`.
      rw [List.append_nil] at ends ⊢
      obtain ⟨more, _, cut⟩ := pieces_tag unopened rest
      have closed : '>' ∈ run :=
        (List.mem_cons.mp (List.mem_of_getLast? ends)).resolve_left (by decide)
      rw [List.cons_append, fragmentsIn, cut,
        List.filterMap_cons_none (fragment?_append_of_closed closed more here), fragmentsIn]
    | cons c after =>
      obtain rfl : c = '<' := by simpa using stops c rfl
      rw [← List.cons_append, List.getLast?_append_of_ne_nil _ (List.cons_ne_nil _ _)] at ends
      have next : ∀ d ∈ ('<' :: (after ++ rest)).head?, (d != '<') = false :=
        Text.stop_of_cons (by decide) _
      rw [List.cons_append, List.append_assoc, List.cons_append,
        fragmentsIn_piece unopened next here]
      exact ih later ends
  | case3 c tail other ih =>
    cases tail with
    | nil =>
      obtain rfl : c = '>' := Option.some.inj ends
      exact fragmentsIn_append_of_notMem (by decide) rest
    | cons d tail =>
      have absent : '<' ∉ [c] := by simpa using Ne.symm other
      have whole : c :: d :: tail ++ rest = [c] ++ (d :: tail ++ rest) := rfl
      rw [List.getLast?_cons_cons] at ends
      rw [whole, fragmentsIn_append_of_notMem absent, ih silent ends]

theorem getLast?_closer (name : Text) : (closer name).getLast? = some '>' := by
  rw [closer, ← List.cons_append, ← List.cons_append, List.getLast?_concat]

theorem fragmentsIn_comment {content : Text} (silent : Fragmentless (content ++ ['-', '-', '>']))
    (rest : Text) : fragmentsIn (comment content ++ rest) = fragmentsIn rest := by
  have whole : comment content ++ rest =
      '<' :: (['!', '-', '-'] ++ ((content ++ ['-', '-', '>']) ++ rest)) := by
    simp [comment]
  have mark : ∀ c ∈ (['!', '-', '-'] ++ ((content ++ ['-', '-', '>']) ++ rest)).head?,
      Text.isWord c = false := Text.stop_of_cons (by decide) _
  rw [whole, fragmentsIn_bracket mark, fragmentsIn_append_of_notMem (by decide),
    fragmentsIn_append_of_fragmentless silent (by simp)]

/-! ## What a text reports -/

/-- Read in front of any rest, a text gives elements as they are to be reported of some places. -/
def Reports (read : Text → List Element) (text : Text) (places : List Place) : Prop :=
  ∀ rest, ∃ elements, read (text ++ rest) = elements ++ read rest ∧
    List.Forall₂ Place.Reported places elements

section Reports
variable {read : Text → List Element} {first second text : Text} {before after : List Place}

theorem Reports.append (here : Reports read first before) (there : Reports read second after) :
    Reports read (first ++ second) (before ++ after) := by
  intro rest
  obtain ⟨elements, found, reported⟩ := here (second ++ rest)
  obtain ⟨later, foundLater, reportedLater⟩ := there rest
  refine ⟨elements ++ later, ?_, List.rel_append reported reportedLater⟩
  rw [List.append_assoc, found, foundLater, List.append_assoc]

theorem reports_nothing (silent : ∀ rest, read (text ++ rest) = read rest) : Reports read text [] :=
  fun rest => ⟨[], silent rest, .nil⟩

/-- Closers report nothing, so that a written body reports what its children do. -/
theorem reports_body {name : Text} {children : Forest} {ancestors : List (Text × Forest)}
    (silent : ∀ rest, read (closer name ++ rest) = read rest)
    (empty : Category.ofName name = .void → children = .nil)
    (inside : Reports read children.render (children.reported ancestors)) :
    Reports read (if Category.ofName name = .void then [] else children.render ++ closer name)
      (children.reported ancestors) := by
  split
  · rename_i void
    rw [empty void]
    exact reports_nothing fun _ => rfl
  · have whole := inside.append (reports_nothing silent)
    rwa [List.append_nil] at whole

end Reports

/-- Inside a refined element the fragment of a written element starts with its tag. -/
theorem reports_fragment {name : Text} {attributes : List Attribute} (tag : IsTagName name)
    (writable : ∀ entry ∈ attributes, IsWritable entry) {ancestors : List (Text × Forest)}
    (within : Place.WithinRefined ancestors) (children : Forest) :
    Reports fragmentsIn (openingTag name (writeAttributes attributes))
      ([(⟨ancestors, name, attributes, children⟩ : Place)].filter fun place =>
        !isLineBreak place.name) := by
  intro rest
  have opening := isOpening_writeAttributes tag writable
  have unopened := unopened_writeAttributes writable
  cases lineBreak : isLineBreak name with
  | true => exact ⟨[], fragmentsIn_lineBreak opening unopened lineBreak rest, by simp [lineBreak]⟩
  | false =>
    obtain ⟨innerText, first⟩ := fragmentsIn_openingTag opening unopened lineBreak rest
    have here : Place.Reported ⟨ancestors, name, attributes, children⟩
        ⟨name, attributesOf name (writeAttributes attributes), innerText⟩ :=
      ⟨rfl, attributesOf_writeAttributes writable, fun _ exposed => (exposed within).elim⟩
    exact ⟨[_], first, by simp [lineBreak, here]⟩

/-- Inside a refined element each element of a quiet forest gives one fragment. -/
theorem Forest.Quiet.reports_fragmentsIn {around : List Enclosing} {forest : Forest}
    (quiet : forest.Quiet around) {ancestors : List (Text × Forest)}
    (same : Place.enclosing ancestors = around) (within : Place.WithinRefined ancestors) :
    Reports fragmentsIn forest.render (forest.reported ancestors) := by
  induction quiet generalizing ancestors with
  | nil => exact reports_nothing fun _ => rfl
  | text unopened _ _ ih =>
    exact (reports_nothing (fragmentsIn_append_of_notMem unopened)).append (ih same within)
  | comment _ _ harmless _ ih =>
    have silent := harmless.hidden (same ▸ Place.withinRefined_iff.mp within)
    exact (reports_nothing (fragmentsIn_comment silent)).append (ih same within)
  | @raw _ name attributes children _ raw tag writable plain _ harmless _ ih =>
    obtain ⟨outer, member, refined⟩ := Place.withinRefined_iff.mp within
    have silent := harmless.hidden ⟨outer, List.mem_cons_of_mem _ (same ▸ member), refined⟩
    have nothing := fragmentsIn_append_of_fragmentless silent
      (by rw [List.getLast?_append, getLast?_closer]; rfl)
    rw [Forest.reported_element, Forest.render, List.append_assoc, reported_of_isText plain,
      if_neg (not_void_of_isRawText raw)]
    exact (reports_fragment tag writable within children).append
      ((reports_nothing nothing).append (ih same within))
  | @element _ name attributes children _ _ tag writable empty _ _ insideIh laterIh =>
    rw [Forest.reported_element, Forest.render, List.append_assoc]
    refine (reports_fragment tag writable within children).append (.append ?_ (laterIh same within))
    exact reports_body (fragmentsIn_closer tag) empty
      (insideIh (same ▸ rfl) (Place.withinRefined_cons within _))

end TagQuery.Markup
