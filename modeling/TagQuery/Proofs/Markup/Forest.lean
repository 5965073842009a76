import TagQuery.Proofs.Markup.Descent
import TagQuery.Proofs.Markup.Spelling

/-!
# Well-formed markup

A well-formed document is the rendering of an ordered forest of texts and elements. A `Forest` is
held as its first node and the nodes after it, so that an induction on it goes into the children
of a node and along its siblings at once.

What is written of an element is read back: its attributes (`attributesOf_writeAttributes`), and where
it is searched for a closer, that the search comes out of it at the depth at which it went in
(`passes_written`).
-/

namespace TagQuery.Markup

/-- An ordered forest: no node, or a node with the nodes after it. -/
inductive Forest where
  | nil
  | text (run : Text) (rest : Forest)
  | element (name : Text) (attributes : List Attribute) (children rest : Forest)

/-- An attribute as written between quotation marks after a space. -/
def writeAttribute (entry : Attribute) : Text :=
  ' ' :: (entry.name ++ '=' :: '"' :: (entry.value ++ ['"']))

/-- Attributes, one after the other. -/
def writeAttributes (attributes : List Attribute) : Text := attributes.flatMap writeAttribute

/-- An attribute that can be written between quotation marks. -/
structure IsWritable (entry : Attribute) : Prop where
  nonempty : entry.name ≠ []
  named : ∀ c ∈ entry.name, Attributes.isNameChar c = true
  unquoted : '"' ∉ entry.value
  unopened : '<' ∉ entry.value
  unclosed : '>' ∉ entry.value
  oneLine : '\n' ∉ entry.value

namespace Forest

/-- The markup of a forest. Void elements have no closer. -/
def render : Forest → Text
  | nil => []
  | text run rest => run ++ rest.render
  | element name attributes children rest =>
    openingTag name (writeAttributes attributes) ++
      (if Category.ofName name = .void then [] else children.render ++ closer name) ++ rest.render

/-- Whether an element of the forest, at any depth, has the name in any case. -/
def hasName (name : Text) : Forest → Bool
  | nil => false
  | text _ rest => rest.hasName name
  | element other _ children rest =>
    Text.sameName name other || children.hasName name || rest.hasName name

/-- Whether there are no elements in a forest. -/
def isText : Forest → Bool
  | nil => true
  | text _ rest => rest.isText
  | element .. => false

/-- A forest that can be written: its texts are plain, void elements are empty, and there is only
text in elements whose body is not markup. -/
inductive WellFormed : Forest → Prop
  | nil : WellFormed nil
  | text {run : Text} {rest : Forest} (unopened : '<' ∉ run) (oneLine : '\n' ∉ run)
      (later : WellFormed rest) : WellFormed (text run rest)
  | element {name : Text} {attributes : List Attribute} {children rest : Forest}
      (tag : IsTagName name) (other : isLineBreak name = false)
      (writable : ∀ entry ∈ attributes, IsWritable entry)
      (empty : Category.ofName name = .void → children = .nil)
      (plain : isRawText name = true → children.isText = true)
      (inside : WellFormed children) (later : WellFormed rest) :
      WellFormed (element name attributes children rest)

end Forest

/-! ## Written attributes -/

section Attributes
variable {attributes : List Attribute}

theorem notMem_writeAttributes {c : Char}
    (writable : ∀ entry ∈ attributes, IsWritable entry)
    (mark : c ≠ ' ' ∧ c ≠ '=' ∧ c ≠ '"') (unnamed : Attributes.isNameChar c = false)
    (absent : ∀ entry ∈ attributes, c ∉ entry.value) : c ∉ writeAttributes attributes := by
  intro present
  obtain ⟨entry, member, inside⟩ := List.mem_flatMap.mp present
  have outside : c ∉ entry.name := fun named => by
    rw [(writable entry member).named c named] at unnamed
    cases unnamed
  obtain ⟨space, equals, quote⟩ := mark
  simp [writeAttribute, space, equals, quote, outside, absent entry member] at inside

theorem unopened_writeAttributes (writable : ∀ entry ∈ attributes, IsWritable entry) :
    '<' ∉ writeAttributes attributes :=
  notMem_writeAttributes writable (by decide) (by decide) fun entry member =>
    (writable entry member).unopened

/-- A written list of attributes may follow any tag name. -/
theorem isOpening_writeAttributes {name : Text} (tag : IsTagName name)
    (writable : ∀ entry ∈ attributes, IsWritable entry) :
    IsOpening name (writeAttributes attributes) := by
  refine ⟨tag, ?_, notMem_writeAttributes writable (by decide) (by decide)
    fun entry member => (writable entry member).unclosed⟩
  cases attributes with
  | nil => exact nofun
  | cons entry rest => exact Text.stop_of_cons (by decide) _

/-- A quotation mark at its end keeps a tag from closing itself. -/
theorem leavesOpen_writeAttributes {name : Text} :
    LeavesOpen {} name (writeAttributes attributes) ↔ (Category.ofName name).hasBody = true := by
  have last : (writeAttributes attributes).getLast? ≠ some '/' := by
    induction attributes with
    | nil => exact nofun
    | cons entry rest ih =>
      intro slash
      rw [writeAttributes, List.flatMap_cons, List.getLast?_append] at slash
      cases found : (rest.flatMap writeAttribute).getLast? with
      | none => simp [found, writeAttribute, List.getLast?_cons] at slash
      | some c =>
        rw [found, Option.some_or] at slash
        exact ih (found.trans slash)
  have notClosed : ¬ (writeAttributes attributes = ['/'] ∨ ∃ front c, Text.isSpace c = true ∧
      writeAttributes attributes = front ++ [c, '/']) := by
    rintro (only | ⟨front, c, _, whole⟩)
    · exact last (by rw [only]; rfl)
    · exact last (by simp [whole])
  rw [LeavesOpen, and_iff_right notClosed]
  cases Category.ofName name <;> simp [Category.hasBody]

theorem IsWritable.quotable {entry : Attribute} (writable : IsWritable entry) : IsQuotable entry where
  nonempty := writable.nonempty
  named := writable.named
  unquoted := writable.unquoted
  unopened := writable.unopened
  unclosed := writable.unclosed

/-- A written list of attributes is one way to spell them. -/
theorem spells_writeAttributes (writable : ∀ entry ∈ attributes, IsWritable entry) :
    Spells attributes (writeAttributes attributes) := by
  induction attributes with
  | nil => exact .nil nofun
  | cons entry rest ih =>
    obtain ⟨first, later⟩ := List.forall_mem_cons.mp writable
    have whole : writeAttributes (entry :: rest) =
        [' '] ++ (entry.name ++ '=' :: '"' :: (entry.value ++ '"' :: writeAttributes rest)) := by
      simp [writeAttributes, writeAttribute]
    rw [whole]
    exact .cons (by decide) first.quotable (ih later)

theorem attributesOf_writeAttributes {name : Text}
    (writable : ∀ entry ∈ attributes, IsWritable entry) :
    attributesOf name (writeAttributes attributes) =
      Attributes.ofList (attributes.map trimValue) :=
  (spells_writeAttributes writable).attributesOf_eq name

end Attributes

/-! ## Searching through a rendering -/

/-- The search for a closer of the name passes over a text, and comes out of it at another
depth. -/
def Passes (name text : Text) (depth next : Nat) : Prop :=
  ∀ rest, balance name depth (text ++ rest) =
    (balance name next rest).map fun (body, after) => (text ++ body, after)

section Passes
variable {name : Text} {depth next last : Nat}

theorem Passes.append {first second : Text} (here : Passes name first depth next)
    (there : Passes name second next last) : Passes name (first ++ second) depth last := by
  intro rest
  rw [List.append_assoc, here, there, Option.map_map]
  simp only [Function.comp_def, List.append_assoc]

theorem passes_of_notMem {run : Text} (absent : '<' ∉ run) : Passes name run depth depth := by
  intro rest
  induction run with
  | nil => simp
  | cons c run ih =>
    obtain ⟨other, later⟩ := not_or.mp (mt List.mem_cons.mpr absent)
    rw [List.cons_append, balance_of_neither (startsCloser_of_ne (Ne.symm other))
      (startsOpener_of_ne (Ne.symm other)), ih later, Option.map_map]
    rfl

/-- What follows the `<` of a tag is passed over. -/
theorem passes_tag {tail : Text} (absent : '<' ∉ tail)
    (step : ∀ rest, balance name depth ('<' :: (tail ++ rest)) =
      (balance name next (tail ++ rest)).map fun (body, after) => ('<' :: body, after)) :
    Passes name ('<' :: tail) depth next := by
  intro rest
  rw [List.cons_append, step, passes_of_notMem absent, Option.map_map]
  rfl

theorem passes_openingTag (tag : IsTagName name) {other area : Text}
    (opening : IsOpening other area) (absent : '<' ∉ area) :
    Passes name (openingTag other area) depth
      (if Text.sameName name other then depth + 1 else depth) := by
  apply passes_tag (opening.notMem_tail absent)
  intro rest
  have closes := opening.startsCloser_openingTag name rest
  have opens := opening.startsOpener_openingTag tag rest
  rw [openingTag, List.cons_append] at closes opens
  cases same : Text.sameName name other with
  | true => exact balance_of_opener closes (opens.trans same)
  | false => exact balance_of_neither closes (opens.trans same)

theorem passes_closer (tag : IsTagName name) {other : Text} (word : IsTagName other) :
    Passes name (closer other) (if Text.sameName name other then depth + 1 else depth) depth := by
  apply passes_tag (notMem_tail_closer word (Text.sameName_refl other))
  intro rest
  have closes : startsCloser name ('<' :: ('/' :: (other ++ ['>']) ++ rest)) =
      Text.sameName name other := startsCloser_closer tag rest word.word
  cases same : Text.sameName name other with
  | true => exact balance_of_closer_succ (closes.trans same)
  | false => exact balance_of_neither (closes.trans same) (startsOpener_of_slash tag _)

end Passes

theorem ofName_eq_of_sameName {first second : Text} (same : Text.sameName first second = true) :
    Category.ofName first = Category.ofName second := by
  have alike (listed : Text) : Text.sameName listed first = Text.sameName listed second := by
    rw [Text.sameName, Text.sameName, Text.sameName_iff.mp same]
  simp only [Category.ofName, alike]

/-- A written element is passed over if its body and its closer are. -/
theorem passes_written {name other : Text} {attributes : List Attribute} {inside : Text}
    (tag : IsTagName name) (body : (Category.ofName name).hasBody = true) (word : IsTagName other)
    (writable : ∀ entry ∈ attributes, IsWritable entry) (depth : Nat)
    (within : Passes name (inside ++ closer other)
      (if Text.sameName name other then depth + 1 else depth) depth) :
    Passes name (openingTag other (writeAttributes attributes) ++
      (if Category.ofName other = .void then [] else inside ++ closer other)) depth depth := by
  have opens : Passes name (openingTag other (writeAttributes attributes)) depth
      (if Text.sameName name other then depth + 1 else depth) :=
    passes_openingTag tag (isOpening_writeAttributes word writable)
      (unopened_writeAttributes writable)
  split
  · rename_i void
    have different : Text.sameName name other = false := by
      rw [← Bool.not_eq_true]
      intro same
      rw [ofName_eq_of_sameName same, void] at body
      cases body
    rw [different] at opens
    simpa using opens
  · exact opens.append within

/-! ## Counting openers -/

section Counting
variable {name other : Text} (tag : IsTagName name)

include tag

/-- A tag is an opener of the names that are its own in some case, and of no others. -/
theorem countOpeners_openingTag {area : Text} (opening : IsOpening other area)
    (absent : '<' ∉ area) (rest : Text) :
    countOpeners name (openingTag other area ++ rest) =
      (if Text.sameName name other then 1 else 0) + countOpeners name rest := by
  have starts := opening.startsOpener_openingTag tag rest
  rw [openingTag, List.cons_append] at starts ⊢
  rw [countOpeners, starts, countOpeners_append_of_notMem (opening.notMem_tail absent)]

theorem countOpeners_closer_append (word : IsTagName other) (rest : Text) :
    countOpeners name (closer other ++ rest) = countOpeners name rest := by
  have absent := notMem_tail_closer word (Text.sameName_refl other)
  have starts := startsOpener_of_slash tag (other ++ ['>'] ++ rest)
  rw [closer, List.cons_append, countOpeners, countOpeners_append_of_notMem absent,
    List.cons_append, starts]
  exact Nat.zero_add _

/-- Neither the tag nor the closer of a written element of another name is an opener. -/
theorem countOpeners_written {attributes : List Attribute} {inside : Text} (word : IsTagName other)
    (writable : ∀ entry ∈ attributes, IsWritable entry)
    (different : Text.sameName name other = false)
    (within : ∀ rest, countOpeners name (inside ++ (closer other ++ rest)) = countOpeners name rest)
    (rest : Text) :
    countOpeners name (openingTag other (writeAttributes attributes) ++
      ((if Category.ofName other = .void then [] else inside ++ closer other) ++ rest)) =
        countOpeners name rest := by
  rw [countOpeners_openingTag tag (isOpening_writeAttributes word writable)
    (unopened_writeAttributes writable), different, if_neg Bool.false_ne_true, Nat.zero_add]
  split
  · rfl
  · rw [List.append_assoc, within rest]

end Counting

end TagQuery.Markup
