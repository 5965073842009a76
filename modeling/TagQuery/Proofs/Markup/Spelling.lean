import TagQuery.Proofs.Markup.AttributeReading
import TagQuery.Proofs.Markup.Reading

/-!
# Spelled attributes

Between the name of a tag and its `>` attributes may be spelled in many ways: any amount and any kind
of white space stands in front of each of them and at the end (`Spells`). Whatever it is, the
attributes are read back as they were meant, with trimmed values (`Spells.attributesOf_eq`).
-/

namespace TagQuery.Markup

/-- An attribute with the blanks trimmed from its value. -/
def trimValue (entry : Attribute) : Attribute := ⟨entry.name, Text.trim entry.value⟩

/-- An attribute that can be written between quotation marks. -/
structure IsQuotable (entry : Attribute) : Prop where
  nonempty : entry.name ≠ []
  named : ∀ c ∈ entry.name, Attributes.isNameChar c = true
  unquoted : '"' ∉ entry.value
  unopened : '<' ∉ entry.value
  unclosed : '>' ∉ entry.value

/-- What may be written for attributes: each of them with white space in front, and white space at
the end. The white space may be missing behind a quotation mark. -/
inductive Spells : List Attribute → Text → Prop
  | nil {gap : Text} (blank : ∀ c ∈ gap, Text.isSpace c = true) : Spells [] gap
  | cons {gap area : Text} {entry : Attribute} {rest : List Attribute}
      (blank : ∀ c ∈ gap, Text.isSpace c = true) (quotable : IsQuotable entry)
      (later : Spells rest area) :
      Spells (entry :: rest) (gap ++ (entry.name ++ '=' :: '"' :: (entry.value ++ '"' :: area)))

theorem isNameChar_of_isSpace {c : Char} (space : Text.isSpace c = true) :
    Attributes.isNameChar c = false := Text.eq_false_of_isSpace (by decide) space

theorem written_of_name (void : Bool) {name rest : Text} (nonempty : name ≠ [])
    (named : ∀ c ∈ name, Attributes.isNameChar c = true)
    (ends : ∀ c ∈ rest.head?, Attributes.isNameChar c = false) :
    Attributes.written void (name ++ rest) =
      ⟨name, Text.trim (Attributes.readAssignment void rest).1⟩ ::
        Attributes.written void (Attributes.readAssignment void rest).2 := by
  obtain ⟨c, inner, rfl⟩ := List.exists_cons_of_ne_nil nonempty
  have later : ∀ d ∈ inner, Attributes.isNameChar d = true := fun d member =>
    named d (List.mem_cons_of_mem _ member)
  rw [List.cons_append, Attributes.written_cons void (named c List.mem_cons_self),
    Text.takeWhile_run later ends, Text.dropWhile_run later ends]

theorem readAssignment_quoted (void : Bool) {value : Text} (rest : Text) (unquoted : '"' ∉ value) :
    Attributes.readAssignment void ('=' :: '"' :: (value ++ '"' :: rest)) = (value, rest) := by
  rw [Attributes.readAssignment_of_equals void rfl]
  exact Attributes.readValue_of_mark void (.inl rfl) unquoted rest

namespace Spells
variable {attributes : List Attribute} {area : Text}

theorem notMem (spells : Spells attributes area) {c : Char} (mark : c ≠ '=' ∧ c ≠ '"')
    (space : Text.isSpace c = false) (unnamed : Attributes.isNameChar c = false)
    (absent : ∀ entry, IsQuotable entry → c ∉ entry.value) : c ∉ area := by
  induction spells with
  | nil blank => exact fun present => by simp [blank c present] at space
  | @cons gap area entry rest blank quotable _ ih =>
    have outside : c ∉ gap := fun present => by simp [blank c present] at space
    have other : c ∉ entry.name := fun present => by simp [quotable.named c present] at unnamed
    simp [outside, other, mark, absent entry quotable, ih]

/-- An area ends in white space or a quotation mark. -/
theorem last (spells : Spells attributes area) :
    ∀ c ∈ area.getLast?, Text.isSpace c = true ∨ c = '"' := by
  induction spells with
  | nil blank => exact fun c member => .inl (blank c (List.mem_of_getLast? member))
  | @cons gap area entry _ _ _ _ ih =>
    intro c member
    have whole : gap ++ (entry.name ++ '=' :: '"' :: (entry.value ++ '"' :: area)) =
        gap ++ entry.name ++ ['=', '"'] ++ entry.value ++ '"' :: area := by simp
    rw [whole, List.getLast?_append, List.getLast?_cons] at member
    cases found : area.getLast? with
    | none =>
      rw [found] at member
      exact .inr (Option.some.inj member).symm
    | some d =>
      rw [found] at member
      obtain rfl := Option.some.inj member
      exact ih d found

/-- White space is passed over, whatever attributes come after it. -/
theorem written_space (void : Bool) {gap : Text} (blank : ∀ c ∈ gap, Text.isSpace c = true)
    (rest : Text) : Attributes.written void (gap ++ rest) = Attributes.written void rest := by
  induction gap with
  | nil => rfl
  | cons c gap ih =>
    obtain ⟨space, later⟩ := List.forall_mem_cons.mp blank
    rw [List.cons_append, Attributes.written_of_skipped void (isNameChar_of_isSpace space),
      ih later]

/-- Attributes are read as they are spelled, with trimmed values. -/
theorem written_eq (spells : Spells attributes area) (void : Bool) :
    Attributes.written void area = attributes.map trimValue := by
  induction spells with
  | nil blank =>
    have skipped := written_space void blank []
    rwa [List.append_nil, Attributes.written_nil] at skipped
  | @cons gap area entry rest blank quotable _ ih =>
    have ends : ∀ c ∈ ('=' :: '"' :: (entry.value ++ '"' :: area)).head?,
        Attributes.isNameChar c = false := Text.stop_of_cons (by decide) _
    rw [written_space void blank, written_of_name void quotable.nonempty quotable.named ends,
      readAssignment_quoted void area quotable.unquoted, ih]
    rfl

theorem attributesOf_eq (spells : Spells attributes area) (name : Text) :
    attributesOf name area = Attributes.ofList (attributes.map trimValue) := by
  rw [attributesOf, Attributes.ofTag, spells.written_eq]

end Spells

end TagQuery.Markup
