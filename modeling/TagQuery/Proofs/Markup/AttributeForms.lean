import TagQuery.Proofs.Markup.Spelling
import TagQuery.Proofs.Selector.Readers

/-!
# Forms of attributes

An attribute is written by its name alone, or with `=` and a value. The value stands between quotation
marks of either kind, or by itself if there is no white space in it. White space comes before every
attribute, and there may be some on both sides of the `=`.

Reading takes each attribute to its end, whatever form it has and whatever attributes follow
(`written_flatMap_text`). The one exception is the slash at the end of a void tag, which closes the
tag and belongs to no value. An element that is built from a name, attributes in any of these forms, a
text and a closer has just these parts (`ofSlice?_of_parts`).
-/

namespace TagQuery.Markup

open Selector.Grammar (Space Word)

/-- The value of an attribute as it is written. A `>` would end the tag. -/
inductive WrittenValue where
  | quoted (mark : Char) (content : Text) (isMark : mark = '"' ∨ mark = '\'')
      (closed : mark ∉ content) (inside : '>' ∉ content)
  | bare (content : Text) (nonempty : content ≠ [])
      (unspaced : ∀ c ∈ content, Text.isSpace c = false)
      (unmarked : ∀ c ∈ content.head?, c ≠ '"' ∧ c ≠ '\'') (inside : '>' ∉ content)

namespace WrittenValue

def text : WrittenValue → Text
  | quoted mark content _ _ _ => mark :: (content ++ [mark])
  | bare content _ _ _ _ => content

/-- The value that is meant. -/
def content : WrittenValue → Text
  | quoted _ content _ _ _ => content
  | bare content _ _ _ _ => content

/-- Whether the value is not quoted and has a slash at its end. -/
def endsInSlash : WrittenValue → Bool
  | quoted .. => false
  | bare content _ _ _ _ => content.getLast? == some '/'

/-- A value starts with a quotation mark or with its own first character. -/
theorem head_text (value : WrittenValue) (rest : Text) :
    ∀ c ∈ (value.text ++ rest).head?, Text.isSpace c = false := by
  cases value with
  | quoted mark content isMark closed inside =>
    refine Text.stop_of_cons ?_ _
    rcases isMark with rfl | rfl <;> decide
  | bare content nonempty unspaced unmarked inside =>
    obtain ⟨c, more, rfl⟩ := List.exists_cons_of_ne_nil nonempty
    exact Text.stop_of_cons (unspaced c List.mem_cons_self) (more ++ rest)

end WrittenValue

/-- What gives an attribute its value. -/
structure Assignment where
  before : Space
  after : Space
  value : WrittenValue

def Assignment.text (assignment : Assignment) : Text :=
  assignment.before.text ++ '=' :: (assignment.after.text ++ assignment.value.text)

/-- An attribute as it is written, with the white space in front of it. -/
structure WrittenAttribute where
  gap : Word Text.isSpace
  name : Word Attributes.isNameChar
  assignment? : Option Assignment

namespace WrittenAttribute

def text (part : WrittenAttribute) : Text :=
  part.gap.text ++ (part.name.text ++ (part.assignment?.map Assignment.text).getD [])

/-- The attribute that is meant; it is empty if it is written by its name alone. -/
def entry (part : WrittenAttribute) : Attribute :=
  ⟨part.name.text,
    Text.trim ((part.assignment?.map fun assignment => assignment.value.content).getD [])⟩

/-- Whether the attribute has a value that is not quoted and ends in a slash. -/
def endsInSlash (part : WrittenAttribute) : Bool :=
  part.assignment?.any fun assignment => assignment.value.endsInSlash

end WrittenAttribute

/-! ## Reading -/

section Reading
variable {void : Bool} {after : Text}
  (parted : ∀ c ∈ after.head?, Text.isSpace c = true)

include parted

/-- A value is read to its end, in front of white space or the end of the tag. -/
theorem readValue_text (value : WrittenValue)
    (kept : void = true → after = [] → value.endsInSlash = false) :
    Attributes.readValue void (value.text ++ after) = (value.content, after) := by
  cases value with
  | quoted mark content isMark closed inside =>
    rw [WrittenValue.text, List.cons_append, List.append_assoc, List.singleton_append,
      Attributes.readValue_of_mark void isMark closed after, WrittenValue.content]
  | bare content nonempty unspaced unmarked inside =>
    obtain ⟨c, more, rfl⟩ := List.exists_cons_of_ne_nil nonempty
    have run : ∀ d ∈ c :: more, (!Text.isSpace d) = true := fun d member => by
      rw [unspaced d member]
      rfl
    have stop : ∀ d ∈ after.head?, (!Text.isSpace d) = false := fun d first => by
      rw [parted d first]
      rfl
    have whole := Text.takeWhile_run run stop
    have left := Text.dropWhile_run run stop
    obtain ⟨double, single⟩ := unmarked c rfl
    rw [List.cons_append] at whole left
    rw [WrittenValue.text, List.cons_append, Attributes.readValue, if_neg (by simp [double, single]),
      whole, left]
    dsimp only
    rw [if_neg]
    · rfl
    · simp only [Bool.and_eq_true, List.isEmpty_iff, not_and]
      rintro ⟨rfl, rfl⟩
      simpa [WrittenValue.endsInSlash] using kept rfl rfl

theorem readAssignment_text (assignment : Assignment)
    (kept : void = true → after = [] → assignment.value.endsInSlash = false) :
    Attributes.readAssignment void (assignment.text ++ after) =
      (assignment.value.content, after) := by
  have equals : Text.skipSpace (assignment.text ++ after) =
      '=' :: (assignment.after.text ++ (assignment.value.text ++ after)) := by
    rw [Assignment.text, List.append_assoc, List.cons_append, List.append_assoc]
    exact assignment.before.skip _ (Text.stop_of_cons (by decide) _)
  have value : Text.skipSpace (assignment.after.text ++ (assignment.value.text ++ after)) =
      assignment.value.text ++ after :=
    assignment.after.skip _ (assignment.value.head_text after)
  rw [Attributes.readAssignment_of_equals void equals, value, readValue_text parted _ kept]

end Reading

theorem written_skipSpace (void : Bool) (text : Text) :
    Attributes.written void (Text.skipSpace text) = Attributes.written void text := by
  obtain ⟨space, whole, _⟩ := Selector.Grammar.exists_space text
  conv_rhs => rw [whole, Spells.written_space void space.blank]

/-- One attribute is read, and then what comes after it. -/
theorem written_text_append {void : Bool} (part : WrittenAttribute) {after : Text}
    (parted : ∀ c ∈ after.head?, Text.isSpace c = true)
    (unassigned : (Text.skipSpace after).head?.any (· == '=') = false)
    (kept : void = true → after = [] → part.endsInSlash = false) :
    Attributes.written void (part.text ++ after) =
      part.entry :: Attributes.written void after := by
  obtain ⟨gap, name, assignment?⟩ := part
  have reads {behind : Text} (ends : ∀ c ∈ behind.head?, Attributes.isNameChar c = false) :
      Attributes.written void (gap.text ++ (name.text ++ behind)) =
        ⟨name.text, Text.trim (Attributes.readAssignment void behind).1⟩ ::
          Attributes.written void (Attributes.readAssignment void behind).2 := by
    rw [Spells.written_space void gap.inside, written_of_name void name.nonempty name.inside ends]
  cases assignment? with
  | none =>
    have ends : ∀ c ∈ after.head?, Attributes.isNameChar c = false := fun c first =>
      isNameChar_of_isSpace (parted c first)
    have whole : WrittenAttribute.text ⟨gap, name, none⟩ ++ after =
        gap.text ++ (name.text ++ after) := by simp [WrittenAttribute.text]
    rw [whole, reads ends, Attributes.readAssignment_of_other void unassigned, written_skipSpace]
    rfl
  | some assignment =>
    have ends : ∀ c ∈ (assignment.text ++ after).head?, Attributes.isNameChar c = false := by
      rw [Assignment.text, List.append_assoc]
      exact assignment.before.head_append (fun _ => isNameChar_of_isSpace)
        (Text.stop_of_cons (by decide) _)
    have whole : WrittenAttribute.text ⟨gap, name, some assignment⟩ ++ after =
        gap.text ++ (name.text ++ (assignment.text ++ after)) := by simp [WrittenAttribute.text]
    rw [whole, reads ends, readAssignment_text parted assignment kept]
    rfl

/-- Behind an attribute comes white space and then no `=`, whether or not another one follows. -/
theorem head_flatMap_text (parts : List WrittenAttribute) :
    (∀ c ∈ (parts.flatMap WrittenAttribute.text).head?, Text.isSpace c = true) ∧
      (Text.skipSpace (parts.flatMap WrittenAttribute.text)).head?.any (· == '=') = false := by
  cases parts with
  | nil => exact ⟨nofun, rfl⟩
  | cons part rest =>
    obtain ⟨space, blank, gap, spaced⟩ := part.gap.exists_first
    obtain ⟨first, more, name, named⟩ := part.name.exists_first
    have unspaced : Text.isSpace first = false := by
      by_contra space
      rw [isNameChar_of_isSpace (by simpa using space)] at named
      cases named
    have whole : (part :: rest).flatMap WrittenAttribute.text = part.gap.text ++
        first :: (more ++ ((part.assignment?.map Assignment.text).getD [] ++
          rest.flatMap WrittenAttribute.text)) := by
      simp [WrittenAttribute.text, name]
    rw [whole]
    constructor
    · rw [gap]
      intro c same
      obtain rfl := Option.some.inj same
      exact spaced
    · rw [Text.skipSpace, Text.dropWhile_run part.gap.inside (Text.stop_of_cons unspaced _)]
      refine beq_eq_false_iff_ne.mpr ?_
      rintro rfl
      cases named

/-- Attributes are read in whatever form they are written. -/
theorem written_flatMap_text (void : Bool) (parts : List WrittenAttribute)
    (kept : void = true → ∀ last ∈ parts.getLast?, last.endsInSlash = false) :
    Attributes.written void (parts.flatMap WrittenAttribute.text) =
      parts.map WrittenAttribute.entry := by
  induction parts with
  | nil => exact Attributes.written_nil void
  | cons part rest ih =>
    obtain ⟨parted, unassigned⟩ := head_flatMap_text rest
    have alone (closes : void = true) (ended : rest.flatMap WrittenAttribute.text = []) :
        part.endsInSlash = false := by
      cases rest with
      | nil => exact kept closes part rfl
      | cons next more => simp [WrittenAttribute.text, next.gap.nonempty] at ended
    have later (closes : void = true) : ∀ last ∈ rest.getLast?, last.endsInSlash = false := by
      intro last same
      exact kept closes last (by rw [List.getLast?_cons, Option.mem_def.mp same]; rfl)
    rw [List.flatMap_cons, written_text_append part parted unassigned alone, ih later]
    rfl

/-! ## Elements -/

theorem WrittenAttribute.notMem_text (part : WrittenAttribute) : '>' ∉ part.text := by
  have blank (space : Space) : '>' ∉ space.text := fun present =>
    absurd (space.blank _ present) (by decide)
  have value (value : WrittenValue) : '>' ∉ value.text := by
    cases value with
    | quoted mark content isMark closed inside =>
      have other : '>' ≠ mark := by rcases isMark with rfl | rfl <;> decide
      simp [WrittenValue.text, other, inside]
    | bare content nonempty unspaced unmarked inside => exact inside
  have gap : '>' ∉ part.gap.text := fun present =>
    absurd (part.gap.inside _ present) (by decide)
  have name : '>' ∉ part.name.text := fun present =>
    absurd (part.name.inside _ present) (by decide)
  rw [text]
  cases part.assignment? with
  | none => simp [gap, name]
  | some assignment =>
    simp [Assignment.text, gap, name, blank assignment.before, blank assignment.after,
      value assignment.value]

theorem isOpening_flatMap_text {name : Text} (tag : IsTagName name)
    (parts : List WrittenAttribute) : IsOpening name (parts.flatMap WrittenAttribute.text) where
  toIsTagName := tag
  ends c first := Text.eq_false_of_isSpace (by decide) ((head_flatMap_text parts).1 c first)
  plain present := by
    obtain ⟨part, _, inside⟩ := List.mem_flatMap.mp present
    exact part.notMem_text inside

/-- An element that is built from a name, attributes, a text and a closer has these parts, and the
closers that its text lacks are added. In a void tag the last value must not take the slash that
closes the tag. -/
theorem ofSlice?_of_parts {name : Text} (tag : IsTagName name) (parts : List WrittenAttribute)
    (kept : Category.ofName name = .void → ∀ last ∈ parts.getLast?, last.endsInSlash = false)
    (inside : Text) :
    Element.ofSlice? (openingTag name (parts.flatMap WrittenAttribute.text) ++
        (inside ++ closer name)) =
      some ⟨name, Attributes.ofList (parts.map WrittenAttribute.entry),
        inside ++ (List.replicate (countOpeners name inside - countClosers name inside)
          (closer name)).flatten⟩ := by
  have attributes : attributesOf name (parts.flatMap WrittenAttribute.text) =
      Attributes.ofList (parts.map WrittenAttribute.entry) := by
    rw [attributesOf, Attributes.ofTag, written_flatMap_text]
    exact fun void => kept (by simpa using void)
  rw [(isOpening_flatMap_text tag parts).ofSlice?_openingTag, attributes,
    beforeLast?_closer tag (Text.sameName_refl name)]
  rfl

/-- Attributes in all forms, one of them repeated, and a text that leaves an opener open. -/
theorem ofSlice?_of_parts_image :
    let name := "img".toList
    let gap : Word Text.isSpace := ⟨" ".toList, by decide, by decide⟩
    let nothing : Space := ⟨[], nofun⟩
    let around : Space := ⟨"\n".toList, by decide⟩
    let parts : List WrittenAttribute := [
      ⟨gap, ⟨"hidden".toList, by decide, by decide⟩, none⟩,
      ⟨gap, ⟨"ID".toList, by decide, by decide⟩, some ⟨around, around,
        .quoted '\'' " \"x\" ".toList (by decide) (by decide) (by decide)⟩⟩,
      ⟨gap, ⟨"id".toList, by decide, by decide⟩, some ⟨nothing, nothing,
        .quoted '"' "</".toList (by decide) (by decide) (by decide)⟩⟩,
      ⟨gap, ⟨"src".toList, by decide, by decide⟩, some ⟨nothing, nothing,
        .bare "=/a='b".toList (by decide) (by decide) (by decide) (by decide)⟩⟩]
    let inside := "t<IMG >".toList
    openingTag name (parts.flatMap WrittenAttribute.text) ++ (inside ++ closer name) =
        "<img hidden ID\n=\n' \"x\" ' id=\"</\" src==/a='b>t<IMG ></img>".toList ∧
      IsTagName name ∧ Category.ofName name = .void ∧
      (∀ last ∈ parts.getLast?, last.endsInSlash = false) ∧
      Element.ofSlice? (openingTag name (parts.flatMap WrittenAttribute.text) ++
          (inside ++ closer name)) =
        some ⟨name, ⟨[⟨"hidden".toList, []⟩, ⟨"ID".toList, "</".toList⟩,
          ⟨"src".toList, "=/a='b".toList⟩]⟩, "t<IMG ></img>".toList⟩ := by
  intro name gap nothing around parts inside
  have tag : IsTagName name := by decide
  have kept : ∀ last ∈ parts.getLast?, last.endsInSlash = false := by decide
  refine ⟨by decide, tag, by decide, kept, ?_⟩
  rw [ofSlice?_of_parts tag parts (fun _ => kept) inside]
  decide

end TagQuery.Markup
