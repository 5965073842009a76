import TagQuery.Selector.Parser

/-!
# The grammar of selectors

A selector as it is written, token by token, with the white space in between. A `Chain` knows its
text and, apart from that, the selector that it stands for: among repeated qualifiers of a link the
last `id` and the last condition count, the classes are collected, and a value that is not quoted
is trimmed (`WrittenLink.link`, `Value.expected`).

Nothing here refers to how selectors are read, except that the characters of names are the same.
-/

namespace TagQuery.Selector

namespace Qualifier

def identifier? : Qualifier → Option Text
  | .identifier name => some name
  | .className _ | .bracket _ => none

def className? : Qualifier → Option Text
  | .className name => some name
  | .identifier _ | .bracket _ => none

def condition? : Qualifier → Option Condition
  | .bracket condition => some condition
  | .identifier _ | .className _ => none

end Qualifier

namespace Grammar

/-- White space between two tokens; there may be none. -/
structure Space where
  text : Text
  blank : ∀ c ∈ text, Text.isSpace c = true

/-- One or more characters of a class. -/
structure Word (p : Char → Bool) where
  text : Text
  nonempty : text ≠ []
  inside : ∀ c ∈ text, p c = true

/-- A tag name: an identifier that starts with an ASCII letter. -/
structure TagName extends Word isIdentChar where
  letter : ∀ c ∈ text.head?, c.isAlpha = true

/-- What a link starts with. -/
inductive Start where
  | omitted
  | star
  | tag (name : TagName)

namespace Start

def text : Start → Text
  | omitted => []
  | star => ['*']
  | tag name => name.text

def tag? : Start → Option Text
  | omitted | star => none
  | tag name => some name.text

end Start

/-- The value of a condition. -/
inductive Value where
  | quoted (mark : Char) (content : Text) (isMark : mark = '"' ∨ mark = '\'')
      (closed : mark ∉ content)
  | bare (content : Text) (closed : ']' ∉ content)
      (unmarked : ∀ c ∈ content.head?, c ≠ '"' ∧ c ≠ '\'') (inhabited : Text.trim content ≠ [])

namespace Value

def text : Value → Text
  | quoted mark content _ _ => mark :: (content ++ [mark])
  | bare content _ _ _ => content

/-- The text to compare with. -/
def expected : Value → Text
  | quoted _ content _ _ => content
  | bare content _ _ _ => Text.trim content

/-- Whether a value that is not quoted is free of quotation marks. -/
def Plain : Value → Prop
  | quoted .. => True
  | bare content _ _ _ => '"' ∉ content ∧ '\'' ∉ content

end Value

/-- The sign of a mode and a value. -/
structure Comparison where
  mode : MatchMode
  signed : mode ≠ .present
  before : Space
  value : Value
  after : Space

def Comparison.text (comparison : Comparison) : Text :=
  comparison.mode.sign ++
    (comparison.before.text ++ (comparison.value.text ++ comparison.after.text))

/-- The condition of an attribute with a comparison. Only a comparison has an expected text. -/
def conditionOf (name : Text) (comparison : Option Comparison) : Condition where
  name
  expected := comparison.map fun comparison => comparison.value.expected
  mode := (comparison.map Comparison.mode).getD .present

theorem expected_eq_none_iff {name : Text} {comparison : Option Comparison} :
    (conditionOf name comparison).expected = none ↔
      (conditionOf name comparison).mode = .present := by
  cases comparison with
  | none => simp [conditionOf]
  | some comparison => simp [conditionOf, comparison.signed]

/-- What stands between the brackets of a condition. -/
structure Bracket where
  before : Space
  name : Word isNameChar
  after : Space
  comparison : Option Comparison

namespace Bracket

/-- The text from after the opening bracket to the closing one. -/
def text (bracket : Bracket) : Text :=
  bracket.before.text ++ (bracket.name.text ++ (bracket.after.text ++
    ((bracket.comparison.map Comparison.text).getD [] ++ [']'])))

def condition (bracket : Bracket) : Condition := conditionOf bracket.name.text bracket.comparison

def Plain (bracket : Bracket) : Prop :=
  ∀ comparison ∈ bracket.comparison, comparison.value.Plain

end Bracket

/-- A qualifier. -/
inductive Part where
  | identifier (space : Space) (name : Word isIdentChar)
  | className (space : Space) (name : Word isIdentChar)
  | bracket (inside : Bracket)

namespace Part

def text : Part → Text
  | identifier space name => '#' :: (space.text ++ name.text)
  | className space name => '.' :: (space.text ++ name.text)
  | bracket inside => '[' :: inside.text

def qualifier : Part → Qualifier
  | identifier _ name => .identifier name.text
  | className _ name => .className name.text
  | bracket inside => .bracket inside.condition

def Plain : Part → Prop
  | identifier .. | className .. => True
  | bracket inside => inside.Plain

end Part

/-- The text of qualifiers, each with the white space in front of it. -/
def partsText (parts : List (Space × Part)) : Text :=
  parts.flatMap fun (space, part) => space.text ++ part.text

/-- A link: a start and qualifiers, not both missing. -/
structure WrittenLink where
  before : Space
  start : Start
  parts : List (Space × Part)
  after : Space
  inhabited : start = .omitted → parts ≠ []

namespace WrittenLink

def text (link : WrittenLink) : Text :=
  link.before.text ++ (link.start.text ++ (partsText link.parts ++ link.after.text))

def qualifiers (link : WrittenLink) : List Qualifier := link.parts.map fun (_, part) => part.qualifier

/-- What a link asks for: its last `id`, all its classes, and its last condition. -/
def link (link : WrittenLink) : Link where
  tag := link.start.tag?
  id := (link.qualifiers.filterMap Qualifier.identifier?).getLast?
  classes := NameSet.ofList (link.qualifiers.filterMap Qualifier.className?)
  condition := (link.qualifiers.filterMap Qualifier.condition?).getLast?

def Plain (link : WrittenLink) : Prop := ∀ part ∈ link.parts, part.2.Plain

end WrittenLink

/-- Links with `>` between them. -/
inductive Chain where
  | last (link : WrittenLink)
  | parent (link : WrittenLink) (child : Chain)

namespace Chain

def text : Chain → Text
  | last link => link.text
  | parent link child => link.text ++ '>' :: child.text

/-- The selector of a chain: each link with the rest of the chain as its child. -/
def selector : Chain → Selector
  | last link => .last link.link
  | parent link child => .parent link.link child.selector

/-- Whether no value that is not quoted contains a quotation mark. -/
def Plain : Chain → Prop
  | last link => link.Plain
  | parent link child => link.Plain ∧ child.Plain

end Chain

end Grammar

end TagQuery.Selector
