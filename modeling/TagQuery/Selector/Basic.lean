import TagQuery.Text.Blank
import TagQuery.Text.NameSet

/-!
# Selectors

A selector is a chain of links. A link says what an element has to be: its tag name, its `id`,
its classes, and a condition on one attribute, each of them optional. Every link but the last has
a child, which is looked for among the elements inside those that the link accepts.
-/

namespace TagQuery

/-- How a condition compares the value of an attribute with the expected text. -/
inductive MatchMode where
  /-- The value is the text. -/
  | equals
  /-- The value starts with the text. -/
  | startsWith
  /-- The value ends with the text. -/
  | endsWith
  /-- The text occurs in the value. -/
  | contains
  /-- The text is one of the words of the value. -/
  | listContains
  /-- The value is the text or starts with it. -/
  | exactOrStart
  /-- The value is not empty; the text does not matter. -/
  | present
deriving DecidableEq, Repr

namespace MatchMode

/-- What a selector writes between the name of an attribute and the expected text. -/
def sign : MatchMode → Text
  | .equals => "=".toList
  | .startsWith => "^=".toList
  | .endsWith => "$=".toList
  | .contains => "*=".toList
  | .listContains => "~=".toList
  | .exactOrStart => "|=".toList
  | .present => []

/-- The mode that a character in front of `=` stands for. -/
def ofMark? : Char → Option MatchMode
  | '^' => some .startsWith
  | '$' => some .endsWith
  | '*' => some .contains
  | '~' => some .listContains
  | '|' => some .exactOrStart
  | _ => none

end MatchMode

/-- A condition on one attribute. -/
structure Condition where
  /-- The name of the attribute, in any case. -/
  name : Text
  /-- The text to compare with; a condition without one compares with the empty text. -/
  expected : Option Text
  mode : MatchMode
deriving DecidableEq

/-- What one link of a chain asks of an element. -/
structure Link where
  /-- The tag name; any tag will do if there is none. -/
  tag : Option Text
  id : Option Text
  classes : NameSet
  condition : Option Condition
deriving DecidableEq

namespace Link

/-- The link that accepts every element. -/
def any : Link := ⟨none, none, ∅, none⟩

instance : Inhabited Link := ⟨any⟩

/-- Whether the link asks for more than a tag. -/
def hasQualifiers (link : Link) : Bool :=
  link.id.isSome || !link.classes.isEmpty || link.condition.isSome

end Link

/-- A chain of links, each but the last with its child. -/
inductive Selector where
  | last (link : Link)
  | parent (link : Link) (child : Selector)
deriving DecidableEq

namespace Selector

instance : Inhabited Selector := ⟨.last .any⟩

/-- The number of links. -/
def depth : Selector → Nat
  | .last _ => 1
  | .parent _ child => 1 + child.depth

/-- The links in order. -/
def links : Selector → List Link
  | .last link => [link]
  | .parent link child => link :: child.links

/-- The chain that goes on with another one after its last link. -/
def attach : Selector → Selector → Selector
  | .last link, child => .parent link child
  | .parent link inner, child => .parent link (inner.attach child)

end Selector

end TagQuery
