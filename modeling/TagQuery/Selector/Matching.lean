import TagQuery.Markup.Extraction
import TagQuery.Selector.Basic

/-!
# Matching

Which elements a link accepts, and which elements a chain finds. A chain keeps the elements that
its first link accepts; if it goes on, each of them gives way to what the rest of the chain finds
among the elements of its inner text. Nothing is looked for deeper than that.
-/

namespace TagQuery

/-- Whether a value compares with the expected text as the mode says. -/
def MatchMode.accepts (mode : MatchMode) (expected value : Text) : Bool :=
  match mode with
  | .equals => value == expected
  | .startsWith => Text.startsWith expected value
  | .endsWith => Text.endsWith expected value
  | .contains => Text.contains expected value
  | .listContains => (Text.words value).contains expected
  | .exactOrStart => value == expected || Text.startsWith expected value
  | .present => !value.isEmpty

/-- Whether an element has the attribute and its value is as expected. -/
def Condition.accepts (condition : Condition) (element : Element) : Bool :=
  match element.attribute? condition.name with
  | none => false
  | some value => condition.mode.accepts (condition.expected.getD []) value

/-- Whether the wanted classes fit the classes of an element. If there are as many of the one as
of the other they have to be the same; otherwise one that is shared is enough. -/
def classesFit (wanted present : NameSet) : Bool :=
  if wanted.isEmpty then true
  else if wanted.size = present.size then wanted.toList.all present.contains
  else wanted.toList.any present.contains

/-- Whether a link accepts an element. -/
def Link.accepts (link : Link) (element : Element) : Bool :=
  link.tag.all (Text.sameName · element.name) &&
    link.id.all (element.id? == some ·) &&
    classesFit link.classes element.classes &&
    link.condition.all (·.accepts element)

namespace Selector

/-- The first link of a chain. -/
def link : Selector → Link
  | .last link => link
  | .parent link _ => link

/-- Whether the first link of a chain accepts an element. -/
def accepts (selector : Selector) (element : Element) : Bool := selector.link.accepts element

/-- What a chain finds among some elements, in their order. -/
def find (elements : List Element) : Selector → List Element
  | .last link => elements.filter link.accepts
  | .parent link child =>
    (elements.filter link.accepts).flatMap fun element =>
      find (Markup.extractShallow element.innerText) child

end Selector

end TagQuery
