import TagQuery.Markup.Attributes
import TagQuery.Markup.Slice
import TagQuery.Text.NameSet

/-!
# Elements

An element is what a slice says: the name and the attributes of its opening tag, and the markup
between that tag and the last closing tag. The inner text may hold further elements, which can be
extracted from it in turn.
-/

namespace TagQuery

/-- One element of a document. -/
structure Element where
  /-- The tag name as written. -/
  name : Text
  attributes : Attributes
  /-- The markup between the opening and the last closing tag. -/
  innerText : Text
deriving DecidableEq

namespace Element

/-- The element of a slice. Any text can be read; there is no element only if no word character
follows the first `<`. An element that does not end in a closing tag is empty, and openers of its
own name that are left open inside it are closed. -/
def ofSlice? (slice : Text) : Option Element :=
  let rest := (slice.dropWhile (· != '<')).drop 1
  let name := rest.takeWhile Text.isWord
  if name.isEmpty then none
  else
    let tail := rest.drop name.length
    let area := tail.takeWhile (· != '>')
    let inside := (tail.dropWhile (· != '>')).drop 1
    let innerText := (Text.beforeLast? ['<', '/'] inside).getD []
    some ⟨name, Attributes.ofTag (Category.ofName name == .void) area,
      Markup.closeUnmatched name innerText⟩

/-- The value of an attribute. -/
def attribute? (element : Element) (name : Text) : Option Text := element.attributes.get? name

/-- The `id` attribute. -/
def id? (element : Element) : Option Text := element.attribute? "id".toList

/-- The words of the `class` attribute. -/
def classes (element : Element) : NameSet :=
  NameSet.ofList (Text.words ((element.attribute? "class".toList).getD []))

/-- The element as a JSON object. -/
def toJson (element : Element) : Json :=
  .object [("name".toList, .string element.name), ("attributes".toList, element.attributes.toJson),
    ("innerText".toList, .string element.innerText)]

end Element

/-- The slice as a JSON object. -/
def Slice.toJson (slice : Slice) : Json :=
  .object [("text".toList, .string slice.text), ("name".toList, .string slice.name),
    ("category".toList, .string slice.category.word), ("origin".toList, .string slice.origin.word)]

end TagQuery
