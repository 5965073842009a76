import TagQuery.Text.Basic

/-!
# Categories of tags

The name of a tag decides where the element that it opens ends. Void tags and wrappers end with
their opening tag, the first because they have no content and the second because only their
children are of interest. All other elements end with the closing tag that balances them, and the
nestable ones among them are searched for elements of their own name.
-/

namespace TagQuery

/-- How the end of an element is found. -/
inductive Category where
  /-- An element without content. -/
  | void
  /-- A container whose children are elements of their own. -/
  | wrapper
  /-- An element that may contain elements of its own name. -/
  | nestable
  /-- Every other element. -/
  | generic
deriving DecidableEq, Repr

namespace Category

/-- The names of the void tags. -/
def voidNames : List Text :=
  ["img", "meta", "link", "area", "base", "col", "embed", "hr", "input", "param", "source",
    "track", "wbr"].map String.toList

/-- The names of the wrappers. -/
def wrapperNames : List Text :=
  ["html", "head", "body", "section", "ul", "ol", "header", "footer", "nav", "aside", "main",
    "article"].map String.toList

/-- The names of the nestable tags. -/
def nestableNames : List Text := ["div", "span", "p", "button", "li"].map String.toList

/-- The category of a tag name, in any case; a name that is in no list is generic. -/
def ofName (name : Text) : Category :=
  if voidNames.any (Text.sameName · name) then .void
  else if wrapperNames.any (Text.sameName · name) then .wrapper
  else if nestableNames.any (Text.sameName · name) then .nestable
  else .generic

/-- Whether an element of the category runs to the closing tag that balances it. -/
def hasBody : Category → Bool
  | .void | .wrapper => false
  | .nestable | .generic => true

/-- The word for a category. -/
def word : Category → Text
  | .void => "void".toList
  | .wrapper => "wrapper".toList
  | .nestable => "nestable".toList
  | .generic => "generic".toList

end Category

end TagQuery
