import TagQuery.Error
import TagQuery.Selector.Matching
import TagQuery.Selector.Parser

/-!
# Queries

A query reads a selector, extracts the elements of a document, and finds those that the selector
describes. A projection turns what was found into plain texts.
-/

namespace TagQuery

/-- Reads a selector for a caller. -/
def Selector.ofText (source : Text) : Except ContractError Selector :=
  (Selector.parse source).mapError fun fault => .badSelector source fault.message

/-- The elements of a document that a selector describes. -/
def query (mode : ExtractMode) (html selector : Text) : Except ContractError (List Element) := do
  let selector ← Selector.ofText selector
  return selector.find (Markup.extract mode html)

/-- What to take from an element. -/
inductive Projection where
  | innerText
  | attributeValue (name : Text)
deriving DecidableEq

namespace Projection

/-- The projection of a key: `value` stands for the inner text, anything else names an attribute. -/
def ofKey (key : Text) : Projection :=
  if key = "value".toList then .innerText else .attributeValue key

/-- The projection of an element; there is none for a missing attribute. -/
def apply (projection : Projection) (element : Element) : Option Text :=
  match projection with
  | .innerText => some element.innerText
  | .attributeValue name => element.attribute? name

end Projection

/-- The projections of some elements, one for each. -/
def project (key : Text) (elements : List Element) : List (Option Text) :=
  elements.map (Projection.ofKey key).apply

end TagQuery
