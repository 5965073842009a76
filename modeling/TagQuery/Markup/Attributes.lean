import TagQuery.Text.Blank
import TagQuery.Text.Json

/-!
# Attributes

The attributes of an element in the order in which they were written. Names are looked up without
regard to ASCII case; a repeated name keeps its first place and spelling and its last value.

`Attributes.written` reads the attributes of an opening tag. A name is a run of word characters,
hyphens, colons and dots. It may stand alone, or be followed by `=` and a value between quotation
marks or up to the next white space. What is neither is skipped.
-/

namespace TagQuery

/-- An attribute with its value; the value of one that stands alone is empty. -/
structure Attribute where
  /-- The name as written. -/
  name : Text
  value : Text
deriving DecidableEq

/-- The attributes of an element, in the order of their first mention. -/
structure Attributes where
  toList : List Attribute
deriving DecidableEq

namespace Attributes

/-- No attributes. -/
def empty : Attributes := ⟨[]⟩

instance : EmptyCollection Attributes := ⟨empty⟩

instance : Inhabited Attributes := ⟨empty⟩

/-- The value of an attribute. -/
def get? (attributes : Attributes) (name : Text) : Option Text :=
  (attributes.toList.find? (Text.sameName ·.name name)).map Attribute.value

/-- Whether there is an attribute of the name. -/
def contains (attributes : Attributes) (name : Text) : Bool := (attributes.get? name).isSome

/-- The number of attributes. -/
def size (attributes : Attributes) : Nat := attributes.toList.length

/-- Whether there are no attributes. -/
def isEmpty (attributes : Attributes) : Bool := attributes.toList.isEmpty

/-- The list in which the first attribute of the name has the value, or which ends in a new one. -/
def insertInto (name value : Text) : List Attribute → List Attribute
  | [] => [⟨name, value⟩]
  | entry :: rest =>
    if Text.sameName entry.name name then ⟨entry.name, value⟩ :: rest
    else entry :: insertInto name value rest

/-- The attributes in which the name has the value. -/
def insert (attributes : Attributes) (name value : Text) : Attributes :=
  ⟨insertInto name value attributes.toList⟩

/-- The attributes of a list in which names may be repeated. -/
def ofList (list : List Attribute) : Attributes :=
  list.foldl (fun attributes entry => attributes.insert entry.name entry.value) empty

/-- The characters of attribute names. -/
def isNameChar (c : Char) : Bool := Text.isWord c || c == '-' || c == ':' || c == '.'

/-- Reads a value, and what is left after it. In a void tag a slash at the very end closes the
tag and belongs to no value. A quotation mark without its partner reaches to the end. -/
def readValue (void : Bool) : Text → Text × Text
  | [] => ([], [])
  | c :: rest =>
    if c = '"' ∨ c = '\'' then
      (rest.takeWhile (· != c), (rest.dropWhile (· != c)).drop 1)
    else
      let value := (c :: rest).takeWhile (!Text.isSpace ·)
      let after := (c :: rest).dropWhile (!Text.isSpace ·)
      if void && after.isEmpty && value.getLast? == some '/' then (value.dropLast, after)
      else (value, after)

theorem readValue_length_le (void : Bool) (text : Text) :
    (readValue void text).2.length ≤ text.length := by
  unfold readValue
  split
  · exact Nat.le_refl _
  · rename_i c rest
    dsimp only
    split
    · have shorter := (List.dropWhile_suffix (l := rest) (· != c)).length_le
      simp only [List.length_drop, List.length_cons]
      omega
    · split <;> exact (List.dropWhile_suffix _).length_le

/-- Reads what follows the name of an attribute: its value, which is empty if there is no `=`, and
what is left. -/
def readAssignment (void : Bool) (text : Text) : Text × Text :=
  match Text.skipSpace text with
  | '=' :: rest => readValue void (Text.skipSpace rest)
  | rest => ([], rest)

theorem readAssignment_length_le (void : Bool) (text : Text) :
    (readAssignment void text).2.length ≤ text.length := by
  have skipped := Text.skipSpace_length_le text
  unfold readAssignment
  split
  · rename_i rest found
    have read := readValue_length_le void (Text.skipSpace rest)
    have again := Text.skipSpace_length_le rest
    rw [found, List.length_cons] at skipped
    omega
  · exact skipped

/-- The attributes in the order in which they are written between the name of a tag and its `>`,
with blanks trimmed from the values; names may be repeated. -/
def written (void : Bool) : Text → List Attribute
  | [] => []
  | c :: rest =>
    if isNameChar c then
      let assigned := readAssignment void (rest.dropWhile isNameChar)
      ⟨c :: rest.takeWhile isNameChar, Text.trim assigned.1⟩ :: written void assigned.2
    else written void rest
termination_by text => text.length
decreasing_by
  · exact Nat.lt_succ_of_le
      (Nat.le_trans (readAssignment_length_le ..) (List.dropWhile_suffix _).length_le)
  · exact Nat.lt_succ_self _

/-- The attributes written between the name of a tag and its `>`. -/
def ofTag (void : Bool) (area : Text) : Attributes := ofList (written void area)

/-- The attributes as a JSON object. -/
def toJson (attributes : Attributes) : Json :=
  .object (attributes.toList.map fun entry => (entry.name, .string entry.value))

end Attributes

end TagQuery
