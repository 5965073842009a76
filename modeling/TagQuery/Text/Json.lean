import TagQuery.Text.Quoted

/-!
# JSON documents

The JSON values that results are written as, and their two written forms: compact, without any
white space, and indented by two spaces a level. Objects keep the order of their fields. A string
escapes the quotation mark, the backslash and the characters below U+0020, and nothing else.
-/

namespace TagQuery

/-- A JSON value without numbers and truth values, which no result holds. -/
inductive Json where
  | null
  | string (text : Text)
  | array (items : List Json)
  | object (fields : List (Text × Json))

namespace Json

/-- One character inside a JSON string. -/
def escapeChar (c : Char) : Text :=
  if c = '"' ∨ c = '\\' then ['\\', c]
  else if c = '\x08' then ['\\', 'b']
  else if c = '\x0c' then ['\\', 'f']
  else if c = '\n' then ['\\', 'n']
  else if c = '\r' then ['\\', 'r']
  else if c = '\t' then ['\\', 't']
  else if c.toNat < 0x10 then ['\\', 'u', '0', '0', '0'] ++ Text.hexDigits c.toNat
  else if c.toNat < 0x20 then ['\\', 'u', '0', '0'] ++ Text.hexDigits c.toNat
  else [c]

/-- A JSON string. -/
def stringText (text : Text) : Text := '"' :: (text.flatMap escapeChar ++ ['"'])

mutual

/-- The value without white space. -/
def compact : Json → Text
  | .null => ['n', 'u', 'l', 'l']
  | .string text => stringText text
  | .array items => '[' :: (compactItems items ++ [']'])
  | .object fields => '\x7b' :: (compactFields fields ++ ['\x7d'])

/-- The items of an array, separated by commas. -/
def compactItems : List Json → Text
  | [] => []
  | [item] => item.compact
  | item :: next :: rest => item.compact ++ ',' :: compactItems (next :: rest)

/-- The fields of an object, separated by commas. -/
def compactFields : List (Text × Json) → Text
  | [] => []
  | [(name, value)] => stringText name ++ ':' :: value.compact
  | (name, value) :: next :: rest =>
    stringText name ++ ':' :: (value.compact ++ ',' :: compactFields (next :: rest))

end

/-- The start of a line at a level of nesting. -/
def newLine (level : Nat) : Text := '\n' :: List.replicate (2 * level) ' '

mutual

/-- The value with each item and field on a line of its own; `level` is the nesting of the line
on which the value starts. Empty arrays and objects stay on that line. -/
def indented (level : Nat) : Json → Text
  | .null => ['n', 'u', 'l', 'l']
  | .string text => stringText text
  | .array [] => ['[', ']']
  | .array (item :: rest) =>
    '[' :: (indentedItems (level + 1) (item :: rest) ++ newLine level ++ [']'])
  | .object [] => ['\x7b', '\x7d']
  | .object (field :: rest) =>
    '\x7b' :: (indentedFields (level + 1) (field :: rest) ++ newLine level ++ ['\x7d'])

/-- The items of an array, each after the start of its line. -/
def indentedItems (level : Nat) : List Json → Text
  | [] => []
  | [item] => newLine level ++ item.indented level
  | item :: next :: rest =>
    newLine level ++ item.indented level ++ ',' :: indentedItems level (next :: rest)

/-- The fields of an object, each after the start of its line. -/
def indentedFields (level : Nat) : List (Text × Json) → Text
  | [] => []
  | [(name, value)] => newLine level ++ stringText name ++ ':' :: ' ' :: value.indented level
  | (name, value) :: next :: rest =>
    newLine level ++ stringText name ++ ':' :: ' ' ::
      (value.indented level ++ ',' :: indentedFields level (next :: rest))

end

/-- The value written over several lines. -/
def pretty (value : Json) : Text := value.indented 0

end Json

end TagQuery
