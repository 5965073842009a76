import TagQuery.Text.Printable

/-!
# Quoted texts

How a text or a single character is shown inside a message, and how a selector writes a value:
between quotation marks, with escapes for the mark itself, for the backslash, and for every
character that does not stand for itself.
-/

namespace TagQuery.Text

/-- The digits of a code point in base sixteen, in lower case and without padding. -/
def hexDigits (n : Nat) : Text := Nat.toDigits 16 n

/-- One character between quotation marks of the given kind. -/
def escapeChar (mark c : Char) : Text :=
  if c = mark ∨ c = '\\' then ['\\', c]
  else if c = '\x00' then ['\\', '0']
  else if c = '\t' then ['\\', 't']
  else if c = '\n' then ['\\', 'n']
  else if c = '\r' then ['\\', 'r']
  else if isShown c then [c]
  else '\\' :: 'u' :: '\x7b' :: (hexDigits c.toNat ++ ['\x7d'])

/-- A text between double quotation marks. -/
def quoted (text : Text) : Text := '"' :: (text.flatMap (escapeChar '"') ++ ['"'])

/-- A character between single quotation marks. -/
def quotedChar (c : Char) : Text := '\'' :: (escapeChar '\'' c ++ ['\''])

end TagQuery.Text
