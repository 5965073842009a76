import TagQuery.Text.Utf8

/-!
# Percent-encoding

In a URL a byte may be written as `%` and two hexadecimal digits. Decoding leaves a `%` that two
digits do not follow as it is. Encoding writes every byte of a character so if the character is
beyond printable ASCII or in the set of the part of the URL where it stands.
-/

namespace TagQuery.Transport

/-- The value of a hexadecimal digit. -/
def hexValue? (c : Char) : Option Nat :=
  if c.isDigit then some (c.toNat - '0'.toNat)
  else if 'a' ≤ c ∧ c ≤ 'f' then some (c.toNat - 'a'.toNat + 10)
  else if 'A' ≤ c ∧ c ≤ 'F' then some (c.toNat - 'A'.toNat + 10)
  else none

/-- The bytes of a text, with what is percent-encoded in it decoded. -/
def percentDecode : Text → Bytes
  | [] => []
  | [c] => Text.utf8 [c]
  | [c, d] => Text.utf8 [c, d]
  | c :: high :: low :: rest =>
    match c, hexValue? high, hexValue? low with
    | '%', some h, some l => UInt8.ofNat (h * 16 + l) :: percentDecode rest
    | _, _, _ => Text.utf8 [c] ++ percentDecode (high :: low :: rest)
termination_by text => text.length

/-- A byte as `%` and two digits in upper case. -/
def percentByte (byte : UInt8) : Text :=
  let digit (n : Nat) : Char := Char.ofNat (if n < 10 then '0'.toNat + n else 'A'.toNat + n - 10)
  ['%', digit (byte.toNat / 16), digit (byte.toNat % 16)]

/-- The text with controls, characters beyond ASCII and the characters of a set encoded. -/
def percentEncode (set : Text) (text : Text) : Text :=
  text.flatMap fun c =>
    if c.toNat < 0x20 || 0x7f ≤ c.toNat || set.any (· == c) then
      (Text.utf8 [c]).flatMap percentByte
    else [c]

/-- The set of fragments. -/
def fragmentSet : Text := [' ', '"', '<', '>', '\x60']

/-- The set of paths. -/
def pathSet : Text := fragmentSet ++ ['#', '?', '\x7b', '\x7d']

/-- The set of user names and passwords. -/
def credentialSet : Text := pathSet ++ ['/', ':', ';', '=', '@', '[', '\\', ']', '^', '|']

/-- The set of queries in URLs of well-known schemes. -/
def querySet : Text := [' ', '"', '#', '<', '>', '\'']

end TagQuery.Transport
