import TagQuery.Text.Basic

/-!
# Texts as bytes

The UTF-8 form of a text, and reading bytes back. Reading looks at one part of the bytes at a
time: a well-formed character, or the longest start of one that cannot be continued. A strict
reader refuses the second kind of part; a lenient one puts U+FFFD in its place.
-/

namespace TagQuery

/-- A sequence of bytes. -/
abbrev Bytes := List UInt8

namespace Text

/-- The UTF-8 form of a text. -/
def utf8 (text : Text) : Bytes := text.flatMap String.utf8EncodeChar

/-- The length of the UTF-8 form. -/
def utf8Length (text : Text) : Nat := (utf8 text).length

end Text

namespace Bytes

/-- For a first byte, the inclusive ranges of the bytes that have to follow it; none if no
character starts with it. Overlong forms, surrogates and values above U+10FFFF are kept out by
the range of the second byte. -/
def following? (first : UInt8) : Option (List (UInt8 × UInt8)) :=
  if first < 0x80 then some []
  else if first < 0xc2 then none
  else if first < 0xe0 then some [(0x80, 0xbf)]
  else if first = 0xe0 then some [(0xa0, 0xbf), (0x80, 0xbf)]
  else if first = 0xed then some [(0x80, 0x9f), (0x80, 0xbf)]
  else if first < 0xf0 then some [(0x80, 0xbf), (0x80, 0xbf)]
  else if first = 0xf0 then some [(0x90, 0xbf), (0x80, 0xbf), (0x80, 0xbf)]
  else if first < 0xf4 then some [(0x80, 0xbf), (0x80, 0xbf), (0x80, 0xbf)]
  else if first = 0xf4 then some [(0x80, 0x8f), (0x80, 0xbf), (0x80, 0xbf)]
  else none

/-- The bits that a first byte gives to its character. -/
def firstBits (first : UInt8) : Nat :=
  if first < 0x80 then first.toNat
  else if first < 0xe0 then first.toNat % 0x20
  else if first < 0xf0 then first.toNat % 0x10
  else first.toNat % 0x08

/-- Reads following bytes as long as they lie in their ranges. The character is there if all of
them do; the bytes are what is left after the last byte that was read. -/
def follow (value : Nat) : List (UInt8 × UInt8) → Bytes → Option Char × Bytes
  | [], rest => (some (Char.ofNat value), rest)
  | _ :: _, [] => (none, [])
  | (low, high) :: ranges, byte :: rest =>
    if low ≤ byte ∧ byte ≤ high then follow (value * 0x40 + byte.toNat % 0x40) ranges rest
    else (none, byte :: rest)

theorem follow_length_le (value : Nat) (ranges : List (UInt8 × UInt8)) (bytes : Bytes) :
    (follow value ranges bytes).2.length ≤ bytes.length := by
  induction ranges generalizing value bytes with
  | nil => simp [follow]
  | cons range ranges ih =>
    cases bytes with
    | nil => simp [follow]
    | cons byte rest =>
      unfold follow
      split
      · exact Nat.le_succ_of_le (ih _ rest)
      · exact Nat.le_refl _

/-- The first part of some bytes after the byte `first`: a character, or none where the bytes are
ill-formed, and what is left. -/
def part (first : UInt8) (rest : Bytes) : Option Char × Bytes :=
  match following? first with
  | none => (none, rest)
  | some ranges => follow (firstBits first) ranges rest

theorem part_length_le (first : UInt8) (rest : Bytes) :
    (part first rest).2.length ≤ rest.length := by
  unfold part
  split
  · exact Nat.le_refl _
  · exact follow_length_le ..

/-- The parts of some bytes in order, none for each that is ill-formed. -/
def parts : Bytes → List (Option Char)
  | [] => []
  | first :: rest => (part first rest).1 :: parts (part first rest).2
termination_by bytes => bytes.length
decreasing_by exact Nat.lt_succ_of_le (part_length_le first rest)

/-- The text of some bytes, if all of them are well formed. -/
def text? (bytes : Bytes) : Option Text := (parts bytes).mapM id

/-- The text of some bytes, with U+FFFD for each ill-formed part. -/
def textLossy (bytes : Bytes) : Text := (parts bytes).map (·.getD '\ufffd')

end Bytes

end TagQuery
