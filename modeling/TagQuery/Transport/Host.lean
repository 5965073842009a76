import TagQuery.Transport.DomainName
import TagQuery.Transport.Percent

/-!
# Hosts

The host of a URL is a name, an IPv4 address or an IPv6 address. Where the scheme is well known,
a name is percent-decoded and in lower case, and a name whose last label is a number has to be an
IPv4 address, in any of the forms in which these have been written: one to four numbers, each in
base eight, ten or sixteen, the last of which fills all bytes that remain. Elsewhere a name stays
as it is written. An IPv6 address is written in brackets, its longest run of zeros shortened.

Names are taken in their ASCII form; those that are written beyond ASCII are not resolved.
-/

namespace TagQuery.Transport

/-- The host of a URL. -/
inductive Host where
  | name (text : Text)
  /-- An IPv4 address as a number of 32 bits. -/
  | ipv4 (address : Nat)
  /-- An IPv6 address as eight numbers of 16 bits. -/
  | ipv6 (pieces : List Nat)
deriving DecidableEq

/-- The number that some digits write in a base, which is at most sixteen. -/
def digitsValue? (base : Nat) (digits : Text) : Option Nat :=
  digits.foldlM (fun value c => do
    let digit ← hexValue? c
    if digit < base then some (value * base + digit) else none) 0

/-- The number that one part of an IPv4 address writes. A leading zero means base eight, a leading
`0x` base sixteen, and a prefix alone means zero. -/
def ipv4Number? (part : Text) : Option Nat :=
  match part with
  | [] => none
  | '0' :: 'x' :: digits | '0' :: 'X' :: digits => digitsValue? 16 digits
  | '0' :: d :: digits => digitsValue? 8 (d :: digits)
  | digits => digitsValue? 10 digits

/-- The labels of a name without the empty one after a final dot. -/
def properLabels (name : Text) : List Text :=
  let all := DomainName.labels name
  if all.getLast? = some [] then all.dropLast else all

/-- Whether the last label of a name is a number. A lone dot has no last label. -/
def endsInNumber (name : Text) : Bool :=
  match (properLabels name).getLast? with
  | none => false
  | some label => (!label.isEmpty && label.all Char.isDigit) || (ipv4Number? label).isSome

/-- The IPv4 address that a name writes. -/
def ipv4OfName? (name : Text) : Option Nat := do
  let parts := properLabels name
  if 4 < parts.length then none
  else
    let numbers ← parts.mapM ipv4Number?
    let last ← numbers.getLast?
    let leading := numbers.dropLast
    if leading.any (256 ≤ ·) || 1 <<< (8 * (4 - leading.length)) ≤ last then none
    else
      let value := leading.foldl (fun value n => value * 256 + n) 0
      some (value <<< (8 * (4 - leading.length)) + last)

/-- The four numbers of an IPv4 address that stands at the end of an IPv6 address; none of them
may have a leading zero. -/
def dottedQuad? (text : Text) : Option (List Nat) := do
  let parts := DomainName.labels text
  if parts.length ≠ 4 then none
  else parts.mapM fun part => do
    if part.isEmpty || (1 < part.length && part.head? == some '0') || 3 < part.length then none
    else
      let value ← digitsValue? 10 part
      if value < 256 then some value else none

/-- The pieces that groups separated by colons write; the last group may be an IPv4 address. -/
def ipv6Groups? : List Text → Option (List Nat)
  | [] => some []
  | [last] =>
    if last.any (· == '.') then do
      match ← dottedQuad? last with
      | [a, b, c, d] => some [a * 256 + b, c * 256 + d]
      | _ => none
    else do
      if last.isEmpty || 4 < last.length then none
      else return [← digitsValue? 16 last]
  | group :: rest => do
    if group.isEmpty || 4 < group.length then none
    else
      let piece ← digitsValue? 16 group
      return piece :: (← ipv6Groups? rest)

/-- The pieces of one side of a `::`. -/
def ipv6Side? (side : Text) : Option (List Nat) :=
  if side.isEmpty then some [] else ipv6Groups? (Text.splitWhere (· == ':') side)

/-- The IPv6 address that a text writes, without brackets. A `::` stands for one zero or more. -/
def ipv6OfText? (text : Text) : Option (List Nat) :=
  match Text.splitAfterPattern? [':', ':'] text with
  | none => do
    let pieces ← ipv6Side? text
    if pieces.length = 8 then some pieces else none
  | some (front, back) => do
    let before := front.take (front.length - 2)
    if before.any (· == '.') then none
    else
      let first ← ipv6Side? before
      let second ← ipv6Side? back
      let missing := 8 - (first.length + second.length)
      if missing = 0 then none else some (first ++ List.replicate missing 0 ++ second)

/-- The number of zeros that some pieces start with. -/
def leadingZeros (pieces : List Nat) : Nat := (pieces.takeWhile (· == 0)).length

/-- The longest run of zeros, as the number of pieces before it and its length; of several the
first. -/
def longestZeros : List Nat → Nat × Nat
  | [] => (0, 0)
  | piece :: rest =>
    let here := leadingZeros (piece :: rest)
    let later := longestZeros rest
    if later.2 ≤ here then (0, here) else (later.1 + 1, later.2)

/-- Texts with a separator between them. -/
def joinWith (separator : Char) : List Text → Text
  | [] => []
  | [text] => text
  | text :: next :: rest => text ++ separator :: joinWith separator (next :: rest)

/-- The written form of an IPv6 address, without brackets. -/
def renderIpv6 (pieces : List Nat) : Text :=
  let hex (pieces : List Nat) : Text := joinWith ':' (pieces.map (Nat.toDigits 16))
  let (before, zeros) := longestZeros pieces
  if zeros < 2 then hex pieces
  else hex (pieces.take before) ++ ':' :: ':' :: hex (pieces.drop (before + zeros))

/-- The written form of an IPv4 address. -/
def renderIpv4 (address : Nat) : Text :=
  joinWith '.' ([3, 2, 1, 0].map fun place => (Nat.repr ((address >>> (8 * place)) % 256)).toList)

namespace Host

/-- The host of a URL that has a place for one but does not name it. -/
def empty : Host := .name []

/-- The written form of a host. -/
def render : Host → Text
  | .name text => text
  | .ipv4 address => renderIpv4 address
  | .ipv6 pieces => '[' :: (renderIpv6 pieces ++ [']'])

/-- Whether a request can name the host: letters, digits and some marks make up its name. -/
def isRequestable : Host → Bool
  | .name text => text.all fun c => c.isAlphanum ||
      ['-', '.', '_', '~', '!', '$', '&', '\'', '(', ')', '*', '+', ',', ';', '='].any (· == c)
  | .ipv4 _ | .ipv6 _ => true

/-- The characters that no name may contain where the scheme is not well known. -/
def isForbidden (c : Char) : Bool :=
  ['\x00', '\t', '\n', '\r', ' ', '#', '/', ':', '<', '>', '?', '@', '[', '\\', ']', '^', '|'].any
    (· == c)

/-- The characters that no name may contain where the scheme is well known. -/
def isForbiddenInDomain (c : Char) : Bool :=
  isForbidden c || c.toNat < 0x20 || c.toNat == 0x7f || c == '%'

/-- An IPv6 address in brackets. -/
def bracketed? (text : Text) : Option Host :=
  if text.getLast? = some ']' then (ipv6OfText? (text.drop 1).dropLast).map .ipv6 else none

/-- The host of a URL whose scheme is well known. -/
def parse? (text : Text) : Option Host :=
  if text.head? = some '[' then bracketed? text
  else do
    let decoded ← Bytes.text? (percentDecode text)
    let name := Text.lower decoded
    if name.isEmpty || name.any isForbiddenInDomain || name.any (0x80 ≤ ·.toNat) then none
    else if !DomainName.isAccepted name then none
    else if endsInNumber name then (ipv4OfName? name).map .ipv4
    else some (.name name)

/-- The host of a URL whose scheme is not well known. -/
def parseOpaque? (text : Text) : Option Host :=
  if text.head? = some '[' then bracketed? text
  else if text.any isForbidden then none
  else some (.name (percentEncode [] text))

end Host

end TagQuery.Transport
