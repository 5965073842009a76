import TagQuery.Text.Basic

/-!
# Punycode

How a text beyond ASCII is written in lower-case ASCII letters and digits. The ASCII characters of
the text come first, with a hyphen after them. Then come numbers, one for each further character:
each says how many steps to go on from the character before, where a step is one place in the text
as far as it is known, or one code point after the last place.

A number is written in digits of base 36, the lowest first. A digit below a threshold is the last
one, and the thresholds adapt to the numbers so far. No quantity reaches 2 to the power of 32.
-/

namespace TagQuery.Transport.Punycode

/-- The number that no quantity reaches. -/
def limit : Nat := 0x100000000

/-- The value of a digit: letters first, then figures. -/
def digitValue? (c : Char) : Option Nat :=
  if 'a' ≤ c ∧ c ≤ 'z' then some (c.toNat - 'a'.toNat)
  else if c.isDigit then some (c.toNat - '0'.toNat + 26)
  else none

/-- The threshold of the digit at a place; places are counted in steps of 36. -/
def threshold (bias place : Nat) : Nat :=
  if place ≤ bias then 1 else if bias + 26 ≤ place then 26 else place - bias

/-- Reads a number, and what is left after it. The digit has the given place and weight; `value`
is what came before. -/
def readNumber? (bias place weight value : Nat) : Text → Option (Nat × Text)
  | [] => none
  | c :: rest => do
    let digit ← digitValue? c
    let sum := value + digit * weight
    if limit ≤ sum then none
    else if digit < threshold bias place then some (sum, rest)
    else
      let heavier := weight * (36 - threshold bias place)
      if limit ≤ heavier then none else readNumber? bias (place + 36) heavier sum rest

theorem readNumber?_length_lt {bias place weight value number : Nat} {text rest : Text}
    (read : readNumber? bias place weight value text = some (number, rest)) :
    rest.length < text.length := by
  induction text generalizing place weight value with
  | nil => cases read
  | cons c text ih =>
    obtain ⟨digit, _, read⟩ := Option.bind_eq_some_iff.mp read
    dsimp only at read
    split at read
    · cases read
    · split at read
      · cases read; exact Nat.lt_succ_self _
      · split at read
        · cases read
        · exact Nat.lt_succ_of_lt (ih read)

/-- The bias after a number that is small enough, and the larger ones by steps of 36. -/
def settle (bias delta : Nat) : Nat :=
  if 455 < delta then settle (bias + 36) (delta / 35) else bias + 36 * delta / (delta + 38)
termination_by delta
decreasing_by exact Nat.div_lt_self (by omega) (by omega)

/-- The bias after a number, with which the text has the given length. -/
def adapt (delta length : Nat) (first : Bool) : Nat :=
  let damped := if first then delta / 700 else delta / 2
  settle 0 (damped + damped / length)

/-- Puts further characters into a text. The next one goes at the place or behind it, and its code
point is `code` or above. -/
def extend? (text : Text) (code place bias : Nat) (digits : Text) : Option Text :=
  match digits with
  | [] => some text
  | c :: more =>
    match _number : readNumber? bias 36 1 place (c :: more) with
    | none => none
    | some (steps, rest) =>
      let length := text.length + 1
      let next := code + steps / length
      if next.isValidChar then
        extend? (text.take (steps % length) ++ Char.ofNat next :: text.drop (steps % length)) next
          (steps % length + 1) (adapt (steps - place) length (place == 0)) rest
      else none
termination_by digits.length
decreasing_by exact readNumber?_length_lt _number

/-- The text that is written in lower-case ASCII. -/
def decode? (encoded : Text) : Option Text :=
  let digits := (encoded.reverse.takeWhile (· != '-')).reverse
  let basic := (encoded.take (encoded.length - digits.length)).dropLast
  if basic.isEmpty && digits.length < encoded.length then none else extend? basic 0x80 0 72 digits

end TagQuery.Transport.Punycode
