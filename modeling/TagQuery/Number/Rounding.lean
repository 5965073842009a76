import TagQuery.Text.Basic

/-!
# Rounding

Fractions of natural numbers and the two roundings that numbers in messages go through. A quantity
is held to 53 significant bits, as in a double-precision number, and is then written with a fixed
number of decimal places. Both roundings go to the nearest value, and a tie goes to the even
neighbour.
-/

namespace TagQuery.Number

/-- A fraction; its denominator is never zero where one is used here. -/
structure Fraction where
  num : Nat
  den : Nat
deriving DecidableEq, Repr

namespace Fraction

/-- The sum of two fractions. -/
def add (first second : Fraction) : Fraction :=
  ⟨first.num * second.den + second.num * first.den, first.den * second.den⟩

/-- The fraction divided by a natural number. -/
def divideBy (fraction : Fraction) (n : Nat) : Fraction := ⟨fraction.num, fraction.den * n⟩

/-- Whether the fraction is greater than a natural number. -/
def exceeds (fraction : Fraction) (n : Nat) : Bool := n * fraction.den < fraction.num

end Fraction

/-- The natural number nearest to a fraction; of two the even one. -/
def roundToNat (fraction : Fraction) : Nat :=
  let quotient := fraction.num / fraction.den
  let twice := 2 * (fraction.num % fraction.den)
  if twice < fraction.den then quotient
  else if fraction.den < twice then quotient + 1
  else if quotient % 2 = 0 then quotient
  else quotient + 1

/-- The rounded number is at most half a unit away. -/
theorem roundToNat_near {fraction : Fraction} (positive : 0 < fraction.den) :
    2 * fraction.num ≤ (2 * roundToNat fraction + 1) * fraction.den ∧
      2 * roundToNat fraction * fraction.den ≤ 2 * fraction.num + fraction.den := by
  have whole := Nat.div_add_mod fraction.num fraction.den
  have small := Nat.mod_lt fraction.num positive
  have commuted := Nat.mul_comm fraction.den (fraction.num / fraction.den)
  simp only [roundToNat]
  split
  · simp only [Nat.add_mul, Nat.mul_assoc, Nat.one_mul]; omega
  · split
    · simp only [Nat.add_mul, Nat.mul_add, Nat.mul_assoc, Nat.one_mul]; omega
    · split
      · simp only [Nat.add_mul, Nat.mul_assoc, Nat.one_mul]; omega
      · simp only [Nat.add_mul, Nat.mul_add, Nat.mul_assoc, Nat.one_mul]; omega

/-- The fraction divided by a power of two. -/
def scaleDown (exponent : Int) (fraction : Fraction) : Fraction :=
  ⟨fraction.num <<< (-exponent).toNat, fraction.den <<< exponent.toNat⟩

/-- The power of two which is the unit of the last of 53 significant bits. -/
def lastBit (fraction : Fraction) : Int :=
  let guess : Int := (fraction.num.log2 : Int) - fraction.den.log2 - 52
  if (scaleDown guess fraction).num < (scaleDown guess fraction).den <<< 52 then guess - 1
  else guess

/-- The nearest fraction with 53 significant bits. The exponent is not limited. -/
def roundToDouble (fraction : Fraction) : Fraction :=
  if fraction.num = 0 then ⟨0, 1⟩
  else scaleDown (-lastBit fraction) ⟨roundToNat (scaleDown (lastBit fraction) fraction), 1⟩

/-- A number with a fixed number of decimal places. -/
def fixed (places : Nat) (fraction : Fraction) : Text :=
  let unit := Nat.pow 10 places
  let scaled := roundToNat ⟨fraction.num * unit, fraction.den⟩
  let digits := (Nat.repr (scaled % unit)).toList
  (Nat.repr (scaled / unit)).toList ++
    '.' :: (List.replicate (places - digits.length) '0' ++ digits)

end TagQuery.Number
