/-!
Finite binary floating-point numbers of 64 bits, as the exact numbers they denote: a sign, and an
integer times a power of two. Each operation computes the exact result and rounds it once, to
the nearest representable number and on a tie to the even one, so no machine arithmetic is used.
-/

namespace ApiContract

/-- The number `± significand * 2 ^ exponent`. A written value is in lowest form: its significand is
odd, or it is a zero with exponent 0. -/
structure Binary64 where
  negative : Bool
  significand : Nat
  exponent : Int
deriving DecidableEq, Repr, Inhabited

namespace Binary64

/-- The number of trailing zero bits, up to a limit. -/
def trailingZeros : Nat → Nat → Nat
  | 0, _ => 0
  | limit + 1, value => if value % 2 = 0 then trailingZeros limit (value / 2) + 1 else 0

def lowestForm (negative : Bool) (significand : Nat) (exponent : Int) : Binary64 :=
  if significand = 0 then ⟨negative, 0, 0⟩
  else
    let zeros := trailingZeros significand.log2 significand
    ⟨negative, significand / Nat.pow 2 zeros, exponent + zeros⟩

/-- The integer nearest to `numerator / denominator`; a half goes to the even neighbour. -/
def roundHalfEven (numerator denominator : Nat) : Nat :=
  let quotient := numerator / denominator
  let twice := 2 * (numerator % denominator)
  if twice < denominator ∨ (twice = denominator ∧ quotient % 2 = 0) then quotient else quotient + 1

/-- The exponent of the last of the 53 bits of `numerator / denominator`, at least -1074. -/
def unitExponent (numerator denominator : Nat) : Int :=
  let guess : Int := (numerator.log2 : Int) - denominator.log2
  let reaches := denominator * Nat.pow 2 guess.toNat ≤ numerator * Nat.pow 2 (-guess).toNat
  max (if reaches then guess - 52 else guess - 53) (-1074)

/-- The number nearest to `± numerator / denominator`; none when it exceeds the largest one. -/
def ofRatio (negative : Bool) (numerator denominator : Nat) : Option Binary64 :=
  if numerator = 0 then some ⟨negative, 0, 0⟩
  else
    let unit := unitExponent numerator denominator
    let rounded := roundHalfEven (numerator * Nat.pow 2 (-unit).toNat) (denominator * Nat.pow 2 unit.toNat)
    if unit > 971 ∨ (unit = 971 ∧ rounded = Nat.pow 2 53) then none
    else some (lowestForm negative rounded unit)

def zero : Binary64 := ⟨false, 0, 0⟩

/-- The magnitude as a fraction of natural numbers. -/
def magnitude (x : Binary64) : Nat × Nat :=
  (x.significand * Nat.pow 2 x.exponent.toNat, Nat.pow 2 (-x.exponent).toNat)

/-- The nearest number to an integer below 2 ^ 1023 in magnitude. -/
def ofInt (n : Int) : Binary64 :=
  (ofRatio (decide (n < 0)) n.natAbs 1).getD zero

def mul (x y : Binary64) : Option Binary64 :=
  ofRatio (x.negative != y.negative) (x.magnitude.1 * y.magnitude.1) (x.magnitude.2 * y.magnitude.2)

/-- Division by a number other than zero. -/
def div (x y : Binary64) : Option Binary64 :=
  ofRatio (x.negative != y.negative) (x.magnitude.1 * y.magnitude.2) (x.magnitude.2 * y.magnitude.1)

def isZero (x : Binary64) : Bool := x.significand == 0

def neg (x : Binary64) : Binary64 := { x with negative := !x.negative }

/-- Has no fractional part. -/
def isIntegral (x : Binary64) : Bool :=
  x.significand * Nat.pow 2 x.exponent.toNat % Nat.pow 2 (-x.exponent).toNat == 0

/-- Compares `x` with `numerator / denominator` exactly. -/
def compareRatio (x : Binary64) (numerator : Int) (denominator : Nat) : Ordering :=
  let own : Int := x.magnitude.1
  compare ((if x.negative then -own else own) * denominator) (numerator * x.magnitude.2)

/-- The integer that an integral number denotes. -/
def toInt? (x : Binary64) : Option Int :=
  if x.isIntegral then
    let size : Int := (x.magnitude.1 / x.magnitude.2 : Nat)
    some (if x.negative then -size else size)
  else none

/-- Equality of the denoted numbers: the two zeros are equal. -/
def sameValue (x y : Binary64) : Bool :=
  x == y || (x.isZero && y.isZero)

/-- The part after the point, truncated toward zero, is below `2 ^ -52`; so is every negative part. -/
def fractionIsNegligible (x : Binary64) : Bool :=
  let part := x.magnitude.1 % x.magnitude.2
  (x.negative && part != 0) || part * Nat.pow 2 52 < x.magnitude.2

/-- The exact remainder of the magnitudes is zero. -/
def isMultipleOf (x y : Binary64) : Bool :=
  (x.magnitude.1 * y.magnitude.2) % (x.magnitude.2 * y.magnitude.1) == 0

end Binary64

end ApiContract
