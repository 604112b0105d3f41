import ApiContract.Binary64

/-!
The shortest decimal that reads back as a given binary number. The decimals that read back fill an
interval around the number; on the grids of one, two, … seventeen digits the two neighbours of the
number are tried, and the first grid with a neighbour inside the interval gives the digits.
-/

namespace ApiContract

namespace Binary64

/-- The decimal `digits * 10 ^ scale`. -/
structure Decimal where
  digits : Nat
  scale : Int
deriving DecidableEq, Repr, Inhabited

/-- The decimals that round to a number, in units of a quarter of its last place. -/
structure RoundingInterval where
  low : Nat
  value : Nat
  high : Nat
  unit : Int
  closed : Bool
deriving Repr

/-- Below a power of two the numbers lie twice as dense, so the lower half-gap is half as wide. -/
def roundingInterval (x : Binary64) : RoundingInterval :=
  let spare : Nat := min (52 - x.significand.log2) (x.exponent + 1074).toNat
  let mantissa := x.significand * Nat.pow 2 spare
  let exponent := x.exponent - spare
  let lowGap := if mantissa = Nat.pow 2 52 ∧ exponent > -1074 then 1 else 2
  { low := 4 * mantissa - lowGap
    value := 4 * mantissa
    high := 4 * mantissa + 2
    unit := exponent - 2
    closed := mantissa % 2 == 0 }

/-- `count * 2 ^ unit / 10 ^ scale` as a fraction. -/
def gridRatio (count : Nat) (unit scale : Int) : Nat × Nat :=
  (count * Nat.pow 2 unit.toNat * Nat.pow 10 (-scale).toNat, Nat.pow 2 (-unit).toNat * Nat.pow 10 scale.toNat)

namespace RoundingInterval

/-- The power of ten of the leading digit. -/
def leadingPower (interval : RoundingInterval) : Int :=
  let ratio := gridRatio interval.value interval.unit (-400)
  ((Nat.repr (ratio.1 / ratio.2)).length : Int) - 401

def contains (interval : RoundingInterval) (candidate : Decimal) : Bool :=
  let low := gridRatio interval.low interval.unit candidate.scale
  let high := gridRatio interval.high interval.unit candidate.scale
  if interval.closed then
    low.1 ≤ candidate.digits * low.2 && candidate.digits * high.2 ≤ high.1
  else
    low.1 < candidate.digits * low.2 && candidate.digits * high.2 < high.1

/-- The nearer of the two neighbours on the grid, of those inside; a tie goes to even digits. -/
def onGrid (interval : RoundingInterval) (scale : Int) : Option Decimal :=
  let ratio := gridRatio interval.value interval.unit scale
  let below : Decimal := ⟨ratio.1 / ratio.2, scale⟩
  let above : Decimal := ⟨ratio.1 / ratio.2 + 1, scale⟩
  let twice := 2 * (ratio.1 % ratio.2)
  let preferBelow := twice < ratio.2 || (twice == ratio.2 && below.digits % 2 == 0)
  let first := if preferBelow then below else above
  let second := if preferBelow then above else below
  if first.digits != 0 && interval.contains first then some first
  else if second.digits != 0 && interval.contains second then some second
  else none

end RoundingInterval

/-- The shortest decimal that reads back as `x`, and of those the nearest to `x`. -/
def shortest (x : Binary64) : Decimal :=
  if x.significand = 0 then ⟨0, 0⟩
  else
    let interval := x.roundingInterval
    let top := interval.leadingPower
    ((List.range 17).findSome? fun places : Nat => interval.onGrid (top - (places : Int))).getD ⟨0, 0⟩

/-- Drops the zeros at the end of the digits. -/
def trimZeros : List Char → List Char
  | digits => (digits.reverse.dropWhile (· = '0')).reverse

end Binary64

end ApiContract
