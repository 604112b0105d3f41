import ApiContract.Binary64.Shortest

/-!
JSON numbers: integers of 64 bits, signed or unsigned, and binary floating-point numbers.
The two kinds are told apart by how a number is written and are never equal to each other.
-/

namespace ApiContract.Json

inductive Number where
  | int (value : Int)
  | float (value : Binary64)
deriving DecidableEq, Repr, Inhabited

namespace Number

/-- Equality by representation; the two float zeros are equal. -/
def same : Number → Number → Bool
  | .int a, .int b => a == b
  | .float a, .float b => a.sameValue b
  | _, _ => false

def toBinary64 : Number → Binary64
  | .int n => Binary64.ofInt n
  | .float x => x

def isIntegral : Number → Bool
  | .int _ => true
  | .float x => x.isIntegral

/-- The exact integer denoted, if the number has no fraction. -/
def toInt? : Number → Option Int
  | .int n => some n
  | .float x => x.toInt?

/-- Exact comparison of the denoted numbers. -/
def compareValue : Number → Number → Ordering
  | .int a, .int b => compare a b
  | .float x, .int n => x.compareRatio n 1
  | .int n, .float x => (x.compareRatio n 1).swap
  | .float x, .float y =>
      let size : Int := y.magnitude.1
      x.compareRatio (if y.negative then -size else size) y.magnitude.2

def minInt : Int := -9223372036854775808
def maxInt : Int := 18446744073709551615

/-- Positional text from `0.00001` up to sixteen integer digits, with `.0` after a whole number;
beyond that one digit, the fraction, and the exponent with its sign. -/
def floatText (x : Binary64) : String :=
  let sign := if x.negative then "-" else ""
  if x.significand = 0 then sign ++ "0.0"
  else
    let decimal := x.shortest
    let all := (Nat.repr decimal.digits).toList
    let digits := Binary64.trimZeros all
    let power : Int := (all.length : Int) - 1 + decimal.scale
    let body :=
      if power < -5 ∨ 16 ≤ power then
        let fraction := if digits.length ≤ 1 then [] else '.' :: digits.drop 1
        let mark := if power < 0 then "e-" else "e+"
        String.ofList (digits.take 1 ++ fraction) ++ mark ++ Nat.repr power.natAbs
      else if power < 0 then
        "0." ++ String.ofList (List.replicate (power.natAbs - 1) '0' ++ digits)
      else
        let whole := power.toNat + 1
        if digits.length ≤ whole then
          String.ofList (digits ++ List.replicate (whole - digits.length) '0') ++ ".0"
        else
          String.ofList (digits.take whole) ++ "." ++ String.ofList (digits.drop whole)
    sign ++ body

def text : Number → String
  | .int n => if n < 0 then "-" ++ Nat.repr n.natAbs else Nat.repr n.natAbs
  | .float x => floatText x

end Number

end ApiContract.Json
