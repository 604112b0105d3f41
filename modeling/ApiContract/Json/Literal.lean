import ApiContract.Json.Number

/-!
Reading number literals. An integer literal that fits 64 bits is an integer; every other literal
is a float. The digits of a float are gathered into a 64-bit significand, digits that no longer
fit are dropped, and the significand is rounded once and scaled once by a power of ten.
-/

namespace ApiContract.Json

/-- The parts of a literal: sign, digits before and after the point, and the exponent. -/
structure Literal where
  negative : Bool
  whole : List Char
  fraction : Option (List Char)
  exponent : Option (Bool × List Char)
deriving Repr

def digitValue (c : Char) : Nat := c.toNat - '0'.toNat

def natOfDigits (digits : List Char) : Nat :=
  digits.foldl (fun total c => 10 * total + digitValue c) 0

namespace Literal

/-- Splits off a sign of an exponent: true when it is negative. -/
def exponentSign : List Char → Bool × List Char
  | '-' :: rest => (true, rest)
  | '+' :: rest => (false, rest)
  | rest => (false, rest)

def parseExponent (text : List Char) : Option (Option (Bool × List Char)) :=
  match text with
  | [] => some none
  | c :: rest =>
      if c = 'e' ∨ c = 'E' then
        let (negative, digits) := exponentSign rest
        if digits ≠ [] ∧ digits.all Char.isDigit then some (some (negative, digits)) else none
      else none

/-- The literal that a whole text spells: no leading zeros, and digits on both sides of a point. -/
def parse? (text : List Char) : Option Literal :=
  let (negative, unsigned) := match text with
    | '-' :: rest => (true, rest)
    | rest => (false, rest)
  let whole := unsigned.takeWhile Char.isDigit
  let afterWhole := unsigned.dropWhile Char.isDigit
  if whole = [] ∨ (whole.head? = some '0' ∧ whole.length > 1) then none
  else match afterWhole with
    | '.' :: rest =>
        let fraction := rest.takeWhile Char.isDigit
        if fraction = [] then none
        else (parseExponent (rest.dropWhile Char.isDigit)).map (⟨negative, whole, some fraction, ·⟩)
    | rest => (parseExponent rest).map (⟨negative, whole, none, ·⟩)

/-- Appends digits to a significand until one no longer fits 64 bits; answers the significand and
how many digits were left out. -/
def gather : Nat → List Char → Nat × Nat
  | significand, [] => (significand, 0)
  | significand, c :: rest =>
      let next := 10 * significand + digitValue c
      if next < Nat.pow 2 64 then gather next rest else (significand, rest.length + 1)

def powerOfTen (power : Nat) : Binary64 := Binary64.ofInt (Nat.pow 10 power)

/-- Scales by a power of ten below `10 ^ -308` in steps. -/
def scaleDown : Nat → Binary64 → Int → Option Binary64
  | 0, _, _ => some Binary64.zero
  | steps + 1, x, power =>
      if x.isZero then some x
      else if power < -308 then (x.div (powerOfTen 308)).bind (scaleDown steps · (power + 308))
      else x.div (powerOfTen power.natAbs)

/-- The significand rounded, times a power of ten, rounded again; none on overflow. -/
def scaled (significand : Nat) (power : Int) : Option Binary64 :=
  let x := Binary64.ofInt significand
  if power < 0 then scaleDown 4 x power
  else if power ≤ 308 then x.mul (powerOfTen power.toNat)
  else if x.isZero then some x
  else none

def toFloat? (literal : Literal) : Option Binary64 :=
  let (wholePart, wholeDropped) := gather 0 literal.whole
  let fraction := literal.fraction.getD []
  let (significand, fractionDropped) := gather wholePart fraction
  let start : Int := wholeDropped - (fraction.length - fractionDropped : Nat)
  let value := match literal.exponent with
    | none => scaled significand start
    | some (negative, digits) =>
        let size := natOfDigits digits
        if size > 2147483647 then
          if significand ≠ 0 ∧ ¬ negative then none else some Binary64.zero
        else scaled significand (if negative then start - size else start + size)
  value.map fun x => if literal.negative then x.neg else x

def toNumber? (literal : Literal) : Option Number :=
  match literal.fraction, literal.exponent with
  | none, none =>
      let size := natOfDigits literal.whole
      if literal.negative then
        if 0 < size ∧ size ≤ Nat.pow 2 63 then some (.int (-size)) else literal.toFloat?.map .float
      else if size < Nat.pow 2 64 then some (.int size) else literal.toFloat?.map .float
  | _, _ => literal.toFloat?.map .float

end Literal

/-- The number that a JSON literal denotes; none when it is misspelt or exceeds the floats. -/
def Number.ofLiteral? (text : List Char) : Option Number :=
  (Literal.parse? text).bind Literal.toNumber?

end ApiContract.Json
