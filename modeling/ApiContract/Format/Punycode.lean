/-!
Code points in letters, digits and hyphens. The ASCII characters of a text come first; the others are
told by numbers of variable length, each the distance to the next place and code point to insert.
-/

namespace ApiContract.Format.Punycode

/-- The first code point that is inserted. -/
def firstCode : Nat := 128

/-- The least and the greatest weight of a digit that ends a number. -/
def leastThreshold : Nat := 1

def mostThreshold : Nat := 26

/-- Where a digit ends a number, for the place of the digit and the bias of the numbers so far. -/
def threshold (bias place : Nat) : Nat :=
  let position := 36 * (place + 1)
  if position ≤ bias + leastThreshold then leastThreshold
  else min mostThreshold (position - bias)

/-- Divides a distance until few digits tell it, and counts the divisions. -/
def scale : Nat → Nat → Nat → Nat × Nat
  | 0, delta, count => (delta, count)
  | fuel + 1, delta, count =>
      if delta > 455 then scale fuel (delta / 35) (count + 1) else (delta, count)

/-- The bias of the numbers after one, which inserts into a text that then has so many code points. -/
def adapt (delta size : Nat) (isFirst : Bool) : Nat :=
  let delta := if isFirst then delta / 700 else delta / 2
  let (rest, count) := scale (delta.log2 + 1) (delta + delta / size) 0
  36 * count + 36 * rest / (rest + 38)

/-! ## Reading -/

def digitValue? (c : Char) : Option Nat :=
  if 'a' ≤ c ∧ c ≤ 'z' then some (c.toNat - 97)
  else if c.isDigit then some (c.toNat - 22)
  else none

/-- A number with so many digits read, of some weight and value, and what follows it. -/
def readNumber? (bias : Nat) : List Char → Nat → Nat → Nat → Option (Nat × List Char)
  | [], _, _, _ => none
  | c :: rest, place, weight, value => do
      let digit ← digitValue? c
      let value := value + digit * weight
      let limit := threshold bias place
      if digit < limit then return (value, rest)
      else readNumber? bias rest (place + 1) (weight * (36 - limit)) value

def insertAt (index code : Nat) (codes : List Nat) : List Nat :=
  codes.take index ++ code :: codes.drop index

/-- Inserts the code points that a text tells. The place and the code point of the last one are given. -/
def decodeFrom : Nat → Nat → Nat → Nat → Bool → List Nat → List Char → Option (List Nat)
  | _, _, _, _, _, codes, [] => some codes
  | 0, _, _, _, _, _, _ => none
  | fuel + 1, code, place, bias, isFirst, codes, text => do
      let (delta, rest) ← readNumber? bias text 0 1 0
      let size := codes.length + 1
      let code := code + (place + delta) / size
      let place := (place + delta) % size
      if !code.isValidChar then none
      else
        decodeFrom fuel code (place + 1) (adapt delta size isFirst) false
          (insertAt place code codes) rest

/-- The code points of a text; the last hyphen, unless it is the first character, ends the ASCII ones. -/
def decode? (text : List Char) : Option (List Nat) :=
  let tail := (text.reverse.takeWhile (· ≠ '-')).reverse
  let head := text.take (text.length - tail.length - 1)
  let tail := if head = [] then text else tail
  decodeFrom tail.length firstCode 0 72 true (head.map Char.toNat) tail

/-! ## Writing -/

def digit (value : Nat) : Char := Char.ofNat (if value < 26 then value + 97 else value + 22)

def writeNumber (bias : Nat) : Nat → Nat → Nat → List Char
  | 0, _, _ => []
  | fuel + 1, place, value =>
      let limit := threshold bias place
      if value < limit then [digit value]
      else
        digit (limit + (value - limit) % (36 - limit))
          :: writeNumber bias fuel (place + 1) ((value - limit) / (36 - limit))

/-- What was written, in pieces in reverse, with the distance since the last insertion and the number
of code points that are written. -/
structure Encoding where
  pieces : List (List Char) := []
  delta : Nat := 0
  bias : Nat := 72
  count : Nat
  isFirst : Bool := true

/-- Writes the places of one code point; those below it are written already. -/
def Encoding.add (code : Nat) (state : Encoding) (other : Nat) : Encoding :=
  if other < code then { state with delta := state.delta + 1 }
  else if other = code then
    { pieces := writeNumber state.bias (state.delta.log2 + 2) 0 state.delta :: state.pieces
      delta := 0
      bias := adapt state.delta (state.count + 1) state.isFirst
      count := state.count + 1
      isFirst := false }
  else state

/-- Writes the code points from one on, the least first. -/
def encodeFrom (codes : List Nat) : Nat → Nat → Encoding → Encoding
  | 0, _, state => state
  | fuel + 1, code, state =>
      match (codes.filter (code ≤ ·)).min? with
      | none => state
      | some next =>
          let state := { state with delta := state.delta + (next - code) * (state.count + 1) }
          let state := codes.foldl (Encoding.add next) state
          encodeFrom codes fuel (next + 1) { state with delta := state.delta + 1 }

/-- A text in letters, digits and hyphens. -/
def encode (codes : List Nat) : List Char :=
  let basic := (codes.filter (· < firstCode)).map Char.ofNat
  let written := encodeFrom codes codes.length firstCode { count := basic.length }
  (if basic = [] then [] else basic ++ ['-']) ++ written.pieces.reverse.flatten

end ApiContract.Format.Punycode
