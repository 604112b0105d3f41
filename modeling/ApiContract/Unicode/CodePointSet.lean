import ApiContract.Unicode.Numbers

/-!
Sets of characters by the boundaries of their ranges: a character is in the set when an odd number
of boundaries lie at or below it. Set operations walk the boundaries of both sets in ascending order.
-/

namespace ApiContract.Unicode

/-- Ascending code points, each the first of a range or the first after one. -/
structure CodePointSet where
  ofBoundaries ::
  boundaries : Array Nat
deriving Repr, Inhabited, DecidableEq

namespace CodePointSet

/-- The number of boundaries at or below a code point, by bisection between two positions. -/
def countBelow (boundaries : Array Nat) (code : Nat) : Nat → Nat → Nat → Nat
  | 0, low, _ => low
  | steps + 1, low, high =>
      if low < high then
        let middle := (low + high) / 2
        if boundaries[middle]?.getD 0 ≤ code then countBelow boundaries code steps (middle + 1) high
        else countBelow boundaries code steps low middle
      else low

def containsCode (set : CodePointSet) (code : Nat) : Bool :=
  let size := set.boundaries.size
  countBelow set.boundaries code (size.log2 + 1) 0 size % 2 == 1

def contains (set : CodePointSet) (c : Char) : Bool := set.containsCode c.toNat

def isEmpty (set : CodePointSet) : Bool := set.boundaries.isEmpty

/-- Merges two lists of boundaries. The flags tell on which side the walk is inside a range, and
whether it is inside the result; a boundary is kept where the last changes. -/
def merge (keep : Bool → Bool → Bool) (inLeft inRight inside : Bool) :
    List Nat → List Nat → List Nat
  | [], [] => []
  | a :: left, [] =>
      let now := keep (!inLeft) inRight
      let rest := merge keep (!inLeft) inRight now left []
      if now == inside then rest else a :: rest
  | [], b :: right =>
      let now := keep inLeft (!inRight)
      let rest := merge keep inLeft (!inRight) now [] right
      if now == inside then rest else b :: rest
  | a :: left, b :: right =>
      if a < b then
        let now := keep (!inLeft) inRight
        let rest := merge keep (!inLeft) inRight now left (b :: right)
        if now == inside then rest else a :: rest
      else if b < a then
        let now := keep inLeft (!inRight)
        let rest := merge keep inLeft (!inRight) now (a :: left) right
        if now == inside then rest else b :: rest
      else
        let now := keep (!inLeft) (!inRight)
        let rest := merge keep (!inLeft) (!inRight) now left right
        if now == inside then rest else a :: rest
termination_by left right => left.length + right.length

/-- The set of the characters for which a condition on membership in two sets holds; it must not
hold outside both. -/
def combine (keep : Bool → Bool → Bool) (left right : CodePointSet) : CodePointSet :=
  .ofBoundaries (merge keep false false false left.boundaries.toList right.boundaries.toList).toArray

def empty : CodePointSet := .ofBoundaries #[]

/-- The code points from one to another, both included. -/
def range (first last : Nat) : CodePointSet :=
  if first ≤ last then .ofBoundaries #[first, last + 1] else empty

def single (c : Char) : CodePointSet := range c.toNat c.toNat

/-- Every code point. -/
def all : CodePointSet := range 0 0x10FFFF

/-- The code points that stand for no character. -/
def surrogates : CodePointSet := range 0xD800 0xDFFF

def union (left right : CodePointSet) : CodePointSet := combine (fun a b => a || b) left right

def inter (left right : CodePointSet) : CodePointSet := combine (fun a b => a && b) left right

def sdiff (left right : CodePointSet) : CodePointSet := combine (fun a b => a && !b) left right

def symmDiff (left right : CodePointSet) : CodePointSet := combine (fun a b => a != b) left right

/-- The characters that are not in a set. -/
def complement (set : CodePointSet) : CodePointSet := (all.sdiff surrogates).sdiff set

/-- The union of many sets, taken in pairs. -/
def unionAll : Nat → List CodePointSet → CodePointSet
  | _, [] => empty
  | _, [set] => set
  | 0, sets => sets.foldl union empty
  | depth + 1, sets =>
      let half := sets.length / 2
      union (unionAll depth (sets.take half)) (unionAll depth (sets.drop half))

def ofRanges (ranges : List (Nat × Nat)) : CodePointSet :=
  unionAll 20 (ranges.map fun (first, last) => range first last)

def ofCodes (codes : List Nat) : CodePointSet := ofRanges (codes.map fun code => (code, code))

/-- The ranges in ascending order, by their first and last code points. -/
def rangesFrom : List Nat → List (Nat × Nat)
  | first :: next :: rest => (first, next - 1) :: rangesFrom rest
  | _ => []

def ranges (set : CodePointSet) : List (Nat × Nat) := rangesFrom set.boundaries.toList

/-- No character beyond ASCII. -/
def isAscii (set : CodePointSet) : Bool := (set.boundaries.back?.getD 0) ≤ 128

/-! ## Sets in writing

A table writes a set as the distances of its boundaries, from zero to the first and from each to
the next. -/

def boundariesFrom (last : Nat) : List Nat → List Nat
  | [] => []
  | distance :: rest => (last + distance) :: boundariesFrom (last + distance) rest

def ofLines (lines : List String) : CodePointSet :=
  .ofBoundaries (boundariesFrom 0 (readNumbers lines)).toArray

end CodePointSet

/-- A set of a table, with the names it goes by. -/
structure NamedSet where
  names : List String
  boundaries : List String

def NamedSet.set (entry : NamedSet) : CodePointSet := .ofLines entry.boundaries

/-- The set that goes by a name. -/
def findSet? (entries : List NamedSet) (name : String) : Option CodePointSet :=
  (entries.find? fun entry => entry.names.contains name).map NamedSet.set

end ApiContract.Unicode
