import ApiContract.Pattern.Backtracking.Reader
import ApiContract.Pattern.Search

/-!
How a pattern is matched. Backtracking is for the parts that need it: around them, regular parts
are matched by programs, which settle for their preferred match and never come back for another.
-/

namespace ApiContract.Pattern.Backtracking

open Unicode (CodePointSet)

inductive Node where
  | empty
  | text (chars : List Char)
  | one (chars : CodePointSet)
  | anchor (kind : Anchor)
  | regular (program : Program)
  | concat (items : List Node)
  | alternation (items : List Node)
  | group (number : Nat) (body : Node)
  /-- With a guard, a mark of that number refuses a copy that starts where the copy before it did. -/
  | repetition (body : Node) (least : Nat) (most : Option Nat) (greedy : Bool) (guard : Option Nat)
  /-- Looks at a match that starts so many characters back. -/
  | look (back : Nat) (negative : Bool) (body : Node)
  | atomic (body : Node)
  | backReference (group : Nat)
  | groupMatched (group : Nat)
  | conditional (condition yes no : Node)
  | searchStart
deriving Inhabited

/-- Makes nodes while it counts the marks in use. -/
abbrev Planning := StateT Nat Option

namespace Node

def newMark : Planning Nat := modifyGet fun count => (count, count + 1)

def ofRegular : Regular → Node
  | .empty => .empty
  | .char c => .text [c]
  | .set chars => .one chars
  | pattern => .regular (.ofRegular pattern)

/-- The node for neighbours that are all regular. -/
def ofRegularTrees? (items : List Tree) : Option Node :=
  if items.isEmpty then some .empty
  else match Tree.literalOfAll? items with
    | some chars => some (.text chars)
    | none => (Regular.ofText? (items.flatMap (Tree.write 1))).map ofRegular

def anyChar (newlines : Bool) : Node :=
  .one (CodePointSet.complement (if newlines then .empty else .range 10 10))

/-- The first and the last of the parts of a sequence that are planned one by one, the latter not
included. The regular parts before them are of one size; those after them are too, unless nothing
comes back for another match anyway. -/
def middle (referenced : List Nat) (within : Bool) (items : List Tree) : Nat × Nat :=
  let isFixed (item : Tree) : Bool := item.hasOneSize && item.isRegular referenced
  let first := (items.takeWhile isFixed).length
  let isLast (item : Tree) : Bool := if within then isFixed item else item.isRegular referenced
  let count := ((items.drop first).reverse.takeWhile isLast).length
  (first, items.length - count)

mutual

/-- The plan for a tree. Within a part that backtracks, regular trees are planned by their
structure too; elsewhere a program matches them. -/
def ofTree (referenced : List Nat) (within : Bool) (tree : Tree) : Planning Node :=
  if !within && tree.isRegular referenced then monadLift (ofRegularTrees? [tree])
  else match tree with
    | .empty => return .empty
    | .char _ _ => monadLift (ofRegularTrees? [tree])
    | .any newlines => return anyChar newlines
    | .anchor kind => return .anchor kind
    | .one _ _ => monadLift (ofRegularTrees? [tree])
    | .concat items => do
        let (first, last) := middle referenced within items
        let before ← monadLift (ofRegularTrees? (items.take first))
        let between ← ofMiddle referenced first last 0 items
        let after ← monadLift (ofRegularTrees? (items.drop last))
        return .concat (before :: between ++ [after])
    | .alternation items => return .alternation (← ofAll referenced within items)
    | .group number body => return .group number (← ofTree referenced within body)
    | .repetition body least most greedy => do
        let single := least == 0 && most == some 1
        let guard ← if most.isNone && body.leastSize == 0 then some <$> newMark else pure none
        let body ← ofTree referenced (within || !(single || body.isRegular referenced)) body
        return .repetition body least most greedy guard
    | .look false negative body => return .look 0 negative (← ofTree referenced false body)
    | .look true negative (.alternation items) =>
        if (Tree.alternation items).hasOneSize then
          return .look (Tree.alternation items).leastSize negative
            (← ofTree referenced false (.alternation items))
        else do
          let looks ← ofBehind referenced negative items
          return if negative then .concat looks else .alternation looks
    | .look true negative body =>
        if body.hasOneSize then
          return .look body.leastSize negative (← ofTree referenced false body)
        else failure
    | .atomic body => return .atomic (← ofTree referenced false body)
    | .backReference number => return .backReference number
    | .groupMatched number => return .groupMatched number
    | .conditional condition yes no =>
        return .conditional (← ofTree referenced within condition)
          (← ofTree referenced within yes) (← ofTree referenced within no)
    | .keep => return .empty
    | .searchStart => return .searchStart

def ofAll (referenced : List Nat) (within : Bool) : List Tree → Planning (List Node)
  | [] => return []
  | item :: rest => do
      return (← ofTree referenced within item) :: (← ofAll referenced within rest)

/-- The parts of a sequence from one place to another. -/
def ofMiddle (referenced : List Nat) (first last index : Nat) : List Tree → Planning (List Node)
  | [] => return []
  | item :: rest => do
      if first ≤ index ∧ index < last then
        return (← ofTree referenced true item) :: (← ofMiddle referenced first last (index + 1) rest)
      else ofMiddle referenced first last (index + 1) rest

/-- Alternatives of different sizes are looked for one by one. -/
def ofBehind (referenced : List Nat) (negative : Bool) : List Tree → Planning (List Node)
  | [] => return []
  | item :: rest => do
      if item.hasOneSize then
        let look := .look item.leastSize negative (← ofTree referenced false item)
        return look :: (← ofBehind referenced negative rest)
      else failure

end

end Node

/-- A pattern ready to be matched, with the number of marks that its matches take. -/
structure Plan where
  root : Node
  marks : Nat

/-- The plan for a pattern. -/
def Plan.ofParsed? (pattern : Parsed) : Option Plan := do
  let groups ← pattern.tree.groupsAfter? 0
  let (root, marks) ← (Node.ofTree pattern.referenced true pattern.tree).run (2 * (groups + 1))
  return { root, marks }

end ApiContract.Pattern.Backtracking
