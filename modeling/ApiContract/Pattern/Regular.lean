import ApiContract.Pattern.Anchor
import ApiContract.Unicode.CodePointSet

/-!
Regular patterns: what a pattern without back references means once its flags are taken into account.
-/

namespace ApiContract.Pattern

open Unicode (CodePointSet)

inductive Regular where
  | empty
  | char (c : Char)
  | set (chars : CodePointSet)
  | anchor (kind : Anchor)
  | repetition (body : Regular) (least : Nat) (most : Option Nat) (greedy : Bool)
  | capture (number : Nat) (body : Regular)
  | concat (items : List Regular)
  | alternation (items : List Regular)
deriving Inhabited

namespace Regular

mutual

/-- Every match is empty. -/
def isEmptyOnly : Regular → Bool
  | .empty => true
  | .anchor _ => true
  | .char _ => false
  | .set _ => false
  | .repetition body _ _ _ => body.isEmptyOnly
  | .capture _ body => body.isEmptyOnly
  | .concat items => allEmptyOnly items
  | .alternation items => allEmptyOnly items

def allEmptyOnly : List Regular → Bool
  | [] => true
  | item :: rest => item.isEmptyOnly && allEmptyOnly rest

end

mutual

/-- No match is empty. -/
def consumes : Regular → Bool
  | .empty => false
  | .anchor _ => false
  | .char _ => true
  | .set chars => !chars.isEmpty
  | .repetition body least _ _ => least > 0 && body.consumes
  | .capture _ body => body.consumes
  | .concat items => anyConsumes items
  | .alternation items => allConsume items

def anyConsumes : List Regular → Bool
  | [] => false
  | item :: rest => item.consumes || anyConsumes rest

def allConsume : List Regular → Bool
  | [] => true
  | item :: rest => item.consumes && allConsume rest

end

/-- A set of one character is that character. -/
def ofSet (chars : CodePointSet) : Regular :=
  match chars.ranges with
  | [(first, last)] => if first = last ∧ first.isValidChar then .char (Char.ofNat first) else .set chars
  | _ => .set chars

/-- A repetition. What only matches the empty text is matched at most once. -/
def repeated (body : Regular) (least : Nat) (most : Option Nat) (greedy : Bool) : Regular :=
  let (least, most) := if body.isEmptyOnly then (min least 1, some (min (most.getD 1) 1)) else (least, most)
  if least = 0 ∧ most = some 0 then .empty
  else if least = 1 ∧ most = some 1 then body
  else .repetition body least most greedy

end Regular

end ApiContract.Pattern
