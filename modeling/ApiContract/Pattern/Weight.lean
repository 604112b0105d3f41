import ApiContract.Pattern.Regular
import ApiContract.Unicode.ByteSequences

/-!
The weight of a pattern: the bytes that a machine over the bytes of a text would take, read forwards
and backwards. Patterns beyond a limit are refused.
-/

namespace ApiContract.Pattern

open Unicode (ByteRange CodePointSet)

/-- The bytes of one state. -/
def stateWeight : Nat := 32

/-- The bytes of one transition on a range of bytes, in a state with several. -/
def transitionWeight : Nat := 8

/-- The bytes of one way out of a state that forks. -/
def forkWeight : Nat := 4

/-- The heaviest machine that is built. -/
def maxWeight : Nat := 10485760

structure Weight where
  forwards : Nat
  backwards : Nat
deriving DecidableEq, Repr

namespace Weight

def states (count : Nat) : Weight := ⟨count * stateWeight, count * stateWeight⟩

def add (left right : Weight) : Weight :=
  ⟨left.forwards + right.forwards, left.backwards + right.backwards⟩

def times (count : Nat) (weight : Weight) : Weight :=
  ⟨count * weight.forwards, count * weight.backwards⟩

/-- States that fork, with so many ways out in all. -/
def forks (count ways : Nat) : Weight :=
  (states count).add ⟨ways * forkWeight, ways * forkWeight⟩

/-! ## Sets beyond ASCII -/

/-- The states read so far, and those of them that are known by what they accept. -/
structure Sharing where
  weight : Nat := 0
  known : List (List (ByteRange × Nat)) := []

/-- The number of a state with some transitions; equal states are shared. -/
def Sharing.state (sharing : Sharing) (transitions : List (ByteRange × Nat)) : Nat × Sharing :=
  let size := sharing.known.length
  match sharing.known.findIdx? (· == transitions) with
  | some index => (size - index, sharing)
  | none =>
      let heap := match transitions with
        | [_] => 0
        | _ => transitions.length * transitionWeight
      (size + 1, ⟨sharing.weight + stateWeight + heap, transitions :: sharing.known⟩)

/-- Sequences in groups of the same first range, each with what follows it. -/
def groupByFirst : List (List ByteRange) → List (ByteRange × List (List ByteRange))
  | [] => []
  | [] :: rest => groupByFirst rest
  | (first :: tail) :: rest =>
      match groupByFirst rest with
      | (range, tails) :: others =>
          if range = first then (range, (tail :: tails)) :: others
          else (first, [tail]) :: (range, tails) :: others
      | [] => [(first, [tail])]

/-- Shares the states that accept some sequences, and answers the number of the first of them. State
zero accepts. -/
def shareFrom : Nat → List (List ByteRange) → Sharing → Nat × Sharing
  | 0, _, sharing => (0, sharing)
  | depth + 1, sequences, sharing =>
      match groupByFirst sequences with
      | [] => (0, sharing)
      | groups =>
          let (transitions, sharing) := groups.foldl
            (fun (transitions, sharing) (range, tails) =>
              let (target, sharing) := shareFrom depth tails sharing
              (transitions ++ [(range, target)], sharing))
            ([], sharing)
          sharing.state transitions

/-- The states of a machine that reads the last bytes first and shares what it reads last. -/
def backwardsStates (sequences : List (List ByteRange)) : Nat :=
  let paths := sequences.flatMap fun sequence =>
    (List.range sequence.length).map fun count => sequence.take (count + 1)
  (paths.foldl (fun seen path => if seen.head? == some path || seen.contains path then seen else path :: seen) []).length

def ofSet (chars : CodePointSet) : Weight :=
  if chars.isAscii then
    let count := chars.ranges.length
    (states 2).add (if count = 1 then ⟨0, 0⟩ else ⟨count * transitionWeight, count * transitionWeight⟩)
  else
    let sequences := chars.byteSequences
    let (_, sharing) := shareFrom 4 sequences {}
    ⟨stateWeight + sharing.weight,
      (2 + backwardsStates sequences) * stateWeight + sequences.length * forkWeight⟩

end Weight

namespace Regular

/-- The states and forks of a repetition around so many copies of its body. -/
def repetitionWeight (body : Regular) (weight : Weight) (least : Nat) (most : Option Nat) : Weight :=
  match least, most with
  | 0, some 1 => (Weight.forks 1 2).add ((Weight.states 1).add weight)
  | 0, none =>
      if body.consumes then (Weight.forks 1 2).add weight
      else (Weight.forks 2 4).add ((Weight.states 1).add weight)
  | 1, none => (Weight.forks 1 2).add weight
  | least, none => (Weight.forks 1 2).add (weight.times least)
  | least, some most =>
      let copies := (weight.times most).add (if least = 0 then Weight.states 1 else ⟨0, 0⟩)
      if least = most then copies
      else copies.add ((Weight.states 1).add (Weight.forks (most - least) (2 * (most - least))))

mutual

def weight : Regular → Weight
  | .empty => .states 1
  | .char c => .states (Unicode.encodeCode c.toNat).length
  | .set chars => .ofSet chars
  | .anchor _ => .states 1
  | .repetition body least most _ => repetitionWeight body body.weight least most
  | .capture _ body => body.weight.add ⟨2 * stateWeight, 0⟩
  | .concat items => weightOfAll items
  | .alternation items =>
      ((Weight.forks 1 items.length).add (.states 1)).add (weightOfAll items)

def weightOfAll : List Regular → Weight
  | [] => ⟨0, 0⟩
  | item :: rest => item.weight.add (weightOfAll rest)

end

/-- Within the limit in both directions, with the few states around a whole pattern. -/
def isLight (pattern : Regular) : Bool :=
  let weight := pattern.weight.add ((Weight.states 6).add ⟨2 * stateWeight, 0⟩)
  weight.forwards ≤ maxWeight && weight.backwards ≤ maxWeight

end Regular

end ApiContract.Pattern
