import ApiContract.Pattern.Regular

/-!
Regular patterns as programs. Code runs from one instruction to the next; jumps and forks are
relative, so the code of a sequence is the code of its parts in a row. All ways through a program
advance together, a character at a time, in order of preference, and of two ways that meet only
the preferred one goes on. A search so takes time in the product of the sizes of program and text.
-/

namespace ApiContract.Pattern

open Unicode (CodePointSet)

inductive Instruction where
  | char (c : Char)
  | set (chars : CodePointSet)
  | anchor (kind : Anchor)
  | jump (distance : Int)
  /-- Two ways, the preferred one first. -/
  | fork (first second : Int)
  | accept
deriving Inhabited

abbrev Code := List Instruction

namespace Code

/-- Forks into the code that follows at once, and another way; greed prefers the former. -/
def fork (greedy : Bool) (distance : Nat) : Instruction :=
  if greedy then .fork 1 distance else .fork distance 1

/-- Forks back by some distance, or goes on. -/
def forkBack (greedy : Bool) (distance : Nat) : Instruction :=
  if greedy then .fork (-distance) 1 else .fork 1 (-distance)

def times (count : Nat) (body : Code) : Code := (List.replicate count body).flatten

def optional (greedy : Bool) (body : Code) : Code := fork greedy (body.length + 1) :: body

/-- One copy or more. -/
def plus (greedy : Bool) (body : Code) : Code := body ++ [forkBack greedy body.length]

/-- Any number of copies of a body that is never empty. -/
def star (greedy : Bool) (body : Code) : Code :=
  fork greedy (body.length + 2) :: body ++ [.jump (-(body.length + 1))]

/-- At most so many copies; each may be the last. -/
def atMost (greedy : Bool) (body : Code) : Nat → Code
  | 0 => []
  | count + 1 => fork greedy ((count + 1) * (body.length + 1)) :: body ++ atMost greedy body count

/-- A repetition. Where a body may be empty, an empty copy ends an unlimited repetition. -/
def repetition (consumes greedy : Bool) (body : Code) (least : Nat) : Option Nat → Code
  | some most => times least body ++ atMost greedy body (most - least)
  | none =>
      if least > 0 then times (least - 1) body ++ plus greedy body
      else if consumes then star greedy body
      else optional greedy (plus greedy body)

def choice (first second : Code) : Code :=
  .fork 1 (first.length + 2) :: first ++ .jump (second.length + 1) :: second

end Code

namespace Regular

mutual

def code : Regular → Code
  | .empty => []
  | .char c => [.char c]
  | .set chars => [.set chars]
  | .anchor kind => [.anchor kind]
  | .repetition body least most greedy => Code.repetition body.consumes greedy body.code least most
  | .capture _ body => body.code
  | .concat items => codeOfSequence items
  | .alternation items => codeOfChoices items

def codeOfSequence : List Regular → Code
  | [] => []
  | item :: rest => item.code ++ codeOfSequence rest

def codeOfChoices : List Regular → Code
  | [] => []
  | [item] => item.code
  | item :: rest => Code.choice item.code (codeOfChoices rest)

end

end Regular

/-- The code of a pattern, with an accepting instruction at its end. -/
structure Program where
  instructions : Array Instruction

namespace Program

def ofRegular (pattern : Regular) : Program := ⟨(pattern.code ++ [Instruction.accept]).toArray⟩

/-- The instruction some distance from an address. -/
def target (address : Nat) (distance : Int) : Nat := (address + distance).toNat

/-- The ways at a position: the addresses where one waits for a character or accepts, in order of
preference, and for each address the last position that it was visited at, plus one. -/
structure Frontier where
  waiting : Array Nat := #[]
  visited : Array Nat

/-- Follows the ways from some addresses until they wait for a character. -/
def follow (program : Program) (text : Array Char) (position : Nat) :
    Nat → List Nat → Frontier → Frontier
  | 0, _, frontier => frontier
  | _ + 1, [], frontier => frontier
  | fuel + 1, address :: rest, frontier =>
      if frontier.visited[address]? == some (position + 1) then
        follow program text position fuel rest frontier
      else
        let ⟨waiting, visited⟩ := frontier
        let visited := visited.setIfInBounds address (position + 1)
        match program.instructions[address]? with
        | some (.jump distance) =>
            follow program text position fuel (target address distance :: rest) ⟨waiting, visited⟩
        | some (.fork first second) =>
            follow program text position fuel
              (target address first :: target address second :: rest) ⟨waiting, visited⟩
        | some (.anchor kind) =>
            let rest := if kind.holds text position then (address + 1) :: rest else rest
            follow program text position fuel rest ⟨waiting, visited⟩
        | some _ => follow program text position fuel rest ⟨waiting.push address, visited⟩
        | none => follow program text position fuel rest ⟨waiting, visited⟩

/-- The frontier at a position. Each address is visited once, and a visit adds two at most. -/
def reach (program : Program) (text : Array Char) (position : Nat) (starts : List Nat)
    (visited : Array Nat) : Frontier :=
  follow program text position (2 * program.instructions.size + starts.length + 1) starts
    { visited }

def accepts (program : Program) (address : Nat) : Bool :=
  match program.instructions[address]? with
  | some .accept => true
  | _ => false

/-- Where a way goes on after a character. -/
def step? (program : Program) (c : Char) (address : Nat) : Option Nat :=
  match program.instructions[address]? with
  | some (.char expected) => if c == expected then some (address + 1) else none
  | some (.set chars) => if chars.contains c then some (address + 1) else none
  | _ => none

/-- Whether a match ends at the frontier of some position or after it. A match may start anywhere. -/
def occursFrom (program : Program) (text : Array Char) :
    Nat → Nat → List Nat → Array Nat → Bool
  | 0, _, _, _ => false
  | fuel + 1, position, starts, visited =>
      let frontier := program.reach text position (starts ++ [0]) visited
      if frontier.waiting.any program.accepts then true
      else match text[position]? with
        | some c =>
            occursFrom program text fuel (position + 1)
              (frontier.waiting.toList.filterMap (program.step? c)) frontier.visited
        | none => false

/-- Some part of the text matches. -/
def occursIn (program : Program) (text : Array Char) : Bool :=
  program.occursFrom text (text.size + 1) 0 [] (Array.replicate program.instructions.size 0)

/-- The ways that are preferred to the first one that accepts, and whether there is such a one. -/
def preferred (program : Program) (frontier : Frontier) : List Nat × Bool :=
  let preferred := frontier.waiting.toList.takeWhile fun address => !program.accepts address
  (preferred, preferred.length < frontier.waiting.size)

def endFrom? (program : Program) (text : Array Char) :
    Nat → Nat → List Nat → Array Nat → Option Nat → Option Nat
  | 0, _, _, _, found => found
  | fuel + 1, position, starts, visited, found =>
      let frontier := program.reach text position starts visited
      let (waiting, accepted) := program.preferred frontier
      let found := if accepted then some position else found
      match waiting, text[position]? with
      | _ :: _, some c =>
          endFrom? program text fuel (position + 1) (waiting.filterMap (program.step? c))
            frontier.visited found
      | _, _ => found

/-- Where the preferred match that starts at a position ends. -/
def end? (program : Program) (text : Array Char) (start : Nat) : Option Nat :=
  program.endFrom? text (text.size + 1 - start) start [0]
    (Array.replicate program.instructions.size 0) none

end Program

end ApiContract.Pattern
