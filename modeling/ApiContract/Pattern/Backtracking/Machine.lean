import ApiContract.Pattern.Backtracking.Plan

/-!
Backtracking. A run has an agenda of tasks, and each choice that it makes leaves another run behind,
to be taken up when it fails. Failures and waiting runs are limited; beyond a limit nothing matches.
-/

namespace ApiContract.Pattern.Backtracking

open Unicode (CodePointSet)

inductive Task where
  | node (node : Node)
  /-- Further copies of a body after some. -/
  | loop (body : Node) (least : Nat) (most : Option Nat) (greedy : Bool) (guard : Option Nat)
      (count : Nat)
  | closeGroup (number : Nat)
  | goBack (count : Nat)
  | returnTo (position : Nat)
  /-- Notes the number of waiting runs. -/
  | note
  /-- Drops the waiting runs beyond the number that was noted last. -/
  | commit
  /-- Drops the waiting runs beyond a number, and fails. -/
  | refuse (waiting : Nat)

/-- The marks hold where groups start and end, and where guarded copies start. -/
structure Run where
  agenda : List Task
  position : Nat := 0
  marks : Array (Option Nat)
  /-- Numbers of waiting runs, the last one first. -/
  noted : List Nat := []

inductive Outcome where
  | fails
  | goesOn (run : Run)
  /-- Goes on with one run and leaves another behind. -/
  | splits (run later : Run)
  /-- Goes on, with fewer waiting runs. -/
  | commits (run : Run) (waiting : Nat)
  /-- Fails, with fewer waiting runs. -/
  | refuses (waiting : Nat)

namespace Run

def mark (run : Run) (index : Nat) : Option Nat := (run.marks[index]?).join

def setMark (run : Run) (index : Nat) : Run :=
  { run with marks := run.marks.setIfInBounds index (some run.position) }

/-- Puts tasks before the others. -/
def first (run : Run) (tasks : List Task) : Run := { run with agenda := tasks ++ run.agenda }

def goesOnIf (run : Run) (condition : Bool) : Outcome := if condition then .goesOn run else .fails

/-- The text holds some characters from a position on. -/
def holdsAt (text : Array Char) (position : Nat) : List Char → Bool
  | [] => true
  | c :: rest => text[position]? == some c && holdsAt text (position + 1) rest

/-- So many characters from a position on are the same as from another one on. -/
def repeatsAt (text : Array Char) (start position : Nat) : Nat → Bool
  | 0 => true
  | count + 1 =>
      position < text.size && text[start]? == text[position]?
        && repeatsAt text (start + 1) (position + 1) count

/-- Matches what a group matched last; a group that was never closed matches nothing. -/
def backReference (run : Run) (text : Array Char) (group : Nat) : Outcome :=
  match run.mark (2 * group), run.mark (2 * group + 1) with
  | some start, some stop =>
      let count := stop - start
      { run with position := run.position + count }.goesOnIf (repeatsAt text start run.position count)
  | _, _ => .fails

/-- Another copy of a body, or what follows it: both are possible between the least and the most
number of copies. A guard refuses a copy that starts where the last guarded one did. -/
def loop (run : Run) (body : Node) (least : Nat) (most : Option Nat) (greedy : Bool)
    (guard : Option Nat) (count : Nat) : Outcome :=
  let again (run : Run) : Run :=
    run.first [.node body, .loop body least most greedy guard (count + 1)]
  if most == some count then .goesOn run
  else if count > 0 && guard.any fun index => run.mark index == some run.position then .fails
  else if count < least then .goesOn (again run)
  else
    let run := guard.elim run run.setMark
    if greedy then .splits (again run) run else .splits run (again run)

/-- Takes a character of a set. -/
def takeOne (run : Run) (text : Array Char) (chars : CodePointSet) : Outcome :=
  match text[run.position]? with
  | some c => { run with position := run.position + 1 }.goesOnIf (chars.contains c)
  | none => .fails

/-- Matches a node, with so many other runs waiting. -/
def visit (run : Run) (text : Array Char) (waiting : Nat) : Node → Outcome
  | .empty => .goesOn run
  | .text chars =>
      { run with position := run.position + chars.length }.goesOnIf
        (holdsAt text run.position chars)
  | .one chars => run.takeOne text chars
  | .anchor kind => run.goesOnIf (kind.holds text run.position)
  | .regular program =>
      match program.end? text run.position with
      | some position => .goesOn { run with position }
      | none => .fails
  | .concat items => .goesOn (run.first (items.map .node))
  | .alternation [] => .fails
  | .alternation [item] => .goesOn (run.first [.node item])
  | .alternation (item :: rest) =>
      .splits (run.first [.node item]) (run.first [.node (.alternation rest)])
  | .group number body => .goesOn ((run.setMark (2 * number)).first [.node body, .closeGroup number])
  | .repetition body least most greedy guard => run.loop body least most greedy guard 0
  | .look back false body => .goesOn (run.first [.goBack back, .node body, .returnTo run.position])
  | .look back true body => .splits (run.first [.goBack back, .node body, .refuse waiting]) run
  | .atomic body => .goesOn (run.first [.note, .node body, .commit])
  | .backReference group => run.backReference text group
  | .groupMatched group => run.goesOnIf (run.mark (2 * group)).isSome
  | .conditional condition yes no =>
      let noted := { run with noted := waiting :: run.noted }
      .splits (noted.first [.node condition, .commit, .node yes]) (noted.first [.node no])
  | .searchStart => run.goesOnIf (run.position == 0)

/-- Performs a task, with so many other runs waiting. -/
def perform (run : Run) (text : Array Char) (waiting : Nat) : Task → Outcome
  | .node node => run.visit text waiting node
  | .loop body least most greedy guard count => run.loop body least most greedy guard count
  | .closeGroup number => .goesOn (run.setMark (2 * number + 1))
  | .goBack count => { run with position := run.position - count }.goesOnIf (count ≤ run.position)
  | .returnTo position => .goesOn { run with position }
  | .note => .goesOn { run with noted := waiting :: run.noted }
  | .commit =>
      match run.noted with
      | count :: noted => .commits { run with noted } count
      | [] => .goesOn run
  | .refuse count => .refuses count

end Run

/-- A run beyond so many failures is given up. -/
def maxFailures : Nat := 1000000

/-- No more runs than this wait at a time. -/
def maxWaiting : Nat := 1000000

/-- No run takes more steps than this. -/
def maxSteps : Nat := 10000000000

/-- Whether a run, or after its failure one of the waiting ones, comes to the end of its agenda. The
number of waiting runs and that of failures so far are given. -/
def succeeds (text : Array Char) : Nat → Run → List Run → Nat → Nat → Bool
  | 0, _, _, _, _ => false
  | steps + 1, run, others, waiting, failures =>
      match run.agenda with
      | [] => true
      | task :: agenda =>
          let resume (others : List Run) (waiting : Nat) : Bool :=
            match others with
            | [] => false
            | next :: others =>
                if failures < maxFailures then
                  succeeds text steps next others (waiting - 1) (failures + 1)
                else false
          match { run with agenda }.perform text waiting task with
          | .fails => resume others waiting
          | .goesOn run => succeeds text steps run others waiting failures
          | .splits run later =>
              if waiting < maxWaiting then
                succeeds text steps run (later :: others) (waiting + 1) failures
              else false
          | .commits run count =>
              succeeds text steps run (others.drop (waiting - count)) count failures
          | .refuses count => resume (others.drop (waiting - count)) count

/-- Some part of the text matches: the pattern follows as few characters as possible. -/
def Plan.occursIn (plan : Plan) (text : Array Char) : Bool :=
  let start : Run :=
    { agenda := [.loop (Node.anyChar true) 0 none false none 0, .node (.group 0 plan.root)]
      marks := Array.replicate plan.marks none }
  succeeds text maxSteps start [] 0 0

end ApiContract.Pattern.Backtracking
