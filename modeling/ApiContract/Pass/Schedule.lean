import ApiContract.Pass.Basic

/-!
The order of passes. Within a scope the next pass is always the first registered one that waits for
no other; when every remaining pass waits, some of them wait in a cycle.
-/

namespace ApiContract

structure Schedule where
  document : List Pass
  global : List Pass

namespace Schedule

/-- The first name that an earlier one equals. -/
def firstRepeated? : List String → List String → Option String
  | _, [] => none
  | seen, name :: rest => if seen.contains name then some name else firstRepeated? (name :: seen) rest

/-- A pass waits as long as one that has to come first remains, be it itself. -/
def waits (remaining : List Pass) (pass : Pass) : Bool :=
  remaining.any fun other => other.precedes pass

/-- Takes passes that wait for no other until none is left; answers them in order, and the passes that
remain. -/
def drain : Nat → List Pass → List Pass × List Pass
  | 0, remaining => ([], remaining)
  | fuel + 1, remaining =>
      match remaining.find? fun pass => !waits remaining pass with
      | none => ([], remaining)
      | some next =>
          let (later, stuck) := drain fuel (remaining.eraseP (·.name == next.name))
          (next :: later, stuck)

/-- The passes of a scope in order. -/
def orderOf (scope : Scope) (passes : List Pass) : Except ScheduleError (List Pass) :=
  let members := passes.filter fun pass => pass.scope == scope
  match drain members.length members with
  | (order, []) => .ok order
  | (_, stuck) => .error (.dependencyCycle scope.text (stuck.map (·.name)))

def ofPasses (passes : List Pass) : Except ScheduleError Schedule :=
  match firstRepeated? [] (passes.map (·.name)) with
  | some name => .error (.duplicatePass name)
  | none => do
      let document ← orderOf .document passes
      let global ← orderOf .global passes
      return { document, global }

end Schedule

end ApiContract
