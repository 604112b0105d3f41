/-!
Shared builds. Of all callers that want the value of a key the first one builds it, and the others
wait for what it gets; a failed build counts as a value. A caller looks at its slot, or finishes its
build, in one step, and the steps of callers may come in any order.
-/

namespace ApiContract

/-- What a build gave, with the number of the build. -/
structure Shared (ρ : Type) where
  build : Nat
  outcome : ρ
deriving Repr

inductive Slot (ρ : Type) where
  | building (build : Nat)
  | finished (shared : Shared ρ)
deriving Repr

inductive Phase (ρ : Type) where
  | waiting
  | building (build : Nat)
  | returned (shared : Shared ρ)
deriving Repr

structure Caller (κ ρ : Type) where
  key : κ
  build : Unit → ρ
  phase : Phase ρ := .waiting

structure SingleFlight (κ ρ : Type) where
  slots : List (κ × Slot ρ) := []
  /-- The number of builds that were begun. -/
  builds : Nat := 0

namespace Caller

variable {κ ρ : Type}

def enter (caller : Caller κ ρ) (phase : Phase ρ) : Caller κ ρ := { caller with phase }

def result? (caller : Caller κ ρ) : Option (Shared ρ) :=
  match caller.phase with
  | .returned shared => some shared
  | _ => none

end Caller

namespace SingleFlight

variable {κ ρ : Type} [DecidableEq κ]

def slot? (flight : SingleFlight κ ρ) (key : κ) : Option (Slot ρ) :=
  (flight.slots.find? fun entry => entry.1 = key).map Prod.snd

def setSlot (flight : SingleFlight κ ρ) (key : κ) (slot : Slot ρ) : SingleFlight κ ρ :=
  { flight with slots := (key, slot) :: flight.slots.filter fun entry => entry.1 ≠ key }

/-- The finished value of a key. -/
def get? (flight : SingleFlight κ ρ) (key : κ) : Option (Shared ρ) :=
  match flight.slot? key with
  | some (.finished shared) => some shared
  | _ => none

/-- One step of a caller. -/
def poll (flight : SingleFlight κ ρ) (caller : Caller κ ρ) : SingleFlight κ ρ × Caller κ ρ :=
  match caller.phase with
  | .returned _ => (flight, caller)
  | .building build =>
      let shared : Shared ρ := ⟨build, caller.build ()⟩
      (flight.setSlot caller.key (.finished shared), caller.enter (.returned shared))
  | .waiting =>
      match flight.slot? caller.key with
      | some (.finished shared) => (flight, caller.enter (.returned shared))
      | some (.building _) => (flight, caller)
      | none =>
          let begun := { flight with builds := flight.builds + 1 }
          (begun.setSlot caller.key (.building flight.builds), caller.enter (.building flight.builds))

/-- One step of every caller in turn. -/
def round (flight : SingleFlight κ ρ) : List (Caller κ ρ) → SingleFlight κ ρ × List (Caller κ ρ)
  | [] => (flight, [])
  | caller :: rest =>
      let (flight, caller) := flight.poll caller
      let (flight, rest) := flight.round rest
      (flight, caller :: rest)

/-- Two rounds settle all callers when no other build is under way: in the first one each key that
has no value finds its builder, in the second the builders finish before those who wait for them. -/
def settle (flight : SingleFlight κ ρ) (callers : List (Caller κ ρ)) :
    SingleFlight κ ρ × List (Option (Shared ρ)) :=
  let (flight, callers) := flight.round callers
  let (flight, callers) := flight.round callers
  (flight, callers.map Caller.result?)

/-- The value of a key, built if it is not there. -/
def call (flight : SingleFlight κ ρ) (caller : Caller κ ρ) : SingleFlight κ ρ × Option (Shared ρ) :=
  let (flight, results) := flight.settle [caller]
  (flight, results.head?.join)

/-- A flight shown by the number of its builds. -/
def text (flight : SingleFlight κ ρ) : String :=
  "SingleFlight \x7b builds: " ++ Nat.repr flight.builds ++ ", .. \x7d"

end SingleFlight

end ApiContract
