import ApiContract.Proofs.Stateful
import ApiContract.Validator.Evaluation

/-!
How a visit comes to its answer: one equivalence for each part of the evaluation, from lists of
visits and branches up to the visit of a clause (`visit_run_iff`).
-/

namespace ApiContract.Validator

open Json (Value)

namespace Guard

@[simp] theorem contains_eq_true (guard : Guard) (mark : Mark) :
    guard.contains mark = true ↔ mark ∈ guard.marks := by
  simp [contains]

@[simp] theorem marks_enter (guard : Guard) (mark : Mark) :
    (guard.enter mark).marks = mark :: guard.marks := rfl

theorem ext {guard other : Guard} (marks : guard.marks = other.marks) (undo : guard.undo = other.undo) :
    guard = other := by
  cases guard
  cases other
  cases marks
  cases undo
  rfl

/-- A guard has got some marks, latest first: all of them are new, and on the list as they are in the set. -/
structure Gains (before after : Guard) (made : List Mark) : Prop where
  marks : after.marks = made ++ before.marks
  undo : after.undo = made ++ before.undo
  fresh : ∀ mark ∈ made, mark ∉ before.marks
  distinct : made.Nodup

namespace Gains

variable {before middle after : Guard} {made later : List Mark}

theorem refl (guard : Guard) : guard.Gains guard [] := ⟨rfl, rfl, nofun, .nil⟩

theorem trans (first : before.Gains middle made) (second : middle.Gains after later) :
    before.Gains after (later ++ made) := by
  have apart : ∀ mark ∈ later, mark ∉ made ∧ mark ∉ before.marks := by
    intro mark member
    simpa [first.marks] using second.fresh mark member
  refine ⟨?_, ?_, ?_, ?_⟩
  · rw [second.marks, first.marks, List.append_assoc]
  · rw [second.undo, first.undo, List.append_assoc]
  · intro mark member
    rcases List.mem_append.mp member with new | old
    · exact (apart mark new).2
    · exact first.fresh mark old
  · refine List.nodup_append.mpr ⟨second.distinct, first.distinct, ?_⟩
    rintro mark new _ old rfl
    exact (apart mark new).1 old

theorem enter {guard : Guard} {mark : Mark} (new : mark ∉ guard.marks) : guard.Gains (guard.enter mark) [mark] :=
  ⟨rfl, rfl, by simpa using new, by simp⟩

/-- Giving back what was made since takes a guard to what it was. -/
theorem release (gains : before.Gains after made) : after.release before.size = before := by
  have count : after.size - before.size = made.length := by
    simp [size, gains.undo]
  have removed : (made ++ before.marks).removeAll made = before.marks := by
    have none : made.filter (fun mark => !made.elem mark) = [] := by simp
    have all : before.marks.filter (fun mark => !made.elem mark) = before.marks := by
      rw [List.filter_eq_self]
      intro mark old
      simpa using fun new => gains.fresh mark new old
    rw [List.removeAll, List.filter_append, none, all, List.nil_append]
  apply ext
  · simp [Guard.release, count, gains.marks, gains.undo, removed]
  · simp [Guard.release, count, gains.undo]

end Gains

end Guard

theorem collect_run_iff {α : Type} (items : List α) (visit : α → Visiting (List Failure))
    (before : Guard) (failures : List Failure) (after : Guard) :
    (collect items visit).run before = some (failures, after) ↔
      ∃ results, Threaded (fun item before result after => (visit item).run before = some (result, after))
        items before results after ∧ failures = results.flatten := by
  simp only [collect, StateT.run_bind_eq_some, StateT.run_pure_eq_some, Threaded.of_mapM,
    Prod.mk.injEq]
  constructor
  · rintro ⟨results, _, run, rfl, rfl⟩
    exact ⟨results, run, rfl⟩
  · rintro ⟨results, run, rfl⟩
    exact ⟨results, after, run, rfl, rfl⟩

theorem branch_run_iff (visit : Visiting (List Failure)) (before : Guard) (failures : List Failure)
    (after : Guard) :
    (branch visit).run before = some (failures, after) ↔
      ∃ middle, visit.run before = some (failures, middle) ∧
        after = if failures = [] then middle else middle.release before.size := by
  have sized : (get : Visiting Guard).run before = some (before, before) := rfl
  simp only [branch, StateT.run_bind_eq_some]
  constructor
  · rintro ⟨_, _, got, found, middle, ran, later⟩
    cases sized.symm.trans got
    by_cases passed : found = []
    · simp only [passed, List.isEmpty_nil, if_true, StateT.run_pure_eq_some, Prod.mk.injEq] at later
      obtain ⟨rfl, rfl⟩ := later
      exact ⟨middle, passed ▸ ran, by simp⟩
    · have failed : found.isEmpty = false := by simpa using passed
      simp only [failed, Bool.false_eq_true, if_false, StateT.run_bind_eq_some,
        StateT.run_pure_eq_some, Prod.mk.injEq] at later
      obtain ⟨_, released, modified, rfl, rfl⟩ := later
      refine ⟨middle, ran, ?_⟩
      rw [if_neg passed]
      cases modified
      rfl
  · rintro ⟨middle, ran, rfl⟩
    refine ⟨before, before, sized, failures, middle, ran, ?_⟩
    by_cases passed : failures = []
    · simp [passed]
    · have failed : failures.isEmpty = false := by simpa using passed
      simp only [failed, Bool.false_eq_true, if_false, if_neg passed, StateT.run_bind_eq_some]
      exact ⟨(), _, rfl, rfl⟩

theorem firstPassing_nil_run_iff (visit : Nat → Visiting (List Failure)) (before : Guard)
    (outcome : Option (List Failure)) (after : Guard) :
    (firstPassing visit []).run before = some (outcome, after) ↔
      outcome = some [] ∧ after = before := by
  rw [firstPassing, StateT.run_pure_eq_some, Prod.mk.injEq]
  exact ⟨fun ⟨same, guard⟩ => ⟨same.symm, guard.symm⟩, fun ⟨same, guard⟩ => ⟨same.symm, guard.symm⟩⟩

theorem firstPassing_cons_run_iff (visit : Nat → Visiting (List Failure)) (index : Nat)
    (rest : List Nat) (before : Guard) (outcome : Option (List Failure)) (after : Guard) :
    (firstPassing visit (index :: rest)).run before = some (outcome, after) ↔
      (branch (visit index)).run before = some ([], after) ∧ outcome = none ∨
      ∃ failures middle later, failures ≠ [] ∧
        (branch (visit index)).run before = some (failures, middle) ∧
        (firstPassing visit rest).run middle = some (later, after) ∧
        outcome = later.map (failures ++ ·) := by
  simp only [firstPassing, StateT.run_bind_eq_some]
  constructor
  · rintro ⟨failures, middle, ran, later⟩
    by_cases passed : failures = []
    · simp only [passed, List.isEmpty_nil, if_true, StateT.run_pure_eq_some, Prod.mk.injEq] at later
      obtain ⟨rfl, rfl⟩ := later
      exact .inl ⟨passed ▸ ran, rfl⟩
    · have failed : failures.isEmpty = false := by simpa using passed
      simp only [failed, Bool.false_eq_true, if_false, StateT.run_bind_eq_some,
        StateT.run_pure_eq_some, Prod.mk.injEq] at later
      obtain ⟨outcome, _, others, rfl, rfl⟩ := later
      exact .inr ⟨failures, middle, outcome, passed, ran, others, rfl⟩
  · rintro (⟨ran, rfl⟩ | ⟨failures, middle, later, failed, ran, others, rfl⟩)
    · exact ⟨[], after, ran, by simp⟩
    · have notEmpty : failures.isEmpty = false := by simpa using failed
      refine ⟨failures, middle, ran, ?_⟩
      simp only [notEmpty, Bool.false_eq_true, if_false, StateT.run_bind_eq_some,
        StateT.run_pure_eq_some, Prod.mk.injEq]
      exact ⟨later, after, others, rfl, rfl⟩

namespace Clause

/-- The clause that the value of a key is visited with. -/
def clauseFor? (clause : Clause) (key : String) : Option Nat :=
  match clause.property? key, clause.undeclared with
  | some child, _ => some child
  | none, some (.clause index) => some index
  | none, _ => none

/-- A key that is not declared where no other keys are allowed. -/
def forbids (clause : Clause) (key : String) : Bool :=
  (clause.property? key).isNone && clause.undeclared == some (.allowed false)

theorem forbids_eq_false_of_clauseFor? {clause : Clause} {key : String} {child : Nat}
    (found : clause.clauseFor? key = some child) : clause.forbids key = false := by
  cases declared : clause.property? key with
  | some _ => simp [forbids, declared]
  | none =>
      rcases others : clause.undeclared with _ | ⟨flag | index⟩ <;> simp_all [clauseFor?, forbids]

theorem visitMember_run_iff (clause : Clause) (visit : Visit) (path key : String) (value : Value)
    (before : Guard) (failures : List Failure) (after : Guard) :
    (clause.visitMember visit path (key, value)).run before = some (failures, after) ↔
      match clause.clauseFor? key with
      | some index => (visit index value (Pointer.child path key)).run before = some (failures, after)
      | none =>
          failures = (if clause.forbids key then [clause.additionalFailure key path] else []) ∧
            after = before := by
  have fixed (found : List Failure) :
      (pure found : Visiting (List Failure)).run before = some (failures, after) ↔
        failures = found ∧ after = before := by
    rw [StateT.run_pure_eq_some, Prod.mk.injEq]
    exact ⟨fun ⟨same, guard⟩ => ⟨same.symm, guard.symm⟩, fun ⟨same, guard⟩ => ⟨same.symm, guard.symm⟩⟩
  rcases declared : clause.property? key with _ | child
  · rcases others : clause.undeclared with _ | ⟨flag | index⟩
    · simpa [visitMember, clauseFor?, forbids, declared, others] using fixed []
    · cases flag
      · simpa [visitMember, clauseFor?, forbids, declared, others] using
          fixed [clause.additionalFailure key path]
      · simpa [visitMember, clauseFor?, forbids, declared, others] using fixed []
    · simp [visitMember, clauseFor?, declared, others]
  · simp [visitMember, clauseFor?, declared]

/-- The failures that a clause finds in the members and items without visiting them. -/
def insideFailures (clause : Clause) (clauses : Array Clause) (direction : Direction) (value : Value)
    (path : String) (visited : List Failure) : List Failure :=
  match value with
  | .object entries =>
      clause.requiredFailures clauses direction entries path ++ clause.dependencyFailures entries path
        ++ visited
  | .array items => visited ++ clause.uniqueFailures items path
  | _ => visited

/-- How the visits of the members of an object or of the items of an array are answered. -/
inductive Entered (clause : Clause) (visit : Visit) (path : String) :
    Value → Guard → List Failure → Guard → Prop
  | object {entries before results after} :
      Threaded (fun entry before result after =>
        (clause.visitMember visit path entry).run before = some (result, after))
        entries before results after →
      Entered clause visit path (.object entries) before results.flatten after
  | array {items index before results after} : clause.items = some index →
      Threaded (fun item before result after =>
        (visit index item.1 (Pointer.item path item.2)).run before = some (result, after))
        items.zipIdx before results after →
      Entered clause visit path (.array items) before results.flatten after
  | unlooked {value before} : value.isObject = false → (value.isArray = true → clause.items = none) →
      Entered clause visit path value before [] before

theorem visitInside_run_iff (clause : Clause) (clauses : Array Clause) (direction : Direction)
    (visit : Visit) (value : Value) (path : String) (before : Guard) (failures : List Failure)
    (after : Guard) :
    (clause.visitInside clauses direction visit value path).run before = some (failures, after) ↔
      ∃ visited, Entered clause visit path value before visited after ∧
        failures = clause.insideFailures clauses direction value path visited := by
  cases value with
  | object entries =>
      simp only [visitInside, StateT.run_bind_eq_some, StateT.run_pure_eq_some, Prod.mk.injEq,
        collect_run_iff]
      constructor
      · rintro ⟨_, _, ⟨results, run, rfl⟩, rfl, rfl⟩
        exact ⟨results.flatten, .object run, rfl⟩
      · rintro ⟨_, run | _ | ⟨scalar, _⟩, rfl⟩
        · exact ⟨_, after, ⟨_, run, rfl⟩, rfl, rfl⟩
        · cases scalar
  | array items =>
      simp only [visitInside, visitItems, StateT.run_bind_eq_some, StateT.run_pure_eq_some,
        Prod.mk.injEq]
      rcases asked : clause.items with _ | index
      · simp only [StateT.run_pure_eq_some, Prod.mk.injEq]
        constructor
        · rintro ⟨_, _, ⟨rfl, rfl⟩, rfl, rfl⟩
          exact ⟨[], .unlooked rfl (fun _ => asked), rfl⟩
        · rintro ⟨_, _ | ⟨found, _⟩ | _, rfl⟩
          · rw [asked] at found
            contradiction
          · exact ⟨[], before, ⟨rfl, rfl⟩, rfl, rfl⟩
      · simp only [collect_run_iff]
        constructor
        · rintro ⟨_, _, ⟨results, run, rfl⟩, rfl, rfl⟩
          exact ⟨results.flatten, .array asked run, rfl⟩
        · rintro ⟨_, _ | ⟨found, run⟩ | ⟨_, unasked⟩, rfl⟩
          · cases asked.symm.trans found
            exact ⟨_, after, ⟨_, run, rfl⟩, rfl, rfl⟩
          · rw [unasked rfl] at asked
            contradiction
  | null | bool flag | number n | string text =>
      simp only [visitInside, StateT.run_pure_eq_some, Prod.mk.injEq]
      constructor
      · rintro ⟨rfl, rfl⟩
        exact ⟨[], .unlooked rfl (fun array => by cases array), rfl⟩
      · rintro ⟨_, _ | _ | _, rfl⟩
        exact ⟨rfl, rfl⟩

theorem visitAnyOf_run_iff (clause : Clause) (visit : Visit) (value : Value) (path : String)
    (before : Guard) (failures : List Failure) (after : Guard) :
    (clause.visitAnyOf visit value path).run before = some (failures, after) ↔
      clause.anyOf = [] ∧ failures = [] ∧ after = before ∨
      clause.anyOf ≠ [] ∧ ∃ outcome,
        (firstPassing (fun index => visit index value path) clause.anyOf).run before =
          some (outcome, after) ∧
        failures = match outcome with
          | none => []
          | some found => found ++ [clause.fail .anyOf .anyOfMissing path .none] := by
  by_cases unasked : clause.anyOf = []
  · simp [visitAnyOf, unasked, eq_comm]
  · have asked : clause.anyOf.isEmpty = false := by simpa using unasked
    simp only [visitAnyOf, asked, Bool.false_eq_true, if_false, unasked, ne_eq, not_false_eq_true,
      false_and, true_and, false_or, StateT.run_bind_eq_some]
    constructor
    · rintro ⟨outcome, middle, ran, later⟩
      cases outcome with
      | none =>
          cases (StateT.run_pure_eq_some _ _ _).mp later
          exact ⟨none, ran, rfl⟩
      | some found =>
          cases (StateT.run_pure_eq_some _ _ _).mp later
          exact ⟨some found, ran, rfl⟩
    · rintro ⟨outcome, ran, rfl⟩
      refine ⟨outcome, after, ran, ?_⟩
      cases outcome <;> rfl

/-- What the outcomes of all branches of `oneOf` add up to. -/
def oneOfFailures (clause : Clause) (path : String) (outcomes : List (List Failure)) : List Failure :=
  match (outcomes.filter (·.isEmpty)).length with
  | 0 => outcomes.flatten ++ [clause.fail .oneOf .oneOfMissing path .none]
  | 1 => []
  | _ => [clause.fail .oneOf .oneOfMultiple path .none]

theorem visitOneOf_run_iff (clause : Clause) (visit : Visit) (value : Value) (path : String)
    (before : Guard) (failures : List Failure) (after : Guard) :
    (clause.visitOneOf visit value path).run before = some (failures, after) ↔
      clause.oneOf = [] ∧ failures = [] ∧ after = before ∨
      clause.oneOf ≠ [] ∧ ∃ outcomes,
        Threaded (fun index before result after =>
          (branch (visit index value path)).run before = some (result, after))
          clause.oneOf before outcomes after ∧
        failures = clause.oneOfFailures path outcomes := by
  by_cases unasked : clause.oneOf = []
  · simp [visitOneOf, unasked, eq_comm]
  · have asked : clause.oneOf.isEmpty = false := by simpa using unasked
    simp only [visitOneOf, asked, Bool.false_eq_true, if_false, unasked, ne_eq, not_false_eq_true,
      false_and, true_and, false_or, StateT.run_bind_eq_some, Threaded.of_mapM]
    have counted (outcomes : List (List Failure)) (middle : Guard) :
        (match (outcomes.filter (·.isEmpty)).length with
          | 0 => pure (outcomes.flatten ++ [clause.fail .oneOf .oneOfMissing path .none])
          | 1 => pure []
          | _ => pure [clause.fail .oneOf .oneOfMultiple path .none] :
            Visiting (List Failure)).run middle =
          some (clause.oneOfFailures path outcomes, middle) := by
      unfold oneOfFailures
      split <;> rfl
    constructor
    · rintro ⟨outcomes, middle, ran, later⟩
      cases (counted outcomes middle).symm.trans later
      exact ⟨outcomes, ran, rfl⟩
    · rintro ⟨outcomes, ran, rfl⟩
      exact ⟨outcomes, after, ran, counted outcomes after⟩

/-- How the dispatch of a value is answered. -/
inductive Routed (root : Clause) (clauses : Array Clause) (visit : Visit) (index : Nat) (path : String) :
    Value → Guard → List Failure → Guard → Prop
  | idle {value before} : root.dispatch = none ∨ value.isObject = false →
      Routed root clauses visit index path value before [] before
  | again {dispatch entries before} : root.dispatch = some dispatch → (index, path) ∈ before.marks →
      Routed root clauses visit index path (.object entries) before [] before
  | variant {dispatch entries before chosen failures after} : root.dispatch = some dispatch →
      (index, path) ∉ before.marks → variant? dispatch entries = some chosen →
      (visit chosen (.object entries) path).run (before.enter (index, path)) = some (failures, after) →
      Routed root clauses visit index path (.object entries) before
        (failures ++ root.closureFailures (clauses.getD chosen {}) entries path) after
  | lenient {dispatch entries before} : root.dispatch = some dispatch →
      (index, path) ∉ before.marks → variant? dispatch entries = none →
      Routed root clauses visit index path (.object entries) before
        (root.closureFailures root entries path) (before.enter (index, path))

theorem visitDispatch_run_iff (root : Clause) (clauses : Array Clause) (visit : Visit) (index : Nat)
    (value : Value) (path : String) (before : Guard) (failures : List Failure) (after : Guard) :
    (root.visitDispatch clauses visit index value path).run before = some (failures, after) ↔
      Routed root clauses visit index path value before failures after := by
  have idle (unrouted : root.dispatch = none ∨ value.isObject = false) :
      (root.visitDispatch clauses visit index value path).run before = some (failures, after) ↔
        Routed root clauses visit index path value before failures after := by
    have run : (root.visitDispatch clauses visit index value path).run before = some ([], before) := by
      unfold visitDispatch
      split
      next routes => simp [routes, Value.isObject] at unrouted
      next => rfl
    rw [run]
    constructor
    · rintro ⟨⟩
      exact .idle unrouted
    · rintro (_ | routes | routes | routes)
      · rfl
      all_goals simp [routes, Value.isObject] at unrouted
  rcases routes : root.dispatch with _ | dispatch
  · exact idle (.inl routes)
  cases value with
  | object entries =>
      have got : (get : Visiting Guard).run before = some (before, before) := rfl
      have entered : (modify (·.enter (index, path)) : Visiting PUnit).run before =
          some ((), before.enter (index, path)) := rfl
      simp only [visitDispatch, routes, StateT.run_bind_eq_some]
      by_cases seen : (index, path) ∈ before.marks
      · constructor
        · rintro ⟨_, _, same, later⟩
          cases got.symm.trans same
          rw [if_pos ((Guard.contains_eq_true before _).mpr seen)] at later
          cases later
          exact .again routes seen
        · rintro (unrouted | _ | ⟨_, fresh⟩ | ⟨_, fresh⟩)
          · simp [routes, Value.isObject] at unrouted
          · refine ⟨before, before, got, ?_⟩
            rw [if_pos ((Guard.contains_eq_true before _).mpr seen)]
            rfl
          · exact absurd seen fresh
          · exact absurd seen fresh
      · have fresh : ¬before.contains (index, path) = true := by simpa using seen
        constructor
        · rintro ⟨_, _, same, later⟩
          cases got.symm.trans same
          rw [if_neg fresh] at later
          change StateT.run (match variant? dispatch entries with
            | some chosen => do
                let found ← visit chosen (.object entries) path
                return found ++ root.closureFailures (clauses.getD chosen {}) entries path
            | none => return root.closureFailures root entries path)
            (before.enter (index, path)) = some (failures, after) at later
          rcases chosen : variant? dispatch entries with _ | variant
          · rw [chosen] at later
            cases later
            exact .lenient routes seen chosen
          · rw [chosen] at later
            obtain ⟨found, last, ran, rest⟩ := (StateT.run_bind_eq_some _ _ _ _).mp later
            cases (StateT.run_pure_eq_some _ _ _).mp rest
            exact .variant routes seen chosen ran
        · intro routed
          refine ⟨before, before, got, ?_⟩
          rw [if_neg fresh]
          rcases routed with unrouted | ⟨_, again⟩ | ⟨route, _, chosen, ran⟩ | ⟨route, _, chosen⟩
          · simp [routes, Value.isObject] at unrouted
          · exact absurd again seen
          · cases routes.symm.trans route
            rw [chosen]
            exact (StateT.run_bind_eq_some _ _ _ _).mpr
              ⟨(), _, entered, (StateT.run_bind_eq_some _ _ _ _).mpr ⟨_, _, ran, rfl⟩⟩
          · cases routes.symm.trans route
            rw [chosen]
            rfl
  | null | bool flag | number n | string text | array items => exact idle (.inr rfl)

/-- What is said about a value before it is looked into. -/
def denials (clause : Clause) (direction : Direction) (value : Value) (path : String) : List Failure :=
  if value.isNull then [] else clause.accessFailures direction value path

def mistypedFailures (clause : Clause) (direction : Direction) (value : Value) (path : String) :
    List Failure :=
  if clause.excuses direction value then [] else clause.typeFailures value path

def scalarFailures (clause : Clause) (value : Value) (path : String) : List Failure :=
  clause.enumFailures value path ++ clause.formatFailures value path ++ clause.checkFailures value path

def admitsNull (clause : Clause) (value : Value) : Bool := value.isNull && clause.nullable

theorem admitsType_object {clause : Clause} {entries : Assoc Value}
    (typed : clause.typeName = none ∨ clause.typeName = some "object") :
    clause.admitsType (.object entries) = true := by
  rcases typed with untyped | object
  · simp [admitsType, untyped]
  · simp [admitsType, object, Value.typeName]

end Clause

/-- How the visit of a clause is answered, given the visits of other clauses. -/
inductive Answered (clauses : Array Clause) (direction : Direction) (visit : Visit) (index : Nat)
    (value : Value) (path : String) (before : Guard) : List Failure → Guard → Prop
  | null : (clauses.getD index {}).admitsNull value = true →
      Answered clauses direction visit index value path before [] before
  | mistyped : (clauses.getD index {}).admitsNull value = false →
      (clauses.getD index {}).admitsType value = false →
      Answered clauses direction visit index value path before
        ((clauses.getD index {}).denials direction value path ++
          (clauses.getD index {}).mistypedFailures direction value path) before
  | examined {visited branches any one routed} {inside all anyOf oneOf after : Guard} :
      (clauses.getD index {}).admitsNull value = false →
      (clauses.getD index {}).admitsType value = true →
      Clause.Entered (clauses.getD index {}) visit path value before visited inside →
      Threaded (fun branch before result after => (visit branch value path).run before = some (result, after))
        (clauses.getD index {}).allOf inside branches all →
      ((clauses.getD index {}).visitAnyOf visit value path).run all = some (any, anyOf) →
      ((clauses.getD index {}).visitOneOf visit value path).run anyOf = some (one, oneOf) →
      Clause.Routed (clauses.getD index {}) clauses visit index path value oneOf routed after →
      Answered clauses direction visit index value path before
        ((clauses.getD index {}).denials direction value path ++
          (clauses.getD index {}).scalarFailures value path ++
          (clauses.getD index {}).insideFailures clauses direction value path visited ++
          branches.flatten ++ any ++ one ++ routed) after

theorem visit_run_iff (clauses : Array Clause) (direction : Direction) (fuel index : Nat) (value : Value)
    (path : String) (before : Guard) (failures : List Failure) (after : Guard) :
    (visit clauses direction (fuel + 1) index value path).run before = some (failures, after) ↔
      Answered clauses direction (visit clauses direction fuel) index value path before failures after := by
  rw [visit]
  generalize clauseIs : clauses.getD index {} = clause
  by_cases null : clause.admitsNull value = true
  · have skipped : (value.isNull && clause.nullable) = true := null
    simp only [skipped, if_true, StateT.run_pure_eq_some, Prod.mk.injEq]
    constructor
    · rintro ⟨rfl, rfl⟩
      exact .null (clauseIs ▸ null)
    · rintro (_ | ⟨notNull, _⟩ | notNull)
      · exact ⟨rfl, rfl⟩
      all_goals simp [clauseIs, null] at notNull
  · have notNull : (value.isNull && clause.nullable) = false := by simpa [Clause.admitsNull] using null
    simp only [notNull, Bool.false_eq_true, if_false]
    by_cases typed : clause.admitsType value = true
    · simp only [typed, if_true, StateT.run_bind_eq_some, StateT.run_pure_eq_some, Prod.mk.injEq,
        Clause.visitInside_run_iff, collect_run_iff, Clause.visitDispatch_run_iff]
      constructor
      · rintro ⟨_, inside, ⟨visited, entered, rfl⟩, _, all, ⟨branches, ran, rfl⟩, any, anyOf, anyRan,
          one, oneOf, oneRan, routed, _, route, rfl, rfl⟩
        subst clauseIs
        have answer : Answered clauses direction (visit clauses direction fuel) index value path before
            _ _ := .examined notNull typed entered ran anyRan oneRan route
        simpa only [Clause.scalarFailures, Clause.denials, List.append_assoc] using answer
      · rintro (isNull | ⟨_, mistyped⟩ | ⟨_, _, entered, ran, anyRan, oneRan, route⟩)
        · rw [clauseIs] at isNull
          exact absurd isNull null
        · rw [clauseIs, typed] at mistyped
          contradiction
        · subst clauseIs
          refine ⟨_, _, ⟨_, entered, rfl⟩, _, _, ⟨_, ran, rfl⟩, _, _, anyRan, _, _, oneRan, _, _, route, ?_,
            rfl⟩
          simp only [Clause.scalarFailures, Clause.denials, List.append_assoc]
    · have mistyped : clause.admitsType value = false := by simpa using typed
      have ran : (if clause.excuses direction value = true then
            pure (if value.isNull = true then [] else clause.accessFailures direction value path)
          else pure ((if value.isNull = true then [] else clause.accessFailures direction value path)
            ++ clause.typeFailures value path) : Visiting (List Failure)).run before =
          some (clause.denials direction value path ++ clause.mistypedFailures direction value path,
            before) := by
        unfold Clause.denials Clause.mistypedFailures
        split <;> simp
      simp only [mistyped, Bool.false_eq_true, if_false]
      rw [ran]
      constructor
      · rintro ⟨⟩
        subst clauseIs
        exact .mistyped notNull mistyped
      · rintro (isNull | _ | ⟨_, typed'⟩)
        · rw [clauseIs] at isNull
          exact absurd isNull null
        · rw [clauseIs]
        · rw [clauseIs] at typed'
          contradiction

end ApiContract.Validator
