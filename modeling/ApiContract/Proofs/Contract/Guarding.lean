import ApiContract.Proofs.Evaluation.Passing

/-!
The guard of an evaluation. Visits, branches and dispatches make each other, each in the guard that those before it have
left (`Underway`). At every point of this the set of marks and the list of them agree, and a branch that fails leaves the
guard as it found it (`failed_branches_leave_no_trace`).
-/

namespace ApiContract.Validator

open Json (Value)

namespace Guard

/-- The set of marks holds what is on the list, and nothing is on the list twice. -/
structure InStep (guard : Guard) : Prop where
  agrees : ∀ mark, mark ∈ guard.marks ↔ mark ∈ guard.undo
  distinct : guard.undo.Nodup

/-- Some marks were made, and none was taken back that was there before. -/
def Grows (before after : Guard) : Prop := ∃ made, before.Gains after made

namespace Grows

variable {before middle after : Guard}

theorem refl (guard : Guard) : guard.Grows guard := ⟨[], .refl guard⟩

theorem trans (first : before.Grows middle) (second : middle.Grows after) : before.Grows after := by
  obtain ⟨made, gains⟩ := first
  obtain ⟨later, gainsLater⟩ := second
  exact ⟨later ++ made, gains.trans gainsLater⟩

theorem marks_subset (grows : before.Grows after) : before.marks ⊆ after.marks := by
  obtain ⟨made, gains⟩ := grows
  rw [gains.marks]
  exact List.subset_append_right made before.marks

theorem undo_suffix (grows : before.Grows after) : before.undo <:+ after.undo := by
  obtain ⟨made, gains⟩ := grows
  exact ⟨made, gains.undo.symm⟩

theorem inStep (grows : before.Grows after) (inStep : before.InStep) : after.InStep := by
  obtain ⟨made, gains⟩ := grows
  constructor
  · intro mark
    rw [gains.marks, gains.undo, List.mem_append, List.mem_append, inStep.agrees]
  · rw [gains.undo]
    refine List.nodup_append.mpr ⟨gains.distinct, inStep.distinct, ?_⟩
    rintro mark new _ old rfl
    exact gains.fresh mark new ((inStep.agrees mark).mpr old)

theorem threaded {α : Type} {step : α → Guard → List Failure → Guard → Prop} {items : List α}
    {results : List (List Failure)} (run : Threaded step items before results after)
    (each : ∀ item before result after, step item before result after → before.Grows after) : before.Grows after :=
  run.keeps (fun item _ guard result later taken grows => grows.trans (each item guard result later taken)) (.refl before)

end Grows

theorem InStep.start : ({} : Guard).InStep := ⟨fun _ => Iff.rfl, .nil⟩

end Guard

/-! ## Calls and points -/

/-- What an evaluation calls to work on its guard. -/
inductive Call where
  | visit (index : Nat) (value : Value) (path : String)
  | branch (index : Nat) (value : Value) (path : String)
  | dispatch (index : Nat) (value : Value) (path : String)

def Call.perform (clauses : Array Clause) (direction : Direction) (fuel : Nat) : Call → Visiting (List Failure)
  | visit index value path => Validator.visit clauses direction fuel index value path
  | branch index value path => Validator.branch (Validator.visit clauses direction fuel index value path)
  | dispatch index value path =>
      (clauses.getD index {}).visitDispatch clauses (Validator.visit clauses direction fuel) index value path

def Clause.Examines (clause : Clause) (value : Value) : Prop :=
  clause.admitsNull value = false ∧ clause.admitsType value = true

/-- The parts of a visit, in their order. -/
inductive Part where
  | inside
  | allOf
  | anyOf
  | oneOf

/-- A visit that began with some guard has come past a part, with another one. -/
inductive Past (clauses : Array Clause) (direction : Direction) (visiting : Visit) (index : Nat) (value : Value)
    (path : String) (before : Guard) : Part → Guard → Prop
  | inside {failures guard} : (clauses.getD index {}).Examines value →
      ((clauses.getD index {}).visitInside clauses direction visiting value path).run before = some (failures, guard) →
      Past clauses direction visiting index value path before .inside guard
  | allOf {middle failures guard} : Past clauses direction visiting index value path before .inside middle →
      (collect (clauses.getD index {}).allOf fun branch => visiting branch value path).run middle =
        some (failures, guard) →
      Past clauses direction visiting index value path before .allOf guard
  | anyOf {middle failures guard} : Past clauses direction visiting index value path before .allOf middle →
      ((clauses.getD index {}).visitAnyOf visiting value path).run middle = some (failures, guard) →
      Past clauses direction visiting index value path before .anyOf guard
  | oneOf {middle failures guard} : Past clauses direction visiting index value path before .anyOf middle →
      ((clauses.getD index {}).visitOneOf visiting value path).run middle = some (failures, guard) →
      Past clauses direction visiting index value path before .oneOf guard

/-- A call makes another one, once those before it were answered, whatever becomes of it then. -/
inductive Makes (clauses : Array Clause) (direction : Direction) : Call → Guard → Call → Guard → Prop
  | member {fuel index path before key value child failures guard} {done rest : Assoc Value} :
      (clauses.getD index {}).Examines (.object (done ++ (key, value) :: rest)) →
      (collect done ((clauses.getD index {}).visitMember (visit clauses direction fuel) path)).run before =
        some (failures, guard) →
      (clauses.getD index {}).clauseFor? key = some child →
      Makes clauses direction (.visit index (.object (done ++ (key, value) :: rest)) path) before
        (.visit child value (Pointer.child path key)) guard
  | item {fuel index path before value child failures guard} {done rest : List Value} :
      (clauses.getD index {}).Examines (.array (done ++ value :: rest)) →
      (clauses.getD index {}).items = some child →
      ((clauses.getD index {}).visitItems (visit clauses direction fuel) done path).run before = some (failures, guard) →
      Makes clauses direction (.visit index (.array (done ++ value :: rest)) path) before
        (.visit child value (Pointer.item path done.length)) guard
  | allOf {fuel index value path before middle target failures guard} {done rest : List Nat} :
      Past clauses direction (visit clauses direction fuel) index value path before .inside middle →
      (clauses.getD index {}).allOf = done ++ target :: rest →
      (collect done fun branch => visit clauses direction fuel branch value path).run middle = some (failures, guard) →
      Makes clauses direction (.visit index value path) before (.visit target value path) guard
  | anyOf {fuel index value path before middle target failures guard} {done rest : List Nat} :
      Past clauses direction (visit clauses direction fuel) index value path before .allOf middle →
      (clauses.getD index {}).anyOf = done ++ target :: rest →
      (firstPassing (fun branch => visit clauses direction fuel branch value path) done).run middle =
        some (some failures, guard) →
      Makes clauses direction (.visit index value path) before (.branch target value path) guard
  | oneOf {fuel index value path before middle target outcomes guard} {done rest : List Nat} :
      Past clauses direction (visit clauses direction fuel) index value path before .anyOf middle →
      (clauses.getD index {}).oneOf = done ++ target :: rest →
      (done.mapM fun index => branch (visit clauses direction fuel index value path)).run middle =
        some (outcomes, guard) →
      Makes clauses direction (.visit index value path) before (.branch target value path) guard
  | dispatch {fuel index value path before guard} :
      Past clauses direction (visit clauses direction fuel) index value path before .oneOf guard →
      Makes clauses direction (.visit index value path) before (.dispatch index value path) guard
  | tried {index value path before} :
      Makes clauses direction (.branch index value path) before (.visit index value path) before
  | variant {index path before dispatch variant} {entries : Assoc Value} :
      (clauses.getD index {}).dispatch = some dispatch → (index, path) ∉ before.marks →
      Clause.variant? dispatch entries = some variant →
      Makes clauses direction (.dispatch index (.object entries) path) before
        (.visit variant (.object entries) path) (before.enter (index, path))

/-- The calls that the evaluation of a value comes to, each with the guard that it begins with. -/
inductive Underway (validator : Validator) (direction : Direction) (whole : Value) : Call → Guard → Prop
  | start : Underway validator direction whole (.visit validator.root whole "") {}
  | next {caller before callee guard} : Underway validator direction whole caller before →
      Makes validator.clauses direction caller before callee guard → Underway validator direction whole callee guard

/-- The guards that an evaluation comes to: where a call begins, between the parts of a visit, and where a call ends. -/
inductive Point (validator : Validator) (direction : Direction) (whole : Value) (guard : Guard) : Prop
  | begun {call} : Underway validator direction whole call guard → Point validator direction whole guard
  | past {fuel index value path before part} : Underway validator direction whole (.visit index value path) before →
      Past validator.clauses direction (visit validator.clauses direction fuel) index value path before part guard →
      Point validator direction whole guard
  | ended {call fuel before failures} : Underway validator direction whole call before →
      (call.perform validator.clauses direction fuel).run before = some (failures, guard) →
      Point validator direction whole guard

/-! ## Guards grow -/

variable {clauses : Array Clause} {direction : Direction} {fuel index : Nat} {value : Value} {path : String}
  {before after : Guard} {failures : List Failure}

theorem visit_grows
    (ran : (visit clauses direction fuel index value path).run before = some (failures, after)) : before.Grows after := by
  obtain ⟨made, gains, _⟩ := visit_run_gains ran
  exact ⟨made, gains⟩

theorem branch_grows
    (ran : (branch (visit clauses direction fuel index value path)).run before = some (failures, after)) :
    before.Grows after := by
  by_cases passed : failures = []
  · obtain ⟨middle, inner, rfl⟩ := (branch_run_iff _ _ _ _).mp ran
    rw [if_pos passed]
    exact visit_grows inner
  · rw [branch_restores ran passed]
    exact .refl before

theorem firstPassing_grows {branches : List Nat} {outcome : Option (List Failure)}
    (ran : (firstPassing (fun branch => visit clauses direction fuel branch value path) branches).run before =
      some (outcome, after)) : before.Grows after := by
  induction branches generalizing before outcome with
  | nil =>
      obtain ⟨_, rfl⟩ := (firstPassing_nil_run_iff _ _ _ _).mp ran
      exact .refl after
  | cons first rest ih =>
      rcases (firstPassing_cons_run_iff _ _ _ _ _ _).mp ran with
        ⟨passed, _⟩ | ⟨_, _, _, _, failed, ranRest, _⟩
      · exact branch_grows passed
      · exact (branch_grows failed).trans (ih ranRest)

theorem branches_grow {branches : List Nat} {outcomes : List (List Failure)}
    (ran : (branches.mapM fun index => branch (visit clauses direction fuel index value path)).run before =
      some (outcomes, after)) : before.Grows after :=
  .threaded ((Threaded.of_mapM _ _ _ _ _).mp ran) fun _ _ _ _ taken => branch_grows taken

theorem collect_grows {α : Type} {items : List α} {visiting : α → Visiting (List Failure)}
    (each : ∀ item before result after, (visiting item).run before = some (result, after) → before.Grows after)
    (ran : (collect items visiting).run before = some (failures, after)) : before.Grows after := by
  obtain ⟨results, run, _⟩ := (collect_run_iff _ _ _ _ _).mp ran
  exact .threaded run each

namespace Clause

variable {clause : Clause}

theorem visitMember_grows {entry : String × Value}
    (ran : (clause.visitMember (visit clauses direction fuel) path entry).run before = some (failures, after)) :
    before.Grows after := by
  obtain ⟨key, value⟩ := entry
  rw [visitMember_run_iff] at ran
  split at ran
  · exact visit_grows ran
  · rw [ran.2]
    exact .refl before

theorem visitItems_grows {items : List Value}
    (ran : (clause.visitItems (visit clauses direction fuel) items path).run before = some (failures, after)) :
    before.Grows after := by
  unfold visitItems at ran
  split at ran
  · exact collect_grows (fun _ _ _ _ taken => visit_grows taken) ran
  · cases ran
    exact .refl before

theorem visitInside_grows
    (ran : (clause.visitInside clauses direction (visit clauses direction fuel) value path).run before =
      some (failures, after)) : before.Grows after := by
  obtain ⟨visited, entered, _⟩ := (visitInside_run_iff _ _ _ _ _ _ _ _ _).mp ran
  cases entered with
  | object run => exact .threaded run fun _ _ _ _ taken => visitMember_grows taken
  | array _ run => exact .threaded run fun _ _ _ _ taken => visit_grows taken
  | unlooked => exact .refl before

theorem visitAnyOf_grows
    (ran : (clause.visitAnyOf (visit clauses direction fuel) value path).run before = some (failures, after)) :
    before.Grows after := by
  rcases (visitAnyOf_run_iff _ _ _ _ _ _ _).mp ran with ⟨_, _, rfl⟩ | ⟨_, _, tried, _⟩
  · exact .refl after
  · exact firstPassing_grows tried

theorem visitOneOf_grows
    (ran : (clause.visitOneOf (visit clauses direction fuel) value path).run before = some (failures, after)) :
    before.Grows after := by
  rcases (visitOneOf_run_iff _ _ _ _ _ _ _).mp ran with ⟨_, _, rfl⟩ | ⟨_, _, tried, _⟩
  · exact .refl after
  · exact .threaded tried fun _ _ _ _ taken => branch_grows taken

/-- A dispatch marks its place only where it has no mark yet. -/
theorem visitDispatch_grows
    (ran : ((clauses.getD index {}).visitDispatch clauses (visit clauses direction fuel) index value path).run before =
      some (failures, after)) : before.Grows after := by
  cases (visitDispatch_run_iff _ _ _ _ _ _ _ _ _).mp ran with
  | idle => exact .refl before
  | again => exact .refl before
  | variant _ fresh _ ranVariant => exact .trans ⟨_, .enter fresh⟩ (visit_grows ranVariant)
  | lenient _ fresh => exact ⟨_, .enter fresh⟩

end Clause

theorem Past.grows {part : Part} {guard : Guard}
    (past : Past clauses direction (visit clauses direction fuel) index value path before part guard) :
    before.Grows guard := by
  induction past with
  | inside _ ran => exact Clause.visitInside_grows ran
  | allOf _ ran ih => exact ih.trans (collect_grows (fun _ _ _ _ taken => visit_grows taken) ran)
  | anyOf _ ran ih => exact ih.trans (Clause.visitAnyOf_grows ran)
  | oneOf _ ran ih => exact ih.trans (Clause.visitOneOf_grows ran)

/-- A call begins with what its caller began with, and more. -/
theorem Makes.grows {caller callee : Call} {guard : Guard} (makes : Makes clauses direction caller before callee guard) :
    before.Grows guard := by
  cases makes with
  | member _ ran => exact collect_grows (fun _ _ _ _ taken => Clause.visitMember_grows taken) ran
  | item _ _ ran => exact Clause.visitItems_grows ran
  | allOf past _ ran => exact past.grows.trans (collect_grows (fun _ _ _ _ taken => visit_grows taken) ran)
  | anyOf past _ ran => exact past.grows.trans (firstPassing_grows ran)
  | oneOf past _ ran => exact past.grows.trans (branches_grow ran)
  | dispatch past => exact past.grows
  | tried => exact .refl before
  | variant _ fresh => exact ⟨_, .enter fresh⟩

theorem Call.grows {call : Call} (ran : (call.perform clauses direction fuel).run before = some (failures, after)) :
    before.Grows after := by
  cases call with
  | visit index value path => exact visit_grows ran
  | branch index value path => exact branch_grows ran
  | dispatch index value path => exact Clause.visitDispatch_grows ran

section

variable {validator : Validator} {whole : Value} {guard : Guard}

theorem Underway.grows {call : Call} (underway : Underway validator direction whole call guard) :
    ({} : Guard).Grows guard := by
  induction underway with
  | start => exact .refl {}
  | next _ makes ih => exact ih.trans makes.grows

theorem Point.grows (point : Point validator direction whole guard) : ({} : Guard).Grows guard := by
  cases point with
  | begun underway => exact underway.grows
  | past underway past => exact underway.grows.trans past.grows
  | ended underway ran => exact underway.grows.trans (Call.grows ran)

end

/-- At every point of an evaluation the set of marks and the list of them agree; a branch that fails leaves the guard as it
was, and a visit keeps what was there. -/
theorem failed_branches_leave_no_trace (validator : Validator) (direction : Direction) (whole : Value) :
    (∀ guard, Point validator direction whole guard → guard.InStep) ∧
    (∀ fuel index value path before failures after,
      ((Call.branch index value path).perform validator.clauses direction fuel).run before = some (failures, after) →
      failures ≠ [] → after.marks = before.marks ∧ after.undo = before.undo) ∧
    ∀ fuel index value path before failures after,
      ((Call.visit index value path).perform validator.clauses direction fuel).run before = some (failures, after) →
      before.marks ⊆ after.marks ∧ before.undo <:+ after.undo := by
  refine ⟨fun guard point => point.grows.inStep .start, ?_, ?_⟩
  · intro fuel index value path before failures after ran failed
    rw [branch_restores ran failed]
    exact ⟨rfl, rfl⟩
  · intro fuel index value path before failures after ran
    have grows := visit_grows ran
    exact ⟨grows.marks_subset, grows.undo_suffix⟩

def ownedPets : Validator where
  clauses := #[
    { typeName := some "object", properties := some [("kind", 2)],
      dispatch := some { property := "kind", variants := [("Pet", none), ("Dog", some 1)] } },
    { typeName := some "object", properties := some [("kind", 2), ("barks", 3)], undeclared := some (.allowed false) },
    { typeName := some "string" },
    { typeName := some "boolean" },
    { required := ["owner"], allOf := [0] },
    { allOf := [0] },
    { anyOf := [4, 5] }]
  root := 6

def loudDog : Value := .object [("kind", .string "Dog"), ("barks", .string "loud")]

/-- The branch with an owner dispatches the dog and fails; the other branch begins without the mark. -/
theorem failed_branches_leave_no_trace_owner :
    let marked : Guard := ⟨[(0, "")], [(0, "")]⟩
    ∃ failures after again later,
      ((Call.visit 4 loudDog "").perform ownedPets.clauses .request 5).run {} = some (failures, marked) ∧
      Point ownedPets .request loudDog marked ∧ marked.InStep ∧
      ((Call.branch 4 loudDog "").perform ownedPets.clauses .request 5).run {} = some (failures, after) ∧
      failures ≠ [] ∧ after.marks = [] ∧ after.undo = [] ∧
      Underway ownedPets .request loudDog (.branch 5 loudDog "") after ∧
      ((Call.visit 5 loudDog "").perform ownedPets.clauses .request 5).run marked = some (again, later) ∧
      marked.marks ⊆ later.marks ∧ marked.undo <:+ later.undo := by
  obtain ⟨inStep, restores, keeps⟩ := failed_branches_leave_no_trace ownedPets .request loudDog
  have past : Past ownedPets.clauses .request (visit ownedPets.clauses .request 5) 6 loudDog "" {} .allOf {} :=
    .allOf (.inside ⟨rfl, rfl⟩ rfl) rfl
  have first : (ownedPets.clauses.getD 6 {}).anyOf = [] ++ 4 :: [5] := rfl
  have second : (ownedPets.clauses.getD 6 {}).anyOf = [4] ++ 5 :: [] := rfl
  have ends : (((Call.visit 4 loudDog "").perform ownedPets.clauses .request 5).run {}).map
      (fun answer => (answer.1.map Failure.keyword, answer.2.marks, answer.2.undo)) =
      some ([.required, .type], [(0, "")], [(0, "")]) := by
    decide +kernel
  have endsToo : (((Call.visit 5 loudDog "").perform ownedPets.clauses .request 5).run
      ⟨[(0, "")], [(0, "")]⟩).isSome = true := by
    decide +kernel
  obtain ⟨⟨failures, marks, undo⟩, ran, shape⟩ := Option.map_eq_some_iff.mp ends
  simp only [Prod.mk.injEq] at shape
  obtain ⟨keywords, rfl, rfl⟩ := shape
  obtain ⟨⟨again, later⟩, ranToo⟩ := Option.isSome_iff_exists.mp endsToo
  have failed : failures ≠ [] := by
    rintro rfl
    cases keywords
  have branching : Underway ownedPets .request loudDog (.branch 4 loudDog "") {} := .next .start (.anyOf past first rfl)
  have point := Point.ended (.next branching .tried) ran
  have tried := (branch_run_iff _ _ _ _).mpr ⟨_, ran, rfl⟩
  rw [if_neg failed] at tried
  obtain ⟨noMarks, noUndo⟩ := restores 5 4 loudDog "" {} failures _ tried failed
  have next : Underway ownedPets .request loudDog (.branch 5 loudDog "") _ :=
    .next .start (.anyOf past second ((firstPassing_cons_run_iff _ _ _ _ _ _).mpr
      (.inr ⟨failures, _, some [], failed, tried, (firstPassing_nil_run_iff _ _ _ _).mpr ⟨rfl, rfl⟩, rfl⟩)))
  obtain ⟨marksKept, undoKept⟩ := keeps 5 5 loudDog "" _ again later ranToo
  exact ⟨failures, _, again, later, ran, point, inStep _ point, tried, failed, noMarks, noUndo, next, ranToo, marksKept,
    undoKept⟩

end ApiContract.Validator
