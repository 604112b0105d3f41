import ApiContract.Proofs.Evaluation.Meaning
import ApiContract.Proofs.Evaluation.Termination

/-!
Marks and rollback never change a verdict: where no clause has `oneOf` and composition does not lead
back, a value gives no failures exactly when it is valid (`evaluate_eq_nil_iff_valid`).

A visit takes a clause that was dispatched at the place before as passed. The relation `Held` makes that
assumption explicit, and every mark that outlives its visit is paid for by the visit of a variant.
-/

namespace ApiContract.Validator

open Json (Value)

variable {clauses : Array Clause} {direction : Direction}

/-! ## Valid values give no failures -/

/-- Visits of values that are accepted answer no failures. -/
structure Passes (accepted : Relation) (visit : Visit) : Prop where
  passed : ∀ {index value path before failures after}, accepted index value →
    (visit index value path).run before = some (failures, after) → failures = []

section

variable {accepted : Relation} {visit : Visit} {clause : Clause} {value : Value} {path : String}
  {before after : Guard} {failures : List Failure}

theorem Clause.entered_eq_nil (passes : Passes accepted visit)
    (meets : Meets clauses direction accepted clause value)
    (entered : Clause.Entered clause visit path value before failures after) : failures = [] := by
  cases entered with
  | object run =>
      refine List.flatten_eq_nil_iff.mpr (run.results fun entry member _ _ _ ran => ?_)
      obtain ⟨allowed, declared⟩ := meets.members _ rfl entry member
      have answer := (clause.visitMember_run_iff visit path entry.1 entry.2 _ _ _).mp ran
      rcases found : clause.clauseFor? entry.1 with _ | child
      · rw [found, allowed] at answer
        exact answer.1
      · rw [found] at answer
        exact passes.passed (declared child found) answer
  | array asked run =>
      refine List.flatten_eq_nil_iff.mpr (run.results fun item member _ _ _ ran => ?_)
      exact passes.passed ((meets.items _ rfl).2 _ asked _ (List.fst_mem_of_mem_zipIdx member)) ran
  | unlooked => rfl

theorem firstPassing_eq_none (passes : Passes accepted visit) {branches : List Nat}
    (exists_accepting : ∃ branch ∈ branches, accepted branch value) {outcome : Option (List Failure)}
    (ran : (firstPassing (fun index => visit index value path) branches).run before = some (outcome, after)) :
    outcome = none := by
  induction branches generalizing before outcome with
  | nil =>
      obtain ⟨_, member, _⟩ := exists_accepting
      contradiction
  | cons first rest ih =>
      rcases (firstPassing_cons_run_iff _ _ _ _ _ _).mp ran with
        ⟨_, rfl⟩ | ⟨found, middle, later, failed, firstRan, restRan, rfl⟩
      · rfl
      · obtain ⟨branch, member, accepts⟩ := exists_accepting
        rcases List.mem_cons.mp member with rfl | inRest
        · obtain ⟨_, inner, _⟩ := (branch_run_iff _ _ _ _).mp firstRan
          exact absurd (passes.passed accepts inner) failed
        · rw [ih ⟨branch, inRest, accepts⟩ restRan]
          rfl

theorem Clause.visitAnyOf_eq_nil (passes : Passes accepted visit)
    (meets : Meets clauses direction accepted clause value)
    (ran : (clause.visitAnyOf visit value path).run before = some (failures, after)) : failures = [] := by
  rcases (clause.visitAnyOf_run_iff _ _ _ _ _ _).mp ran with ⟨_, rfl, _⟩ | ⟨asked, outcome, tried, rfl⟩
  · rfl
  · rw [firstPassing_eq_none passes (meets.anyOf.resolve_left asked) tried]

theorem Clause.routed_eq_nil (passes : Passes accepted visit) {index : Nat}
    (dispatches : Dispatches clauses accepted index value)
    (routed : Clause.Routed (clauses.getD index {}) clauses visit index path value before failures after) :
    failures = [] := by
  cases routed with
  | idle | again => rfl
  | variant routes _ chosen ran =>
      have found := dispatches _ _ routes rfl
      rw [chosen] at found
      rw [passes.passed found.1 ran, List.nil_append]
      exact (Clause.closureFailures_eq_nil_iff _ path _ _).mpr found.2
  | lenient routes _ chosen =>
      have found := dispatches _ _ routes rfl
      rw [chosen] at found
      exact (Clause.closureFailures_eq_nil_iff _ path _ _).mpr found

end

theorem visit_passes_valid (noOneOf : ∀ index, (clauses.getD index {}).oneOf = []) (fuel : Nat) :
    Passes (Valid clauses direction) (visit clauses direction fuel) := by
  induction fuel with
  | zero => exact ⟨fun _ ran => nomatch ran⟩
  | succ fuel ih =>
      refine ⟨fun {index value path before failures after} valid ran => ?_⟩
      have answered := (visit_run_iff _ _ _ _ _ _ _ _ _).mp ran
      cases valid.rule with
      | null null =>
          rcases answered with _ | ⟨notNull, _⟩ | notNull
          · rfl
          all_goals cases null.symm.trans notNull
      | excused permits mistyped excuses =>
          rcases answered with _ | _ | ⟨_, typed⟩
          · rfl
          · rw [(Clause.denials_eq_nil_iff _ _ _ path).mpr permits,
              (Clause.mistypedFailures_eq_nil_iff _ _ _ path).mpr excuses]
            rfl
          · cases mistyped.symm.trans typed
      | met permits typed meets routes =>
          rcases answered with _ | ⟨_, mistyped⟩ | ⟨_, _, entered, allRan, anyRan, oneRan, routed⟩
          · rfl
          · cases typed.symm.trans mistyped
          · have one := (Clause.visitOneOf_run_iff _ _ _ _ _ _ _).mp oneRan
            simp only [noOneOf index, true_and, ne_eq, not_true_eq_false, false_and, or_false] at one
            rw [(Clause.denials_eq_nil_iff _ _ _ path).mpr permits,
              (Clause.scalarFailures_eq_nil_iff _ _ path).mpr meets.suits,
              (Clause.insideFailures_eq_nil_iff _ _ _ path _ _).mpr
                ⟨Clause.entered_eq_nil ih meets entered, meets.keyed, fun _ array => (meets.items _ array).1⟩,
              List.flatten_eq_nil_iff.mpr (allRan.results fun branch member _ _ _ branchRan =>
                ih.passed (meets.allOf branch member) branchRan),
              Clause.visitAnyOf_eq_nil ih meets anyRan, one.1, Clause.routed_eq_nil ih routes routed]
            rfl

/-! ## Values without failures are valid -/

/-- The value was dispatched by the clause at one of its places. -/
def Assumed (clauses : Array Clause) (whole : Value) (guard : Guard) : Relation := fun index value =>
  (clauses.getD index {}).dispatch ≠ none → value.isObject = true →
    ∃ path, (index, path) ∈ guard.marks ∧ whole.Occurs path value

/-- Valid as long as the marks of the guard are taken on trust. -/
def Held (clauses : Array Clause) (direction : Direction) (whole : Value) (guard : Guard) : Relation :=
  (rulesGiven clauses direction (Assumed clauses whole guard)).gfp

section

variable {whole : Value} {guard later before middle after : Guard}

theorem Assumed.mono (kept : guard.marks ⊆ later.marks) :
    Assumed clauses whole guard ≤ Assumed clauses whole later := by
  intro index value assumed routes object
  obtain ⟨path, marked, occurs⟩ := assumed routes object
  exact ⟨path, kept marked, occurs⟩

namespace Held

theorem iff_rule {index : Nat} {value : Value} :
    Held clauses direction whole guard index value ↔
      Rule clauses direction (Held clauses direction whole guard) (Assumed clauses whole guard) index value := by
  have fixed := (rulesGiven clauses direction (Assumed clauses whole guard)).map_gfp
  exact iff_of_eq (congrFun (congrFun fixed.symm index) value)

theorem mono (kept : guard.marks ⊆ later.marks) :
    Held clauses direction whole guard ≤ Held clauses direction whole later := by
  apply OrderHom.le_gfp
  intro index value held
  exact Rule.mono le_rfl (Assumed.mono kept) index value (iff_rule.mp held)

end Held

/-- Every mark made since is paid for: the variant was visited and closure holds. -/
structure Paid (clauses : Array Clause) (direction : Direction) (whole : Value) (before after : Guard) :
    Prop where
  kept : before.marks ⊆ after.marks
  paid : ∀ mark ∈ after.marks, mark ∉ before.marks → ∀ value, whole.Occurs mark.2 value →
    Dispatches clauses (Held clauses direction whole after) mark.1 value

namespace Paid

theorem refl (guard : Guard) : Paid clauses direction whole guard guard where
  kept := List.Subset.refl _
  paid _ member fresh := absurd member fresh

theorem trans (first : Paid clauses direction whole before middle)
    (second : Paid clauses direction whole middle after) : Paid clauses direction whole before after where
  kept := List.Subset.trans first.kept second.kept
  paid mark member fresh value occurs := by
    by_cases earlier : mark ∈ middle.marks
    · exact Dispatches.mono (Held.mono second.kept) _ _ (first.paid mark earlier fresh value occurs)
    · exact second.paid mark member earlier value occurs

/-- If everything was paid for, nothing is taken on trust any more. -/
theorem held_le_valid (paid : Paid clauses direction whole {} after) :
    Held clauses direction whole after ≤ Valid clauses direction := by
  apply Valid.of_closed
  intro index value held
  refine Rule.mono le_rfl ?_ index value (Held.iff_rule.mp held)
  intro index value assumed dispatch entries routes object
  obtain ⟨path, marked, occurs⟩ := assumed (by rw [routes]; exact Option.some_ne_none _)
    (by simp [object, Value.isObject])
  exact paid.paid (index, path) marked (by simp) value occurs dispatch entries routes object

end Paid

/-- Visits without failures leave values that hold, and pay for the marks that they leave. -/
structure Sound (clauses : Array Clause) (direction : Direction) (whole : Value) (visit : Visit) : Prop where
  sound : ∀ {index value path before after}, whole.Occurs path value →
    (visit index value path).run before = some ([], after) →
    Held clauses direction whole after index value ∧ Paid clauses direction whole before after

variable {visit : Visit} {clause : Clause} {value : Value} {path : String}

/-- What each step without failures shows, and what later marks do not take back, a run shows of all items. -/
theorem threaded_sound {α : Type} {step : α → Guard → List Failure → Guard → Prop}
    (good : Guard → α → Prop)
    (lasts : ∀ {guard later : Guard}, guard.marks ⊆ later.marks → ∀ item, good guard item → good later item)
    {items : List α} {results : List (List Failure)} (run : Threaded step items before results after)
    (stepwise : ∀ item ∈ items, ∀ {before after}, step item before [] after →
      good after item ∧ Paid clauses direction whole before after)
    (passed : results.flatten = []) :
    (∀ item ∈ items, good after item) ∧ Paid clauses direction whole before after := by
  induction run with
  | nil => exact ⟨by simp, .refl _⟩
  | cons first _ ih =>
      obtain ⟨rfl, others⟩ := List.append_eq_nil_iff.mp passed
      obtain ⟨goodFirst, paidFirst⟩ := stepwise _ List.mem_cons_self first
      obtain ⟨goodRest, paidRest⟩ :=
        ih (fun item member => stepwise item (List.mem_cons_of_mem _ member)) others
      rw [List.forall_mem_cons]
      exact ⟨⟨lasts paidRest.kept _ goodFirst, goodRest⟩, paidFirst.trans paidRest⟩

/-- What a clause asks of members and items is held. -/
structure Looked (clauses : Array Clause) (direction : Direction) (whole : Value) (guard : Guard)
    (clause : Clause) (value : Value) : Prop where
  members : ∀ entries, value = .object entries → ∀ entry ∈ entries,
    clause.forbids entry.1 = false ∧ ∀ child, clause.clauseFor? entry.1 = some child →
      Held clauses direction whole guard child entry.2
  items : ∀ elements, value = .array elements → ∀ child, clause.items = some child →
    ∀ element ∈ elements, Held clauses direction whole guard child element

theorem Clause.entered_sound (sound : Sound clauses direction whole visit) (occurs : whole.Occurs path value)
    (entered : Clause.Entered clause visit path value before [] after) :
    Looked clauses direction whole after clause value ∧ Paid clauses direction whole before after := by
  generalize nothing : ([] : List Failure) = failures at entered
  cases entered with
  | @object entries _ _ _ run =>
      have stepwise : ∀ entry ∈ entries, ∀ {before after : Guard},
          (clause.visitMember visit path entry).run before = some ([], after) →
          (clause.forbids entry.1 = false ∧ ∀ child, clause.clauseFor? entry.1 = some child →
            Held clauses direction whole after child entry.2) ∧ Paid clauses direction whole before after := by
        intro entry member before after ran
        have answer := (clause.visitMember_run_iff visit path entry.1 entry.2 _ _ _).mp ran
        rcases found : clause.clauseFor? entry.1 with _ | child
        · rw [found] at answer
          obtain ⟨allowed, rfl⟩ := answer
          refine ⟨⟨?_, fun _ absurd => nomatch absurd⟩, .refl _⟩
          cases forbidden : clause.forbids entry.1
          · rfl
          · simp [forbidden] at allowed
        · rw [found] at answer
          obtain ⟨held, paid⟩ := sound.sound (.member occurs member) answer
          refine ⟨⟨forbids_eq_false_of_clauseFor? found, ?_⟩, paid⟩
          rintro _ ⟨⟩
          exact held
      have both := threaded_sound
        (fun guard (entry : String × Value) => clause.forbids entry.1 = false ∧
          ∀ child, clause.clauseFor? entry.1 = some child → Held clauses direction whole guard child entry.2)
        (fun kept entry good => ⟨good.1, fun child found => Held.mono kept child _ (good.2 child found)⟩) run
        stepwise nothing.symm
      refine ⟨⟨?_, fun _ array => Value.noConfusion array⟩, both.2⟩
      rintro _ ⟨⟩
      exact both.1
  | @array elements index _ _ _ asked run =>
      have both : (∀ item ∈ elements.zipIdx, Held clauses direction whole after index item.1) ∧
          Paid clauses direction whole before after :=
        threaded_sound (fun guard (item : Value × Nat) => Held clauses direction whole guard index item.1)
          (fun kept item held => Held.mono kept _ _ held) run
          (fun item member _ _ ran => sound.sound
            (.item occurs (List.mem_zipIdx_iff_getElem?.mp member)) ran) nothing.symm
      refine ⟨⟨fun _ object => Value.noConfusion object, ?_⟩, both.2⟩
      rintro _ ⟨⟩ child found element member
      cases asked.symm.trans found
      obtain ⟨position, found⟩ := List.mem_iff_getElem?.mp member
      exact both.1 (element, position) (List.mem_zipIdx_iff_getElem?.mpr found)
  | unlooked notObject unasked =>
      refine ⟨⟨?_, ?_⟩, .refl _⟩
      · rintro _ rfl
        cases notObject
      · rintro _ rfl child found
        rw [unasked rfl] at found
        contradiction

theorem firstPassing_sound (sound : Sound clauses direction whole visit) (occurs : whole.Occurs path value)
    (grows : ∀ {index before failures after}, (visit index value path).run before = some (failures, after) →
      ∃ made, before.Gains after made)
    {branches : List Nat}
    (ran : (firstPassing (fun index => visit index value path) branches).run before = some (none, after)) :
    (∃ branch ∈ branches, Held clauses direction whole after branch value) ∧
      Paid clauses direction whole before after := by
  induction branches with
  | nil => exact absurd ((firstPassing_nil_run_iff _ _ _ _).mp ran).1 (by simp)
  | cons first rest ih =>
      rcases (firstPassing_cons_run_iff _ _ _ _ _ _).mp ran with
        ⟨passed, _⟩ | ⟨failures, middle, later, failed, firstRan, restRan, outcome⟩
      · obtain ⟨_, inner, rfl⟩ := (branch_run_iff _ _ _ _).mp passed
        obtain ⟨held, paid⟩ := sound.sound occurs inner
        exact ⟨⟨first, List.mem_cons_self, held⟩, paid⟩
      · obtain ⟨_, inner, rfl⟩ := (branch_run_iff _ _ _ _).mp firstRan
        obtain ⟨made, grown⟩ := grows inner
        rw [if_neg failed, grown.release] at restRan
        obtain rfl := Option.map_eq_none_iff.mp outcome.symm
        obtain ⟨⟨branch, member, held⟩, paid⟩ := ih restRan
        exact ⟨⟨branch, List.mem_cons_of_mem _ member, held⟩, paid⟩

theorem Clause.visitAnyOf_sound (sound : Sound clauses direction whole visit)
    (occurs : whole.Occurs path value)
    (grows : ∀ {index before failures after}, (visit index value path).run before = some (failures, after) →
      ∃ made, before.Gains after made)
    (ran : (clause.visitAnyOf visit value path).run before = some ([], after)) :
    (clause.anyOf = [] ∨ ∃ branch ∈ clause.anyOf, Held clauses direction whole after branch value) ∧
      Paid clauses direction whole before after := by
  rcases (clause.visitAnyOf_run_iff _ _ _ _ _ _).mp ran with
    ⟨unasked, _, rfl⟩ | ⟨_, outcome, tried, nothing⟩
  · exact ⟨.inl unasked, .refl _⟩
  · cases outcome with
    | none =>
        obtain ⟨held, paid⟩ := firstPassing_sound sound occurs grows tried
        exact ⟨.inr held, paid⟩
    | some found => exact absurd nothing.symm (List.append_ne_nil_of_right_ne_nil _ (List.cons_ne_nil _ _))

theorem Clause.routed_sound (keys : whole.hasUniqueKeys = true) (sound : Sound clauses direction whole visit)
    {index : Nat} (occurs : whole.Occurs path value)
    (routed : Clause.Routed (clauses.getD index {}) clauses visit index path value before [] after) :
    Assumed clauses whole after index value ∧ Paid clauses direction whole before after := by
  generalize nothing : ([] : List Failure) = failures at routed
  cases routed with
  | idle unrouted =>
      refine ⟨fun routes object => ?_, .refl _⟩
      rcases unrouted with none | notObject
      · exact absurd none routes
      · cases notObject.symm.trans object
  | again _ seen => exact ⟨fun _ _ => ⟨path, seen, occurs⟩, .refl _⟩
  | @variant dispatch entries _ chosen failures _ routes fresh tagged ran =>
      obtain ⟨rfl, closes⟩ := List.append_eq_nil_iff.mp nothing.symm
      obtain ⟨held, paid⟩ := sound.sound occurs ran
      have marked : (index, path) ∈ after.marks := paid.kept List.mem_cons_self
      refine ⟨fun _ _ => ⟨path, marked, occurs⟩, fun _ old => paid.kept (List.mem_cons_of_mem _ old), ?_⟩
      intro mark member new other placed
      by_cases own : mark = (index, path)
      · subst own
        obtain rfl := occurs.unique keys placed
        rintro _ _ found ⟨⟩
        cases routes.symm.trans found
        rw [tagged]
        exact ⟨held, (Clause.closureFailures_eq_nil_iff _ _ _ _).mp closes⟩
      · exact paid.paid mark member (by simp [own, new]) other placed
  | @lenient dispatch entries _ routes fresh tagged =>
      have marked : (index, path) ∈ (before.enter (index, path)).marks := List.mem_cons_self
      refine ⟨fun _ _ => ⟨path, marked, occurs⟩, fun _ old => List.mem_cons_of_mem _ old, ?_⟩
      intro mark member new other placed
      obtain rfl := (List.mem_cons.mp member).resolve_right new
      obtain rfl := occurs.unique keys placed
      rintro _ _ found ⟨⟩
      cases routes.symm.trans found
      rw [tagged]
      exact (Clause.closureFailures_eq_nil_iff _ _ _ _).mp nothing.symm

end

/-- A visit without failures leaves a value that holds, and every mark that it leaves is paid for. -/
theorem visit_sound {whole : Value} (noOneOf : ∀ index, (clauses.getD index {}).oneOf = [])
    (keys : whole.hasUniqueKeys = true) (fuel : Nat) :
    Sound clauses direction whole (visit clauses direction fuel) := by
  induction fuel with
  | zero => exact ⟨fun _ ran => nomatch ran⟩
  | succ fuel ih =>
      refine ⟨fun {index value path before after} occurs ran => ?_⟩
      have answered := (visit_run_iff _ _ _ _ _ _ _ _ _).mp ran
      generalize nothing : ([] : List Failure) = failures at answered
      cases answered with
      | null null => exact ⟨Held.iff_rule.mpr (.null null), .refl _⟩
      | mistyped _ mistyped =>
          obtain ⟨denied, typed⟩ := List.append_eq_nil_iff.mp nothing.symm
          exact ⟨Held.iff_rule.mpr (.excused ((Clause.denials_eq_nil_iff _ _ _ _).mp denied) mistyped
            ((Clause.mistypedFailures_eq_nil_iff _ _ _ _).mp typed)), .refl _⟩
      | @examined visited branches any one routed inside all anyOf oneOf _ _ typed entered allRan anyRan
          oneRan route =>
          have none := nothing.symm
          simp only [List.append_eq_nil_iff, Clause.denials_eq_nil_iff, Clause.scalarFailures_eq_nil_iff,
            Clause.insideFailures_eq_nil_iff] at none
          obtain ⟨⟨⟨⟨⟨⟨permits, suits⟩, visitedNone, keyed, distinct⟩, branchesNone⟩, anyNone⟩, _⟩,
            routedNone⟩ := none
          subst visitedNone anyNone routedNone
          obtain ⟨looked, paidInside⟩ := Clause.entered_sound ih occurs entered
          obtain ⟨allHeld, paidAll⟩ := threaded_sound
            (fun guard branch => Held clauses direction whole guard branch value)
            (fun kept branch held => Held.mono kept _ _ held) allRan
            (fun branch _ _ _ branchRan => ih.sound occurs branchRan) branchesNone
          obtain ⟨anyHeld, paidAny⟩ := Clause.visitAnyOf_sound ih occurs
            (fun branchRan => (visit_run_gains branchRan).imp fun _ grown => grown.1) anyRan
          have one := (Clause.visitOneOf_run_iff _ _ _ _ _ _ _).mp oneRan
          simp only [noOneOf index, true_and, ne_eq, not_true_eq_false, false_and, or_false] at one
          obtain ⟨_, rfl⟩ := one
          obtain ⟨assumed, paidRoute⟩ := Clause.routed_sound keys ih occurs route
          have keptAny := paidRoute.kept
          have keptAll := List.Subset.trans paidAny.kept keptAny
          have keptInside := List.Subset.trans paidAll.kept keptAll
          have meets : Meets clauses direction (Held clauses direction whole after) (clauses.getD index {})
              value := {
            suits
            keyed
            members entries object entry member :=
              ⟨(looked.members entries object entry member).1, fun child found =>
                Held.mono keptInside _ _ ((looked.members entries object entry member).2 child found)⟩
            items elements array := ⟨distinct elements array, fun child found element member =>
              Held.mono keptInside _ _ (looked.items elements array child found element member)⟩
            allOf branch member := Held.mono keptAll _ _ (allHeld branch member)
            anyOf := anyHeld.imp id fun ⟨branch, member, held⟩ => ⟨branch, member, Held.mono keptAny _ _ held⟩ }
          exact ⟨Held.iff_rule.mpr (.met permits typed meets assumed),
            ((paidInside.trans paidAll).trans paidAny).trans paidRoute⟩

/-- Evaluation is answered, and without failures exactly for the values that belong to the greatest
relation closed under the rules. -/
theorem evaluate_eq_nil_iff_valid (validator : Validator) (direction : Direction) (value : Value)
    (noOneOf : ∀ index, (validator.clauses.getD index {}).oneOf = []) (acyclic : Acyclic validator.clauses)
    (keys : value.hasUniqueKeys = true) :
    ∃ failures, validator.evaluate direction value = some failures ∧
      (failures = [] ↔ Valid validator.clauses direction validator.root value) := by
  obtain ⟨failures, answered⟩ := Option.isSome_iff_exists.mp (evaluate_isSome acyclic direction value)
  obtain ⟨⟨_, after⟩, ran, rfl⟩ := Option.map_eq_some_iff.mp answered
  refine ⟨_, answered, ?_, fun valid => (visit_passes_valid noOneOf _).passed valid ran⟩
  rintro rfl
  obtain ⟨held, paid⟩ := (visit_sound noOneOf keys _).sound .root ran
  exact paid.held_le_valid _ _ held

/-- A root that asks its variants, one of which asks the root again by `allOf`. -/
def petClauses : Array Clause := #[
  { typeName := some "object", properties := some [("kind", 2)], required := ["kind"],
    dispatch := some { property := "kind", variants := [("Pet", none), ("Dog", some 1)] } },
  { typeName := some "object", properties := some [("kind", 2), ("bark", 2)], required := ["bark"],
    allOf := [0] },
  { typeName := some "string" }]

/-- The variant that leads back to the root which is dispatching it accepts a dog. -/
theorem petClauses_valid_dog :
    let dog := Value.object [("kind", .string "Dog"), ("bark", .string "loud")]
    (∀ index, (petClauses.getD index {}).oneOf = []) ∧ Acyclic petClauses ∧ dog.hasUniqueKeys = true ∧
      Valid petClauses .request 0 dog := by
  have noOneOf (index : Nat) : (petClauses.getD index {}).oneOf = [] := by
    rcases index with _ | _ | _ | index <;> rfl
  have acyclic : Acyclic petClauses := by
    refine .of_descending id fun index branch composes => ?_
    rcases index with _ | _ | _ | index <;> simp [Composes, petClauses] at composes ⊢
    exact composes
  have keys : (Value.object [("kind", .string "Dog"), ("bark", .string "loud")]).hasUniqueKeys = true := by
    decide +kernel
  obtain ⟨failures, answered, verdict⟩ :=
    evaluate_eq_nil_iff_valid ⟨petClauses, 0⟩ .request _ noOneOf acyclic keys
  have passed : (⟨petClauses, 0⟩ : Validator).evaluate .request
      (.object [("kind", .string "Dog"), ("bark", .string "loud")]) = some [] := by
    decide +kernel
  exact ⟨noOneOf, acyclic, keys, verdict.mp (Option.some.inj (answered.symm.trans passed))⟩

end ApiContract.Validator
