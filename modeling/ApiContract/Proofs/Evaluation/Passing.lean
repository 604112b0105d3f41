import ApiContract.Proofs.Evaluation.Meaning
import ApiContract.Proofs.Evaluation.Members

/-!
What a visit without failures shows of the clause and of the clauses below it.
-/

namespace ApiContract.Validator

open Json (Value)

variable {clauses : Array Clause} {direction : Direction} {fuel index : Nat} {value : Value} {path : String}
  {before after : Guard}

theorem passing_parts (notNull : value.isNull = false)
    (ran : (visit clauses direction (fuel + 1) index value path).run before = some ([], after)) :
    (clauses.getD index {}).admitsType value = true ∧
      ∃ inside branches all anyOf,
        Clause.Entered (clauses.getD index {}) (visit clauses direction fuel) path value before [] inside ∧
        (clauses.getD index {}).insideFailures clauses direction value path [] = [] ∧
        Threaded (fun branch before result after =>
          (visit clauses direction fuel branch value path).run before = some (result, after))
          (clauses.getD index {}).allOf inside branches all ∧ (∀ result ∈ branches, result = []) ∧
        ((clauses.getD index {}).visitAnyOf (visit clauses direction fuel) value path).run all = some ([], anyOf) := by
  obtain ⟨failures, nothing, ran⟩ : ∃ failures, failures = [] ∧
      (visit clauses direction (fuel + 1) index value path).run before = some (failures, after) := ⟨[], rfl, ran⟩
  cases (visit_run_iff _ _ _ _ _ _ _ _ _).mp ran with
  | null null => simp [Clause.admitsNull, notNull] at null
  | mistyped _ mistyped =>
      have excused := (Clause.mistypedFailures_eq_nil_iff _ _ _ _).mp (List.append_eq_nil_iff.mp nothing).2
      simp [Clause.excuses, notNull] at excused
  | @examined visited branches any one routed inside all anyOf oneOf _ _ typed entered ranAll ranAny ranOne route =>
      simp only [List.append_eq_nil_iff] at nothing
      obtain ⟨⟨⟨⟨⟨_, within⟩, flat⟩, rfl⟩, _⟩, _⟩ := nothing
      obtain rfl := ((Clause.insideFailures_eq_nil_iff _ _ _ _ _ _).mp within).1
      exact ⟨typed, inside, branches, all, anyOf, entered, within, ranAll, List.flatten_eq_nil_iff.mp flat, ranAny⟩

theorem passing_branch (notNull : value.isNull = false)
    (ran : (visit clauses direction (fuel + 1) index value path).run before = some ([], after)) {branch : Nat}
    (member : branch ∈ (clauses.getD index {}).allOf) :
    ∃ guard later, (visit clauses direction fuel branch value path).run guard = some ([], later) := by
  obtain ⟨_, inside, branches, all, _, _, _, ranAll, nothing, _⟩ := passing_parts notNull ran
  obtain ⟨result, among, guard, later, ranBranch⟩ := ranAll.exists_result member
  rw [nothing result among] at ranBranch
  exact ⟨guard, later, ranBranch⟩

theorem branch_restores {failures : List Failure}
    (ran : (branch (visit clauses direction fuel index value path)).run before = some (failures, after))
    (failed : failures ≠ []) : after = before := by
  obtain ⟨middle, ranVisit, rfl⟩ := (branch_run_iff _ _ _ _).mp ran
  obtain ⟨made, gains, _⟩ := visit_run_gains ranVisit
  rw [if_neg failed]
  exact gains.release

/-- Trying branches ends well only if one of them passes where the first was tried. -/
theorem firstPassing_passing {branches : List Nat}
    (ran : (firstPassing (fun branch => visit clauses direction fuel branch value path) branches).run before =
      some (none, after)) :
    ∃ branch ∈ branches, (visit clauses direction fuel branch value path).run before = some ([], after) := by
  induction branches with
  | nil => cases (firstPassing_nil_run_iff _ _ _ _).mp ran |>.1
  | cons first rest ih =>
      rcases (firstPassing_cons_run_iff _ _ _ _ _ _).mp ran with
        ⟨passed, _⟩ | ⟨_, middle, later, failed, tried, ranRest, same⟩
      · obtain ⟨guard, ranFirst, rfl⟩ := (branch_run_iff _ _ _ _).mp passed
        exact ⟨first, List.mem_cons_self, ranFirst⟩
      · obtain rfl : later = none := by simpa using same.symm
        obtain rfl := branch_restores tried failed
        obtain ⟨branch, among, ranBranch⟩ := ih ranRest
        exact ⟨branch, List.mem_cons_of_mem _ among, ranBranch⟩

variable {entries : Assoc Value}

theorem passing_keyed
    (ran : (visit clauses direction (fuel + 1) index (.object entries) path).run before = some ([], after)) :
    (clauses.getD index {}).Keyed clauses direction entries := by
  obtain ⟨_, _, _, _, _, _, within, _⟩ := passing_parts rfl ran
  exact ((Clause.insideFailures_eq_nil_iff _ _ _ _ _ _).mp within).2.1 entries rfl

theorem passing_member (distinct : (Assoc.keys entries).Nodup) (fresh : Unmarked path before)
    (ran : (visit clauses direction (fuel + 1) index (.object entries) path).run before = some ([], after))
    {key : String} {member : Value} (among : (key, member) ∈ entries) {child : Nat}
    (found : (clauses.getD index {}).clauseFor? key = some child) :
    ∃ guard later, Unmarked (Pointer.child path key) guard ∧
      (visit clauses direction fuel child member (Pointer.child path key)).run guard = some ([], later) := by
  obtain ⟨_, inside, _, _, _, entered, _⟩ := passing_parts rfl ran
  obtain ⟨visited, nothing, entered⟩ : ∃ visited, visited = [] ∧ Clause.Entered (clauses.getD index {})
      (visit clauses direction fuel) path (.object entries) before visited inside := ⟨[], rfl, entered⟩
  cases entered with
  | @object _ _ results _ run =>
      obtain ⟨guard, later, result, member, freshHere, ranMember⟩ :=
        members_fresh distinct run (fun key _ => fresh.child key) among
      rw [Clause.visitMember_run_iff, found] at ranMember
      obtain rfl := List.flatten_eq_nil_iff.mp nothing result member
      exact ⟨guard, later, freshHere, ranMember⟩
  | unlooked scalar => cases scalar

end ApiContract.Validator
