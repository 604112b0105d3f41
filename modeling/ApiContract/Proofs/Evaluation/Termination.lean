import Mathlib.Data.Finset.Card
import Mathlib.Logic.Relation
import ApiContract.Proofs.Evaluation.Simulation
import ApiContract.Proofs.Json.Place
import ApiContract.Proofs.Related

/-!
Visits are answered: where composition does not lead back to where it started, the fuel of an evaluation
lasts (`evaluate_isSome`).

On the way from a visit to a visit inside it the value gets smaller, or a clause is dispatched that was not
dispatched at this place before, or composition leads on to a clause that reaches fewer clauses.
-/

namespace ApiContract.Validator

open Json (Value)

/-- A clause asks another one about the same value. -/
def Composes (clauses : Array Clause) (index branch : Nat) : Prop :=
  branch ∈ (clauses.getD index {}).allOf ∨ branch ∈ (clauses.getD index {}).anyOf ∨
    branch ∈ (clauses.getD index {}).oneOf

def Acyclic (clauses : Array Clause) : Prop :=
  ∀ index, ¬Relation.TransGen (Composes clauses) index index

theorem Acyclic.of_descending {clauses : Array Clause} (height : Nat → Nat)
    (descends : ∀ index branch, Composes clauses index branch → height branch < height index) :
    Acyclic clauses :=
  IsAcyclic.of_descending height descends

theorem lt_size_of_ne_default {clauses : Array Clause} {index : Nat} (asks : clauses.getD index {} ≠ {}) :
    index < clauses.size := by
  by_contra outside
  exact asks (by simp [Array.getD, outside])

/-! ## Ranks -/

section

open Classical

/-- The number of clauses that composition leads to. -/
noncomputable def rank (clauses : Array Clause) (index : Nat) : Nat :=
  ((Finset.range clauses.size).filter (Relation.ReflTransGen (Composes clauses) index)).card

/-- The number of clauses that were not dispatched at a place. -/
noncomputable def unmarked (clauses : Array Clause) (path : String) (guard : Guard) : Nat :=
  ((Finset.range clauses.size).filter fun index => (index, path) ∉ guard.marks).card

variable {clauses : Array Clause} {path : String} {guard later : Guard}

theorem rank_le_size (index : Nat) : rank clauses index ≤ clauses.size :=
  reach_le (Composes clauses) clauses.size index

theorem unmarked_le_size : unmarked clauses path guard ≤ clauses.size :=
  (Finset.card_filter_le _ _).trans_eq (Finset.card_range _)

theorem rank_lt (acyclic : Acyclic clauses) {index branch : Nat} (composes : Composes clauses index branch) :
    rank clauses branch < rank clauses index := by
  have inside : index < clauses.size := by
    apply lt_size_of_ne_default
    intro default
    simp [Composes, default] at composes
  exact IsAcyclic.reach_lt acyclic inside composes

theorem unmarked_mono (kept : guard.marks ⊆ later.marks) :
    unmarked clauses path later ≤ unmarked clauses path guard := by
  apply Finset.card_le_card
  intro index member
  rw [Finset.mem_filter] at member ⊢
  exact ⟨member.1, fun old => member.2 (kept old)⟩

theorem unmarked_enter_lt {index : Nat} (inside : index < clauses.size) (fresh : (index, path) ∉ guard.marks) :
    unmarked clauses path (guard.enter (index, path)) < unmarked clauses path guard := by
  apply Finset.card_lt_card
  refine Finset.ssubset_iff_of_subset ?_ |>.mpr ⟨index, ?_, ?_⟩
  · intro other member
    rw [Finset.mem_filter] at member ⊢
    exact ⟨member.1, fun old => member.2 (List.mem_cons_of_mem _ old)⟩
  · exact Finset.mem_filter.mpr ⟨Finset.mem_range.mpr inside, fresh⟩
  · intro member
    exact (Finset.mem_filter.mp member).2 List.mem_cons_self

end

/-- The fuel that a visit takes at most, for a depth of the value, a number of clauses not dispatched, and
a rank. -/
def demand (size depth unmarked rank : Nat) : Nat :=
  depth * ((size + 1) * (size + 1)) + unmarked * (size + 1) + rank + 1

theorem demand_composed {size depth unmarked fewer rank less fuel : Nat} (marked : fewer ≤ unmarked)
    (below : less < rank) (enough : demand size depth unmarked rank ≤ fuel + 1) :
    demand size depth fewer less ≤ fuel := by
  have smaller := Nat.mul_le_mul_right (size + 1) marked
  unfold demand at enough ⊢
  omega

theorem demand_dispatched {size depth unmarked fewer rank other fuel : Nat} (marked : fewer < unmarked)
    (bounded : other ≤ size) (enough : demand size depth unmarked rank ≤ fuel + 1) :
    demand size depth fewer other ≤ fuel := by
  have smaller := Nat.mul_le_mul_right (size + 1) (Nat.succ_le_of_lt marked)
  rw [Nat.succ_mul] at smaller
  unfold demand at enough ⊢
  omega

theorem demand_inside {size depth lower unmarked fewer rank other fuel : Nat} (shallower : lower < depth)
    (marked : fewer ≤ size) (bounded : other ≤ size) (enough : demand size depth unmarked rank ≤ fuel + 1) :
    demand size lower fewer other ≤ fuel := by
  have square : (size + 1) * (size + 1) = size * (size + 1) + (size + 1) := Nat.succ_mul size (size + 1)
  have depths := Nat.mul_le_mul_right ((size + 1) * (size + 1)) (Nat.succ_le_of_lt shallower)
  have marks := Nat.mul_le_mul_right (size + 1) marked
  rw [Nat.succ_mul] at depths
  unfold demand at enough ⊢
  omega

/-! ## Visits are answered -/

/-- The visit is answered from every guard that has some marks, and it keeps them. -/
abbrev Answers {α : Type} (start : Guard) (visiting : Visiting α) : Prop :=
  ApiContract.Answers (fun guard => start.marks ⊆ guard.marks) visiting

namespace Answers

variable {α : Type} {start : Guard}

theorem collect {items : List α} {visiting : α → Visiting (List Failure)}
    (each : ∀ item ∈ items, Answers start (visiting item)) : Answers start (collect items visiting) :=
  .bind (.mapM each) fun _ => .pure _

theorem branch {visiting : Visiting (List Failure)} (answers : Answers start visiting)
    (grows : ∀ {before failures after}, visiting.run before = some (failures, after) →
      ∃ made, before.Gains after made) : Answers start (branch visiting) := by
  intro before kept
  obtain ⟨failures, middle, ran, keptMiddle⟩ := answers before kept
  refine ⟨failures, _, (branch_run_iff _ _ _ _).mpr ⟨middle, ran, rfl⟩, ?_⟩
  split
  · exact keptMiddle
  · obtain ⟨made, grown⟩ := grows ran
    rw [grown.release]
    exact kept

theorem firstPassing {visiting : Nat → Visiting (List Failure)} {branches : List Nat}
    (each : ∀ index ∈ branches, Answers start (visiting index))
    (grows : ∀ {index before failures after}, (visiting index).run before = some (failures, after) →
      ∃ made, before.Gains after made) : Answers start (firstPassing visiting branches) := by
  induction branches with
  | nil => exact .pure _
  | cons index rest ih =>
      refine .bind (Answers.branch (each index List.mem_cons_self) grows) fun failures => ?_
      split
      · exact .pure _
      · exact .bind (ih fun index member => each index (List.mem_cons_of_mem _ member)) fun _ => .pure _

end Answers

section

variable {clauses : Array Clause} {direction : Direction} {start : Guard} {visit : Visit} {value : Value}
  {path : String}

namespace Clause

theorem visitInside_answers (clause : Clause)
    (deeper : ∀ child (inner : Value) place, inner.depth < value.depth → Answers start (visit child inner place)) :
    Answers start (clause.visitInside clauses direction visit value path) := by
  cases value with
  | object entries =>
      refine .bind (Answers.collect fun entry member => ?_) fun _ => .pure _
      obtain ⟨key, inner⟩ := entry
      intro before kept
      simp only [visitMember_run_iff]
      cases clause.clauseFor? key with
      | some child => exact deeper child inner _ (Value.depth_lt_of_mem_entries member) before kept
      | none => exact ⟨_, before, ⟨rfl, rfl⟩, kept⟩
  | array items =>
      refine .bind ?_ fun _ => .pure _
      unfold visitItems
      split
      · exact Answers.collect fun item member => deeper _ _ _
          (Value.depth_lt_of_mem_items (List.fst_mem_of_mem_zipIdx member))
      · exact .pure _
  | null | bool flag | number n | string text => exact .pure _

variable (grows : ∀ {index before failures after}, (visit index value path).run before = some (failures, after) →
  ∃ made, before.Gains after made)

include grows

theorem visitAnyOf_answers (clause : Clause)
    (branches : ∀ index ∈ clause.anyOf, Answers start (visit index value path)) :
    Answers start (clause.visitAnyOf visit value path) := by
  unfold visitAnyOf
  split
  · exact .pure _
  · refine .bind (Answers.firstPassing branches grows) fun outcome => ?_
    cases outcome <;> exact .pure _

theorem visitOneOf_answers (clause : Clause)
    (branches : ∀ index ∈ clause.oneOf, Answers start (visit index value path)) :
    Answers start (clause.visitOneOf visit value path) := by
  unfold visitOneOf
  split
  · exact .pure _
  · refine .bind (.mapM fun index member => Answers.branch (branches index member) grows) fun outcomes => ?_
    split <;> exact .pure _

omit grows

theorem visitDispatch_answers {index : Nat}
    (variant : ∀ (chosen : Nat) (guard : Guard), start.marks ⊆ guard.marks → (index, path) ∉ guard.marks →
      index < clauses.size → Answers (guard.enter (index, path)) (visit chosen value path)) :
    Answers start ((clauses.getD index {}).visitDispatch clauses visit index value path) := by
  intro before kept
  simp only [visitDispatch_run_iff]
  by_cases routes : ∃ dispatch entries, (clauses.getD index {}).dispatch = some dispatch ∧
      value = .object entries
  · obtain ⟨dispatch, entries, routes, rfl⟩ := routes
    by_cases seen : (index, path) ∈ before.marks
    · exact ⟨_, _, .again routes seen, kept⟩
    · rcases tagged : variant? dispatch entries with _ | chosen
      · exact ⟨_, _, .lenient routes seen tagged, fun _ old => List.mem_cons_of_mem _ (kept old)⟩
      · have inside : index < clauses.size := by
          apply lt_size_of_ne_default
          intro default
          rw [default] at routes
          contradiction
        obtain ⟨_, _, ran, keptLater⟩ := variant chosen before kept seen inside _ (List.Subset.refl _)
        exact ⟨_, _, .variant routes seen tagged ran,
          fun _ old => keptLater (List.mem_cons_of_mem _ (kept old))⟩
  · refine ⟨_, before, .idle ?_, kept⟩
    rcases unrouted : (clauses.getD index {}).dispatch with _ | dispatch
    · exact .inl rfl
    · cases value with
      | object entries => exact absurd ⟨_, _, unrouted, rfl⟩ routes
      | null | bool flag | number n | string text | array items => exact .inr rfl

end Clause

end

section

variable {clauses : Array Clause} {direction : Direction}

/-- The fuel lasts for the visits that composition and dispatch lead to. -/
theorem visit_answers (acyclic : Acyclic clauses) {fuel index : Nat} {value : Value} {path : String}
    {start : Guard}
    (enough : demand clauses.size value.depth (unmarked clauses path start) (rank clauses index) ≤ fuel) :
    Answers start (visit clauses direction fuel index value path) := by
  induction fuel generalizing index value path start with
  | zero => exact absurd enough (by simp [demand])
  | succ fuel ih =>
      have deeper child (inner : Value) place (shallower : inner.depth < value.depth) :
          Answers start (visit clauses direction fuel child inner place) :=
        ih (demand_inside shallower unmarked_le_size (rank_le_size child) enough)
      have composed branch (composes : Composes clauses index branch) :
          Answers start (visit clauses direction fuel branch value path) :=
        ih (demand_composed (Nat.le_refl _) (rank_lt acyclic composes) enough)
      have grows {branch : Nat} {before after : Guard} {failures : List Failure}
          (ran : (visit clauses direction fuel branch value path).run before = some (failures, after)) :
          ∃ made, before.Gains after made :=
        (visit_run_gains ran).imp fun _ grown => grown.1
      rw [visit]
      split
      · exact .pure _
      · dsimp only
        split
        · refine .bind ((clauses.getD index {}).visitInside_answers deeper) fun _ => ?_
          refine .bind (Answers.collect fun branch member => composed branch (.inl member)) fun _ => ?_
          refine .bind (Clause.visitAnyOf_answers grows _ fun branch member =>
            composed branch (.inr (.inl member))) fun _ => ?_
          refine .bind (Clause.visitOneOf_answers grows _ fun branch member =>
            composed branch (.inr (.inr member))) fun _ => ?_
          refine .bind (Clause.visitDispatch_answers fun chosen guard kept fresh inside => ?_) fun _ => .pure _
          exact ih (demand_dispatched
            (Nat.lt_of_lt_of_le (unmarked_enter_lt inside fresh) (unmarked_mono kept))
            (rank_le_size chosen) enough)
        · split <;> exact .pure _

/-- Without composition that leads back, the fuel of an evaluation lasts. -/
theorem evaluate_isSome {validator : Validator} (acyclic : Acyclic validator.clauses)
    (direction : Direction) (value : Value) : (validator.evaluate direction value).isSome = true := by
  have lasts : demand validator.size value.depth (unmarked validator.clauses "" {})
      (rank validator.clauses validator.root) ≤
        (value.depth + 1) * ((validator.size + 1) * (validator.size + 1)) :=
    have above : demand validator.size (value.depth + 1) 0 0 ≤
        (value.depth + 1) * ((validator.size + 1) * (validator.size + 1)) + 1 := by
      simp [demand]
    demand_inside (Nat.lt_succ_self _) unmarked_le_size (rank_le_size _) above
  have room : (validator.size + 1) * (validator.size + 1) ≤
      (validator.size + 1) * ((validator.size + 1) * (value.weight + 1) + 1) := by
    apply Nat.mul_le_mul_left
    have whole := Nat.le_mul_of_pos_right (validator.size + 1) (Nat.succ_pos value.weight)
    exact Nat.le_succ_of_le whole
  have enough := lasts.trans (Nat.mul_le_mul_left (value.depth + 1) room)
  rw [Nat.mul_comm, ← fuelFor] at enough
  have answers : Answers {} (visit validator.clauses direction (validator.fuelFor value) validator.root value "") :=
    visit_answers acyclic enough
  obtain ⟨failures, after, ran, _⟩ := answers {} (List.Subset.refl _)
  simp [evaluate, evaluateWithin, ran]

end

end ApiContract.Validator
