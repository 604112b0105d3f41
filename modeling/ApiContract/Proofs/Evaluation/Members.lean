import ApiContract.Proofs.Evaluation.Simulation
import ApiContract.Proofs.Json.Place

/-!
Visits that do not interfere. Members of an object are visited at places of their own: what one of them marks is not seen
by another. Null is not dispatched: what is said about it does not depend on the guard.
-/

namespace ApiContract.Validator

open Json (Value)

theorem takeWhile_segment {segment rest : List Char} (plain : '/' ∉ segment)
    (tail : rest = [] ∨ ∃ more, rest = '/' :: more) : (segment ++ rest).takeWhile (· ≠ '/') = segment := by
  have passes : ∀ c ∈ segment, decide (c ≠ '/') = true := by
    intro c member
    have different : c ≠ '/' := fun same => plain (same ▸ member)
    simpa using different
  rw [List.takeWhile_append_of_pos passes]
  rcases tail with rfl | ⟨more, rfl⟩ <;> simp

theorem Tail.chars {rest : String} (tail : Tail rest) : rest.toList = [] ∨ ∃ more, rest.toList = '/' :: more := by
  rcases tail with rfl | ⟨more, rfl⟩
  · exact .inl rfl
  · exact .inr ⟨more.toList, by simp⟩

theorem child_append_inj {path key other first second : String} (tail : Tail first) (tailToo : Tail second)
    (same : Pointer.child path key ++ first = Pointer.child path other ++ second) : key = other ∧ first = second := by
  rw [child_eq_append, child_eq_append, String.append_assoc, String.append_assoc, String.append_assoc,
    String.append_assoc] at same
  have segments := append_right_inj "/" (append_right_inj path same)
  have chars := congrArg String.toList segments
  rw [String.toList_append, String.toList_append] at chars
  have plain := Pointer.slash_notMem_escape key
  have plainToo := Pointer.slash_notMem_escape other
  have keys := congrArg (List.takeWhile (· ≠ '/')) chars
  rw [takeWhile_segment plain tail.chars, takeWhile_segment plainToo tailToo.chars] at keys
  have escaped : Pointer.escape key = Pointer.escape other := String.toList_injective keys
  obtain rfl := Pointer.escape_injective escaped
  exact ⟨rfl, append_right_inj _ segments⟩

/-- No clause was dispatched at or below a place. -/
def Unmarked (path : String) (guard : Guard) : Prop :=
  ∀ index rest, Tail rest → (index, path ++ rest) ∉ guard.marks

theorem unmarked_empty (path : String) : Unmarked path {} := fun _ _ _ member => absurd member List.not_mem_nil

theorem Unmarked.widen {path rest : String} {guard : Guard} (fresh : Unmarked path guard) (tail : Tail rest) :
    Unmarked (path ++ rest) guard := by
  intro index suffix suffixTail member
  rw [String.append_assoc] at member
  exact fresh index _ (tail.append suffixTail) member

theorem Unmarked.child {path : String} {guard : Guard} (fresh : Unmarked path guard) (key : String) :
    Unmarked (Pointer.child path key) guard := by
  rw [child_eq_append]
  exact fresh.widen (.segment _)

variable {clauses : Array Clause} {direction : Direction} {fuel : Nat} {clause : Clause} {path : String}

theorem unmarked_of_visitMember {key other : String} {value : Value} {before after : Guard} {failures : List Failure}
    (ran : (clause.visitMember (visit clauses direction fuel) path (key, value)).run before = some (failures, after))
    (different : other ≠ key) (fresh : Unmarked (Pointer.child path other) before) :
    Unmarked (Pointer.child path other) after := by
  rw [Clause.visitMember_run_iff] at ran
  split at ran
  · obtain ⟨made, gains, below⟩ := visit_run_gains ran
    intro index rest tail member
    rw [gains.marks, List.mem_append] at member
    rcases member with new | old
    · obtain ⟨inner, innerTail, placed⟩ := below _ new
      exact different (child_append_inj tail innerTail placed).1
    · exact fresh index rest tail old
  · rw [ran.2]
    exact fresh

/-- Every member is visited at a place that no other member has marked. -/
theorem members_fresh {entries : Assoc Value} (distinct : (Assoc.keys entries).Nodup) {before after : Guard}
    {results : List (List Failure)}
    (run : Threaded (fun entry before result after =>
      (clause.visitMember (visit clauses direction fuel) path entry).run before = some (result, after))
      entries before results after)
    (fresh : ∀ key ∈ Assoc.keys entries, Unmarked (Pointer.child path key) before) {key : String} {value : Value}
    (member : (key, value) ∈ entries) :
    ∃ guard later, ∃ result ∈ results, Unmarked (Pointer.child path key) guard ∧
      (clause.visitMember (visit clauses direction fuel) path (key, value)).run guard = some (result, later) := by
  induction run with
  | nil => cases member
  | @cons entry rest result results before middle after first _ ih =>
      obtain ⟨firstKey, firstValue⟩ := entry
      obtain ⟨absent, distinctRest⟩ := List.nodup_cons.mp distinct
      rcases List.mem_cons.mp member with same | later
      · cases same
        exact ⟨before, middle, result, List.mem_cons_self, fresh key List.mem_cons_self, first⟩
      · have freshRest : ∀ other ∈ Assoc.keys rest, Unmarked (Pointer.child path other) middle := by
          intro other among
          have different : other ≠ firstKey := fun same => absent (same ▸ among)
          exact unmarked_of_visitMember first different (fresh other (List.mem_cons_of_mem _ among))
        obtain ⟨guard, last, found, among, freshHere, ran⟩ := ih distinctRest freshRest later
        exact ⟨guard, last, found, List.mem_cons_of_mem _ among, freshHere, ran⟩

end ApiContract.Validator

namespace ApiContract.Validator

open Json (Value)

def Idle {α : Type} (visiting : Visiting α) : Prop :=
  ∀ before answer after, visiting.run before = some (answer, after) →
    after = before ∧ ∀ guard, visiting.run guard = some (answer, guard)

namespace Idle

variable {α β : Type}

theorem pure (answer : α) : Idle (Pure.pure answer : Visiting α) := by
  rintro before _ _ ⟨⟩
  exact ⟨rfl, fun _ => rfl⟩

theorem bind {first : Visiting α} {next : α → Visiting β} (idle : Idle first) (idleNext : ∀ answer, Idle (next answer)) :
    Idle (first >>= next) := by
  intro before answer after ran
  obtain ⟨value, middle, ranFirst, ranNext⟩ := (StateT.run_bind_eq_some _ _ _ _).mp ran
  obtain ⟨rfl, anywhere⟩ := idle _ _ _ ranFirst
  obtain ⟨rfl, anywhereNext⟩ := idleNext value _ _ _ ranNext
  exact ⟨rfl, fun guard => (StateT.run_bind_eq_some _ _ _ _).mpr ⟨value, guard, anywhere guard, anywhereNext guard⟩⟩

theorem mapM {items : List α} {visit : α → Visiting β} (each : ∀ item, Idle (visit item)) : Idle (items.mapM visit) := by
  induction items with
  | nil =>
      rw [List.mapM_nil]
      exact .pure _
  | cons item rest ih =>
      rw [List.mapM_cons]
      exact (each item).bind fun _ => ih.bind fun _ => .pure _

theorem collect {items : List α} {visit : α → Visiting (List Failure)} (each : ∀ item, Idle (visit item)) :
    Idle (collect items visit) :=
  (mapM each).bind fun _ => .pure _

variable {visit : Visiting (List Failure)}

theorem branch (idle : Idle visit) : Idle (branch visit) := by
  intro before failures after ran
  obtain ⟨middle, ranVisit, rfl⟩ := (branch_run_iff _ _ _ _).mp ran
  obtain ⟨rfl, anywhere⟩ := idle _ _ _ ranVisit
  have released (guard : Guard) : (if failures = [] then guard else guard.release guard.size) = guard := by
    split
    · rfl
    · exact (Guard.Gains.refl guard).release
  refine ⟨released middle, fun guard => (branch_run_iff _ _ _ _).mpr ⟨guard, anywhere guard, ?_⟩⟩
  exact (released guard).symm

theorem firstPassing {visit : Nat → Visiting (List Failure)} (each : ∀ index, Idle (visit index)) (branches : List Nat) :
    Idle (firstPassing visit branches) := by
  induction branches with
  | nil => exact .pure _
  | cons index rest ih =>
      unfold Validator.firstPassing
      refine (each index).branch.bind fun failures => ?_
      split
      · exact .pure _
      · exact ih.bind fun _ => .pure _

end Idle

variable {clauses : Array Clause} {direction : Direction}

theorem idle_visitAnyOf {clause : Clause} {visit : Visit} {value : Value} {path : String}
    (each : ∀ index, Idle (visit index value path)) : Idle (clause.visitAnyOf visit value path) := by
  unfold Clause.visitAnyOf
  split
  · exact .pure _
  · refine (Idle.firstPassing each _).bind fun outcome => ?_
    split <;> exact .pure _

theorem idle_visitOneOf {clause : Clause} {visit : Visit} {value : Value} {path : String}
    (each : ∀ index, Idle (visit index value path)) : Idle (clause.visitOneOf visit value path) := by
  unfold Clause.visitOneOf
  split
  · exact .pure _
  · refine (Idle.mapM fun index => (each index).branch).bind fun outcomes => ?_
    split <;> exact .pure _

/-- What is said about null is said whatever was dispatched before. -/
theorem idle_visit_null (fuel index : Nat) (path : String) : Idle (visit clauses direction fuel index .null path) := by
  induction fuel generalizing index path with
  | zero =>
      intro before answer after ran
      cases ran
  | succ fuel ih =>
      unfold visit
      dsimp only
      split
      · exact .pure _
      · split
        · refine (Idle.pure []).bind fun inside => ?_
          refine (Idle.collect fun branch => ih branch path).bind fun all => ?_
          refine (idle_visitAnyOf fun branch => ih branch path).bind fun any => ?_
          refine (idle_visitOneOf fun branch => ih branch path).bind fun one => ?_
          have unrouted : (clauses.getD index {}).visitDispatch clauses (visit clauses direction fuel) index .null path =
              Pure.pure [] := by
            unfold Clause.visitDispatch
            cases (clauses.getD index {}).dispatch <;> rfl
          rw [unrouted]
          exact (Idle.pure _).bind fun _ => .pure _
        · split <;> exact .pure _

end ApiContract.Validator
