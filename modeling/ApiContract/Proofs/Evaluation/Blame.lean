import Mathlib.Logic.Relation
import ApiContract.Proofs.Assoc
import ApiContract.Proofs.Evaluation.Members
import ApiContract.Proofs.Evaluation.Termination

/-!
Where failures come from. Every failure of a visit is said by a clause that applies to the same value, or
was found in a member or an item (`visit_blame`).
-/

namespace ApiContract.Validator

open Json (Value)

/-- The other clause is asked about the same value: it is a branch, or the variant that the value names. -/
inductive Joins (clauses : Array Clause) (value : Value) (index : Nat) : Nat → Prop
  | composed {branch} : Composes clauses index branch → Joins clauses value index branch
  | chosen {dispatch entries variant} : (clauses.getD index {}).dispatch = some dispatch →
      value = .object entries → Clause.variant? dispatch entries = some variant → Joins clauses value index variant

abbrev Beside (clauses : Array Clause) (value : Value) : Nat → Nat → Prop :=
  Relation.ReflTransGen (Joins clauses value)

namespace Clause

/-- What a clause may say about a value itself; members and undeclared keys are not looked at. -/
def ownFailures (clause : Clause) (clauses : Array Clause) (direction : Direction) (value : Value)
    (path : String) : List Failure :=
  clause.denials direction value path ++ clause.mistypedFailures direction value path
    ++ clause.scalarFailures value path ++ clause.insideFailures clauses direction value path []
    ++ [clause.fail .anyOf .anyOfMissing path .none, clause.fail .oneOf .oneOfMissing path .none,
      clause.fail .oneOf .oneOfMultiple path .none]

/-- The clause that the keys of an object are closed against. -/
def chosen (root : Clause) (clauses : Array Clause) (dispatch : Dispatch) (entries : Assoc Value) : Clause :=
  match variant? dispatch entries with
  | some variant => clauses.getD variant {}
  | none => root

end Clause

/-- How a clause comes to report a failure of a value. -/
inductive Blamed (clauses : Array Clause) (direction : Direction) (value : Value) (path : String) (index : Nat)
    (failure : Failure) : Prop
  | own : failure ∈ (clauses.getD index {}).ownFailures clauses direction value path →
      Blamed clauses direction value path index failure
  | undeclared {entries key member} : value = .object entries → (key, member) ∈ entries →
      (clauses.getD index {}).clauseFor? key = none → (clauses.getD index {}).forbids key = true →
      failure = (clauses.getD index {}).additionalFailure key path →
      Blamed clauses direction value path index failure
  | closed {dispatch entries} : (clauses.getD index {}).dispatch = some dispatch → value = .object entries →
      failure ∈ (clauses.getD index {}).closureFailures
        ((clauses.getD index {}).chosen clauses dispatch entries) entries path →
      Blamed clauses direction value path index failure
  | member {entries key member child fuel before failures after} : value = .object entries →
      (key, member) ∈ entries → (clauses.getD index {}).clauseFor? key = some child →
      (visit clauses direction fuel child member (Pointer.child path key)).run before = some (failures, after) →
      failure ∈ failures → Blamed clauses direction value path index failure
  | item {items child item position fuel before failures after} : value = .array items → item ∈ items →
      (clauses.getD index {}).items = some child →
      (visit clauses direction fuel child item (Pointer.item path position)).run before = some (failures, after) →
      failure ∈ failures → Blamed clauses direction value path index failure

variable {clauses : Array Clause} {direction : Direction} {value : Value} {path : String} {index : Nat}
  {failure : Failure}

theorem firstPassing_exists {visit : Nat → Visiting (List Failure)} {branches : List Nat} {before after : Guard}
    {found : List Failure} (ran : (firstPassing visit branches).run before = some (some found, after))
    (member : failure ∈ found) :
    ∃ branch ∈ branches, ∃ before failures after,
      (visit branch).run before = some (failures, after) ∧ failure ∈ failures := by
  induction branches generalizing before found with
  | nil =>
      cases (firstPassing_nil_run_iff _ _ _ _).mp ran |>.1
      cases member
  | cons first rest ih =>
      rcases (firstPassing_cons_run_iff _ _ _ _ _ _).mp ran with
        ⟨_, passed⟩ | ⟨failures, middle, later, _, tried, ranRest, all⟩
      · cases passed
      · obtain ⟨laterFound, rfl, rfl⟩ := Option.map_eq_some_iff.mp all.symm
        rcases List.mem_append.mp member with here | there
        · obtain ⟨guard, ranFirst, _⟩ := (branch_run_iff _ _ _ _).mp tried
          exact ⟨first, List.mem_cons_self, before, failures, guard, ranFirst, here⟩
        · obtain ⟨branch, among, found⟩ := ih ranRest there
          exact ⟨branch, List.mem_cons_of_mem _ among, found⟩

theorem mem_insideFailures {clause : Clause} {visited : List Failure}
    (member : failure ∈ clause.insideFailures clauses direction value path visited) :
    failure ∈ clause.insideFailures clauses direction value path [] ∨ failure ∈ visited := by
  unfold Clause.insideFailures at *
  split at member
  · simpa only [List.append_nil] using List.mem_append.mp member
  · simpa only [List.nil_append] using (List.mem_append.mp member).symm
  · exact .inr member

/-- A part of a visit whose failures come from visits of the same value with clauses that join. -/
def FromJoined (clauses : Array Clause) (direction : Direction) (fuel : Nat) (value : Value) (path : String)
    (index : Nat) (failure : Failure) : Prop :=
  ∃ other, Joins clauses value index other ∧ ∃ before failures after,
    (visit clauses direction fuel other value path).run before = some (failures, after) ∧ failure ∈ failures

theorem entered_blamed {fuel : Nat} {before after : Guard} {visited : List Failure}
    (entered : (clauses.getD index {}).Entered (visit clauses direction fuel) path value before visited after)
    (member : failure ∈ visited) : Blamed clauses direction value path index failure := by
  cases entered with
  | @object entries _ results _ run =>
      obtain ⟨result, among, inside⟩ := List.mem_flatten.mp member
      obtain ⟨⟨key, content⟩, entry, guard, later, ran⟩ := run.exists_step among
      rw [Clause.visitMember_run_iff] at ran
      split at ran
      next child found => exact .member rfl entry found ran inside
      next unfound =>
        obtain ⟨rfl, _⟩ := ran
        split at inside
        next forbidden =>
          obtain rfl := List.mem_singleton.mp inside
          exact .undeclared rfl entry unfound forbidden rfl
        · cases inside
  | @array items child _ results _ asked run =>
      obtain ⟨result, among, inside⟩ := List.mem_flatten.mp member
      obtain ⟨⟨item, position⟩, placed, guard, later, ran⟩ := run.exists_step among
      exact .item rfl (List.fst_mem_of_mem_zipIdx placed) asked ran inside
  | unlooked => cases member

theorem anyOf_blamed {fuel : Nat} {before after : Guard} {any : List Failure}
    (ran : ((clauses.getD index {}).visitAnyOf (visit clauses direction fuel) value path).run before =
      some (any, after)) (member : failure ∈ any) :
    failure = (clauses.getD index {}).fail .anyOf .anyOfMissing path .none ∨
      FromJoined clauses direction fuel value path index failure := by
  rcases (Clause.visitAnyOf_run_iff _ _ _ _ _ _ _).mp ran with ⟨_, rfl, _⟩ | ⟨_, outcome, tried, rfl⟩
  · cases member
  · cases outcome with
    | none => cases member
    | some found =>
        rcases List.mem_append.mp member with inside | own
        · obtain ⟨branch, among, guard, failures, later, ranBranch, inside⟩ := firstPassing_exists tried inside
          exact .inr ⟨branch, .composed (.inr (.inl among)), guard, failures, later, ranBranch, inside⟩
        · exact .inl (List.mem_singleton.mp own)

theorem oneOf_blamed {fuel : Nat} {before after : Guard} {one : List Failure}
    (ran : ((clauses.getD index {}).visitOneOf (visit clauses direction fuel) value path).run before =
      some (one, after)) (member : failure ∈ one) :
    failure ∈ [(clauses.getD index {}).fail .oneOf .oneOfMissing path .none,
        (clauses.getD index {}).fail .oneOf .oneOfMultiple path .none] ∨
      FromJoined clauses direction fuel value path index failure := by
  rcases (Clause.visitOneOf_run_iff _ _ _ _ _ _ _).mp ran with ⟨_, rfl, _⟩ | ⟨_, outcomes, tried, rfl⟩
  · cases member
  · unfold Clause.oneOfFailures at member
    split at member
    · rcases List.mem_append.mp member with inside | own
      · obtain ⟨result, among, inside⟩ := List.mem_flatten.mp inside
        obtain ⟨branch, branchAmong, guard, later, ranBranch⟩ := tried.exists_step among
        obtain ⟨middle, ranVisit, _⟩ := (branch_run_iff _ _ _ _).mp ranBranch
        exact .inr ⟨branch, .composed (.inr (.inr branchAmong)), guard, result, middle, ranVisit, inside⟩
      · exact .inl (List.mem_cons.mpr (.inl (List.mem_singleton.mp own)))
    · cases member
    · exact .inl (List.mem_cons_of_mem _ member)

theorem routed_blamed {fuel : Nat} {before after : Guard} {routed : List Failure}
    (route : (clauses.getD index {}).Routed clauses (visit clauses direction fuel) index path value before routed after)
    (member : failure ∈ routed) :
    Blamed clauses direction value path index failure ∨ FromJoined clauses direction fuel value path index failure := by
  cases route with
  | idle => cases member
  | again => cases member
  | @variant dispatch entries _ chosen failures _ routes fresh named ran =>
      rcases List.mem_append.mp member with inside | shut
      · exact .inr ⟨chosen, .chosen routes rfl named, _, failures, after, ran, inside⟩
      · refine .inl (.closed routes rfl ?_)
        simpa only [Clause.chosen, named] using shut
  | @lenient dispatch entries _ routes fresh unnamed =>
      refine .inl (.closed routes rfl ?_)
      simpa only [Clause.chosen, unnamed] using member

/-- Every failure is to be blamed on a clause that applies to the value. -/
theorem visit_blame (fuel : Nat) {before after : Guard} {failures : List Failure}
    (ran : (visit clauses direction fuel index value path).run before = some (failures, after))
    (member : failure ∈ failures) :
    ∃ other, Beside clauses value index other ∧ Blamed clauses direction value path other failure := by
  induction fuel generalizing index before after failures with
  | zero => cases ran
  | succ fuel ih =>
      have joined (from_joined : FromJoined clauses direction fuel value path index failure) :
          ∃ other, Beside clauses value index other ∧ Blamed clauses direction value path other failure := by
        obtain ⟨branch, joins, guard, found, later, ranBranch, inside⟩ := from_joined
        obtain ⟨other, beside, blamed⟩ := ih ranBranch inside
        exact ⟨other, .head joins beside, blamed⟩
      have here (blamed : Blamed clauses direction value path index failure) :
          ∃ other, Beside clauses value index other ∧ Blamed clauses direction value path other failure :=
        ⟨index, .refl, blamed⟩
      cases (visit_run_iff _ _ _ _ _ _ _ _ _).mp ran with
      | null => cases member
      | mistyped notNull mistyped =>
          refine here (.own ?_)
          simp only [Clause.ownFailures, List.append_assoc]
          rcases List.mem_append.mp member with denied | typed
          · exact List.mem_append_left _ denied
          · exact List.mem_append_right _ (List.mem_append_left _ typed)
      | @examined visited branches any one routed inside all anyOf oneOf _ notNull typed entered ranAll ranAny
          ranOne route =>
          simp only [List.mem_append] at member
          have own (said : failure ∈ (clauses.getD index {}).ownFailures clauses direction value path) := here (.own said)
          simp only [Clause.ownFailures, List.mem_append] at own
          rcases member with (((((denied | scalar) | within) | branch) | any) | one) | routing
          · exact own (.inl (.inl (.inl (.inl denied))))
          · exact own (.inl (.inl (.inr scalar)))
          · rcases mem_insideFailures within with said | found
            · exact own (.inl (.inr said))
            · exact here (entered_blamed entered found)
          · obtain ⟨result, among, inside⟩ := List.mem_flatten.mp branch
            obtain ⟨target, branched, guard, later, ranBranch⟩ := ranAll.exists_step among
            exact joined ⟨target, .composed (.inl branched), guard, result, later, ranBranch, inside⟩
          · rcases anyOf_blamed ranAny any with rfl | inside
            · exact own (.inr (by simp))
            · exact joined inside
          · rcases oneOf_blamed ranOne one with said | inside
            · exact own (.inr (List.mem_cons_of_mem _ said))
            · exact joined inside
          · rcases routed_blamed route routing with blamed | inside
            · exact here blamed
            · exact joined inside

/-! ## At the place of a member -/

namespace Clause

variable {clause : Clause}

theorem mem_denials (member : failure ∈ clause.denials direction value path) :
    failure.skip = clause.skip ∧ failure.path = path ∧ failure.code ∈ [ErrorCode.readonlyPropertyNotAllowedInRequest,
      .writeonlyPropertyNotAllowedInResponse, .secretProperty] := by
  unfold denials at member
  split at member
  · cases member
  · unfold accessFailures at member
    dsimp only at member
    rcases List.mem_append.mp member with written | shown
    · split at written
      · split at written <;> simp at written
        simp [written]
      · split at written <;> simp at written
        simp [written]
      · split at written <;> simp at written
        simp [written]
      · cases written
    · split at shown <;> simp at shown
      simp [shown]

theorem mem_mistypedFailures (member : failure ∈ clause.mistypedFailures direction value path) :
    failure.skip = clause.skip ∧ failure.path = path ∧ failure.code = .invalidType := by
  unfold mistypedFailures typeFailures at member
  split at member
  · cases member
  · simp at member
    simp [member]

theorem mem_enumFailures (member : failure ∈ clause.enumFailures value path) :
    ∃ code ∈ [ErrorCode.enumCaseMismatch, .enumMismatch], failure = clause.fail .enum code path (.data value) := by
  unfold enumFailures at member
  split at member
  · cases member
  · dsimp only at member
    split at member
    · cases member
    · split at member
      · exact ⟨.enumCaseMismatch, by simp, List.mem_singleton.mp member⟩
      · split at member
        · cases member
        · exact ⟨.enumMismatch, by simp, List.mem_singleton.mp member⟩

theorem mem_formatFailures (member : failure ∈ clause.formatFailures value path) :
    ∃ detail, failure = clause.fail .format .invalidFormat path detail := by
  unfold formatFailures at member
  split at member
  · cases member
  · split at member
    · cases member
    · exact ⟨_, List.mem_singleton.mp member⟩

theorem mem_scalarFailures (member : failure ∈ clause.scalarFailures value path) :
    failure.skip = clause.skip ∧ failure.path = path ∧
      (failure.code ∈ [ErrorCode.enumCaseMismatch, .enumMismatch, .invalidFormat] ∨
        ∃ check ∈ clause.checks, failure.code = check.keyword.code) := by
  simp only [scalarFailures, List.mem_append] at member
  rcases member with (listed | formatted) | checked
  · obtain ⟨code, among, rfl⟩ := mem_enumFailures listed
    exact ⟨rfl, rfl, .inl (List.mem_append_left [ErrorCode.invalidFormat] among)⟩
  · obtain ⟨detail, rfl⟩ := mem_formatFailures formatted
    have invalid : ErrorCode.invalidFormat ∈ [ErrorCode.enumCaseMismatch, .enumMismatch, .invalidFormat] := by decide
    exact ⟨rfl, rfl, .inl invalid⟩
  · obtain ⟨check, among, rfl⟩ := List.mem_map.mp checked
    exact ⟨rfl, rfl, .inr ⟨check, (List.mem_filter.mp among).1, rfl⟩⟩

theorem mem_insideFailures_nil (member : failure ∈ clause.insideFailures clauses direction value path []) :
    failure.skip = clause.skip ∧ (failure.code = .objectMissingRequiredProperty ∨
      failure.path = path ∧ failure.code ∈ [ErrorCode.objectDependencyKey, .arrayUnique]) := by
  unfold insideFailures at member
  split at member
  · simp only [List.append_nil, List.mem_append] at member
    rcases member with required | dependent
    · obtain ⟨key, _, rfl⟩ := List.mem_map.mp required
      exact ⟨rfl, .inl rfl⟩
    · simp only [dependencyFailures, List.mem_flatMap, List.mem_map] at dependent
      obtain ⟨rule, _, missing, _, rfl⟩ := dependent
      exact ⟨rfl, .inr ⟨rfl, List.mem_cons_self⟩⟩
  · simp only [List.nil_append, uniqueFailures] at member
    split at member
    · split at member <;> simp at member
      simp [member]
    · cases member
  · cases member

/-- What a clause says about a value itself it says at the place of the value, unless a key is missing; of keys
that are not declared it says nothing there. -/
theorem mem_ownFailures (member : failure ∈ clause.ownFailures clauses direction value path) :
    failure.code = .objectMissingRequiredProperty ∨
      failure.path = path ∧ (failure.code ≠ .objectAdditionalProperties ∨
        ∃ check ∈ clause.checks, failure.code = check.keyword.code) := by
  simp only [ownFailures, List.mem_append] at member
  rcases member with (((denied | mistyped) | scalar) | inside) | summed
  · obtain ⟨_, here, codes⟩ := mem_denials denied
    refine .inr ⟨here, .inl fun same => ?_⟩
    simp [same] at codes
  · obtain ⟨_, here, code⟩ := mem_mistypedFailures mistyped
    refine .inr ⟨here, .inl fun same => ?_⟩
    simp [same] at code
  · obtain ⟨_, here, codes | checked⟩ := mem_scalarFailures scalar
    · refine .inr ⟨here, .inl fun same => ?_⟩
      simp [same] at codes
    · exact .inr ⟨here, .inr checked⟩
  · rcases (mem_insideFailures_nil inside).2 with missing | ⟨here, codes⟩
    · exact .inl missing
    · refine .inr ⟨here, .inl fun same => ?_⟩
      simp [same] at codes
  · refine .inr ?_
    simp only [List.mem_cons, List.not_mem_nil, or_false] at summed
    rcases summed with rfl | rfl | rfl <;> exact ⟨rfl, .inl (by simp)⟩

theorem mem_closureFailures {chosen : Clause} {entries : Assoc Value}
    (member : failure ∈ clause.closureFailures chosen entries path) :
    ∃ declared key, chosen.properties = some declared ∧ key ∈ Assoc.keys entries ∧ key ∉ Assoc.keys declared ∧
      failure = clause.additionalFailure key path := by
  unfold closureFailures at member
  split at member
  · cases member
  next declared listed =>
    split at member
    · cases member
    · obtain ⟨key, among, rfl⟩ := List.mem_map.mp member
      obtain ⟨present, undeclared⟩ := List.mem_filter.mp among
      refine ⟨declared, key, listed, present, ?_, rfl⟩
      rw [← Assoc.contains_iff_mem_keys]
      simpa using undeclared

end Clause

/-- How a failure at the place of a member comes about. -/
inductive BlamedAt (clauses : Array Clause) (direction : Direction) (entries : Assoc Value) (path key : String)
    (index : Nat) (failure : Failure) : Prop
  | missing : failure.code = .objectMissingRequiredProperty → BlamedAt clauses direction entries path key index failure
  | undeclared : (clauses.getD index {}).clauseFor? key = none → (clauses.getD index {}).forbids key = true →
      failure.code = .objectAdditionalProperties → BlamedAt clauses direction entries path key index failure
  | closed {dispatch declared} : (clauses.getD index {}).dispatch = some dispatch →
      ((clauses.getD index {}).chosen clauses dispatch entries).properties = some declared →
      key ∉ Assoc.keys declared → failure.code = .objectAdditionalProperties →
      BlamedAt clauses direction entries path key index failure
  | member {member child fuel before failures after} : (key, member) ∈ entries →
      (clauses.getD index {}).clauseFor? key = some child →
      (visit clauses direction fuel child member (Pointer.child path key)).run before = some (failures, after) →
      failure ∈ failures → BlamedAt clauses direction entries path key index failure

theorem append_append_ne_self (path tail : String) {rest : String} (proper : rest ≠ "") :
    path ++ rest ++ tail ≠ path := by
  intro same
  rw [String.append_assoc] at same
  have empty := append_right_inj path (same.trans String.append_empty.symm)
  exact proper (String.append_eq_empty_iff.mp empty).1

theorem child_append_ne_self (path key rest : String) : Pointer.child path key ++ rest ≠ path := by
  rw [child_eq_append]
  exact append_append_ne_self path rest (by simp)

theorem child_ne_self (path key : String) : Pointer.child path key ≠ path := by
  intro same
  exact child_append_ne_self path key "" (String.append_empty.trans same)

/-- What is reported at the place of a value, a clause that applies to the value says about it. -/
theorem visit_blame_here (fuel : Nat) {before after : Guard} {failures : List Failure}
    (ran : (visit clauses direction fuel index value path).run before = some (failures, after))
    (member : failure ∈ failures) (here : failure.path = path) :
    ∃ other, Beside clauses value index other ∧
      failure ∈ (clauses.getD other {}).ownFailures clauses direction value path := by
  obtain ⟨other, beside, blamed⟩ := visit_blame fuel ran member
  refine ⟨other, beside, ?_⟩
  cases blamed with
  | own said => exact said
  | @undeclared _ key _ _ _ _ _ same =>
      subst same
      exact absurd here (child_ne_self path key)
  | closed _ _ shut =>
      obtain ⟨_, key, _, _, _, same⟩ := Clause.mem_closureFailures shut
      subst same
      exact absurd here (child_ne_self path key)
  | @member _ key _ _ _ _ _ _ _ _ _ ranMember inside =>
      obtain ⟨rest, _, place⟩ := visit_run_failures_below ranMember failure inside
      exact absurd (place.symm.trans here) (child_append_ne_self path key rest)
  | item _ _ _ ranItem inside =>
      obtain ⟨rest, _, place⟩ := visit_run_failures_below ranItem failure inside
      rw [item_eq_append] at place
      exact absurd (place.symm.trans here) (append_append_ne_self path rest (by simp))

theorem visit_blame_at (fuel : Nat) {entries : Assoc Value} {key : String} {before after : Guard}
    {failures : List Failure}
    (ran : (visit clauses direction fuel index (.object entries) path).run before = some (failures, after))
    (member : failure ∈ failures) (place : failure.path = Pointer.child path key) :
    ∃ other, Beside clauses (.object entries) index other ∧
      BlamedAt clauses direction entries path key other failure := by
  obtain ⟨other, beside, blamed⟩ := visit_blame fuel ran member
  refine ⟨other, beside, ?_⟩
  cases blamed with
  | own said =>
      rcases Clause.mem_ownFailures said with missing | ⟨here, _⟩
      · exact .missing missing
      · exact absurd (place.symm.trans here) (child_ne_self path key)
  | @undeclared _ name value object entry unfound forbidden same =>
      subst same
      obtain ⟨_, rfl⟩ := Pointer.child_inj place
      exact .undeclared unfound forbidden rfl
  | @closed dispatch _ routes object shut =>
      cases object
      obtain ⟨declared, name, listed, _, undeclared, same⟩ := Clause.mem_closureFailures shut
      subst same
      obtain ⟨_, rfl⟩ := Pointer.child_inj place
      exact .closed routes listed undeclared rfl
  | @member _ name content child fuel guard found later object entry looked ranMember inside =>
      cases object
      obtain ⟨rest, tail, placed⟩ := visit_run_failures_below ranMember failure inside
      have same : Pointer.child path name ++ rest = Pointer.child path key ++ "" := by
        rw [← placed, place, String.append_empty]
      obtain ⟨rfl, _⟩ := child_append_inj tail .empty same
      exact .member entry looked ranMember inside
  | item array => cases array

end ApiContract.Validator
