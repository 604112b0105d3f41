import ApiContract.Proofs.Compilation.Transfer
import ApiContract.Proofs.Evaluation.Passing
import ApiContract.Proofs.Pass.Nullability

/-!
A wrapper admits null and what the edge that it wraps leads to, and nothing else.
-/

namespace ApiContract.Validator

open Json (Value)
open Schema (Catalog Edge Node)
open Schema.Graph (Wraps)

def reported (failures : List Failure) : List Failure := failures.filter fun failure => !failure.skip

/-- What a clause says that only a type is asked of and that two branches are given to. -/
def plainClause (source : SourceLocation) (label typeName : Option String) (nullable : Bool) (anyOf : List Nat) :
    Clause :=
  { source, label, typeName, nullable, skip := true, anyOf }

variable {slot : Nat → Nat → Prop} {clause : Clause} {source : SourceLocation} {flag : Bool}

theorem bareOf_nullMarker (source : SourceLocation) (flag : Bool) :
    ∃ label, bareOf { Node.nullMarker source with nullable := flag } =
      .ok (plainClause source label (some "null") flag []) := ⟨_, rfl⟩

theorem bareOf_nullableWrapper (source : SourceLocation) (edge : Edge) (marker : Nat) (flag : Bool) :
    ∃ label, bareOf { Node.nullableWrapper source edge marker with nullable := flag } =
      .ok (plainClause source label none flag []) := ⟨_, rfl⟩

theorem Depicts.marker (depicts : Depicts slot { Node.nullMarker source with nullable := flag } clause) :
    ∃ label, clause = plainClause source label (some "null") flag [] := by
  obtain ⟨bare, properties, undeclared, items, allOf, anyOf, oneOf, dispatch⟩ := depicts
  cases clause
  cases properties
  cases undeclared
  cases items
  cases allOf
  cases anyOf
  cases oneOf
  cases dispatch
  obtain ⟨label, plain⟩ := bareOf_nullMarker source flag
  exact ⟨label, Except.ok.inj (bare.symm.trans plain)⟩

theorem Depicts.wrapper {edge : Edge} {marker : Nat}
    (depicts : Depicts slot { Node.nullableWrapper source edge marker with nullable := flag } clause) :
    ∃ label first second, clause = plainClause source label none flag [first, second] ∧
      slot edge.target first ∧ slot marker second := by
  obtain ⟨bare, properties, undeclared, items, allOf, anyOf, oneOf, dispatch⟩ := depicts
  cases clause
  rcases anyOf with _ | @⟨_, first, _, _, placed, _ | @⟨_, second, _, _, placedMarker, _ | _⟩⟩
  cases properties
  cases undeclared
  cases items
  cases allOf
  cases oneOf
  cases dispatch
  obtain ⟨label, plain⟩ := bareOf_nullableWrapper source edge marker flag
  have same := Except.ok.inj (bare.symm.trans plain)
  have branched := congrArg (fun bare : Clause => { bare with anyOf := [first, second] }) same
  exact ⟨label, first, second, branched, placed, placedMarker⟩

section

variable {clauses : Array Clause} {direction : Direction} {fuel index : Nat} {value : Value} {path : String}
  {before after : Guard} {failures : List Failure} {label typeName : Option String} {first second : Nat}
  {branches : List Nat}

theorem accessFailures_plain (source : SourceLocation) (label typeName : Option String) (flag : Bool)
    (branches : List Nat) :
    (plainClause source label typeName flag branches).accessFailures direction value path = [] := by
  cases direction <;> rfl

theorem visitInside_plain (visit : Visit) :
    (plainClause source label typeName flag branches).visitInside clauses direction visit value path = pure [] := by
  cases value with
  | object entries =>
      have members : entries.mapM ((plainClause source label typeName flag branches).visitMember visit path) =
          (pure (entries.map fun _ => []) : Visiting (List (List Failure))) := List.mapM_pure
      rw [Clause.visitInside, collect, members]
      simp [Clause.requiredFailures, Clause.dependencyFailures, plainClause]
  | _ => rfl

/-- What is not admitted as null is asked nothing but to pass one of the branches. -/
theorem visit_plain (plain : clauses.getD index {} = plainClause source label none flag branches)
    (notNull : (value.isNull && flag) = false) :
    visit clauses direction (fuel + 1) index value path =
      (plainClause source label none flag branches).visitAnyOf (visit clauses direction fuel) value path := by
  have nullable : (plainClause source label none flag branches).nullable = flag := rfl
  have admitted : (plainClause source label none flag branches).admitsType value = true := rfl
  have quiet : (plainClause source label none flag branches).enumFailures value path = [] ∧
      (plainClause source label none flag branches).formatFailures value path = [] ∧
      (plainClause source label none flag branches).checkFailures value path = [] := ⟨rfl, rfl, rfl⟩
  have allOf : (plainClause source label none flag branches).allOf = [] := rfl
  have oneOf (visit : Visit) :
      (plainClause source label none flag branches).visitOneOf visit value path = pure [] := rfl
  have unrouted (visit : Visit) :
      (plainClause source label none flag branches).visitDispatch clauses visit index value path = pure [] := rfl
  rw [visit, plain]
  simp [nullable, notNull, accessFailures_plain, admitted, quiet, visitInside_plain, collect, allOf, oneOf, unrouted]

theorem visit_marker_of_ne (plain : clauses.getD index {} = plainClause source label (some "null") flag [])
    (notNull : value ≠ .null) : (visit clauses direction (fuel + 1) index value path).run before =
      some ([(plainClause source label (some "null") flag []).fail .type .invalidType path
        (.type "null" value.instanceTypeName)], before) := by
  rw [visit, plain]
  simp only [accessFailures_plain]
  cases value with
  | null => exact absurd rfl notNull
  | _ =>
      simp [plainClause, Value.isNull, Clause.admitsType, Value.typeName, Clause.plainTypes, Clause.excuses,
        Clause.typeFailures]

theorem visit_marker (plain : clauses.getD index {} = plainClause source label (some "null") flag [])
    (ran : (visit clauses direction fuel index value path).run before = some (failures, after)) :
    (failures = [] ↔ value = .null) ∧ after = before := by
  cases fuel with
  | zero => cases ran
  | succ fuel =>
      by_cases null : value = .null
      · subst null
        rw [visit, plain] at ran
        cases flag <;>
          simp [plainClause, Value.isNull, Clause.admitsType, Value.typeName, Clause.enumFailures,
            Clause.formatFailures, Clause.checkFailures, Clause.visitInside, Clause.visitAnyOf,
            Clause.visitOneOf, Clause.visitDispatch, collect] at ran
        all_goals simp [ran]
      · rw [visit_marker_of_ne plain null] at ran
        cases ran
        simp [null]

theorem eq_null_of_isNull {value : Value} (null : value.isNull = true) : value = .null := by
  cases value <;> first | rfl | cases null

theorem isNull_eq_false (notNull : value ≠ .null) : value.isNull = false := by
  rw [Bool.eq_false_iff]
  exact fun null => notNull (eq_null_of_isNull null)

theorem visit_wrapper (plain : clauses.getD index {} = plainClause source label none flag [first, second])
    (fresh : Unmarked path before)
    (ran : (visit clauses direction fuel index value path).run before = some ([], after)) :
    value = .null ∨ ∃ branch ∈ [first, second], ∃ fewer guard later, Unmarked path guard ∧
      (visit clauses direction fewer branch value path).run guard = some ([], later) := by
  cases fuel with
  | zero => cases ran
  | succ fuel =>
      by_cases null : value = .null
      · exact .inl null
      · rw [visit_plain plain (by rw [isNull_eq_false null, Bool.false_and])] at ran
        rcases (Clause.visitAnyOf_run_iff _ _ _ _ _ _ _).mp ran with ⟨unasked, _⟩ | ⟨_, outcome, tried, nothing⟩
        · cases unasked
        · cases outcome with
          | some found => simp at nothing
          | none =>
              obtain ⟨branch, among, ranBranch⟩ := firstPassing_passing tried
              exact .inr ⟨branch, among, fuel, before, after, fresh, ranBranch⟩

theorem visit_wrapper_null {marker : SourceLocation} {markerLabel : Option String} {markerFlag : Bool}
    (plain : clauses.getD index {} = plainClause source label none flag [first, second])
    (plainMarker : clauses.getD second {} = plainClause marker markerLabel (some "null") markerFlag [])
    (ran : (visit clauses direction fuel index .null path).run before = some (failures, after)) : failures = [] := by
  cases fuel with
  | zero => cases ran
  | succ fuel =>
      cases flag with
      | true =>
          rw [visit, plain] at ran
          cases ran
          rfl
      | false =>
          rw [visit_plain plain (Bool.and_false _)] at ran
          rcases (Clause.visitAnyOf_run_iff _ _ _ _ _ _ _).mp ran with ⟨unasked, _⟩ | ⟨_, outcome, tried, rfl⟩
          · cases unasked
          · cases outcome with
            | none => rfl
            | some found =>
                -- the marker is the last branch, and it passes
                rcases (firstPassing_cons_run_iff _ _ _ _ _ _).mp tried with ⟨_, none⟩ | ⟨_, _, later, _, _, rest, same⟩
                · cases none
                · rcases (firstPassing_cons_run_iff _ _ _ _ _ _).mp rest with ⟨_, rfl⟩ | ⟨_, _, _, failed, last, _⟩
                  · cases same
                  · obtain ⟨_, ranMarker, _⟩ := (branch_run_iff _ _ _ _).mp last
                    exact absurd ((visit_marker plainMarker ranMarker).1.mpr rfl) failed

/-- What a wrapper reports of anything but null is what the schema reports that it wraps. -/
theorem visit_wrapper_reported {marker : SourceLocation} {markerLabel : Option String} {markerFlag : Bool}
    (plain : clauses.getD index {} = plainClause source label none flag [first, second])
    (plainMarker : clauses.getD second {} = plainClause marker markerLabel (some "null") markerFlag [])
    (notNull : value ≠ .null) :
    ((visit clauses direction (fuel + 1) index value path).run before).map (reported ·.1) =
      ((visit clauses direction fuel first value path).run before).map (reported ·.1) := by
  rw [visit_plain plain (by rw [isNull_eq_false notNull, Bool.false_and])]
  cases ran : (visit clauses direction fuel first value path).run before with
  | none => simp [Clause.visitAnyOf, plainClause, firstPassing, branch, StateT.run_bind, ran]
  | some answer =>
      obtain ⟨found, middle⟩ := answer
      cases fuel with
      | zero => cases ran
      | succ fuel =>
          by_cases passed : found = []
          · simp [Clause.visitAnyOf, plainClause, firstPassing, branch, StateT.run_bind, ran, passed]
          · have fails (guard : Guard) :
                (visit clauses direction (fuel + 1) second value path).run guard = some (_, guard) :=
              visit_marker_of_ne plainMarker notNull
            simp [Clause.visitAnyOf, plainClause, firstPassing, branch, StateT.run_bind, ran, passed, fails, reported]

end

namespace Mirror

variable {catalog : Catalog} {validator : Validator} {id : Nat} {direction : Direction} {fuel place : Nat}
  {value : Value} {path : String} {before after : Guard} {start : Schema.Graph} {edge wrapper : Edge}

theorem wrapperClause (mirror : Mirror catalog slot validator id) (wraps : Wraps start catalog.graph edge wrapper)
    (placed : slot wrapper.target place) :
    ∃ source label flag first second, slot edge.target first ∧
      validator.clauses.getD place {} = plainClause source label none flag [first, second] ∧
      ∃ marker markerLabel markerFlag,
        validator.clauses.getD second {} = plainClause marker markerLabel (some "null") markerFlag [] := by
  obtain ⟨_, _, source, marker, _, shape, shapeMarker⟩ := wraps
  have depicts := mirror.depicts placed
  rw [shape] at depicts
  obtain ⟨label, first, second, plain, placedFirst, placedSecond⟩ := depicts.wrapper
  have depictsMarker := mirror.depicts placedSecond
  rw [shapeMarker] at depictsMarker
  obtain ⟨markerLabel, plainMarker⟩ := depictsMarker.marker
  exact ⟨source, label, _, first, second, placedFirst, plain, source, markerLabel, _, plainMarker⟩

/-- What passes a wrapper is null, or the wrapped schema admits it. -/
theorem wrapper_admits (mirror : Mirror catalog slot validator id) (wraps : Wraps start catalog.graph edge wrapper)
    (placed : slot wrapper.target place) (fresh : Unmarked path before)
    (ran : (visit validator.clauses direction fuel place value path).run before = some ([], after)) :
    value = .null ∨ Admits catalog direction edge.target value := by
  obtain ⟨_, _, _, first, second, placedFirst, plain, _, _, _, plainMarker⟩ := mirror.wrapperClause wraps placed
  rcases visit_wrapper plain fresh ran with null | ⟨branch, member, fewer, guard, later, freshToo, ranBranch⟩
  · exact .inl null
  · rcases List.mem_cons.mp member with rfl | last
    · exact .inr (mirror.admits placedFirst freshToo ranBranch)
    · obtain rfl := List.mem_singleton.mp last
      exact .inl ((visit_marker plainMarker ranBranch).1.mp rfl)

theorem wrapper_null (mirror : Mirror catalog slot validator id) (wraps : Wraps start catalog.graph edge wrapper)
    (placed : slot wrapper.target place) {failures : List Failure}
    (ran : (visit validator.clauses direction fuel place .null path).run before = some (failures, after)) :
    failures = [] := by
  obtain ⟨_, _, _, first, second, _, plain, _, _, _, plainMarker⟩ := mirror.wrapperClause wraps placed
  exact visit_wrapper_null plain plainMarker ran

/-- By itself a wrapper reports of anything but null what the schema reports that it wraps, if visits may nest one level
deeper. -/
theorem wrapper_reported {outer inner : Validator} {other : Nat → Nat → Prop}
    (mirror : Mirror catalog slot outer wrapper.target) (wraps : Wraps start catalog.graph edge wrapper)
    (mirrorToo : Mirror catalog other inner edge.target) (notNull : value ≠ .null) :
    (outer.evaluateWithin (fuel + 1) direction value).map reported =
      (inner.evaluateWithin fuel direction value).map reported := by
  obtain ⟨_, _, _, first, second, placed, plain, _, _, _, plainMarker⟩ := mirror.wrapperClause wraps mirror.root
  rw [← mirror.visit_eq_alone placed mirrorToo, evaluateWithin, Option.map_map, Option.map_map]
  exact visit_wrapper_reported plain plainMarker notNull

/-- So it reports the same however deep the visits of either may nest. -/
theorem wrapper_reported_eq {outer inner : Validator} {other : Nat → Nat → Prop}
    (mirror : Mirror catalog slot outer wrapper.target) (wraps : Wraps start catalog.graph edge wrapper)
    (mirrorToo : Mirror catalog other inner edge.target) (notNull : value ≠ .null) {more : Nat}
    {failures found : List Failure} (answered : outer.evaluateWithin fuel direction value = some failures)
    (answeredToo : inner.evaluateWithin more direction value = some found) : reported failures = reported found := by
  have same : (outer.evaluateWithin (fuel + more + 1) direction value).map reported =
      (inner.evaluateWithin (fuel + more) direction value).map reported :=
    mirror.wrapper_reported wraps mirrorToo notNull
  rw [evaluateWithin_mono (by omega) answered, evaluateWithin_mono (by omega) answeredToo] at same
  exact Option.some.inj same

end Mirror

end ApiContract.Validator
