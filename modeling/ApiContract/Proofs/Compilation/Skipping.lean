import ApiContract.Proofs.Compilation.Wrapper
import ApiContract.Proofs.Evaluation.Blame

/-!
Skipped failures hide nothing. A wrapper skips what it says itself, but it fails only together with what it wraps; so
where every clause that skips its failures is a wrapper or a marker, and markers stand in wrappers only, whatever finds
something also reports something (`visit_tells`).
-/

namespace ApiContract.Validator

open Json (Value)

/-- If anything was found, something of it is reported. -/
def Told (failures : List Failure) : Prop := failures ≠ [] → ∃ failure ∈ failures, failure.skip = false

variable {failures more : List Failure} {failure : Failure}

theorem told_nil : Told [] := fun found => absurd rfl found

theorem told_of_mem (member : failure ∈ failures) (reported : failure.skip = false) : Told failures :=
  fun _ => ⟨failure, member, reported⟩

theorem told_of_forall (reported : ∀ failure ∈ failures, failure.skip = false) : Told failures := by
  intro found
  obtain ⟨failure, member⟩ := List.exists_mem_of_ne_nil _ found
  exact ⟨failure, member, reported failure member⟩

theorem Told.append (told : Told failures) (toldMore : Told more) : Told (failures ++ more) := by
  intro found
  by_cases nothing : failures = []
  · subst nothing
    exact toldMore found
  · obtain ⟨failure, member, reported⟩ := told nothing
    exact ⟨failure, List.mem_append_left _ member, reported⟩

theorem told_flatten {results : List (List Failure)} (each : ∀ result ∈ results, Told result) : Told results.flatten := by
  induction results with
  | nil => exact told_nil
  | cons result rest ih =>
      obtain ⟨told, toldRest⟩ := List.forall_mem_cons.mp each
      exact told.append (ih toldRest)

/-! ## Clauses that say what they find -/

/-- Of whatever the visits of such clauses find, something is reported. -/
def Tells (outspoken : Nat → Prop) (visit : Visit) : Prop :=
  ∀ child value path before failures after, outspoken child →
    (visit child value path).run before = some (failures, after) → Told failures

namespace Clause

/-- A visit of the clause may go on to the other one. -/
inductive LeadsTo (clause : Clause) : Nat → Prop
  | member {key child} : clause.clauseFor? key = some child → LeadsTo clause child
  | item {child} : clause.items = some child → LeadsTo clause child
  | allOf {child} : child ∈ clause.allOf → LeadsTo clause child
  | anyOf {child} : child ∈ clause.anyOf → LeadsTo clause child
  | oneOf {child} : child ∈ clause.oneOf → LeadsTo clause child
  | variant {dispatch entries child} : clause.dispatch = some dispatch → variant? dispatch entries = some child →
      LeadsTo clause child

/-- A message and its slots go on only to what they declare. -/
theorem Frame.leadsTo {clause : Clause} {child : Nat} (frame : clause.Frame) (leads : clause.LeadsTo child) :
    ∃ key, clause.property? key = some child := by
  cases leads with
  | @member key _ looked =>
      refine ⟨key, ?_⟩
      rw [← looked, clauseFor?, frame.undeclared]
      cases clause.property? key <;> rfl
  | item listed => cases frame.items.symm.trans listed
  | allOf member =>
      rw [frame.allOf] at member
      cases member
  | anyOf member =>
      rw [frame.anyOf] at member
      cases member
  | oneOf member =>
      rw [frame.oneOf] at member
      cases member
  | variant dispatches => cases frame.dispatch.symm.trans dispatches

/-- The clause reports what it finds, and goes on only to clauses that do the same; or it wraps such a clause. -/
inductive Outspoken (outspoken : Nat → Prop) (clause : Clause) : Prop
  | plain : clause.skip = false → (∀ child, clause.LeadsTo child → outspoken child) → Outspoken outspoken clause
  | wrapper {source label flag first second} : clause = plainClause source label none flag [first, second] →
      outspoken first → Outspoken outspoken clause

variable {clause chosen : Clause} {clauses : Array Clause} {direction : Direction} {visit : Visit} {index : Nat}
  {value : Value} {path : String} {before after : Guard} {outspoken : Nat → Prop}

section

variable (reports : clause.skip = false)

include reports

theorem denials_told : Told (clause.denials direction value path) :=
  told_of_forall fun _ member => (mem_denials member).1.trans reports

theorem mistypedFailures_told : Told (clause.mistypedFailures direction value path) :=
  told_of_forall fun _ member => (mem_mistypedFailures member).1.trans reports

theorem scalarFailures_told : Told (clause.scalarFailures value path) :=
  told_of_forall fun _ member => (mem_scalarFailures member).1.trans reports

theorem insideFailures_told (told : Told failures) :
    Told (clause.insideFailures clauses direction value path failures) := by
  have own : Told (clause.insideFailures clauses direction value path []) :=
    told_of_forall fun _ member => (mem_insideFailures_nil member).1.trans reports
  cases value with
  | object entries =>
      rw [insideFailures, List.append_nil] at own
      exact own.append told
  | array items => exact told.append own
  | _ => exact told

theorem closureFailures_told (entries : Assoc Value) : Told (clause.closureFailures chosen entries path) := by
  refine told_of_forall fun failure member => ?_
  obtain ⟨_, key, _, _, _, rfl⟩ := mem_closureFailures member
  exact reports

theorem visitAnyOf_told (ran : (clause.visitAnyOf visit value path).run before = some (failures, after)) :
    Told failures := by
  rcases (visitAnyOf_run_iff _ _ _ _ _ _ _).mp ran with ⟨_, rfl, _⟩ | ⟨_, outcome, _, rfl⟩
  · exact told_nil
  · cases outcome with
    | none => exact told_nil
    | some found => exact told_of_mem (List.mem_append_right _ List.mem_cons_self) reports

theorem visitOneOf_told (ran : (clause.visitOneOf visit value path).run before = some (failures, after)) :
    Told failures := by
  rcases (visitOneOf_run_iff _ _ _ _ _ _ _).mp ran with ⟨_, rfl, _⟩ | ⟨_, outcomes, _, rfl⟩
  · exact told_nil
  · unfold oneOfFailures
    split
    · exact told_of_mem (List.mem_append_right _ List.mem_cons_self) reports
    · exact told_nil
    · exact told_of_mem List.mem_cons_self reports

variable (leads : ∀ child, clause.LeadsTo child → outspoken child)
  (tells : Tells outspoken visit)

include leads tells

theorem entered_told (entered : clause.Entered visit path value before failures after) : Told failures := by
  cases entered with
  | object run =>
      refine told_flatten fun result among => ?_
      obtain ⟨⟨key, member⟩, _, guard, later, ran⟩ := run.exists_step among
      rw [visitMember_run_iff] at ran
      split at ran
      next child found => exact tells _ _ _ _ _ _ (leads child (.member found)) ran
      next =>
        obtain ⟨rfl, _⟩ := ran
        split
        · exact told_of_mem List.mem_cons_self reports
        · exact told_nil
  | array asked run =>
      refine told_flatten fun result among => ?_
      obtain ⟨_, _, guard, later, ran⟩ := run.exists_step among
      exact tells _ _ _ _ _ _ (leads _ (.item asked)) ran
  | unlooked => exact told_nil

omit reports in
theorem allOf_told {results : List (List Failure)}
    (run : Threaded (fun branch before result after => (visit branch value path).run before = some (result, after))
      clause.allOf before results after) : Told results.flatten := by
  refine told_flatten fun result among => ?_
  obtain ⟨branch, member, guard, later, ran⟩ := run.exists_step among
  exact tells _ _ _ _ _ _ (leads branch (.allOf member)) ran

theorem routed_told (routed : clause.Routed clauses visit index path value before failures after) : Told failures := by
  cases routed with
  | idle | again => exact told_nil
  | variant routes _ named ran =>
      exact (tells _ _ _ _ _ _ (leads _ (.variant routes named)) ran).append (closureFailures_told reports _)
  | lenient => exact closureFailures_told reports _

end

theorem wrapper_told {source : SourceLocation} {label : Option String} {flag : Bool} {first second : Nat}
    (tells : Tells outspoken visit) (wraps : outspoken first)
    (ran : ((plainClause source label none flag [first, second]).visitAnyOf visit value path).run before =
      some (failures, after)) : Told failures := by
  rcases (visitAnyOf_run_iff _ _ _ _ _ _ _).mp ran with ⟨_, rfl, _⟩ | ⟨_, outcome, tried, rfl⟩
  · exact told_nil
  · cases outcome with
    | none => exact told_nil
    | some found =>
        rcases (firstPassing_cons_run_iff _ _ _ _ _ _).mp tried with ⟨_, passed⟩ | ⟨others, _, _, failed, ranFirst, _, all⟩
        · cases passed
        · obtain ⟨_, _, same⟩ := Option.map_eq_some_iff.mp all.symm
          obtain ⟨_, ranBranch, _⟩ := (branch_run_iff _ _ _ _).mp ranFirst
          obtain ⟨failure, member, reported⟩ := tells _ _ _ _ _ _ wraps ranBranch failed
          refine told_of_mem (List.mem_append_left _ ?_) reported
          rw [← same]
          exact List.mem_append_left _ member

end Clause

/-- Outspoken clauses report something of whatever they find. The induction is on the fuel: a visit goes on only to
clauses that are outspoken themselves, but for the marker of a wrapper, which is visited only after what is wrapped
failed. -/
theorem visit_tells {clauses : Array Clause} {outspoken : Nat → Prop}
    (closed : ∀ place, outspoken place → (clauses.getD place {}).Outspoken outspoken) (direction : Direction)
    (fuel : Nat) : Tells outspoken (visit clauses direction fuel) := by
  induction fuel with
  | zero =>
      intro _ _ _ _ _ _ _ ran
      cases ran
  | succ fuel ih =>
      intro index value path before failures after known ran
      cases closed index known with
      | plain reports leads =>
          cases (visit_run_iff _ _ _ _ _ _ _ _ _).mp ran with
          | null => exact told_nil
          | mistyped => exact (Clause.denials_told reports).append (Clause.mistypedFailures_told reports)
          | examined _ _ entered all any one routed =>
              -- the parts of the answer, from the last to the first
              refine .append (.append ?_ (Clause.visitOneOf_told reports one)) (Clause.routed_told reports leads ih routed)
              refine .append (.append ?_ (Clause.allOf_told leads ih all)) (Clause.visitAnyOf_told reports any)
              have visited := Clause.entered_told reports leads ih entered
              refine .append ?_ (Clause.insideFailures_told reports visited)
              exact (Clause.denials_told reports).append (Clause.scalarFailures_told reports)
      | @wrapper source label flag first second shape wraps =>
          by_cases null : (value.isNull && flag) = true
          · have admitted : (value.isNull && (plainClause source label none flag [first, second]).nullable) = true := null
            rw [visit, shape] at ran
            simp only [admitted, if_true] at ran
            cases ran
            exact told_nil
          · rw [visit_plain shape (by simpa using null)] at ran
            exact Clause.wrapper_told ih wraps ran

end ApiContract.Validator
