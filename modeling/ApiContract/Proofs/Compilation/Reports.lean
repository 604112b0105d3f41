import Mathlib.Data.List.Nodup
import ApiContract.Proofs.Compilation.Transfer

/-!
Reports of keys that are not declared. The visits of a root, of its base schemas and of the variant that an object
names add up to one report for each of them (`Mirror.reports_once`).
-/

namespace ApiContract

open Json (Value)
open Schema Schema.Graph

/-- Reports that an object at a place has a key that is not declared. -/
def Failure.isUndeclared (path key : String) (failure : Failure) : Bool :=
  failure.code == .objectAdditionalProperties && failure.path == Pointer.child path key

theorem Failure.isUndeclared_iff {path key : String} {failure : Failure} :
    failure.isUndeclared path key = true ↔
      failure.code = .objectAdditionalProperties ∧ failure.path = Pointer.child path key := by
  simp [isUndeclared]

namespace Check

def limitKeywords : List Keyword :=
  [.pattern, .minLength, .maxLength, .minimum, .minimumExclusive, .maximum, .maximumExclusive, .multipleOf, .minItems,
    .maxItems, .minProperties, .maxProperties, .other "type"]

theorem keyword_mem_of_ofKeyword {constraints : Assoc Value} {name : String} {limit : Value} {check : Check}
    (made : ofKeyword constraints name limit = .ok (some check)) : check.keyword ∈ limitKeywords := by
  have keyword {keyword : Keyword} {rule : Except LimitFault Rule}
      (made : (rule.map fun rule => some { keyword, limit, rule }) = .ok (some check)) : check.keyword = keyword := by
    cases rule <;> cases made
    rfl
  unfold ofKeyword at made
  dsimp only at made
  split at made
  case h_4 | h_5 =>
    rw [keyword made]
    split <;> decide
  case h_12 => cases made
  all_goals
    rw [keyword made]
    decide

theorem keyword_mem_of_compileAll {constraints : Assoc Value} {location : String} {checks : List Check} {check : Check}
    (compiled : compileAll constraints location = .ok checks) (member : check ∈ checks) :
    check.keyword ∈ limitKeywords := by
  unfold compileAll at compiled
  split at compiled
  next made all =>
    cases compiled
    obtain ⟨_, among, rfl⟩ := List.mem_filterMap.mp member
    obtain ⟨entry, _, found⟩ := Except.exists_of_mem_mapM all among
    exact keyword_mem_of_ofKeyword found
  · cases compiled

end Check

namespace Schema

/-- No type but that of objects, and no branches but those of `allOf`. -/
structure Node.Simple (node : Node) : Prop where
  typed : node.typeName = none ∨ node.typeName = some "object"
  anyOf : node.anyOf = none
  oneOf : node.oneOf = none

/-- A root that leaves undeclared keys to its dispatch. -/
structure QuietRoot (graph : Graph) (root : Nat) : Prop where
  simple : (graph.node root).Simple
  silent : (graph.node root).additional = none
  branchless : (graph.node root).allOf.getD [] = []

/-- A schema that says nothing of undeclared keys, and leads only to such schemas before it comes to the root. -/
inductive Quiet (graph : Graph) (root : Nat) : Nat → Prop
  | root : Quiet graph root root
  | base {id} : (graph.node id).Simple → (graph.node id).routing? = none → (graph.node id).additional = none →
      (∀ edge ∈ (graph.node id).allOf.getD [], Quiet graph root edge.target) → Quiet graph root id

/-- A variant that is closed or leaves undeclared keys to its root. -/
structure Heir (graph : Graph) (root id : Nat) : Prop where
  simple : (graph.node id).Simple
  unrouted : (graph.node id).routing? = none
  branches : ∀ edge ∈ (graph.node id).allOf.getD [], Quiet graph root edge.target
  additional : (graph.node id).additional = none ∨ (graph.node id).additional = some (.allowed false)
  tabled : (graph.node id).properties.isSome = true

end Schema

namespace Validator

theorem Depicts.keyword_mem {slot : Nat → Nat → Prop} {node : Node} {clause : Clause} (depicts : Depicts slot node clause)
    {check : Check} (member : check ∈ clause.checks) : check.keyword ∈ Check.limitKeywords := by
  obtain ⟨_, _, _, _, _, _, compiled⟩ := bareOf_eq_ok depicts.bare
  exact Check.keyword_mem_of_compileAll compiled member

/-! ## What the parts of a visit report -/

def reports (path key : String) (failures : List Failure) : List Failure :=
  failures.filter (·.isUndeclared path key)

variable {clauses : Array Clause} {clause root chosen : Clause} {direction : Direction} {entries : Assoc Value}
  {path key : String}

theorem reports_append (path key : String) (first second : List Failure) :
    reports path key (first ++ second) = reports path key first ++ reports path key second :=
  List.filter_append first second

theorem reports_eq_nil {failures : List Failure}
    (others : ∀ failure ∈ failures, failure.isUndeclared path key = false) : reports path key failures = [] :=
  List.filter_eq_nil_iff.mpr fun failure member => by simp [others failure member]

theorem isUndeclared_additionalFailure (clause : Clause) (name : String) :
    (clause.additionalFailure name path).isUndeclared path key = decide (name = key) := by
  by_cases same : name = key
  · subst same
    simp [Failure.isUndeclared, Clause.additionalFailure, Clause.fail, Failure.of]
  · have different : Pointer.child path name ≠ Pointer.child path key := fun equal => same (Pointer.child_inj equal).2
    simp [Failure.isUndeclared, Clause.additionalFailure, Clause.fail, Failure.of, same, different]

/-- Failures at the place of the object report no keys, nor do keys that are missing. -/
theorem reports_eq_nil_of_place {failures : List Failure}
    (here : ∀ failure ∈ failures, failure.code = .objectMissingRequiredProperty ∨ failure.path = path) :
    reports path key failures = [] := by
  refine reports_eq_nil fun failure member => ?_
  rw [Bool.eq_false_iff, ne_eq, Failure.isUndeclared_iff]
  rintro ⟨code, place⟩
  rcases here failure member with missing | same
  · cases code.symm.trans missing
  · exact child_ne_self path key (place.symm.trans same)

theorem reports_members {step : String × Value → Guard → List Failure → Guard → Prop}
    (distinct : (Assoc.keys entries).Nodup) {forbidden : Prop} [Decidable forbidden] {failure : Failure}
    {before after : Guard} {results : List (List Failure)} (run : Threaded step entries before results after)
    (each : ∀ entry ∈ entries, ∀ before result after, step entry before result after →
      reports path key result = if entry.1 = key ∧ forbidden then [failure] else []) :
    reports path key results.flatten = if key ∈ Assoc.keys entries ∧ forbidden then [failure] else [] := by
  induction run with
  | nil => simp [reports, Assoc.keys]
  | @cons entry rest result results before middle after first _ ih =>
      obtain ⟨absent, distinctRest⟩ := List.nodup_cons.mp distinct
      have later := ih distinctRest fun entry member => each entry (List.mem_cons_of_mem _ member)
      rw [List.flatten_cons, reports_append, later, each entry List.mem_cons_self _ _ _ first]
      have keys : key ∈ Assoc.keys (entry :: rest) ↔ key = entry.1 ∨ key ∈ Assoc.keys rest := List.mem_cons
      simp only [keys]
      by_cases same : entry.1 = key
      · subst same
        have elsewhere : entry.1 ∉ Assoc.keys rest := absent
        simp [elsewhere]
      · have different : key ≠ entry.1 := Ne.symm same
        simp [same, different]

/-! ## What a visit reports -/

variable {catalog : Catalog} {slot : Nat → Nat → Prop} {validator : Validator} {id target place top fuel : Nat}
  {before after : Guard} {failures visited : List Failure}

theorem Mirror.additional_below {value : Value} {failure : Failure} (mirror : Mirror catalog slot validator id)
    (placed : slot target place)
    (ran : (visit validator.clauses direction fuel place value path).run before = some (failures, after))
    (member : failure ∈ failures) (code : failure.code = .objectAdditionalProperties) : failure.path ≠ path := by
  intro here
  obtain ⟨index, beside, said⟩ := visit_blame_here fuel ran member here
  obtain ⟨schema, placedSchema, _⟩ := mirror.beside placed beside
  rcases Clause.mem_ownFailures said with missing | ⟨_, other | ⟨check, among, same⟩⟩
  · cases code.symm.trans missing
  · exact absurd code other
  · have limits : ∀ keyword ∈ Check.limitKeywords, keyword.code ≠ .objectAdditionalProperties := by decide
    exact absurd (same.symm.trans code) (limits _ ((mirror.depicts placedSchema).keyword_mem among))

theorem Mirror.reports_member (mirror : Mirror catalog slot validator id) {node : Node}
    (depicts : Depicts slot node clause) {entry : String × Value}
    (ran : (clause.visitMember (visit validator.clauses direction fuel) path entry).run before =
      some (failures, after)) :
    reports path key failures =
      if entry.1 = key ∧ clause.forbids key = true then [clause.additionalFailure key path] else [] := by
  obtain ⟨name, content⟩ := entry
  rw [Clause.visitMember_run_iff] at ran
  split at ran
  next child looked =>
    obtain ⟨_, placedChild, _⟩ := depicts.clauseFor? looked
    have unforbidden : ¬(name = key ∧ clause.forbids key = true) := by
      rintro ⟨rfl, forbidden⟩
      cases forbidden.symm.trans (Clause.forbids_eq_false_of_clauseFor? looked)
    rw [if_neg unforbidden]
    refine reports_eq_nil fun failure member => ?_
    rw [Bool.eq_false_iff, ne_eq, Failure.isUndeclared_iff]
    rintro ⟨code, here⟩
    -- What is reported of the member is at its own place or below it, and undeclared keys are below.
    obtain ⟨rest, tail, below⟩ := visit_run_failures_below ran failure member
    obtain ⟨rfl, rfl⟩ := child_append_inj tail .empty (below.symm.trans (here.trans String.append_empty.symm))
    exact mirror.additional_below placedChild ran member code here
  next unlooked =>
    rw [ran.1]
    by_cases same : name = key
    · subst same
      split
      next forbidden => simp [forbidden, reports, isUndeclared_additionalFailure]
      next allowed => simp [allowed, reports]
    · split <;> simp [same, reports, isUndeclared_additionalFailure]

theorem Mirror.reports_inside (mirror : Mirror catalog slot validator id) {node : Node}
    (depicts : Depicts slot node clause) (distinct : (Assoc.keys entries).Nodup) (key : String)
    (entered : clause.Entered (visit validator.clauses direction fuel) path (.object entries) before visited after) :
    reports path key (clause.insideFailures validator.clauses direction (.object entries) path visited) =
      if key ∈ Assoc.keys entries ∧ clause.forbids key = true then [clause.additionalFailure key path] else [] := by
  have own : reports path key (clause.insideFailures validator.clauses direction (.object entries) path []) = [] :=
    reports_eq_nil_of_place fun failure member => (Clause.mem_insideFailures_nil member).2.imp_right And.left
  rw [Clause.insideFailures, List.append_nil] at own
  rw [Clause.insideFailures, reports_append, own, List.nil_append]
  cases entered with
  | object run => exact reports_members distinct run fun _ _ _ _ _ ran => mirror.reports_member depicts ran
  | unlooked plain => cases plain

def SameMarks (path : String) (before after : Guard) : Prop :=
  ∀ index, (index, path) ∈ after.marks ↔ (index, path) ∈ before.marks

theorem sameMarks_of_entered
    (entered : clause.Entered (visit clauses direction fuel) path (.object entries) before visited after) :
    SameMarks path before after := by
  cases entered with
  | @object _ _ results _ run =>
      refine run.keeps ?_ fun _ => Iff.rfl
      rintro ⟨name, content⟩ _ guard result later ran same index
      rw [Clause.visitMember_run_iff] at ran
      split at ran
      · obtain ⟨made, gains, below⟩ := visit_run_gains ran
        -- Members are visited below the place of the object, and marks are made where a visit is or below it.
        have elsewhere : (index, path) ∉ made := by
          intro member
          obtain ⟨rest, _, placed⟩ := below _ member
          exact child_append_ne_self path name rest placed.symm
        rw [gains.marks, List.mem_append, ← same index]
        simp [elsewhere]
      · rw [ran.2]
        exact same index
  | unlooked plain => cases plain

/-- A report of a key comes from the clause itself, from a branch, or from its dispatch. -/
theorem Mirror.reports_visit (mirror : Mirror catalog slot validator id) (placed : slot target place)
    (simple : (catalog.graph.node target).Simple) (distinct : (Assoc.keys entries).Nodup)
    (found : validator.clauses.getD place {} = clause)
    (ran : (visit validator.clauses direction (fuel + 1) place (.object entries) path).run before =
      some (failures, after)) :
    ∃ inside all branches routed, SameMarks path before inside ∧
      Threaded (fun branch before result after =>
        (visit validator.clauses direction fuel branch (.object entries) path).run before = some (result, after))
        clause.allOf inside branches all ∧
      clause.Routed validator.clauses (visit validator.clauses direction fuel) place path (.object entries) all routed
        after ∧
      ∀ key, reports path key failures =
        (if key ∈ Assoc.keys entries ∧ clause.forbids key = true then [clause.additionalFailure key path] else []) ++
          reports path key branches.flatten ++ reports path key routed := by
  have depicts := mirror.depicts placed
  rw [found] at depicts
  have anyOf : clause.anyOf = [] := by
    have related := depicts.anyOf
    rw [simple.anyOf] at related
    exact List.forall₂_nil_left_iff.mp related
  have oneOf : clause.oneOf = [] := by
    have related := depicts.oneOf
    rw [simple.oneOf] at related
    exact List.forall₂_nil_left_iff.mp related
  have typed : clause.typeName = none ∨ clause.typeName = some "object" := by
    rw [depicts.typeName]
    exact simple.typed
  have answered := (visit_run_iff _ _ _ _ _ _ _ _ _).mp ran
  cases answered with
  | null null => cases null
  | mistyped _ mistyped =>
      rw [found] at mistyped
      cases mistyped.symm.trans (Clause.admitsType_object typed)
  | @examined visited branches any one routed inside all anyGuard oneGuard _ _ _ entered ranAll ranAny ranOne route =>
      rw [found] at entered ranAll ranAny ranOne route
      rcases (Clause.visitAnyOf_run_iff _ _ _ _ _ _ _).mp ranAny with ⟨_, rfl, rfl⟩ | ⟨asked, _⟩
      · rcases (Clause.visitOneOf_run_iff _ _ _ _ _ _ _).mp ranOne with ⟨_, rfl, rfl⟩ | ⟨asked, _⟩
        · refine ⟨inside, _, branches, routed, sameMarks_of_entered entered, ranAll, route, fun key => ?_⟩
          have denied : reports path key (clause.denials direction (.object entries) path) = [] :=
            reports_eq_nil_of_place fun failure member => .inr (Clause.mem_denials member).2.1
          have scalar : reports path key (clause.scalarFailures (.object entries) path) = [] :=
            reports_eq_nil_of_place fun failure member => .inr (Clause.mem_scalarFailures member).2.1
          have within := mirror.reports_inside depicts distinct key entered
          rw [found]
          simp only [reports_append, denied, scalar, within, List.nil_append, List.append_nil]
        · exact absurd oneOf asked
      · exact absurd anyOf asked

/-! ## What the visit of a root reports -/

/-- Visits with a schema report no undeclared key once the root was dispatched. -/
def Hushed (slot : Nat → Nat → Prop) (validator : Validator) (direction : Direction) (entries : Assoc Value)
    (path : String) (top id : Nat) : Prop :=
  ∀ place fuel before failures after, slot id place → (top, path) ∈ before.marks →
    (visit validator.clauses direction fuel place (.object entries) path).run before = some (failures, after) →
    ∀ key, reports path key failures = []

theorem hushed_branches {list : List Nat} {results : List (List Failure)}
    (run : Threaded (fun branch before result after =>
      (visit clauses direction fuel branch (.object entries) path).run before = some (result, after))
      list before results after) (marked : (top, path) ∈ before.marks)
    (each : ∀ branch ∈ list, ∀ before result after, (top, path) ∈ before.marks →
      (visit clauses direction fuel branch (.object entries) path).run before = some (result, after) →
      reports path key result = []) :
    reports path key results.flatten = [] ∧ (top, path) ∈ after.marks := by
  induction run with
  | nil => exact ⟨rfl, marked⟩
  | cons first _ ih =>
      obtain ⟨made, gains, _⟩ := visit_run_gains first
      have markedLater : (top, path) ∈ _ := List.mem_append_right made marked
      rw [← gains.marks] at markedLater
      obtain ⟨later, markedAfter⟩ := ih markedLater fun branch member => each branch (List.mem_cons_of_mem _ member)
      rw [List.flatten_cons, reports_append, later, each _ List.mem_cons_self _ _ _ marked first]
      exact ⟨rfl, markedAfter⟩

theorem Depicts.routed_eq_nil {node : Node} (depicts : Depicts slot node clause) (unrouted : node.routing? = none)
    {visitClause : Nat → Value → String → Visiting (List Failure)} {value : Value} {routed : List Failure}
    (route : clause.Routed clauses visitClause place path value before routed after) : routed = [] := by
  have undispatched : clause.dispatch = none := by
    rcases depicts.dispatch.none_or_some with ⟨_, none⟩ | ⟨_, _, some, _⟩
    · exact none
    · cases unrouted.symm.trans some
  cases route with
  | idle => rfl
  | again routes | variant routes | lenient routes => cases undispatched.symm.trans routes

/-- Where its branches report nothing, a schema without a hierarchy of its own reports what it forbids. -/
theorem Mirror.reports_unrouted (mirror : Mirror catalog slot validator id) (placed : slot target place)
    (simple : (catalog.graph.node target).Simple) (unrouted : (catalog.graph.node target).routing? = none)
    (distinct : (Assoc.keys entries).Nodup) (found : validator.clauses.getD place {} = clause)
    (branches : ∀ edge ∈ (catalog.graph.node target).allOf.getD [],
      Hushed slot validator direction entries path top edge.target)
    (marked : (top, path) ∈ before.marks)
    (ran : (visit validator.clauses direction fuel place (.object entries) path).run before = some (failures, after))
    (key : String) :
    reports path key failures =
      if key ∈ Assoc.keys entries ∧ clause.forbids key = true then [clause.additionalFailure key path] else [] := by
  cases fuel with
  | zero => cases ran
  | succ fuel =>
      obtain ⟨inside, all, results, routed, same, ranAll, route, reported⟩ :=
        mirror.reports_visit placed simple distinct found ran
      have depicts := mirror.depicts placed
      rw [found] at depicts
      have silent : ∀ branch ∈ clause.allOf, ∀ guard result later, (top, path) ∈ guard.marks →
          (visit validator.clauses direction fuel branch (.object entries) path).run guard = some (result, later) →
          reports path key result = [] := by
        intro branch member guard result later marked ran
        obtain ⟨edge, among, placedBranch⟩ := depicts.allOf.exists_left member
        exact branches edge among branch fuel guard result later placedBranch marked ran key
      obtain ⟨hushed, _⟩ := hushed_branches ranAll ((same top).mpr marked) silent
      rw [reported, hushed, depicts.routed_eq_nil unrouted route]
      simp [reports]

theorem Depicts.undeclared_eq_none {node : Node} (depicts : Depicts slot node clause)
    (silent : node.additional = none) : clause.undeclared = none := by
  rcases depicts.undeclared.none_or_some with ⟨_, none⟩ | ⟨_, _, said, _⟩
  · exact none
  · cases silent.symm.trans said

theorem Depicts.forbids_eq_false {node : Node} (depicts : Depicts slot node clause) (silent : node.additional = none)
    (key : String) : clause.forbids key = false := by
  rw [Clause.forbids, depicts.undeclared_eq_none silent]
  exact Bool.and_false _

theorem Mirror.reports_branchless (mirror : Mirror catalog slot validator id) (placed : slot target place)
    (simple : (catalog.graph.node target).Simple) (branchless : (catalog.graph.node target).allOf.getD [] = [])
    (distinct : (Assoc.keys entries).Nodup) (found : validator.clauses.getD place {} = clause)
    (ran : (visit validator.clauses direction (fuel + 1) place (.object entries) path).run before =
      some (failures, after)) :
    ∃ inside routed, SameMarks path before inside ∧
      clause.Routed validator.clauses (visit validator.clauses direction fuel) place path (.object entries) inside
        routed after ∧
      ∀ key, reports path key failures =
        (if key ∈ Assoc.keys entries ∧ clause.forbids key = true then [clause.additionalFailure key path] else []) ++
          reports path key routed := by
  obtain ⟨inside, all, results, routed, same, ranAll, route, reported⟩ :=
    mirror.reports_visit placed simple distinct found ran
  have branches := (mirror.depicts placed).allOf
  rw [found, branchless, List.forall₂_nil_left_iff] at branches
  rw [branches] at ranAll
  cases ranAll
  refine ⟨inside, routed, same, route, fun key => ?_⟩
  rw [reported]
  simp [reports]

theorem Mirror.reports_root (mirror : Mirror catalog slot validator id) {root : Nat}
    (quietRoot : QuietRoot catalog.graph root) (placedRoot : slot root top) (distinct : (Assoc.keys entries).Nodup)
    (found : validator.clauses.getD top {} = clause)
    (ran : (visit validator.clauses direction (fuel + 1) top (.object entries) path).run before =
      some (failures, after)) :
    ∃ inside routed, SameMarks path before inside ∧
      clause.Routed validator.clauses (visit validator.clauses direction fuel) top path (.object entries) inside routed
        after ∧
      ∀ key, reports path key failures = reports path key routed := by
  obtain ⟨inside, routed, same, route, reported⟩ :=
    mirror.reports_branchless placedRoot quietRoot.simple quietRoot.branchless distinct found ran
  have depicts := mirror.depicts placedRoot
  rw [found] at depicts
  refine ⟨inside, routed, same, route, fun key => ?_⟩
  rw [reported, depicts.forbids_eq_false quietRoot.silent]
  simp

/-- Base schemas and the root itself report nothing once the root was dispatched. The induction follows the
branches up to the root. -/
theorem Mirror.hushed (mirror : Mirror catalog slot validator id) {root : Nat}
    (quietRoot : QuietRoot catalog.graph root) (placedRoot : slot root top) (distinct : (Assoc.keys entries).Nodup)
    (quiet : Quiet catalog.graph root target) : Hushed slot validator direction entries path top target := by
  induction quiet with
  | root =>
      intro place fuel before failures after placed marked ran key
      obtain rfl := mirror.places placedRoot placed
      cases fuel with
      | zero => cases ran
      | succ fuel =>
          obtain ⟨inside, routed, same, route, reported⟩ :=
            mirror.reports_root quietRoot placedRoot distinct rfl ran
          -- The root is asked again at the place of its dispatch, so it is not dispatched once more.
          have again := (same top).mpr marked
          rw [reported]
          cases route with
          | idle => rfl
          | again => rfl
          | variant _ fresh | lenient _ fresh => exact absurd again fresh
  | base simple unrouted silent _ ih =>
      intro place fuel before failures after placed marked ran key
      rw [mirror.reports_unrouted placed simple unrouted distinct rfl ih marked ran,
        (mirror.depicts placed).forbids_eq_false silent]
      simp

end Validator

end ApiContract
