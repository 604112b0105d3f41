import ApiContract.Proofs.Compilation.Assembly
import ApiContract.Proofs.Compilation.Transfer
import ApiContract.Proofs.Pass.Computed

/-!
Which messages get an answer. Where no schema is a branch of itself, all do (`messages_answered`), and this is all
that is needed: dispatch and subschemas may lead back to where they started. A value that leads back to itself by
branches never gets one (`Trap.visit_eq_none`).
-/

namespace ApiContract

open Json (Value)

namespace Validator

/-- The visit of a clause with a value waits for that of another one. -/
inductive Needs (clauses : Array Clause) (index : Nat) (value : Value) : Nat → Value → Prop
  | allOf {branch} : branch ∈ (clauses.getD index {}).allOf → Needs clauses index value branch value
  | anyOf {branch rest} : (clauses.getD index {}).anyOf = branch :: rest → Needs clauses index value branch value
  | oneOf {branch} : branch ∈ (clauses.getD index {}).oneOf → Needs clauses index value branch value
  | member {entries key content child} : value = .object entries → (key, content) ∈ entries →
      (clauses.getD index {}).clauseFor? key = some child → Needs clauses index value child content

/-- Visits that wait for each other. -/
structure Trap (clauses : Array Clause) (trapped : Nat → Value → Prop) : Prop where
  examined : ∀ index value, trapped index value →
    (clauses.getD index {}).admitsNull value = false ∧ (clauses.getD index {}).admitsType value = true
  needs : ∀ index value, trapped index value → ∃ other content, Needs clauses index value other content ∧
    trapped other content

variable {clauses : Array Clause} {direction : Direction} {trapped : Nat → Value → Prop}

theorem firstPassing_first {visit : Nat → Visiting (List Failure)} {first : Nat} {rest : List Nat} {before : Guard}
    {answer : Option (List Failure) × Guard} (ran : (firstPassing visit (first :: rest)).run before = some answer) :
    ∃ result middle, (branch (visit first)).run before = some (result, middle) := by
  rcases (firstPassing_cons_run_iff _ _ _ _ _ _).mp ran with ⟨passed, _⟩ | ⟨result, middle, _, _, tried, _⟩
  · exact ⟨_, _, passed⟩
  · exact ⟨result, middle, tried⟩

/-- A visit that is answered has answers of all visits that it waits for. -/
theorem needs_answered {fuel index other : Nat} {value content : Value} {path : String} {before after : Guard}
    {failures : List Failure} (ran : (visit clauses direction (fuel + 1) index value path).run before =
      some (failures, after)) (notNull : (clauses.getD index {}).admitsNull value = false)
    (typed : (clauses.getD index {}).admitsType value = true) (needs : Needs clauses index value other content) :
    ∃ path before answer, (visit clauses direction fuel other content path).run before = some answer := by
  cases (visit_run_iff _ _ _ _ _ _ _ _ _).mp ran with
  | null isNull => cases notNull.symm.trans isNull
  | mistyped _ mistyped => cases typed.symm.trans mistyped
  | examined _ _ entered ranAll ranAny ranOne _ =>
      cases needs with
      | allOf member =>
          obtain ⟨result, _, guard, later, ranBranch⟩ := ranAll.exists_result member
          exact ⟨path, guard, _, ranBranch⟩
      | anyOf listed =>
          rcases (Clause.visitAnyOf_run_iff _ _ _ _ _ _ _).mp ranAny with ⟨empty, _⟩ | ⟨_, outcome, tried, _⟩
          · cases empty.symm.trans listed
          · rw [listed] at tried
            obtain ⟨result, middle, ranBranch⟩ := firstPassing_first tried
            obtain ⟨guard, ranVisit, _⟩ := (branch_run_iff _ _ _ _).mp ranBranch
            exact ⟨path, _, _, ranVisit⟩
      | oneOf member =>
          rcases (Clause.visitOneOf_run_iff _ _ _ _ _ _ _).mp ranOne with ⟨empty, _⟩ | ⟨_, outcomes, tried, _⟩
          · rw [empty] at member
            cases member
          · obtain ⟨result, _, guard, later, ranBranch⟩ := tried.exists_result member
            obtain ⟨middle, ranVisit, _⟩ := (branch_run_iff _ _ _ _).mp ranBranch
            exact ⟨path, _, _, ranVisit⟩
      | member object entry found =>
          cases entered with
          | @object entries _ results _ run =>
              cases object
              obtain ⟨result, _, guard, later, ranMember⟩ := run.exists_result entry
              rw [Clause.visitMember_run_iff] at ranMember
              simp only [found] at ranMember
              exact ⟨_, guard, _, ranMember⟩
          | array => cases object
          | unlooked plain =>
              subst object
              cases plain

/-- No fuel is enough for visits that wait for each other. -/
theorem Trap.visit_eq_none (trap : Trap clauses trapped) {fuel index : Nat} {value : Value} (inside : trapped index value)
    (path : String) (before : Guard) : (visit clauses direction fuel index value path).run before = none := by
  induction fuel generalizing index value path before with
  | zero => rfl
  | succ fuel ih =>
      obtain ⟨notNull, typed⟩ := trap.examined index value inside
      obtain ⟨other, content, needs, insideOther⟩ := trap.needs index value inside
      cases ran : (visit clauses direction (fuel + 1) index value path).run before with
      | none => rfl
      | some answer =>
          obtain ⟨inner, guard, answered, ranOther⟩ := needs_answered ran notNull typed needs
          cases (ih insideOther inner guard).symm.trans ranOther

/-- A member that is the first of its own branches keeps the whole from being answered. -/
theorem evaluateWithin_eq_none {validator : Validator} {entries : Assoc Value} {key : String} {content : Value}
    {root place : Nat} (first : validator.root = root) (entry : (key, content) ∈ entries)
    (leads : (validator.clauses.getD root {}).clauseFor? key = some place)
    (branches : (validator.clauses.getD place {}).anyOf = [place])
    (examined : (validator.clauses.getD root {}).admitsNull (.object entries) = false ∧
      (validator.clauses.getD root {}).admitsType (.object entries) = true)
    (examinedMember : (validator.clauses.getD place {}).admitsNull content = false ∧
      (validator.clauses.getD place {}).admitsType content = true) (fuel : Nat) :
    validator.evaluateWithin fuel direction (.object entries) = none := by
  let trapped (index : Nat) (value : Value) : Prop :=
    index = root ∧ value = .object entries ∨ index = place ∧ value = content
  have trap : Trap validator.clauses trapped := by
    constructor
    · rintro index value (⟨rfl, rfl⟩ | ⟨rfl, rfl⟩)
      · exact examined
      · exact examinedMember
    · rintro index value (⟨rfl, rfl⟩ | ⟨rfl, rfl⟩)
      · exact ⟨place, content, .member rfl entry leads, .inr ⟨rfl, rfl⟩⟩
      · exact ⟨index, value, .anyOf branches, .inr ⟨rfl, rfl⟩⟩
  have unanswered : (visit validator.clauses direction fuel root (.object entries) "").run {} = none :=
    trap.visit_eq_none (.inl ⟨rfl, rfl⟩) "" {}
  rw [evaluateWithin, first, unanswered]
  rfl

end Validator

namespace Specification

/-- A message gets an answer, whatever it holds, where no schema is a branch of itself. -/
theorem messages_answered {specification : Specification} (acyclic : IsAcyclic specification.draft.graph.Composes)
    {found : Specification.Found} {message : MessageValidator}
    (assembled : specification.assemble found = .ok message) (direction : Direction) (payload : Value) :
    ∃ failures, message.validator.evaluate direction payload = some failures := by
  obtain ⟨arena, sound, same⟩ := assemble_sound assembled
  have acyclicClauses : Validator.Acyclic message.validator.clauses := by
    rw [same]
    exact sound.acyclic acyclic
  exact Option.isSome_iff_exists.mp (Validator.evaluate_isSome acyclicClauses direction payload)

/-- An operation whose body is one of some definitions. -/
def bodyDocuments (definitions : Assoc Value) : DocumentSet :=
  let body : Value := .object [("name", .string "body"), ("in", .string "body"), ("required", .bool true),
    ("schema", .toDefinition "Body")]
  let operation : Value := .object [("operationId", .string "send"), ("parameters", .array [body]),
    ("responses", .object [("200", .object [("description", .string "Sent.")])])]
  { documents := [("/api.json", .object [("paths", .object [("/send", .object [("post", operation)])]),
      ("definitions", .object definitions)])]
    roots := ["/api.json"] }

def bodyBuild (definitions : Assoc Value) : Except BuildError Specification :=
  (build Pass.builtIn {} (bodyDocuments definitions)).outcome

/-- The specification of an operation, or one of nothing. -/
def bodySpecification (definitions : Assoc Value) : Specification :=
  (bodyBuild definitions).toOption.getD { draft := {}, suppressions := {}, skipTrivialParameters := true }

def bodyMessage (definitions : Assoc Value) : Except Interruption MessageValidator := do
  let found ← ((bodySpecification definitions).find (.request "send")).mapError Interruption.refused
  (bodySpecification definitions).assemble found

/-- The validator of what is sent, or one without clauses. -/
def bodyValidator (definitions : Assoc Value) : Validator :=
  ((bodyMessage definitions).toOption.map (·.validator)).getD ⟨#[], 0⟩

theorem exists_assembled {definitions : Assoc Value} (ends : (bodyMessage definitions).toOption.isSome = true) :
    ∃ found message, (bodySpecification definitions).find (.request "send") = .ok found ∧
      (bodySpecification definitions).assemble found = .ok message ∧
      message.validator = bodyValidator definitions := by
  unfold bodyValidator
  cases assembled : bodyMessage definitions with
  | error reason =>
      rw [assembled] at ends
      cases ends
  | ok message =>
      obtain ⟨found, finds, answered⟩ := (Except.bind_eq_ok _ _ _).mp assembled
      cases sought : (bodySpecification definitions).find (.request "send") with
      | error reason =>
          rw [sought] at finds
          cases finds
      | ok other =>
          rw [sought] at finds
          cases finds
          exact ⟨found, message, rfl, answered, rfl⟩

/-- A tree is a leaf or a list of trees: only items lead back. -/
def treeDefinitions : Assoc Value := [
  ("Body", .object [("anyOf", .array [.ofType "string", .toDefinition "Trees"])]),
  ("Trees", .object [("type", .string "array"), ("items", .toDefinition "Body")])]

theorem trees_built :
    (bodyBuild treeDefinitions).toOption.isSome = true ∧ (bodyMessage treeDefinitions).toOption.isSome = true ∧
      let graph := (bodySpecification treeDefinitions).draft.graph
      graph.size = 3 ∧ ∀ id < 3, ∀ edge ∈ (graph.node id).allOf.getD [] ++ (graph.node id).anyOf.getD [] ++
        (graph.node id).oneOf.getD [], id < edge.target := by
  decide +kernel

theorem messages_answered_trees :
    bodyBuild treeDefinitions = .ok (bodySpecification treeDefinitions) ∧
      ∃ found message, (bodySpecification treeDefinitions).assemble found = .ok message ∧
        ∀ tree, ∃ failures, message.validator.evaluate .request (.object [("body", tree)]) = some failures := by
  obtain ⟨built, assembles, size, descends⟩ := trees_built
  obtain ⟨found, message, _, assembled, _⟩ := exists_assembled assembles
  refine ⟨Except.eq_ok_getD _ built, found, message, assembled, ?_⟩
  intro tree
  refine messages_answered (.of_descending (fun id => 3 - id) ?_) assembled .request _
  rintro id _ ⟨edge, member, rfl⟩
  have inside : id < 3 := by
    rw [← size]
    by_contra outside
    rw [Schema.Graph.node_of_size_le (Nat.le_of_not_lt outside)] at member
    cases member
  have above := descends id inside edge member
  omega

def loopDefinitions : Assoc Value := [("Body", .object [("anyOf", .array [.toDefinition "Body"])])]

theorem loop_built :
    (bodyBuild loopDefinitions).toOption.isSome = true ∧ (bodyMessage loopDefinitions).toOption.isSome = true ∧
      let validator := bodyValidator loopDefinitions
      let payload := Value.object [("body", .bool true)]
      validator.root = 0 ∧ (validator.clauses.getD 0 {}).clauseFor? "body" = some 1 ∧
        (validator.clauses.getD 1 {}).anyOf = [1] ∧
        ((validator.clauses.getD 0 {}).admitsNull payload = false ∧
          (validator.clauses.getD 0 {}).admitsType payload = true) ∧
        (validator.clauses.getD 1 {}).admitsNull (.bool true) = false ∧
        (validator.clauses.getD 1 {}).admitsType (.bool true) = true := by
  decide +kernel

/-- A validator that is assembled without an error and never answers. -/
theorem looping_body_unanswered :
    bodyBuild loopDefinitions = .ok (bodySpecification loopDefinitions) ∧
      ∃ found message, (bodySpecification loopDefinitions).assemble found = .ok message ∧
        ∀ fuel, message.validator.evaluateWithin fuel .request (.object [("body", .bool true)]) = none := by
  obtain ⟨built, assembles, root, member, branches, examined, examinedBody⟩ := loop_built
  obtain ⟨found, message, _, assembled, same⟩ := exists_assembled assembles
  refine ⟨Except.eq_ok_getD _ built, found, message, assembled, ?_⟩
  intro fuel
  rw [same]
  exact Validator.evaluateWithin_eq_none root List.mem_cons_self member branches examined examinedBody fuel

end Specification

end ApiContract
