import ApiContract.Proofs.Compilation.Missing
import ApiContract.Proofs.Contract.Caching
import ApiContract.Proofs.Contract.Reporting

/-!
What is said about the body of a response. One that is missing is told unless it could not be read back, and what
schemas have against the inside of one that was sent is told as they say it (`response_body_told`).
-/

namespace ApiContract

open Json (Value)

open Validator (Arena Clause Compiling Guard Visit)

/-! ## The clause of a response -/

namespace Assembly

variable {catalog : Schema.Catalog} {source : SourceLocation} {root parent child schema place : Nat}
  {before after : Arena} {name : String}

def wholeClause (source : SourceLocation) (slots : Assoc Nat) : Clause :=
  { Clause.object source with properties := some slots, required := ["body"] }

/-- The first clause is that of a response whose body is asked about by a schema. -/
structure AsksBody (source : SourceLocation) (schema : Nat) (arena : Arena) : Prop where
  inside : 0 < arena.clauses.size
  asks : ∃ slots place, arena.clauses.getD 0 {} = wholeClause source slots ∧ Assoc.find? slots "body" = some place ∧
    arena.Slot schema place

namespace AsksBody

theorem keep (asks : AsksBody source schema before) (slots : before.slots ⊆ after.slots)
    (size : before.clauses.size ≤ after.clauses.size)
    (same : after.clauses.getD 0 {} = before.clauses.getD 0 {}) : AsksBody source schema after := by
  obtain ⟨inside, table, place, whole, found, placed⟩ := asks
  exact ⟨Nat.lt_of_lt_of_le inside size, table, place, same.trans whole, found, slots placed⟩

theorem compile {id : Nat} (asks : AsksBody source schema before)
    (ran : (Validator.compile catalog id).run before = .ok (place, after)) : AsksBody source schema after := by
  obtain ⟨wanted, fills⟩ := Validator.compile_fills ran
  exact asks.keep fills.kept fills.size (fills.old 0 asks.inside)

theorem push (asks : AsksBody source schema before) (clause : Clause) :
    AsksBody source schema { before with clauses := before.clauses.push clause } :=
  asks.keep (List.Subset.refl _) (by simp) (Validator.getD_push_of_lt clause asks.inside)

/-- Another slot of the response, or a property of another clause. -/
theorem addProperty {done : Unit} (asks : AsksBody source schema before) (other : parent = 0 → name ≠ "body")
    (ran : (addProperty parent name child false).run before = .ok (done, after)) : AsksBody source schema after := by
  by_cases own : parent = 0
  · subst own
    obtain ⟨inside, table, place, whole, found, placed⟩ := asks
    obtain ⟨slots, size, declared, _⟩ := Assembly.addProperty_run inside ran
    refine ⟨size ▸ inside, Assoc.insert table name child, place, ?_, ?_, slots placed⟩
    · rw [declared, whole]
      rfl
    · rw [Assoc.find?_insert_of_ne table child (Ne.symm (other rfl)), found]
  · cases ran
    exact asks.keep (List.Subset.refl _) (by simp) (Validator.getD_modify_of_ne _ _ (Ne.symm own))

theorem addResponseHeader {assembly next : Assembly} {header : String × Schema.Edge} {slot : Nat}
    (asks : AsksBody source schema before) (other : slot ≠ 0)
    (ran : (addResponseHeader catalog slot assembly header).run before = .ok (next, after)) :
    AsksBody source schema after := by
  obtain ⟨body, compiled, compiling, rest⟩ := (StateT.run_bind_eq_ok _ _ _ _).mp ran
  obtain ⟨_, later, added, answered⟩ := (StateT.run_bind_eq_ok _ _ _ _).mp rest
  cases answered
  exact (asks.compile compiling).addProperty (fun first => absurd first other) added

end AsksBody

theorem addResponseBody_asks {assembly next : Assembly} {edge : Schema.Edge}
    (noFile : (catalog.graph.node edge.target).typeName ≠ some "file")
    (sound : before.Sound catalog []) (start : before.clauses.getD 0 {} = Clause.object source)
    (inside : 0 < before.clauses.size)
    (ran : (addResponseBody catalog 0 assembly (some edge)).run before = .ok (next, after)) :
    AsksBody source edge.target after := by
  obtain ⟨body, compiled, compiling, rest⟩ := (StateT.run_bind_eq_ok _ _ _ _).mp ran
  obtain ⟨_, later, added, answered⟩ := (StateT.run_bind_eq_ok _ _ _ _).mp rest
  have required : ((catalog.graph.node edge.target).typeName == some "file") = false := by simpa using noFile
  obtain ⟨wanted, fills⟩ := Validator.compile_fills compiling
  obtain ⟨_, _, placed⟩ := Validator.compileWithin_compiles catalog [] _ _ _ _ _ sound compiling
  cases answered
  have asked : (addProperty 0 "body" body !false).run compiled = .ok ((), after) := by
    rw [required] at added
    exact added
  cases asked
  have insideLater := Nat.lt_of_lt_of_le inside fills.size
  refine ⟨by simpa using insideLater, [("body", body)], body, ?_, rfl, placed⟩
  change (compiled.clauses.modify 0 _).getD 0 {} = _
  rw [Validator.getD_modify_self insideLater, fills.old 0 inside, start]
  rfl

end Assembly

namespace MessageValidator

open Assembly (AsksBody)

variable {catalog : Schema.Catalog} {message : MessageValidator} {operation : Operation} {declared : Response}
  {edge : Schema.Edge}

/-- The validator of a response asks for its body. -/
theorem ofResponse_asks (assembled : ofResponse catalog operation declared = .ok message)
    (listed : declared.schema = some edge) (noFile : (catalog.graph.node edge.target).typeName ≠ some "file") :
    ∃ source arena, arena.Sound catalog [] ∧ AsksBody source edge.target arena ∧
      message.validator = { clauses := arena.clauses, root := 0 } := by
  obtain ⟨assembly, arena, ran, rfl⟩ := ofResponse_eq_ok assembled
  have start := Assembly.fits_start catalog (fun _ => True) (Assembly.sourceOf declared.key)
  have fits := Assembly.addResponse_fits (fun _ _ => trivial) (fun _ _ => trivial) start ran
  refine ⟨Assembly.sourceOf declared.key, arena, fits.sound, ?_, rfl⟩
  obtain ⟨withBody, middle, body, rest⟩ := (StateT.run_bind_eq_ok _ _ _ _).mp ran
  rw [listed] at body
  have asks := Assembly.addResponseBody_asks noFile start.sound rfl Nat.zero_lt_one body
  split at rest
  · cases rest
    exact asks
  · obtain ⟨slot, pushed, pushing, rest⟩ := (StateT.run_bind_eq_ok _ _ _ _).mp rest
    obtain ⟨_, later, added, headers⟩ := (StateT.run_bind_eq_ok _ _ _ _).mp rest
    cases pushing
    have slotted := (asks.push (Clause.object _)).addProperty (fun _ => by decide) added
    have other : middle.clauses.size ≠ 0 := Nat.ne_of_gt asks.inside
    exact Assembly.foldlM_keeps (fun arena _ => AsksBody _ edge.target arena)
      (fun _ _ _ _ _ _ asks ran => asks.addResponseHeader other ran) slotted headers

end MessageValidator

/-! ## What it says -/

namespace Validator

open Assembly (wholeClause)

variable {clauses : Array Clause} {direction : Direction} {fuel place : Nat} {source : SourceLocation}
  {slots : Assoc Nat} {entries : Assoc Value} {before after : Guard} {failures visited : List Failure}
  {failure : Failure} {clause : Clause} {path : String}

/-- What is found in members lies at or below them. -/
theorem entered_below (entered : clause.Entered (visit clauses direction fuel) path (.object entries) before visited after)
    (member : failure ∈ visited) :
    ∃ key ∈ Assoc.keys entries, ∃ rest, Tail rest ∧ failure.path = Pointer.child path key ++ rest := by
  cases entered with
  | unlooked plain => cases plain
  | @object _ _ results _ run =>
      obtain ⟨result, among, inside⟩ := List.mem_flatten.mp member
      obtain ⟨⟨key, content⟩, entry, guard, later, ran⟩ := run.exists_step among
      refine ⟨key, List.mem_map.mpr ⟨_, entry, rfl⟩, ?_⟩
      rw [Clause.visitMember_run_iff] at ran
      split at ran
      · exact visit_run_failures_below ran failure inside
      · obtain ⟨rfl, _⟩ := ran
        split at inside
        · rw [List.mem_singleton.mp inside]
          exact ⟨"", .empty, by simp [Clause.additionalFailure]⟩
        · cases inside

/-- What is said of a response whose body is missing. -/
def missingBody (source : SourceLocation) : Failure :=
  (wholeClause source []).fail .required .objectMissingRequiredProperty "/body" (.property "body")

/-- The clause of a response asks for the body, and leaves all else to the clauses of its slots. -/
theorem visit_whole (whole : clauses.getD 0 {} = wholeClause source slots)
    (ran : (visit clauses direction fuel 0 (.object entries) "").run before = some (failures, after)) :
    ∃ fuel visited inside,
      (wholeClause source slots).Entered (visit clauses direction fuel) "" (.object entries) before visited inside ∧
      failures = (wholeClause source slots).requiredFailures clauses direction entries "" ++ visited := by
  have blank : (clauses.getD 0 {}).Blank source := by
    rw [whole]
    rfl
  obtain ⟨fuel, visited, inside, entered, rfl⟩ := visit_blank blank ran
  rw [whole] at entered ⊢
  exact ⟨fuel, visited, inside, entered, rfl⟩

theorem requiredFailures_whole (found : Assoc.find? slots "body" = some place) :
    (wholeClause source slots).requiredFailures clauses .response entries "" =
      if Assoc.contains entries "body" || (clauses.getD place {}).access.unreadable then [] else [missingBody source] := by
  have declared : (wholeClause source slots).property? "body" = some place := found
  have asked : (wholeClause source slots).required = ["body"] := rfl
  rw [Clause.requiredFailures, asked]
  simp only [List.filter_cons, List.filter_nil, declared, Option.any_some, Direction.isResponse, Bool.true_and]
  cases Assoc.contains entries "body" <;> cases (clauses.getD place {}).access.unreadable <;> rfl

/-- Nothing but the missing body is told at its place if there is none. -/
theorem mem_whole_of_missing (whole : clauses.getD 0 {} = wholeClause source slots)
    (found : Assoc.find? slots "body" = some place) (missing : Assoc.contains entries "body" = false)
    (ran : (visit clauses .response fuel 0 (.object entries) "").run before = some (failures, after)) :
    (∃ failure ∈ failures, failure.skip = false ∧ failure.path = "/body") ↔
      (clauses.getD place {}).access.unreadable = false := by
  obtain ⟨fuel, visited, inside, entered, rfl⟩ := visit_whole whole ran
  rw [requiredFailures_whole found, missing, Bool.false_or]
  constructor
  · rintro ⟨failure, member, _, here⟩
    rcases List.mem_append.mp member with required | below
    · split at required
      · cases required
      next readable => exact Bool.eq_false_iff.mpr readable
    · obtain ⟨key, present, rest, tail, placed⟩ := entered_below entered below
      have same : Pointer.child "" key ++ rest = Pointer.child "" "body" ++ "" := by
        rw [← placed, here]
        decide +kernel
      obtain ⟨rfl, _⟩ := child_append_inj tail .empty same
      have contained := (Assoc.contains_iff_mem_keys entries "body").mpr present
      cases missing.symm.trans contained
  · intro readable
    refine ⟨missingBody source, ?_, rfl, rfl⟩
    rw [readable]
    exact List.mem_append_left _ List.mem_cons_self

end Validator

namespace Failure

variable {context : Context} {failure : Failure}

/-- A failure at the body as a whole, and no other, gets the code of response bodies. -/
theorem finding_code_iff (ofSchema : failure.code.isOfSchema = true) (sent : context.direction = .response) :
    (failure.finding context).code = .invalidResponseBody ↔ failure.path = "/body" := by
  have other : failure.code ≠ .invalidResponseBody := by
    intro same
    rw [same] at ofSchema
    cases ofSchema
  unfold finding
  rw [sent]
  dsimp only
  split
  next here => exact iff_of_true rfl here
  next elsewhere =>
    split
    · exact iff_of_false (fun same => by cases same) elsewhere
    · exact iff_of_false other elsewhere

/-- What lies inside the body is reported as it was found. -/
theorem finding_inside (inside : failure.isInBody = true) (sent : context.direction = .response) :
    failure.finding context =
      { code := failure.code, message := failure.message, source := failure.source, keyword := failure.keyword
        path := failure.payloadPath } := by
  obtain ⟨rest, start⟩ := List.isPrefixOf_iff_prefix.mp inside
  have elsewhere : failure.path ≠ "/body" := by
    intro same
    rw [same] at start
    have lengths := congrArg List.length start
    simp at lengths
  have noHeader : Text.startsWith failure.path "/headers" = false := by
    rw [Text.startsWith, ← start]
    rfl
  unfold finding
  rw [sent]
  dsimp only
  rw [if_neg elsewhere, noHeader]
  rfl

end Failure

namespace Issue

variable {context : Context} {failures : List Failure} {failure : Failure}

theorem exists_code_iff {code : ErrorCode} (unfiltered : context.includeErrors = none) :
    (∃ issue ∈ ofFailures context failures, issue.code = code) ↔
      ∃ failure ∈ failures, failure.skip = false ∧ (failure.finding context).code = code := by
  have tells := ofFailures_tells context failures
  have all (code : ErrorCode) : context.includes code = true := by rw [Context.includes, unfiltered]
  constructor
  · rintro ⟨issue, member, rfl⟩
    obtain ⟨finding, among, same⟩ := List.mem_map.mp ((tells.mem_iff issue.mark).mp (List.mem_map_of_mem member))
    obtain ⟨failure, amongFailures, reported, _, rfl⟩ := Failure.mem_findings.mp among
    exact ⟨failure, amongFailures, reported, congrArg Prod.fst same⟩
  · rintro ⟨failure, among, reported, rfl⟩
    have found := Failure.mem_findings.mpr ⟨failure, among, reported, all _, rfl⟩
    obtain ⟨issue, member, same⟩ := List.mem_map.mp ((tells.mem_iff _).mpr (List.mem_map_of_mem found))
    exact ⟨issue, member, congrArg Prod.fst same⟩

/-- What is not skipped is told with the code, message and source that it is reported with, and at its place. -/
theorem exists_of_failure (unfiltered : context.includeErrors = none) (member : failure ∈ failures)
    (reported : failure.skip = false) : ∃ issue ∈ ofFailures context failures,
      issue.mark = (failure.finding context).mark ∧ (failure.finding context).path ∈ issue.paths := by
  have tells := ofFailures_tells context failures
  have included : context.includes (failure.finding context).code = true := by rw [Context.includes, unfiltered]
  have found := Failure.mem_findings.mpr ⟨failure, member, reported, included, rfl⟩
  obtain ⟨issue, among, same⟩ := List.mem_map.mp ((tells.mem_iff _).mpr (List.mem_map_of_mem found))
  refine ⟨issue, among, same, ?_⟩
  rw [tells.paths issue among, List.mem_eraseDups]
  exact List.mem_map_of_mem (List.mem_filter.mpr ⟨found, decide_eq_true same.symm⟩)

end Issue

/-- A list of mutabilities keeps values of the schema from being read back. -/
def Schema.Node.WriteOnly (node : Schema.Node) : Prop := ∃ names, node.mutability = some names ∧ "read" ∉ names

namespace Specification

variable {specification : Specification}

/-- Without suppressions the failures of the payload are told after issues with the response as a whole. -/
theorem responseIssues_eq (message : MessageValidator) (context : Context)
    (unsuppressed : specification.suppressions = {}) (response : Exchange.Response) :
    ∃ whole, (∀ issue ∈ whole, issue.code.isOfMessage = true) ∧
      specification.responseIssues message context response =
        (message.validator.evaluate context.direction (message.responsePayload response)).elim
          (.error .outOfSteps) fun failures => .ok (whole ++ Issue.ofFailures context failures) := by
  unfold responseIssues payloadIssues Validator.validate
  refine ⟨if message.hasBodySchema then contentTypeIssues message context
    ((Exchange.contentType? response.headers).getD defaultContentType) else [], ?_, ?_⟩
  · intro issue member
    split at member
    · exact contentTypeIssues_isOfMessage member
    · cases member
  · rw [unsuppressed]
    cases message.validator.evaluate context.direction (message.responsePayload response) with
    | none => rfl
    | some failures =>
        change Except.ok (_ ++ ({} : Suppressions).filter (Issue.ofFailures context failures)) = _
        rw [Suppressions.filter_none]
        rfl

end Specification

namespace ValidatorStore

variable {specification : Specification} {operation : Operation} {declared : Response} {response : Exchange.Response}
  {name : String} {message : MessageValidator} {edge : Schema.Edge} {store : ValidatorStore}

theorem validateResponse_eq (context : Context) (found : specification.operation? name = some operation)
    (listed : operation.response? response.statusCode = some declared)
    (served : ((fetch specification (.response name response.statusCode)).run store).1 = .ok message) :
    ((validateResponse specification name response context).run store).1 =
      specification.responseIssues message
        { direction := .response, statusCode := some response.statusCode, includeErrors := context.includeErrors }
        response := by
  have present : ¬(operation.response? response.statusCode).isNone = true := by simp [listed]
  unfold validateResponse
  rw [found]
  simp only [if_neg present]
  rw [StateT.run_bind]
  cases fetched : (fetch specification (.response name response.statusCode)).run store with
  | mk answer after =>
      rw [fetched] at served
      obtain rfl : answer = .ok message := served
      rfl

/-- A body that is missing is told exactly if its schema lets it be read back. What is found strictly inside a body
that was sent keeps its code and message, and the code of response bodies is used only where something was found at
the body as a whole. -/
theorem response_body_told (found : specification.operation? name = some operation)
    (listed : operation.response? response.statusCode = some declared) (schema : declared.schema = some edge)
    (noFile : (specification.draft.graph.node edge.target).typeName ≠ some "file")
    (unsuppressed : specification.suppressions = {}) {context : Context} (unfiltered : context.includeErrors = none)
    (assembled : specification.assemble (.response operation declared) = .ok message)
    (served : ((fetch specification (.response name response.statusCode)).run store).1 = .ok message) :
    let answer := ((validateResponse specification name response context).run store).1
    (IsAcyclic specification.draft.graph.Composes → ∃ issues, answer = .ok issues) ∧
    ∀ issues, answer = .ok issues →
      (response.body = none → ((∃ issue ∈ issues, issue.code = .invalidResponseBody) ↔
        ¬(specification.draft.graph.node edge.target).WriteOnly)) ∧
      ∀ body, response.body = some body → ∃ failures,
        message.validator.evaluate .response (message.responsePayload response) = some failures ∧
        (∀ failure ∈ failures, failure.skip = false → failure.isInBody = true → ∃ issue ∈ issues,
          issue.code = failure.code ∧ issue.message = failure.message ∧ issue.source = failure.source ∧
          failure.payloadPath ∈ issue.paths) ∧
        ((∃ issue ∈ issues, issue.code = .invalidResponseBody) →
          ∃ failure ∈ failures, failure.skip = false ∧ failure.path = "/body") := by
  intro answer
  let fresh : Context :=
    { direction := .response, statusCode := some response.statusCode, includeErrors := context.includeErrors }
  have answered : answer = specification.responseIssues message fresh response :=
    validateResponse_eq context found listed served
  have all : fresh.includeErrors = none := unfiltered
  obtain ⟨whole, ofMessage, told⟩ := Specification.responseIssues_eq message fresh unsuppressed response
  obtain ⟨source, arena, sound, asks, same⟩ := MessageValidator.ofResponse_asks assembled schema noFile
  rw [told] at answered
  constructor
  · intro acyclic
    have clauses : Validator.Acyclic message.validator.clauses := by
      rw [same]
      exact sound.acyclic acyclic
    obtain ⟨failures, evaluated⟩ := Option.isSome_iff_exists.mp
      (Validator.evaluate_isSome clauses .response (message.responsePayload response))
    exact ⟨_, answered.trans (by rw [show fresh.direction = .response from rfl, evaluated]; rfl)⟩
  · intro issues returned
    obtain ⟨failures, evaluated, rfl⟩ : ∃ failures,
        message.validator.evaluate .response (message.responsePayload response) = some failures ∧
        issues = whole ++ Issue.ofFailures fresh failures := by
      rw [answered] at returned
      cases evaluated : message.validator.evaluate fresh.direction (message.responsePayload response) with
      | none =>
          rw [evaluated] at returned
          cases returned
      | some failures =>
          rw [evaluated] at returned
          cases returned
          exact ⟨failures, rfl, rfl⟩
    obtain ⟨after, ran⟩ := Validator.evaluateWithin_eq_some.mp evaluated
    have bodyTold : (∃ issue ∈ whole ++ Issue.ofFailures fresh failures, issue.code = .invalidResponseBody) ↔
        ∃ failure ∈ failures, failure.skip = false ∧ failure.path = "/body" := by
      have apart : (∃ issue ∈ whole ++ Issue.ofFailures fresh failures, issue.code = .invalidResponseBody) ↔
          ∃ issue ∈ Issue.ofFailures fresh failures, issue.code = .invalidResponseBody := by
        constructor
        · rintro ⟨issue, member, code⟩
          rcases List.mem_append.mp member with early | late
          · have ofWhole := ofMessage issue early
            rw [code] at ofWhole
            cases ofWhole
          · exact ⟨issue, late, code⟩
        · rintro ⟨issue, member, code⟩
          exact ⟨issue, List.mem_append_right _ member, code⟩
      rw [apart, Issue.exists_code_iff all]
      refine exists_congr fun failure => and_congr_right fun member => and_congr_right fun _ => ?_
      exact Failure.finding_code_iff (Validator.visit_isOfSchema ran member) rfl
    refine ⟨fun missing => ?_, fun body sent => ⟨failures, evaluated, ?_, bodyTold.mp⟩⟩
    · obtain ⟨slots, place, whole, found, placed⟩ := asks.asks
      have depicts := sound.depicts _ _ placed List.not_mem_nil
      have without : Assoc.contains [("headers", Value.object
          (message.coerce "headers" (lowerKeys response.headers)))] "body" = false := rfl
      rw [same, MessageValidator.responsePayload, missing] at ran
      rw [bodyTold, Validator.mem_whole_of_missing whole found without ran, ← Bool.not_eq_true,
        depicts.unreadable_iff, Schema.Node.WriteOnly]
      rfl
    · intro failure member reported inside
      obtain ⟨issue, among, mark, path⟩ := Issue.exists_of_failure all member reported
      rw [Failure.finding_inside inside rfl] at mark path
      obtain ⟨code, message, source⟩ : issue.code = failure.code ∧ issue.message = failure.message ∧
          issue.source = failure.source := by
        simpa [Issue.mark, Finding.mark] using mark
      exact ⟨issue, List.mem_append_right _ among, code, message, source, path⟩

/-- An operation that answers with a text, and with a status for which the text can only be written. -/
def noteDocuments : DocumentSet :=
  let text : Value := .object [("type", .string "string")]
  let written : Value := .object [("type", .string "string"), ("x-ms-mutability", .array [.string "create"])]
  let described (schema : Value) : Value := .object [("description", .string "A note."), ("schema", schema)]
  let operation : Value := .object [("operationId", .string "note"),
    ("produces", .array [.string Specification.defaultContentType]),
    ("responses", .object [("200", described text), ("201", described written)])]
  { documents := [("/api.json", .object [("paths", .object [("/note", .object [("get", operation)])])])]
    roots := ["/api.json"] }

def noteBuild : Except BuildError Specification := (Specification.build Pass.builtIn {} noteDocuments).outcome

/-- The specification of notes, or one of nothing. -/
def notes : Specification :=
  noteBuild.toOption.getD { draft := {}, suppressions := {}, skipTrivialParameters := true }

/-- What a status leads to: the operation with its response, the schema of the body, and the validator. -/
def bodyParts (specification : Specification) (name status : String) :
    Option (Operation × Response × Schema.Edge × MessageValidator) := do
  let operation ← specification.operation? name
  let declared ← operation.response? status
  let edge ← declared.schema
  let message ← (specification.assemble (.response operation declared)).toOption
  return (operation, declared, edge, message)

theorem bodyParts_eq_some {status : String} (parts : bodyParts specification name status =
    some (operation, declared, edge, message)) : specification.operation? name = some operation ∧
      operation.response? status = some declared ∧ declared.schema = some edge ∧
      specification.assemble (.response operation declared) = .ok message := by
  obtain ⟨_, found, rest⟩ := Option.bind_eq_some_iff.mp parts
  obtain ⟨_, listed, rest⟩ := Option.bind_eq_some_iff.mp rest
  obtain ⟨_, schema, rest⟩ := Option.bind_eq_some_iff.mp rest
  obtain ⟨_, assembled, rest⟩ := Option.bind_eq_some_iff.mp rest
  cases rest
  exact ⟨found, listed, schema, Except.eq_ok_of_toOption assembled⟩

def bodiless (status : String) : Exchange.Response := { statusCode := status }

def noteAnswer (status : String) : Except Interruption (List Issue) :=
  ((validateResponse notes "note" (bodiless status) (.response status)).run {}).1

theorem noteBuild_eq_ok : noteBuild = .ok notes := Except.eq_ok_getD _ (by decide +kernel)

theorem notes_texts :
    (∀ status ∈ ["200", "201"], (bodyParts notes "note" status).isSome = true ∧
      ∀ parts ∈ bodyParts notes "note" status, (notes.draft.graph.node parts.2.2.1.target).typeName = some "string") ∧
    (∀ parts ∈ bodyParts notes "note" "200", (notes.draft.graph.node parts.2.2.1.target).mutability = none) ∧
    (noteAnswer "200").toOption.isSome = true ∧ noteAnswer "201" = .ok [] := by
  decide +kernel

/-- The text that can be read back is missed. -/
theorem response_body_told_note : noteBuild = .ok notes ∧
    ∃ operation declared edge message issues, notes.operation? "note" = some operation ∧
      operation.response? "200" = some declared ∧ declared.schema = some edge ∧
      (notes.draft.graph.node edge.target).typeName ≠ some "file" ∧
      notes.assemble (.response operation declared) = .ok message ∧ noteAnswer "200" = .ok issues ∧
      ∃ issue ∈ issues, issue.code = .invalidResponseBody := by
  obtain ⟨texts, readable, answers, _⟩ := notes_texts
  obtain ⟨present, text⟩ := texts "200" List.mem_cons_self
  obtain ⟨⟨operation, declared, edge, message⟩, parts⟩ := Option.isSome_iff_exists.mp present
  obtain ⟨issues, answered⟩ := Option.isSome_iff_exists.mp answers
  obtain ⟨found, listed, schema, assembled⟩ := bodyParts_eq_some parts
  have noFile : (notes.draft.graph.node edge.target).typeName ≠ some "file" := by
    rw [text _ parts]
    decide
  have returned : noteAnswer "200" = .ok issues := Except.eq_ok_of_toOption answered
  have finds : notes.find (.response "note" "200") = .ok (.response operation declared) := by
    simp only [Specification.find, found, listed]
  have served : ((fetch notes (.response "note" "200")).run {}).1 = .ok message :=
    (fetch_empty finds).trans assembled
  have unsuppressed : notes.suppressions = {} :=
    (@Specification.build_suppressing Pass.builtIn {} noteDocuments [] {} notes rfl noteBuild_eq_ok).2
  have told := @response_body_told notes operation declared (bodiless "200") "note" message edge {} found listed schema
    noFile unsuppressed (.response "200") rfl assembled served
  have readBack : ¬(notes.draft.graph.node edge.target).WriteOnly := by
    rintro ⟨names, some, _⟩
    cases (readable _ parts).symm.trans some
  exact ⟨noteBuild_eq_ok, operation, declared, edge, message, issues, found, listed, schema, noFile, assembled, returned,
    ((told.2 issues returned).1 rfl).mpr readBack⟩

/-- The text that can only be written is not missed. -/
theorem write_only_body_not_missed : noteBuild = .ok notes ∧
    ∃ operation declared edge message, notes.operation? "note" = some operation ∧
      operation.response? "201" = some declared ∧ declared.schema = some edge ∧
      (notes.draft.graph.node edge.target).typeName ≠ some "file" ∧
      notes.assemble (.response operation declared) = .ok message ∧ (bodiless "201").body = none ∧
      noteAnswer "201" = .ok [] := by
  obtain ⟨texts, _, _, silent⟩ := notes_texts
  obtain ⟨present, text⟩ := texts "201" (List.mem_cons_of_mem _ List.mem_cons_self)
  obtain ⟨⟨operation, declared, edge, message⟩, parts⟩ := Option.isSome_iff_exists.mp present
  obtain ⟨found, listed, schema, assembled⟩ := bodyParts_eq_some parts
  have noFile : (notes.draft.graph.node edge.target).typeName ≠ some "file" := by
    rw [text _ parts]
    decide
  exact ⟨noteBuild_eq_ok, operation, declared, edge, message, found, listed, schema, noFile, assembled, rfl, silent⟩

end ValidatorStore

end ApiContract
