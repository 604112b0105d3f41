import ApiContract.Proofs.Compilation.Missing
import ApiContract.Proofs.Contract.Coercion
import ApiContract.Proofs.Contract.Paths
import ApiContract.Proofs.Pass.Documents

/-!
Missing parameters. Where no schema of a parameter requires anything inside it, one issue tells them all, and it tells
nothing else (`missing_parameters_told`).
-/

namespace ApiContract

open Json (Value)
open Relation (ReflTransGen)
open Validator (Arena Leads)

/-- Outside the body, nothing that the schemas of parameters lead to requires a key. -/
def Operation.Listless (operation : Operation) (catalog : Schema.Catalog) (skipTrivial : Bool) : Prop :=
  ∀ parameter ∈ operation.checked skipTrivial, parameter.place ≠ .body →
    ∀ id, ReflTransGen (Leads catalog) parameter.schema.target id → (catalog.graph.node id).required = []

theorem Operation.Listless.of_forall {operation : Operation} {catalog : Schema.Catalog} {skipTrivial : Bool}
    (none : ∀ id < catalog.graph.size, (catalog.graph.node id).required = []) :
    operation.Listless catalog skipTrivial := by
  intro _ _ _ id _
  by_cases inside : id < catalog.graph.size
  · exact none id inside
  · rw [Schema.Graph.node_of_size_le (Nat.le_of_not_lt inside)]
    rfl

/-! ## Failures of a request -/

namespace Assembly

/-- A key that a payload lacks: that of a required parameter in its slot, or that of a required body. -/
inductive Lacks (checked : List Parameter) (entries : Assoc Value) : String → Prop
  | parameter {parameter : Parameter} {values : Assoc Value} : parameter ∈ checked → parameter.place ≠ .body →
      parameter.required = true → (parameter.place.slot, .object values) ∈ entries →
      Assoc.contains values parameter.key = false →
      Lacks checked entries (Pointer.child (Pointer.child "" parameter.place.slot) parameter.key)
  | body {parameter : Parameter} : parameter ∈ checked → parameter.place = .body → parameter.required = true →
      Assoc.contains entries "body" = false → Lacks checked entries (Pointer.child "" "body")

end Assembly

namespace Failure

variable {failure : Failure} {key rest : String} {context : Context}

theorem isInBody_of_child (tail : Validator.Tail rest)
    (placed : failure.path = Pointer.child (Pointer.child "" "body" ++ rest) key) : failure.isInBody = true := by
  have start : Pointer.child "" "body" = "/body" := by decide +kernel
  rw [isInBody, Text.startsWith, placed, start, Validator.child_eq_append, List.isPrefixOf_iff_prefix]
  rcases tail.chars with nothing | ⟨more, segment⟩
  · exact ⟨(Pointer.escape key).toList, by simp [nothing]⟩
  · exact ⟨more ++ ("/" ++ Pointer.escape key).toList, by simp [segment]⟩

theorem payloadPath_slot (place : ParameterPlace) (other : place ≠ .body)
    (placed : failure.path = Pointer.child (Pointer.child "" place.slot) key) :
    failure.isInBody = false ∧ failure.payloadPath = "/" ++ place.slot ++ "/" ++ Pointer.escape key := by
  have spelled : Pointer.child (Pointer.child "" place.slot) key = "/" ++ place.slot ++ "/" ++ Pointer.escape key := by
    have slot : Pointer.child "" place.slot = "/" ++ place.slot := by cases place <;> decide +kernel
    rw [Pointer.child, slot]
  have outside : failure.isInBody = false := by
    rw [isInBody, Text.startsWith, placed, spelled]
    cases place with
    | body => exact absurd rfl other
    | path | query | header | formData => simp [ParameterPlace.slot, List.isPrefixOf]
  have elsewhere : failure.path ≠ "/body" := by
    intro same
    have chars := congrArg String.toList (placed.symm.trans same)
    rw [spelled] at chars
    cases place with
    | body => exact absurd rfl other
    | path | query | header | formData => simp [ParameterPlace.slot] at chars
  refine ⟨outside, ?_⟩
  rw [payloadPath, if_neg elsewhere, outside, placed, spelled]
  rfl

/-- The body as a whole is the root of what is reported. -/
theorem payloadPath_body (placed : failure.path = Pointer.child "" "body") :
    failure.isInBody = false ∧ failure.payloadPath = "" := by
  have spelled : Pointer.child "" "body" = "/body" := by decide +kernel
  rw [isInBody, payloadPath, placed, spelled]
  exact ⟨rfl, rfl⟩

/-- Of a request, a key that is missed outside the body gets the code of parameters, and no other failure does. -/
theorem finding_missing_iff (ofSchema : failure.code.isOfSchema = true) (asked : context.direction = .request) :
    (failure.finding context).code = .missingRequiredParameter ↔
      failure.isInBody = false ∧ failure.keyword = .required := by
  have other : failure.code ≠ .missingRequiredParameter := by
    intro same
    rw [same] at ofSchema
    cases ofSchema
  unfold finding
  rw [asked]
  dsimp only
  split
  next missed => exact iff_of_true rfl (by simpa using missed)
  next told => exact iff_of_false other (by simpa using told)

theorem finding_missing (asked : context.direction = .request) (outside : failure.isInBody = false)
    (required : failure.keyword = .required) : failure.finding context =
      { code := .missingRequiredParameter, message := ErrorCode.missingRequiredParameter.message .none
        source := failure.source, keyword := .required, path := failure.payloadPath } := by
  unfold finding
  rw [asked, outside, required]
  rfl

end Failure

namespace MessageValidator

open Assembly (Lacks)

variable {operation : Operation} {catalog : Schema.Catalog} {skipTrivial : Bool} {source : SourceLocation}
  {message : MessageValidator} {arena : Arena} {assembly : Assembly} {entries : Assoc Value} {fuel : Nat}
  {failures : List Failure} {failure : Failure}

/-- Outside the body, only what the clauses of the message and its slots ask for is missed. -/
theorem Asks.lacks (asks : Asks catalog source (operation.checked skipTrivial) message arena assembly)
    (compiled : Validator.Compiled message.validator) (listless : operation.Listless catalog skipTrivial)
    (ran : message.validator.evaluateWithin fuel .request (.object entries) = some failures)
    (member : failure ∈ failures) (required : failure.keyword = .required) (outside : failure.isInBody = false) :
    failure.source = source ∧ Lacks (operation.checked skipTrivial) entries failure.path := by
  obtain ⟨after, ran⟩ := Validator.evaluateWithin_eq_some.mp ran
  have layout := asks.layout
  cases Validator.visit_traced fuel .root ran member with
  | refused _ rejects => exact absurd required (compiled.refuses_keyword rejects.refuses).1
  | undeclared _ _ _ keyword => cases required.symm.trans keyword
  | missing asked listed lacking _ place said =>
      rw [asks.validator] at asked listed said
      rw [place, said]
      -- Only the request and its slots are left: the body is reported by itself, and other schemas require nothing.
      cases layout.part asks.sound asked with
      | request here first whole =>
          subst here
          subst first
          cases whole
          obtain ⟨rfl, parameter, among, body, needed⟩ := (layout.required _).mp listed
          exact ⟨layout.blank.source_eq, .body among body needed lacking⟩
      | slot entry here found =>
          subst here
          have slotted := layout.slots _ _ found
          obtain ⟨parameter, among, stands, needed⟩ := (slotted.required _).mp listed
          obtain ⟨notBody, rfl, rfl⟩ := stands
          exact ⟨slotted.blank.source_eq, .parameter among notBody needed entry lacking⟩
      | body tail here =>
          subst here
          rw [Failure.isInBody_of_child tail place] at outside
          cases outside
      | parameter among notBody reached placed =>
          have depicts := asks.sound.depicts _ _ placed List.not_mem_nil
          rw [depicts.required, listless _ among notBody _ reached] at listed
          cases listed

theorem Asks.exists_missed (asks : Asks catalog source (operation.checked skipTrivial) message arena assembly)
    (ran : message.validator.evaluateWithin fuel .request (.object entries) = some failures) {path : String}
    (lacks : Lacks (operation.checked skipTrivial) entries path) :
    ∃ failure ∈ failures, failure.keyword = .required ∧ failure.skip = false ∧ failure.path = path := by
  obtain ⟨after, ran⟩ := Validator.evaluateWithin_eq_some.mp ran
  rw [asks.validator] at ran
  have layout := asks.layout
  cases lacks with
  | body among body needed lacking =>
      exact Validator.exists_missed layout.blank ran ((layout.required _).mpr ⟨rfl, _, among, body, needed⟩) lacking
  | @parameter parameter values among notBody needed entry lacking =>
      obtain ⟨slot, found⟩ := Option.isSome_iff_exists.mp (layout.opened parameter among notBody)
      have slotted := layout.slots _ _ found
      obtain ⟨_, declared⟩ := layout.declared _ _ found
      obtain ⟨fuel, guard, inner, later, ranSlot, inside⟩ :=
        Validator.visit_blank_member layout.blank ran entry declared
      have listed := (slotted.required parameter.key).mpr ⟨parameter, among, ⟨notBody, rfl, rfl⟩, needed⟩
      obtain ⟨failure, member, told⟩ := Validator.exists_missed slotted.blank ranSlot listed lacking
      exact ⟨failure, inside member, told⟩

end MessageValidator

/-! ## Issues of one code -/

namespace Issue

variable {context : Context} {failures : List Failure} {code : ErrorCode} {path : String} {issue : Issue}

/-- An issue tells a path if something that it stands for was found there. -/
theorem mem_paths_iff (member : issue ∈ ofFailures context failures) :
    path ∈ issue.paths ↔
      ∃ finding ∈ Failure.findings context failures, finding.mark = issue.mark ∧ finding.path = path := by
  rw [(ofFailures_tells context failures).paths issue member, List.mem_eraseDups]
  simp only [List.mem_map, List.mem_filter, decide_eq_true_eq, and_assoc]

theorem exists_path_iff (unfiltered : context.includeErrors = none) :
    (∃ issue ∈ ofFailures context failures, issue.code = code ∧ path ∈ issue.paths) ↔
      ∃ failure ∈ failures, failure.skip = false ∧ (failure.finding context).code = code ∧
        (failure.finding context).path = path := by
  constructor
  · rintro ⟨issue, member, rfl, told⟩
    obtain ⟨finding, found, mark, rfl⟩ := (mem_paths_iff member).mp told
    obtain ⟨failure, among, reported, _, rfl⟩ := Failure.mem_findings.mp found
    exact ⟨failure, among, reported, congrArg Prod.fst mark, rfl⟩
  · rintro ⟨failure, among, reported, rfl, rfl⟩
    obtain ⟨issue, member, mark, told⟩ := exists_of_failure unfiltered among reported
    exact ⟨issue, member, congrArg Prod.fst mark, told⟩

theorem paths_ne_nil (member : issue ∈ ofFailures context failures) : issue.paths ≠ [] := by
  have tells := ofFailures_tells context failures
  obtain ⟨finding, found, mark⟩ := List.mem_map.mp ((tells.mem_iff issue.mark).mp (List.mem_map_of_mem member))
  exact List.ne_nil_of_mem ((mem_paths_iff member).mpr ⟨finding, found, mark, rfl⟩)

theorem length_filter_le_one {mark : Mark} (same : ∀ failure ∈ failures, failure.skip = false →
    (failure.finding context).code = code → (failure.finding context).mark = mark) :
    ((ofFailures context failures).filter (·.code = code)).length ≤ 1 := by
  have tells := ofFailures_tells context failures
  have each : ∀ other ∈ ((ofFailures context failures).filter (·.code = code)).map Issue.mark, other = mark := by
    intro other member
    obtain ⟨issue, among, rfl⟩ := List.mem_map.mp member
    obtain ⟨listed, coded⟩ := List.mem_filter.mp among
    obtain ⟨finding, found, alike⟩ := List.mem_map.mp ((tells.mem_iff issue.mark).mp (List.mem_map_of_mem listed))
    obtain ⟨failure, amongFailures, reported, _, rfl⟩ := Failure.mem_findings.mp found
    rw [← alike]
    exact same failure amongFailures reported ((congrArg Prod.fst alike).trans (of_decide_eq_true coded))
  have distinct : (((ofFailures context failures).filter (·.code = code)).map Issue.mark).Nodup :=
    (List.filter_sublist.map Issue.mark).nodup tells.distinct
  rw [List.eq_replicate_of_mem each, List.nodup_replicate, List.length_map] at distinct
  exact distinct

end Issue

namespace Specification

variable {specification : Specification} {message : MessageValidator} {context : Context} {payload : Value}
  {issues : List Issue}

theorem payloadIssues_eq_ok (unsuppressed : specification.suppressions = {})
    (answered : specification.payloadIssues message context payload = .ok issues) :
    ∃ failures, message.validator.evaluate context.direction payload = some failures ∧
      issues = Issue.ofFailures context failures := by
  unfold payloadIssues at answered
  split at answered
  next found validated =>
    obtain ⟨failures, evaluated, rfl⟩ := Option.map_eq_some_iff.mp validated
    rw [unsuppressed, Suppressions.filter_none] at answered
    cases answered
    exact ⟨failures, evaluated, rfl⟩
  · cases answered

/-- A request is answered with the issues of its content type and those of its payload. -/
theorem requestIssues_eq_ok (unsuppressed : specification.suppressions = {}) {request : Exchange.Request}
    (answered : specification.requestIssues message context request = .ok issues) :
    ∃ failures, message.validator.evaluate context.direction (message.requestPayload request) = some failures ∧
      issues = typeIssues message context (Exchange.contentType? request.headers) ++
        Issue.ofFailures context failures := by
  rw [requestIssues_eq] at answered
  cases told : specification.payloadIssues message context (message.requestPayload request) with
  | error reason =>
      rw [told] at answered
      cases answered
  | ok found =>
      rw [told] at answered
      cases answered
      obtain ⟨failures, evaluated, rfl⟩ := payloadIssues_eq_ok unsuppressed told
      exact ⟨failures, evaluated, rfl⟩

end Specification

/-! ## What is told of a request -/

namespace ValidatorStore

open Assembly (Lacks)
open MessageValidator (Asks)
open Specification (Found)

/-- Where a request misses what its operation requires. -/
inductive Misses (operation : Operation) (skipTrivial : Bool) (request : Exchange.Request) : String → Prop
  | parameter {parameter : Parameter} {values : Assoc Value} : parameter ∈ operation.checked skipTrivial →
      parameter.place ≠ .body → parameter.required = true →
      (parameter.place.slot, values) ∈ (Sent.request request).slots → parameter.key ∉ Assoc.keys values →
      Misses operation skipTrivial request ("/" ++ parameter.place.slot ++ "/" ++ Pointer.escape parameter.key)
  | body {parameter : Parameter} : parameter ∈ operation.parameters → parameter.place = .body →
      parameter.required = true → request.body = none → Misses operation skipTrivial request ""

variable {specification : Specification} {operation : Operation} {skipTrivial : Bool} {message : MessageValidator}
  {request : Exchange.Request} {entries : Assoc Value} {body : Option Value} {parameter : Parameter}

theorem not_omitsBody (single : (operation.parameters.filter (·.place = .body)).length ≤ 1)
    (member : parameter ∈ operation.checked specification.skipTrivialParameters) (body : parameter.place = .body)
    (required : parameter.required = true) : (Found.request operation).omitsBody specification = false := by
  have among : parameter ∈ (operation.checked specification.skipTrivialParameters).filter (·.place = .body) :=
    List.mem_filter.mpr ⟨member, decide_eq_true body⟩
  have few : ((operation.checked specification.skipTrivialParameters).filter (·.place = .body)).length ≤ 1 :=
    Nat.le_trans (List.filter_sublist.filter _).length_le single
  change ((operation.checked specification.skipTrivialParameters).filter (·.place = .body)).getLast?.any _ = false
  generalize (operation.checked specification.skipTrivialParameters).filter (·.place = .body) = bodies at among few
  cases bodies with
  | nil => cases among
  | cons first rest =>
      obtain rfl : rest = [] := List.eq_nil_of_length_eq_zero (by simpa using few)
      rw [List.mem_singleton] at among
      subst among
      simp [required]

theorem mem_entries_iff {slots : Assoc (Assoc Value)} {name : String} {values : Assoc Value} (apart : name ≠ "body") :
    (name, Value.object values) ∈
      slots.map (fun slot => (slot.1, Value.object slot.2)) ++ MessageValidator.bodyEntry body ↔ (name, values) ∈ slots := by
  cases body <;> simp [MessageValidator.bodyEntry, apart]

theorem contains_body_iff {slots : Assoc (Assoc Value)} (apart : "body" ∉ Assoc.keys slots) :
    Assoc.contains (slots.map (fun slot => (slot.1, Value.object slot.2)) ++ MessageValidator.bodyEntry body) "body" =
      body.isSome := by
  rw [Bool.eq_iff_iff, Assoc.contains_iff_mem_keys]
  have slotted : "body" ∉ (slots.map fun slot => (slot.1, Value.object slot.2)).map Prod.fst := by
    rwa [List.map_map]
  rw [Assoc.keys, List.map_append, List.mem_append, or_iff_right slotted]
  cases body <;> simp [MessageValidator.bodyEntry]

theorem keys_slots (request : Exchange.Request) (message : MessageValidator) :
    Assoc.keys ((Sent.request request).slots.map fun slot => (slot.1, message.coerce slot.1 slot.2)) =
      ["path", "query", "headers", "formData"] := rfl

section

variable (assembled : specification.assemble (.request operation) = .ok message)
  (payload : message.requestPayload request = .object entries)

include assembled payload

theorem mem_slots_iff {name : String} {values : Assoc Value} (apart : name ≠ "body") :
    (name, Value.object values) ∈ entries ↔
      ∃ sent, (name, sent) ∈ (Sent.request request).slots ∧ message.coerce name sent = values := by
  obtain ⟨kept, same, _⟩ := payload_eq (.request request operation) assembled
  obtain rfl : _ = entries := Value.object.inj (same.symm.trans payload)
  rw [mem_entries_iff apart, List.mem_map]
  constructor
  · rintro ⟨⟨_, sent⟩, member, rfl, rfl⟩
    exact ⟨sent, member, rfl⟩
  · rintro ⟨sent, member, rfl⟩
    exact ⟨(name, sent), member, rfl⟩

variable (single : (operation.parameters.filter (·.place = .body)).length ≤ 1)

include single

/-- A payload has a body that is required exactly if the request has one. -/
theorem contains_body (member : parameter ∈ operation.checked specification.skipTrivialParameters)
    (body : parameter.place = .body) (required : parameter.required = true) :
    Assoc.contains entries "body" = request.body.isSome := by
  obtain ⟨kept, same, keeps⟩ := payload_eq (.request request operation) assembled
  obtain rfl : _ = entries := Value.object.inj (same.symm.trans payload)
  rw [contains_body_iff (by rw [keys_slots]; decide)]
  rcases keeps with ⟨⟨omits, _⟩, _⟩ | ⟨_, unchanged⟩
  · cases (not_omitsBody single member body required).symm.trans omits
  · rw [← unchanged]
    rfl

theorem misses_of_lacks {failure : Failure}
    (lacks : Lacks (operation.checked specification.skipTrivialParameters) entries failure.path) :
    Misses operation specification.skipTrivialParameters request failure.payloadPath := by
  generalize placed : failure.path = place at lacks
  cases lacks with
  | @parameter parameter values member notBody required entry lacking =>
      obtain ⟨sent, slotted, rfl⟩ :=
        (mem_slots_iff assembled payload (ParameterPlace.slot_ne_body notBody)).mp entry
      rw [(Failure.payloadPath_slot parameter.place notBody placed).2]
      refine .parameter member notBody required slotted ?_
      rw [← MessageValidator.keys_coerce message parameter.place.slot, ← Assoc.contains_iff_mem_keys, lacking]
      exact Bool.false_ne_true
  | body member body required lacking =>
      rw [contains_body assembled payload single member body required] at lacking
      rw [(Failure.payloadPath_body placed).2]
      exact .body (List.mem_of_mem_filter member) body required (by simpa using lacking)

theorem Misses.lacks (checks : operation.ChecksBody) {path : String}
    (misses : Misses operation specification.skipTrivialParameters request path) :
    ∃ place, Lacks (operation.checked specification.skipTrivialParameters) entries place ∧
      ∀ failure : Failure, failure.path = place → failure.isInBody = false ∧ failure.payloadPath = path := by
  cases misses with
  | @parameter parameter values member notBody required slotted absent =>
      have entry := (mem_slots_iff assembled payload (ParameterPlace.slot_ne_body notBody)).mpr ⟨values, slotted, rfl⟩
      refine ⟨_, .parameter member notBody required entry ?_, fun failure placed => ?_⟩
      · rw [← MessageValidator.keys_coerce message parameter.place.slot] at absent
        rwa [← Bool.not_eq_true, Assoc.contains_iff_mem_keys]
      · exact Failure.payloadPath_slot parameter.place notBody placed
  | @body parameter member body required missing =>
      have checked : parameter ∈ operation.checked specification.skipTrivialParameters := by
        refine List.mem_filter.mpr ⟨member, ?_⟩
        rw [checks parameter member body]
        rfl
      refine ⟨_, .body checked body required ?_, fun failure placed => Failure.payloadPath_body placed⟩
      rw [contains_body assembled payload single checked body required, missing]
      rfl

end

section

variable {context : Context} {failures : List Failure} {failure : Failure} {path : String}
  (direction : context.direction = .request) (assembled : specification.assemble (.request operation) = .ok message)
  (listless : operation.Listless specification.draft.catalog specification.skipTrivialParameters)
  (evaluated : message.validator.evaluate context.direction (message.requestPayload request) = some failures)

include direction assembled listless evaluated

/-- What has the code of parameters is missing outside the body, and nothing but its path tells it from others. -/
theorem finding_of_missing (member : failure ∈ failures)
    (missing : (failure.finding context).code = .missingRequiredParameter) :
    (∃ entries, message.requestPayload request = .object entries ∧
      Lacks (operation.checked specification.skipTrivialParameters) entries failure.path) ∧
    failure.finding context =
      { code := .missingRequiredParameter, message := ErrorCode.missingRequiredParameter.message .none
        source := Assembly.sourceOf operation.key, keyword := .required, path := failure.payloadPath } := by
  obtain ⟨after, ran⟩ := Validator.evaluateWithin_eq_some.mp evaluated
  have ofSchema := Validator.visit_isOfSchema ran member
  obtain ⟨outside, required⟩ := (Failure.finding_missing_iff ofSchema direction).mp missing
  obtain ⟨arena, assembly, asks⟩ := MessageValidator.ofOperation_asks assembled
  rw [direction] at evaluated
  obtain ⟨source, lacks⟩ := asks.lacks (.message assembled) listless evaluated member required outside
  exact ⟨⟨_, rfl, lacks⟩, source ▸ Failure.finding_missing direction outside required⟩

theorem missing_iff_misses (single : (operation.parameters.filter (·.place = .body)).length ≤ 1)
    (checks : operation.ChecksBody) :
    (∃ failure ∈ failures, failure.skip = false ∧ (failure.finding context).code = .missingRequiredParameter ∧
      (failure.finding context).path = path) ↔
      Misses operation specification.skipTrivialParameters request path := by
  constructor
  · rintro ⟨failure, member, _, missing, rfl⟩
    obtain ⟨⟨entries, payload, lacks⟩, told⟩ := finding_of_missing direction assembled listless evaluated member missing
    rw [told]
    exact misses_of_lacks assembled payload single lacks
  · intro misses
    obtain ⟨place, lacks, reported⟩ := misses.lacks assembled rfl single checks
    obtain ⟨arena, assembly, asks⟩ := MessageValidator.ofOperation_asks assembled
    rw [direction] at evaluated
    obtain ⟨failure, member, required, shown, placed⟩ := asks.exists_missed evaluated lacks
    obtain ⟨outside, shownAt⟩ := reported failure placed
    have told := Failure.finding_missing direction outside required
    exact ⟨failure, member, shown, by rw [told], by rw [told]; exact shownAt⟩

end

theorem typeIssues_filter (message : MessageValidator) (context : Context) (contentType : Option String) :
    (Specification.typeIssues message context contentType).filter (·.code = .missingRequiredParameter) = [] := by
  refine List.filter_eq_nil_iff.mpr ?_
  intro issue member missing
  cases contentType with
  | none => cases member
  | some contentType =>
      have ofMessage := Specification.contentTypeIssues_isOfMessage member
      rw [of_decide_eq_true missing] at ofMessage
      cases ofMessage

variable {passes : List Pass} {settings : Settings} {documents : DocumentSet} {name : String} {store : ValidatorStore}
  {context : Context}

/-- Missing parameters are told by one issue, if there are any. Its paths lead to the keys of the parameters that are
required and not sent, and to the root if the body is. -/
theorem missing_parameters_told (plain : ∀ pass ∈ passes, pass.Plain)
    (built : (Specification.build passes settings documents).outcome = .ok specification)
    (unsuppressed : specification.suppressions = {}) (found : specification.operation? name = some operation)
    (single : (operation.parameters.filter (·.place = .body)).length ≤ 1)
    (listless : operation.Listless specification.draft.catalog specification.skipTrivialParameters)
    (assembled : specification.assemble (.request operation) = .ok message)
    (served : ((fetch specification (.request name)).run store).1 = .ok message)
    (unfiltered : context.includeErrors = none) (direction : context.direction = .request) :
    let answer := ((validateRequest specification name request context).run store).1
    (IsAcyclic specification.draft.graph.Composes → ∃ issues, answer = .ok issues) ∧
    ∀ issues, answer = .ok issues →
      let missing := issues.filter (·.code = .missingRequiredParameter)
      missing.length ≤ 1 ∧ (∀ issue ∈ missing, issue.paths ≠ []) ∧
        ∀ path, path ∈ missing.flatMap (·.paths) ↔
          Misses operation specification.skipTrivialParameters request path := by
  intro answer
  have finds : specification.find (.request name) = .ok (.request operation) := by
    simp only [Specification.find, found]
  refine ⟨fun acyclic => ?_, fun issues answered => ?_⟩
  · exact @validate_answered specification name (.request request) (.request operation) message store finds assembled
      served acyclic context
  have checks := Specification.build_checksBody plain built operation (Specification.mem_of_operation? found)
  obtain ⟨failures, evaluated, rfl⟩ := Specification.requestIssues_eq_ok unsuppressed
    ((validateRequest_eq request context served).symm.trans answered)
  rw [List.filter_append, typeIssues_filter, List.nil_append]
  -- Only their paths tell missing keys apart, so they become one issue.
  have alike : ∀ failure ∈ failures, failure.skip = false →
      (failure.finding context).code = .missingRequiredParameter →
      (failure.finding context).mark = (.missingRequiredParameter, ErrorCode.missingRequiredParameter.message .none,
        Assembly.sourceOf operation.key) := by
    intro failure member _ missing
    rw [(finding_of_missing direction assembled listless evaluated member missing).2]
    rfl
  refine ⟨Issue.length_filter_le_one alike, fun issue member => ?_, fun path => ?_⟩
  · exact Issue.paths_ne_nil (List.mem_filter.mp member).1
  · rw [← missing_iff_misses direction assembled listless evaluated single checks, ← Issue.exists_path_iff unfiltered]
    simp only [List.mem_flatMap, List.mem_filter, decide_eq_true_eq, and_assoc]

/-- What the name of an operation leads to: it and the validator of its requests. -/
def requestParts (specification : Specification) (name : String) : Option (Operation × MessageValidator) := do
  let operation ← specification.operation? name
  let message ← (specification.assemble (.request operation)).toOption
  return (operation, message)

theorem requestParts_eq_some (parts : requestParts specification name = some (operation, message)) :
    specification.operation? name = some operation ∧ specification.assemble (.request operation) = .ok message ∧
      ((fetch specification (.request name)).run {}).1 = .ok message := by
  obtain ⟨_, found, rest⟩ := Option.bind_eq_some_iff.mp parts
  obtain ⟨_, assembled, same⟩ := Option.bind_eq_some_iff.mp rest
  cases same
  have built := Except.eq_ok_of_toOption assembled
  have finds : specification.find (.request name) = .ok (.request operation) := by
    simp only [Specification.find, found]
  exact ⟨found, built, (fetch_empty finds).trans built⟩

/-- An operation that takes a room, a day, a guest and a text, with the definitions that the text may be of. -/
def bookingDocuments (text : Value) (definitions : Assoc Value) : DocumentSet :=
  let given (name inside : String) : Value :=
    .object [("name", .string name), ("in", .string inside), ("required", .bool true), ("type", .string "string")]
  let body : Value :=
    .object [("name", .string "text"), ("in", .string "body"), ("required", .bool true), ("schema", text)]
  let operation : Value := .object [("operationId", .string "book"),
    ("parameters", .array [given "room" "path", given "day/night" "query", given "X-Guest" "header", body]),
    ("responses", .object [("200", .object [("description", .string "Booked.")])])]
  { documents := [("/api.json", .object [("paths", .object [("/rooms/\x7broom\x7d", .object [("post", operation)])]),
      ("definitions", .object definitions)])]
    roots := ["/api.json"] }

def bookingBuild (text : Value) (definitions : Assoc Value) : Except BuildError Specification :=
  (Specification.build Pass.builtIn {} (bookingDocuments text definitions)).outcome

/-- The specification of bookings, or one of nothing. -/
def bookings (text : Value) (definitions : Assoc Value) : Specification :=
  (bookingBuild text definitions).toOption.getD { draft := {}, suppressions := {}, skipTrivialParameters := true }

/-- A booking that tells the guest only, in another case. -/
def booking (body : Option Value) : Exchange.Request := { headers := [("x-GUEST", .string "Ada")], body }

def bookingAnswer (text : Value) (definitions : Assoc Value) (body : Option Value) : Except Interruption (List Issue) :=
  ((validateRequest (bookings text definitions) "book" (booking body) { direction := .request }).run {}).1

def endlessText : Assoc Value := [("Text", .object [("anyOf", .array [.toDefinition "Text"])])]

/-- Neither the body nor the day may be left out of a booking, and no schema requires anything. -/
structure Books (specification : Specification) (operation : Operation) : Prop where
  skips : specification.skipTrivialParameters = true
  listless : ∀ id < specification.draft.graph.size, (specification.draft.graph.node id).required = []
  single : (operation.parameters.filter (·.place = .body)).length ≤ 1
  day : ∃ parameter ∈ operation.checked true, parameter.place = .query ∧ parameter.required = true ∧
    parameter.key = "day/night"
  body : ∃ parameter ∈ operation.parameters, parameter.place = .body ∧ parameter.required = true

theorem bookings_read : ∀ texts ∈ [(.ofType "string", []), (.toDefinition "Text", endlessText)],
    (bookingBuild texts.1 texts.2).toOption.isSome = true ∧
      (requestParts (bookings texts.1 texts.2) "book").isSome = true ∧
      (bookings texts.1 texts.2).skipTrivialParameters = true ∧
      (∀ id < (bookings texts.1 texts.2).draft.graph.size,
        ((bookings texts.1 texts.2).draft.graph.node id).required = []) ∧
      ∀ parts ∈ requestParts (bookings texts.1 texts.2) "book",
        (parts.1.parameters.filter (·.place = .body)).length ≤ 1 ∧
        (∃ parameter ∈ parts.1.checked true, parameter.place = .query ∧ parameter.required = true ∧
          parameter.key = "day/night") ∧
        ∃ parameter ∈ parts.1.parameters, parameter.place = .body ∧ parameter.required = true := by
  decide +kernel

theorem exists_booking {text : Value} {definitions : Assoc Value}
    (among : (text, definitions) ∈ [(.ofType "string", []), (.toDefinition "Text", endlessText)]) :
    bookingBuild text definitions = .ok (bookings text definitions) ∧ (bookings text definitions).suppressions = {} ∧
      ∃ operation message, requestParts (bookings text definitions) "book" = some (operation, message) ∧
        Books (bookings text definitions) operation := by
  obtain ⟨ends, present, skips, listless, told⟩ := bookings_read _ among
  obtain ⟨⟨operation, message⟩, parts⟩ := Option.isSome_iff_exists.mp present
  obtain ⟨single, day, body⟩ := told _ parts
  have built : bookingBuild text definitions = .ok (bookings text definitions) := Except.eq_ok_getD _ ends
  have unsuppressed : (bookings text definitions).suppressions = {} :=
    (@Specification.build_suppressing Pass.builtIn {} (bookingDocuments text definitions) [] {}
      (bookings text definitions) rfl built).2
  exact ⟨built, unsuppressed, operation, message, parts, skips, listless, single, day, body⟩

theorem Books.misses (books : Books specification operation) (body : Option Value) :
    Misses operation specification.skipTrivialParameters (booking body) "/query/day~1night" := by
  obtain ⟨parameter, member, query, required, key⟩ := books.day
  have slotted : (parameter.place.slot, []) ∈ (Sent.request (booking body)).slots := by
    rw [query]
    exact List.mem_cons_of_mem _ List.mem_cons_self
  have notBody : parameter.place ≠ .body := by
    rw [query]
    decide
  have missed := @Misses.parameter operation specification.skipTrivialParameters (booking body) parameter []
    (books.skips ▸ member) notBody required slotted List.not_mem_nil
  have spelled : "/" ++ ParameterPlace.query.slot ++ "/" ++ Pointer.escape "day/night" = "/query/day~1night" := by
    decide +kernel
  rwa [query, key, spelled] at missed

theorem string_branchless : let graph := (bookings (.ofType "string") []).draft.graph
    ∀ id < graph.size, (graph.node id).allOf.getD [] ++ (graph.node id).anyOf.getD [] ++
      (graph.node id).oneOf.getD [] = [] := by
  decide +kernel

theorem string_acyclic : IsAcyclic (bookings (.ofType "string") []).draft.graph.Composes := by
  refine .of_descending (fun _ => 0) ?_
  rintro id _ ⟨edge, member, rfl⟩
  by_cases inside : id < (bookings (.ofType "string") []).draft.graph.size
  · rw [string_branchless id inside] at member
    cases member
  · rw [Schema.Graph.node_of_size_le (Nat.le_of_not_lt inside)] at member
    cases member

/-- The day and the text are told together, and the guest is not missed. -/
theorem missing_parameters_told_booking : bookingBuild (.ofType "string") [] = .ok (bookings (.ofType "string") []) ∧
    ∃ issues, bookingAnswer (.ofType "string") [] none = .ok issues ∧
      ∃ issue, issues.filter (·.code = .missingRequiredParameter) = [issue] ∧
        "/query/day~1night" ∈ issue.paths ∧ "" ∈ issue.paths := by
  obtain ⟨built, unsuppressed, operation, message, parts, books⟩ := exists_booking List.mem_cons_self
  obtain ⟨found, assembled, served⟩ := requestParts_eq_some parts
  obtain ⟨answers, told⟩ := @missing_parameters_told (bookings (.ofType "string") []) operation message (booking none)
    Pass.builtIn {} (bookingDocuments (.ofType "string") []) "book" {} { direction := .request }
    (fun _ member => .inl member) built unsuppressed found books.single (.of_forall books.listless) assembled served
    rfl rfl
  obtain ⟨issues, answered⟩ := answers string_acyclic
  obtain ⟨once, _, paths⟩ := told issues answered
  obtain ⟨parameter, member, body, required⟩ := books.body
  have day := (paths "/query/day~1night").mpr (books.misses none)
  have text := (paths "").mpr (.body member body required rfl)
  refine ⟨built, issues, answered, ?_⟩
  generalize issues.filter (·.code = .missingRequiredParameter) = missing at once day text
  cases missing with
  | nil => cases day
  | cons issue rest =>
      obtain rfl : rest = [] := List.eq_nil_of_length_eq_zero (by simpa using once)
      exact ⟨issue, rfl, by simpa using day, by simpa using text⟩

theorem mem_booking (message : MessageValidator) :
    ("body", .bool true) ∈ (message.requestPayload (booking (some (.bool true)))).entries := by
  have kept : (some (Value.bool true)).filter (!message.omitsBody ·) = some (.bool true) := by
    rw [Option.filter_some, MessageValidator.omitsBody]
    simp [Value.isNull, Value.asObject?]
  refine List.mem_append_right _ ?_
  change _ ∈ MessageValidator.bodyEntry ((some (Value.bool true)).filter (!message.omitsBody ·))
  rw [kept]
  exact List.mem_cons_self

theorem endless_read : ∀ parts ∈ requestParts (bookings (.toDefinition "Text") endlessText) "book",
    let validator := parts.2.validator
    let payload := parts.2.requestPayload (booking (some (.bool true)))
    validator.root = 0 ∧
      (validator.clauses.getD 0 {}).clauseFor? "body" = some 5 ∧ (validator.clauses.getD 5 {}).anyOf = [5] ∧
      ((validator.clauses.getD 0 {}).admitsNull payload = false ∧
        (validator.clauses.getD 0 {}).admitsType payload = true) ∧
      (validator.clauses.getD 5 {}).admitsNull (.bool true) = false ∧
      (validator.clauses.getD 5 {}).admitsType (.bool true) = true := by
  decide +kernel

/-- Of a booking whose text never ends nothing is told, though the day is missing. -/
theorem endless_booking_untold :
    bookingBuild (.toDefinition "Text") endlessText = .ok (bookings (.toDefinition "Text") endlessText) ∧
    ∃ operation message, (bookings (.toDefinition "Text") endlessText).operation? "book" = some operation ∧
      (bookings (.toDefinition "Text") endlessText).assemble (.request operation) = .ok message ∧
      Books (bookings (.toDefinition "Text") endlessText) operation ∧
      Misses operation (bookings (.toDefinition "Text") endlessText).skipTrivialParameters (booking (some (.bool true)))
        "/query/day~1night" ∧
      (∀ fuel, message.validator.evaluateWithin fuel .request
        (message.requestPayload (booking (some (.bool true)))) = none) ∧
      ∀ issues, bookingAnswer (.toDefinition "Text") endlessText (some (.bool true)) ≠ .ok issues := by
  obtain ⟨built, unsuppressed, operation, message, parts, books⟩ :=
    exists_booking (List.mem_cons_of_mem _ List.mem_cons_self)
  obtain ⟨found, assembled, served⟩ := requestParts_eq_some parts
  obtain ⟨root, member, branches, examined, examinedText⟩ := endless_read _ parts
  have unanswered (fuel : Nat) : message.validator.evaluateWithin fuel .request
      (message.requestPayload (booking (some (.bool true)))) = none :=
    Validator.evaluateWithin_eq_none root (mem_booking message) member branches examined examinedText fuel
  refine ⟨built, operation, message, found, assembled, books, books.misses _, unanswered, fun issues answered => ?_⟩
  obtain ⟨failures, evaluated, _⟩ := Specification.requestIssues_eq_ok unsuppressed
    ((validateRequest_eq (booking (some (.bool true))) { direction := .request } served).symm.trans answered)
  cases (unanswered _).symm.trans evaluated

end ValidatorStore

end ApiContract
