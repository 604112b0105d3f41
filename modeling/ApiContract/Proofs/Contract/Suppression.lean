import ApiContract.Proofs.Compilation.Transfer
import ApiContract.Proofs.Evaluation.Blame
import ApiContract.Proofs.Json.Place
import ApiContract.Proofs.Stateful
import ApiContract.ValidatorStore

/-!
Suppressions as a filter after the fact. What schemas have against a message is filtered by them
(`suppressions_filter_schemas`); a content type or a status that an operation does not declare is told in any case.
-/

namespace ApiContract

open Json (Value)

def ErrorCode.isOfMessage : ErrorCode → Bool
  | .invalidResponseCode | .invalidContentType => true
  | _ => false

def ErrorCode.isOfSchema : ErrorCode → Bool
  | .missingRequiredParameter | .invalidResponseBody | .invalidResponseHeader | .invalidResponseCode
  | .invalidContentType => false
  | _ => true

theorem ErrorCode.isOfMessage_of_isOfSchema {code : ErrorCode} (plain : code.isOfSchema = true) :
    code.isOfMessage = false := by
  cases code <;> first | rfl | cases plain

namespace Validator

theorem keyword_code_isOfSchema (keyword : Keyword) : keyword.code.isOfSchema = true := by
  cases keyword <;> rfl

namespace Clause

variable {clause : Clause} {clauses : Array Clause} {direction : Direction} {value : Value} {path : String}
  {failure : Failure}

theorem ownFailures_isOfSchema (member : failure ∈ clause.ownFailures clauses direction value path) :
    failure.code.isOfSchema = true := by
  have among {codes : List ErrorCode} (listed : failure.code ∈ codes)
      (all : ∀ code ∈ codes, code.isOfSchema = true) : failure.code.isOfSchema = true := all _ listed
  simp only [ownFailures, List.mem_append] at member
  rcases member with (((denied | mistyped) | scalar) | inside) | summed
  · exact among (mem_denials denied).2.2 (by decide)
  · rw [(mem_mistypedFailures mistyped).2.2]
    rfl
  · rcases (mem_scalarFailures scalar).2.2 with listed | ⟨check, _, same⟩
    · exact among listed (by decide)
    · rw [same]
      exact keyword_code_isOfSchema check.keyword
  · rcases (mem_insideFailures_nil inside).2 with same | ⟨_, listed⟩
    · rw [same]
      rfl
    · exact among listed (by decide)
  · simp only [List.mem_cons, List.not_mem_nil, or_false] at summed
    rcases summed with rfl | rfl | rfl <;> rfl

end Clause

/-- Schemas say nothing of messages and their parts. The induction is on the depth of the value: what is said of members
and items comes from visits of these. -/
theorem visit_isOfSchema {clauses : Array Clause} {direction : Direction} {value : Value} {fuel index : Nat}
    {path : String} {before after : Guard} {failures : List Failure} {failure : Failure}
    (ran : (visit clauses direction fuel index value path).run before = some (failures, after))
    (member : failure ∈ failures) : failure.code.isOfSchema = true := by
  induction depth : value.depth using Nat.strong_induction_on generalizing value fuel index path before after failures with
  | _ depth ih =>
      obtain ⟨other, _, blamed⟩ := visit_blame fuel ran member
      cases blamed with
      | own said => exact Clause.ownFailures_isOfSchema said
      | undeclared _ _ _ _ same =>
          rw [same]
          rfl
      | closed _ _ shut =>
          obtain ⟨_, key, _, _, _, same⟩ := Clause.mem_closureFailures shut
          rw [same]
          rfl
      | member object entry _ ranMember inside =>
          subst object
          exact ih _ (depth ▸ Value.depth_lt_of_mem_entries entry) ranMember inside rfl
      | item array among _ ranItem inside =>
          subst array
          exact ih _ (depth ▸ Value.depth_lt_of_mem_items among) ranItem inside rfl

end Validator

namespace Failure

/-- The report changes codes only to ones that schemas may be the reason of. -/
theorem finding_isOfMessage (context : Context) {failure : Failure} (plain : failure.code.isOfMessage = false) :
    (failure.finding context).code.isOfMessage = false := by
  unfold finding
  dsimp only
  split
  · split
    · rfl
    · exact plain
  · split
    · rfl
    · split
      · rfl
      · exact plain

end Failure

namespace Issue

theorem mem_report {issues : List Issue} {finding : Finding} {issue : Issue} (member : issue ∈ report issues finding) :
    issue.code = finding.code ∨ ∃ old ∈ issues, issue.code = old.code := by
  induction issues with
  | nil =>
      rw [report, List.mem_singleton] at member
      rw [member]
      exact .inl rfl
  | cons first rest ih =>
      rw [report] at member
      split at member
      · rcases List.mem_cons.mp member with rfl | later
        · refine .inr ⟨first, List.mem_cons_self, ?_⟩
          unfold addPath
          split <;> rfl
        · exact .inr ⟨issue, List.mem_cons_of_mem _ later, rfl⟩
      · rcases List.mem_cons.mp member with rfl | later
        · exact .inr ⟨issue, List.mem_cons_self, rfl⟩
        · rcases ih later with same | ⟨old, among, same⟩
          · exact .inl same
          · exact .inr ⟨old, List.mem_cons_of_mem _ among, same⟩

theorem mem_foldl_report {findings : List Finding} {issues : List Issue} {issue : Issue}
    (member : issue ∈ findings.foldl report issues) :
    (∃ finding ∈ findings, issue.code = finding.code) ∨ ∃ old ∈ issues, issue.code = old.code := by
  induction findings generalizing issues with
  | nil => exact .inr ⟨issue, member, rfl⟩
  | cons first rest ih =>
      rcases ih member with ⟨finding, among, same⟩ | ⟨old, among, same⟩
      · exact .inl ⟨finding, List.mem_cons_of_mem _ among, same⟩
      · rcases mem_report among with code | ⟨older, amongOlder, code⟩
        · exact .inl ⟨first, List.mem_cons_self, same.trans code⟩
        · exact .inr ⟨older, amongOlder, same.trans code⟩

theorem ofFailures_isOfMessage {context : Context} {failures : List Failure}
    (plain : ∀ failure ∈ failures, failure.code.isOfMessage = false) {issue : Issue}
    (member : issue ∈ ofFailures context failures) : issue.code.isOfMessage = false := by
  rcases mem_foldl_report member with ⟨finding, among, same⟩ | ⟨_, none, _⟩
  · obtain ⟨failure, amongFailures, rfl⟩ := List.mem_map.mp (List.mem_filter.mp among).1
    rw [same]
    exact Failure.finding_isOfMessage context (plain failure (List.mem_filter.mp amongFailures).1)
  · cases none

end Issue

theorem Validator.validate_isOfMessage {validator : Validator} {context : Context} {value : Value}
    {issues : List Issue} (answered : validator.validate context value = some issues) {issue : Issue}
    (member : issue ∈ issues) : issue.code.isOfMessage = false := by
  obtain ⟨failures, evaluated, rfl⟩ := Option.map_eq_some_iff.mp answered
  obtain ⟨after, ran⟩ := evaluateWithin_eq_some.mp evaluated
  refine Issue.ofFailures_isOfMessage (fun failure among => ?_) member
  exact ErrorCode.isOfMessage_of_isOfSchema (visit_isOfSchema ran among)

namespace Suppressions

variable {suppressions : Suppressions} {issues : List Issue}

/-- What suppressions leave when issues with the message as a whole are spared. -/
def spare (suppressions : Suppressions) (issues : List Issue) : List Issue :=
  issues.filter fun issue => issue.code.isOfMessage || !suppressions.suppresses issue

theorem spare_eq_self (whole : ∀ issue ∈ issues, issue.code.isOfMessage = true) :
    suppressions.spare issues = issues :=
  List.filter_eq_self.mpr fun issue member => by rw [whole issue member, Bool.true_or]

theorem spare_eq_filter (plain : ∀ issue ∈ issues, issue.code.isOfMessage = false) :
    suppressions.spare issues = suppressions.filter issues :=
  List.filter_congr fun issue member => by rw [plain issue member, Bool.false_or]

/-- Nothing was spared exactly if the rules match no issue with the message as a whole. -/
theorem spare_eq_filter_iff (suppressions : Suppressions) (issues : List Issue) :
    suppressions.spare issues = suppressions.filter issues ↔
      ∀ issue ∈ issues, issue.code.isOfMessage = true → suppressions.suppresses issue = false := by
  constructor
  · intro same issue member whole
    have spared : issue ∈ suppressions.spare issues :=
      List.mem_filter.mpr ⟨member, by rw [whole, Bool.true_or]⟩
    rw [same] at spared
    simpa using (List.mem_filter.mp spared).2
  · intro unmatched
    refine List.filter_congr fun issue member => ?_
    cases whole : issue.code.isOfMessage with
    | true => rw [unmatched issue member whole, Bool.true_or, Bool.not_false]
    | false => rw [Bool.false_or]

theorem filter_none (issues : List Issue) : ({} : Suppressions).filter issues = issues :=
  List.filter_eq_self.mpr fun _ _ => rfl

end Suppressions

namespace Specification

variable {passes : List Pass} {settings : Settings} {documents : DocumentSet} {directives : List Directive}
  {suppressions : Suppressions} {plain : Specification}

/-- The same documents, without suppressions and with some. -/
theorem build_suppressing (valid : Suppressions.ofDirectives directives = .ok suppressions)
    (built : (build passes { settings with suppressions := [] } documents).outcome = .ok plain) :
    (build passes { settings with suppressions := directives } documents).outcome =
        .ok { plain with suppressions } ∧ plain.suppressions = {} := by
  unfold build Plan.of at built ⊢
  cases scheduled : Schedule.ofPasses passes with
  | error reason =>
      rw [scheduled] at built
      cases built
  | ok schedule =>
      rw [scheduled] at built
      simp only [valid]
      change ((Pipeline.run schedule { documents }).outcome.mapError _).map _ = _ at built
      change ((Pipeline.run schedule { documents }).outcome.mapError _).map _ = _ ∧ _
      cases ran : (Pipeline.run schedule { documents }).outcome with
      | error reason =>
          rw [ran] at built
          cases built
      | ok draft =>
          rw [ran] at built
          cases built
          exact ⟨rfl, rfl⟩

variable {validator : MessageValidator} {context : Context}

theorem contentTypeIssues_isOfMessage {contentType : String} {issue : Issue}
    (member : issue ∈ contentTypeIssues validator context contentType) : issue.code.isOfMessage = true := by
  unfold contentTypeIssues at member
  split at member
  · cases member
  · rw [List.mem_singleton.mp member]
    rfl

theorem undeclaredStatus_isOfMessage {operation : Operation} {status : String} {issue : Issue}
    (member : issue ∈ undeclaredStatus operation context status) : issue.code.isOfMessage = true := by
  unfold undeclaredStatus at member
  split at member
  · rw [List.mem_singleton.mp member]
    rfl
  · cases member

theorem payloadIssues_suppressing (none : plain.suppressions = {}) (payload : Value) :
    ({ plain with suppressions } : Specification).payloadIssues validator context payload =
      (plain.payloadIssues validator context payload).map suppressions.spare := by
  unfold payloadIssues
  rw [none]
  cases answered : validator.validator.validate context payload with
  | none => rfl
  | some issues =>
      change Except.ok (suppressions.filter issues) = Except.ok (suppressions.spare (({} : Suppressions).filter issues))
      rw [Suppressions.filter_none, Suppressions.spare_eq_filter fun issue => Validator.validate_isOfMessage answered]

/-- To filter what stands before the issues of the payload and these is to filter all of them. -/
theorem filter_after (keep : Issue → Bool) (whole : List Issue) (answer : Except Interruption (List Issue)) :
    (answer.map (List.filter keep) >>= fun issues => return whole.filter keep ++ issues) =
      (answer >>= fun issues => (return whole ++ issues : Except Interruption (List Issue))).map (List.filter keep) := by
  cases answer with
  | error reason => rfl
  | ok issues => exact congrArg Except.ok (List.filter_append ..).symm

/-- Issues with the message as a whole stand before those of the payload. -/
theorem spare_after {whole : List Issue} (all : ∀ issue ∈ whole, issue.code.isOfMessage = true)
    (answer : Except Interruption (List Issue)) :
    (answer.map suppressions.spare >>= fun issues => return whole ++ issues) =
      (answer >>= fun issues => (return whole ++ issues : Except Interruption (List Issue))).map suppressions.spare := by
  have spared : suppressions.spare whole = whole := Suppressions.spare_eq_self all
  refine Eq.trans ?_ (filter_after (fun issue => issue.code.isOfMessage || !suppressions.suppresses issue) whole answer)
  exact congrArg (fun whole => answer.map suppressions.spare >>= fun issues => return whole ++ issues) spared.symm

theorem requestIssues_suppressing (none : plain.suppressions = {}) (request : Exchange.Request) :
    ({ plain with suppressions } : Specification).requestIssues validator context request =
      (plain.requestIssues validator context request).map suppressions.spare := by
  unfold requestIssues
  rw [payloadIssues_suppressing none]
  refine spare_after ?_ _
  intro issue member
  split at member
  · exact contentTypeIssues_isOfMessage member
  · cases member

theorem responseIssues_suppressing (none : plain.suppressions = {}) (response : Exchange.Response) :
    ({ plain with suppressions } : Specification).responseIssues validator context response =
      (plain.responseIssues validator context response).map suppressions.spare := by
  unfold responseIssues
  rw [payloadIssues_suppressing none]
  refine spare_after ?_ _
  intro issue member
  split at member
  · exact contentTypeIssues_isOfMessage member
  · cases member

end Specification

namespace ValidatorStore

/-- A message as it was sent. -/
inductive Sent where
  | request (request : Exchange.Request)
  | response (response : Exchange.Response)

/-- The issues of a message to or from an operation. -/
def validate (specification : Specification) (name : String) (context : Context) :
    Sent → Stored (Except Interruption (List Issue))
  | .request request => validateRequest specification name request context
  | .response response => validateResponse specification name response context

variable {suppressions : Suppressions} {plain : Specification}

/-- Validators do not depend on suppressions, so that the stores of both specifications stay the same. -/
theorem fetch_suppressing (query : Specification.Query) :
    fetch { plain with suppressions } query = fetch plain query := rfl

theorem validate_suppressing (unfiltered : plain.suppressions = {}) (name : String) (context : Context)
    (message : Sent) :
    validate { plain with suppressions } name context message =
      Except.map suppressions.spare <$> validate plain name context message := by
  cases message with
  | request request =>
      simp only [validate, validateRequest, fetch_suppressing, map_bind]
      refine bind_congr fun answer => ?_
      cases answer with
      | error reason => rfl
      | ok validator =>
          dsimp only
          rw [Specification.requestIssues_suppressing unfiltered]
          rfl
  | response response =>
      have found : ({ plain with suppressions } : Specification).operation? name = plain.operation? name := rfl
      simp only [validate, validateResponse, fetch_suppressing, found]
      cases plain.operation? name with
      | none => rfl
      | some operation =>
          dsimp only
          split
          · rw [map_pure]
            refine congrArg (fun issues => pure (Except.ok issues)) ?_
            exact (Suppressions.spare_eq_self fun issue => Specification.undeclaredStatus_isOfMessage).symm
          · rw [map_bind]
            refine bind_congr fun answer => ?_
            cases answer with
            | error reason => rfl
            | ok validator =>
                dsimp only
                rw [Specification.responseIssues_suppressing unfiltered]
                rfl

variable {passes : List Pass} {settings : Settings} {documents : DocumentSet} {directives : List Directive}

/-- Suppressions filter what schemas have against a message, and nothing else. They are a filter of everything that
is returned exactly where no directive is about an undeclared content type or status. -/
theorem suppressions_filter_schemas (valid : Suppressions.ofDirectives directives = .ok suppressions)
    (built : (Specification.build passes { settings with suppressions := [] } documents).outcome = .ok plain) :
    ∃ filtered, (Specification.build passes { settings with suppressions := directives } documents).outcome =
        .ok filtered ∧
      ∀ (name : String) (context : Context) (message : Sent) (store : ValidatorStore),
        let answer := ((validate plain name context message).run store).1
        (validate filtered name context message).run store =
            (answer.map suppressions.spare, ((validate plain name context message).run store).2) ∧
          ∀ issues, answer = .ok issues →
            (suppressions.spare issues = suppressions.filter issues ↔
              ∀ issue ∈ issues, issue.code.isOfMessage = true → suppressions.suppresses issue = false) := by
  obtain ⟨builtFiltered, unfiltered⟩ := Specification.build_suppressing valid built
  refine ⟨{ plain with suppressions }, builtFiltered, ?_⟩
  intro name context message store answer
  refine ⟨?_, fun issues _ => suppressions.spare_eq_filter_iff issues⟩
  rw [validate_suppressing unfiltered, StateT.run_map]
  rfl

def countDocuments : DocumentSet :=
  let count : Value := .object [("type", .string "object"),
    ("properties", .object [("count", .object [("type", .string "integer")])])]
  let operation : Value := .object [("operationId", .string "count"),
    ("responses", .object [("200", .object [("description", .string "Counted."), ("schema", count)])])]
  { documents := [("/api.json", .object [("paths", .object [("/count", .object [("get", operation)])])])]
    roots := ["/api.json"] }

/-- A count that is no number, sent without a content type. -/
def countResponse : Sent := .response { statusCode := "200", body := some (.object [("count", .string "many")]) }

def countDirectives : List Directive :=
  [{ code := .invalidContentType, location := "/api.json" },
   { code := .invalidType, location := "#/paths/~1count/get/responses/200/schema/properties/count" }]

def countSuppressions : Suppressions :=
  ⟨countDirectives.map fun directive => { code := directive.code, location := directive.location, pattern := none }⟩

def countBuild (directives : List Directive) : Except BuildError Specification :=
  (Specification.build Pass.builtIn { suppressions := directives } countDocuments).outcome

def countSpecification (directives : List Directive) : Specification :=
  (countBuild directives).toOption.getD { draft := {}, suppressions := {}, skipTrivialParameters := true }

def countAnswer (specification : Specification) : Except Interruption (List Issue) :=
  ((validate specification "count" (.response "200") countResponse).run {}).1

theorem countDirectives_valid : Suppressions.ofDirectives countDirectives = .ok countSuppressions := rfl

theorem countBuild_eq_ok :
    countBuild [] = .ok (countSpecification []) ∧ countBuild countDirectives = .ok (countSpecification countDirectives) :=
  ⟨Except.eq_ok_getD _ (by decide +kernel), Except.eq_ok_getD _ (by decide +kernel)⟩

/-- Of a wrong count without a content type only the missing content type is told. -/
theorem suppressions_filter_schemas_count :
    Suppressions.ofDirectives countDirectives = .ok countSuppressions ∧ countBuild [] = .ok (countSpecification []) ∧
      (countAnswer (countSpecification [])).toOption.map (·.map (·.code)) = some [.invalidContentType, .invalidType] ∧
      ∃ filtered, countBuild countDirectives = .ok filtered ∧
        (countAnswer filtered).toOption.map (·.map (·.code)) = some [.invalidContentType] := by
  have plainBuilt : (Specification.build Pass.builtIn { ({} : Settings) with suppressions := [] } countDocuments).outcome =
      .ok (countSpecification []) := countBuild_eq_ok.1
  obtain ⟨filtered, built, filters⟩ := suppressions_filter_schemas countDirectives_valid plainBuilt
  refine ⟨countDirectives_valid, countBuild_eq_ok.1, by decide +kernel, filtered, built, ?_⟩
  unfold countAnswer
  rw [(filters "count" (.response "200") countResponse {}).1]
  decide +kernel

/-- The directive about the content type is valid and matches an issue that is returned in spite of it. -/
theorem suppressed_content_type_returned :
    Suppressions.ofDirectives countDirectives = .ok countSuppressions ∧ countBuild [] = .ok (countSpecification []) ∧
      countBuild countDirectives = .ok (countSpecification countDirectives) ∧
      ∃ issues kept, countAnswer (countSpecification []) = .ok issues ∧
        countAnswer (countSpecification countDirectives) = .ok kept ∧ kept ≠ countSuppressions.filter issues ∧
        ∃ issue ∈ kept, countSuppressions.suppresses issue = true := by
  refine ⟨countDirectives_valid, countBuild_eq_ok.1, countBuild_eq_ok.2, _, _,
    Except.eq_ok_getD [] (by decide +kernel), Except.eq_ok_getD [] (by decide +kernel), ?_, ?_⟩
  · decide +kernel
  · have returned : ((countAnswer (countSpecification countDirectives)).toOption.getD []).any
        countSuppressions.suppresses = true := by
      decide +kernel
    exact List.any_eq_true.mp returned

end ValidatorStore

end ApiContract
