import Mathlib.Data.List.Nodup
import ApiContract.Proofs.Contract.Suppression

/-!
Reports. Failures that read the same become one issue, and nothing else is lost or added (`issues_tell_findings`). A
filter by codes may as well be applied to the issues as to what they are made of (`filter_after_the_fact`).
-/

namespace ApiContract

section

variable {α : Type} [BEq α] [LawfulBEq α]

theorem List.eraseDups_concat_of_mem {items : List α} {item : α} (known : item ∈ items) :
    (items ++ [item]).eraseDups = items.eraseDups := by
  simp [List.eraseDups_append, List.removeAll, known]

theorem List.eraseDups_concat_of_notMem {items : List α} {item : α} (unknown : item ∉ items) :
    (items ++ [item]).eraseDups = items.eraseDups ++ [item] := by
  simp [List.eraseDups_append, List.removeAll, unknown, List.eraseDups_cons]

theorem List.nodup_eraseDups (items : List α) : items.eraseDups.Nodup := by
  induction items using List.reverseRecOn with
  | nil => simp
  | append_singleton items last ih =>
      by_cases known : last ∈ items
      · rwa [eraseDups_concat_of_mem known]
      · rw [eraseDups_concat_of_notMem known, ← List.concat_eq_append]
        exact ih.concat (by rwa [List.mem_eraseDups])

end

/-- What is reported as one issue: a code, a message and a source. -/
abbrev Mark := ErrorCode × String × SourceLocation

def Finding.mark (finding : Finding) : Mark := (finding.code, finding.message, finding.source)

/-- What is to be reported of failures: those that are not skipped, with the codes that are asked for. -/
def Failure.findings (context : Context) (failures : List Failure) : List Finding :=
  ((failures.filter fun failure => !failure.skip).map (Failure.finding context)).filter fun finding =>
    context.includes finding.code

theorem Failure.mem_findings {context : Context} {failures : List Failure} {finding : Finding} :
    finding ∈ findings context failures ↔ ∃ failure ∈ failures, failure.skip = false ∧
      context.includes (failure.finding context).code = true ∧ failure.finding context = finding := by
  simp only [findings, List.mem_filter, List.mem_map, Bool.not_eq_true']
  constructor
  · rintro ⟨⟨failure, ⟨member, reported⟩, rfl⟩, included⟩
    exact ⟨failure, member, reported, included, rfl⟩
  · rintro ⟨failure, member, reported, included, rfl⟩
    exact ⟨⟨failure, ⟨member, reported⟩, rfl⟩, included⟩

namespace Issue

def mark (issue : Issue) : Mark := (issue.code, issue.message, issue.source)

variable {issues : List Issue} {issue : Issue} {findings : List Finding} {finding : Finding}

theorem covers_iff : issue.covers finding = true ↔ issue.mark = finding.mark := by
  simp [covers, mark, Finding.mark, and_assoc]

theorem mark_addPath (issue : Issue) (path : String) : (issue.addPath path).mark = issue.mark := by
  unfold addPath
  split <;> rfl

theorem addPath_eq (issue : Issue) (path : String) :
    issue.addPath path = { issue with paths := (issue.addPath path).paths } := by
  unfold addPath
  split <;> rfl

theorem paths_addPath {paths : List String} (listed : issue.paths = paths.eraseDups) (path : String) :
    (issue.addPath path).paths = (paths ++ [path]).eraseDups := by
  unfold addPath
  rw [listed]
  by_cases known : path ∈ paths
  · rw [if_pos (by simpa using known), List.eraseDups_concat_of_mem known, listed]
  · rw [if_neg (by simpa using known), List.eraseDups_concat_of_notMem known]

theorem report_of_unknown (unknown : finding.mark ∉ issues.map mark) :
    report issues finding = issues ++ [ofFinding finding] := by
  induction issues with
  | nil => rfl
  | cons first rest ih =>
      rw [List.map_cons, List.mem_cons, not_or] at unknown
      have other : first.covers finding ≠ true := fun covers => unknown.1 (covers_iff.mp covers).symm
      rw [report, if_neg other, ih unknown.2, List.cons_append]

theorem report_of_known (distinct : (issues.map mark).Nodup) (known : finding.mark ∈ issues.map mark) :
    report issues finding =
      issues.map fun issue => if issue.covers finding then issue.addPath finding.path else issue := by
  induction issues with
  | nil => cases known
  | cons first rest ih =>
      obtain ⟨fresh, distinctRest⟩ := List.nodup_cons.mp distinct
      rw [report, List.map_cons]
      by_cases covers : first.covers finding = true
      · have others : ∀ issue ∈ rest,
            (if issue.covers finding then issue.addPath finding.path else issue) = issue := by
          intro issue member
          refine if_neg fun coversToo => fresh ?_
          rw [covers_iff.mp covers, ← covers_iff.mp coversToo]
          exact List.mem_map_of_mem member
        rw [if_pos covers, if_pos covers, List.map_congr_left others, List.map_id']
      · have later : finding.mark ∈ rest.map mark :=
          (List.mem_cons.mp known).resolve_left fun same => covers (covers_iff.mpr same.symm)
        rw [if_neg covers, if_neg covers, ih distinctRest later]

/-- The issues tell exactly what was found: each mark once, in the order of the first findings, with the different
paths of all findings that have it, and otherwise as the first of them says. -/
structure Tells (issues : List Issue) (findings : List Finding) : Prop where
  marks : issues.map mark = (findings.map Finding.mark).eraseDups
  paths : ∀ issue ∈ issues,
    issue.paths = ((findings.filter fun finding => finding.mark = issue.mark).map (·.path)).eraseDups
  first : ∀ issue ∈ issues, ∃ finding, findings.find? (fun finding => finding.mark = issue.mark) = some finding ∧
    issue = { ofFinding finding with paths := issue.paths }

namespace Tells

theorem nil : Tells [] [] where
  marks := rfl
  paths _ none := absurd none List.not_mem_nil
  first _ none := absurd none List.not_mem_nil

theorem distinct (tells : Tells issues findings) : (issues.map mark).Nodup := by
  rw [tells.marks]
  exact List.nodup_eraseDups _

theorem mem_iff (tells : Tells issues findings) (mark : Mark) :
    mark ∈ issues.map Issue.mark ↔ mark ∈ findings.map Finding.mark := by
  rw [tells.marks, List.mem_eraseDups]

theorem filter_concat (findings : List Finding) (finding : Finding) (mark : Mark) :
    (findings ++ [finding]).filter (fun finding => finding.mark = mark) =
      findings.filter (fun finding => finding.mark = mark) ++ if finding.mark = mark then [finding] else [] := by
  rw [List.filter_append, List.filter_singleton]
  simp

/-- A finding with a mark that was not there yet becomes the last issue. -/
theorem report_new (tells : Tells issues findings) (unknown : finding.mark ∉ issues.map mark) :
    Tells (report issues finding) (findings ++ [finding]) := by
  have fresh : finding.mark ∉ findings.map Finding.mark := fun old => unknown ((tells.mem_iff _).mpr old)
  have old : ∀ other ∈ findings, ¬decide (other.mark = finding.mark) = true := by
    intro other member same
    exact fresh (of_decide_eq_true same ▸ List.mem_map_of_mem member)
  rw [report_of_unknown unknown]
  refine ⟨?_, ?_, ?_⟩
  · rw [List.map_append, List.map_append, tells.marks]
    exact (List.eraseDups_concat_of_notMem fresh).symm
  · intro issue member
    rw [filter_concat]
    rcases List.mem_append.mp member with earlier | last
    · have other : finding.mark ≠ issue.mark := fun same => unknown (same ▸ List.mem_map_of_mem earlier)
      rw [if_neg other, List.append_nil]
      exact tells.paths issue earlier
    · obtain rfl := List.mem_singleton.mp last
      have none : findings.filter (fun other => other.mark = (ofFinding finding).mark) = [] :=
        List.filter_eq_nil_iff.mpr old
      have own : finding.mark = (ofFinding finding).mark := rfl
      rw [none, if_pos own]
      rfl
  · intro issue member
    rw [List.find?_append]
    rcases List.mem_append.mp member with earlier | last
    · obtain ⟨first, found, same⟩ := tells.first issue earlier
      exact ⟨first, by rw [found, Option.some_or], same⟩
    · obtain rfl := List.mem_singleton.mp last
      refine ⟨finding, ?_, rfl⟩
      have none : findings.find? (fun other => other.mark = (ofFinding finding).mark) = none :=
        List.find?_eq_none.mpr old
      rw [none, Option.none_or]
      exact List.find?_cons_of_pos (decide_eq_true rfl)

/-- A finding with a mark that was there before only adds its path to that issue. -/
theorem report_again (tells : Tells issues findings) (known : finding.mark ∈ issues.map mark) :
    Tells (report issues finding) (findings ++ [finding]) := by
  rw [report_of_known tells.distinct known]
  have sameMark (issue : Issue) :
      (if issue.covers finding then issue.addPath finding.path else issue).mark = issue.mark := by
    split
    · exact mark_addPath issue finding.path
    · rfl
  refine ⟨?_, ?_, ?_⟩
  · have marks : (issues.map fun issue => if issue.covers finding then issue.addPath finding.path else issue).map mark =
        issues.map mark := by
      rw [List.map_map]
      exact List.map_congr_left fun issue _ => sameMark issue
    rw [marks, tells.marks, List.map_append]
    exact (List.eraseDups_concat_of_mem ((tells.mem_iff _).mp known)).symm
  · intro issue member
    obtain ⟨old, among, rfl⟩ := List.mem_map.mp member
    have listed := tells.paths old among
    rw [sameMark, filter_concat]
    by_cases covers : old.covers finding = true
    · rw [if_pos covers, if_pos (covers_iff.mp covers).symm, List.map_append]
      exact paths_addPath listed finding.path
    · rw [if_neg covers, if_neg fun same => covers (covers_iff.mpr same.symm), List.append_nil]
      exact listed
  · intro issue member
    obtain ⟨old, among, rfl⟩ := List.mem_map.mp member
    obtain ⟨first, found, same⟩ := tells.first old among
    refine ⟨first, ?_, ?_⟩
    · rw [sameMark, List.find?_append, found, Option.some_or]
    · split
      · rw [addPath_eq, same]
      · exact same

theorem report (tells : Tells issues findings) (finding : Finding) :
    Tells (report issues finding) (findings ++ [finding]) := by
  by_cases known : finding.mark ∈ issues.map mark
  · exact tells.report_again known
  · exact tells.report_new known

end Tells

theorem tells_foldl (findings : List Finding) : Tells (findings.foldl report []) findings := by
  induction findings using List.reverseRecOn with
  | nil => exact .nil
  | append_singleton findings last ih =>
      rw [List.foldl_append]
      exact ih.report last

theorem ofFailures_tells (context : Context) (failures : List Failure) :
    Tells (ofFailures context failures) (Failure.findings context failures) :=
  tells_foldl _

/-- No failure is lost and none is added: issues have different marks, these are the marks of what is to be reported,
in the order of the first findings; the paths of an issue are the different paths of what has its mark, in the order in
which they were found; and all else in an issue is as its first finding says. -/
theorem issues_tell_findings (context : Context) (failures : List Failure) :
    let issues := ofFailures context failures
    let findings := Failure.findings context failures
    (issues.map mark).Nodup ∧
    (∀ mark, mark ∈ issues.map Issue.mark ↔ ∃ failure ∈ failures, failure.skip = false ∧
      context.includes (failure.finding context).code = true ∧ (failure.finding context).mark = mark) ∧
    (∀ issue ∈ issues, issue.paths.Nodup ∧
      issue.paths = ((findings.filter fun finding => finding.mark = issue.mark).map (·.path)).eraseDups) ∧
    issues.map mark = (findings.map Finding.mark).eraseDups ∧
    ∀ issue ∈ issues, ∃ first, findings.find? (fun finding => finding.mark = issue.mark) = some first ∧
      issue = { ofFinding first with paths := issue.paths } := by
  intro issues findings
  have tells := ofFailures_tells context failures
  refine ⟨tells.distinct, fun mark => ?_, fun issue member => ⟨?_, tells.paths issue member⟩, tells.marks, tells.first⟩
  · rw [tells.mem_iff, List.mem_map]
    constructor
    · rintro ⟨finding, member, rfl⟩
      obtain ⟨failure, among, reported, included, rfl⟩ := Failure.mem_findings.mp member
      exact ⟨failure, among, reported, included, rfl⟩
    · rintro ⟨failure, among, reported, included, rfl⟩
      exact ⟨_, Failure.mem_findings.mpr ⟨failure, among, reported, included, rfl⟩, rfl⟩
  · rw [tells.paths issue member]
    exact List.nodup_eraseDups _

end Issue

namespace Context

def unfiltered (context : Context) : Context := { context with includeErrors := none }

/-- The same context, with only these codes reported. -/
def only (context : Context) (codes : List ErrorCode) : Context := { context with includeErrors := some codes }

variable (context : Context) (codes : List ErrorCode) (code : ErrorCode)

@[simp] theorem includes_unfiltered : context.unfiltered.includes code = true := rfl

@[simp] theorem includes_only : (context.only codes).includes code = codes.contains code := rfl

end Context

namespace Issue

def among (codes : List ErrorCode) (issues : List Issue) : List Issue :=
  issues.filter fun issue => codes.contains issue.code

theorem code_addPath (issue : Issue) (path : String) : (issue.addPath path).code = issue.code :=
  congrArg Prod.fst (mark_addPath issue path)

theorem code_of_covers {issue : Issue} {finding : Finding} (covers : issue.covers finding = true) :
    issue.code = finding.code :=
  congrArg Prod.fst (covers_iff.mp covers)

theorem among_cons (codes : List ErrorCode) (issue : Issue) (rest : List Issue) :
    among codes (issue :: rest) = if codes.contains issue.code then issue :: among codes rest else among codes rest :=
  List.filter_cons

theorem among_ofCode (codes : List ErrorCode) (code : ErrorCode) (detail : Detail) (url : String) :
    among codes [ofCode code detail url] = if codes.contains code then [ofCode code detail url] else [] :=
  among_cons codes (ofCode code detail url) []

/-- Only the issue that covers a finding changes, and it has the code of the finding. -/
theorem among_report (codes : List ErrorCode) (issues : List Issue) (finding : Finding) :
    among codes (report issues finding) =
      if codes.contains finding.code then report (among codes issues) finding else among codes issues := by
  induction issues with
  | nil => exact among_cons codes (ofFinding finding) []
  | cons first rest ih =>
      rw [report, among_cons]
      by_cases covers : first.covers finding = true
      · rw [if_pos covers, among_cons, code_addPath, code_of_covers covers]
        by_cases listed : codes.contains finding.code = true
        · rw [if_pos listed, if_pos listed, if_pos listed, report, if_pos covers]
        · rw [if_neg listed, if_neg listed, if_neg listed]
      · rw [if_neg covers, among_cons, ih]
        by_cases known : codes.contains first.code = true
        · rw [if_pos known, if_pos known, report, if_neg covers]
          exact apply_ite (first :: ·) ..
        · rw [if_neg known, if_neg known]

theorem among_foldl_report (codes : List ErrorCode) (findings : List Finding) (issues : List Issue) :
    among codes (findings.foldl report issues) =
      (findings.filter fun finding => codes.contains finding.code).foldl report (among codes issues) := by
  induction findings generalizing issues with
  | nil => rfl
  | cons finding rest ih =>
      rw [List.foldl_cons, ih, among_report, List.filter_cons]
      split <;> rfl

/-- Codes depend on the direction and not on which codes are reported. -/
theorem ofFailures_only (context : Context) (codes : List ErrorCode) (failures : List Failure) :
    ofFailures (context.only codes) failures = among codes (ofFailures context.unfiltered failures) := by
  unfold ofFailures
  simp only [among_foldl_report, List.filter_filter, Context.includes_only, Context.includes_unfiltered,
    Bool.and_true]
  rfl

theorem suppress_among (suppressions : Suppressions) (codes : List ErrorCode) (issues : List Issue) :
    suppressions.filter (among codes issues) = among codes (suppressions.filter issues) :=
  List.filter_comm ..

end Issue

namespace Specification

variable (specification : Specification) (validator : MessageValidator) (context : Context) (codes : List ErrorCode)

theorem contentTypeIssues_only (contentType : String) :
    contentTypeIssues validator (context.only codes) contentType =
      Issue.among codes (contentTypeIssues validator context.unfiltered contentType) := by
  unfold contentTypeIssues
  rw [Context.includes_only, Context.includes_unfiltered]
  by_cases accepted : validator.mediaTypes.any (acceptsContentType · contentType) = true
  · rw [accepted]
    rfl
  · rw [Bool.eq_false_iff.mpr accepted, Bool.false_or]
    by_cases listed : codes.contains .invalidContentType = true
    · rw [listed]
      exact ((Issue.among_ofCode ..).trans (if_pos listed)).symm
    · rw [Bool.eq_false_iff.mpr listed]
      exact ((Issue.among_ofCode ..).trans (if_neg listed)).symm

theorem undeclaredStatus_only (operation : Operation) (status : String) :
    undeclaredStatus operation (context.only codes) status =
      Issue.among codes (undeclaredStatus operation context.unfiltered status) := by
  unfold undeclaredStatus
  rw [Context.includes_only, Context.includes_unfiltered, if_pos rfl]
  exact (Issue.among_ofCode ..).symm

/-- Whether an evaluation ends, and with what failures, does not depend on the codes. -/
theorem payloadIssues_only (payload : Json.Value) :
    specification.payloadIssues validator (context.only codes) payload =
      (specification.payloadIssues validator context.unfiltered payload).map (Issue.among codes) := by
  have reported : validator.validator.validate (context.only codes) payload =
      (validator.validator.validate context.unfiltered payload).map (Issue.among codes) := by
    unfold Validator.validate
    rw [Option.map_map]
    exact congrArg (Option.map · _) (funext fun failures => Issue.ofFailures_only context codes failures)
  unfold payloadIssues
  rw [reported]
  cases validator.validator.validate context.unfiltered payload with
  | none => rfl
  | some issues => exact congrArg Except.ok (Issue.suppress_among specification.suppressions codes issues)

theorem requestIssues_only (request : Exchange.Request) :
    specification.requestIssues validator (context.only codes) request =
      (specification.requestIssues validator context.unfiltered request).map (Issue.among codes) := by
  unfold requestIssues
  rw [payloadIssues_only]
  cases Exchange.contentType? request.headers with
  | none => exact filter_after _ [] _
  | some contentType =>
      dsimp only
      rw [contentTypeIssues_only]
      exact filter_after _ _ _

theorem responseIssues_only (response : Exchange.Response) :
    specification.responseIssues validator (context.only codes) response =
      (specification.responseIssues validator context.unfiltered response).map (Issue.among codes) := by
  unfold responseIssues
  rw [payloadIssues_only]
  by_cases body : validator.hasBodySchema = true
  · simp only [if_pos body]
    rw [contentTypeIssues_only]
    exact filter_after _ _ _
  · simp only [if_neg body]
    exact filter_after _ [] _

end Specification

namespace ValidatorStore

variable (specification : Specification) (name : String) (context : Context) (codes : List ErrorCode)

theorem validateRequest_only (request : Exchange.Request) :
    validateRequest specification name request (context.only codes) =
      Except.map (Issue.among codes) <$> validateRequest specification name request context.unfiltered := by
  unfold validateRequest
  rw [map_bind]
  refine bind_congr fun answer => ?_
  cases answer with
  | error reason => rfl
  | ok validator => exact congrArg pure (Specification.requestIssues_only specification validator context codes request)

/-- The context of a response is made anew, and keeps of the given one which codes are reported. -/
theorem validateResponse_only (response : Exchange.Response) :
    validateResponse specification name response (context.only codes) =
      Except.map (Issue.among codes) <$> validateResponse specification name response context.unfiltered := by
  let fresh : Context := .response response.statusCode
  change validateResponse specification name response (fresh.only codes) =
    Except.map (Issue.among codes) <$> validateResponse specification name response fresh.unfiltered
  unfold validateResponse
  cases specification.operation? name with
  | none => rfl
  | some operation =>
      dsimp only
      split
      · refine congrArg (fun issues => pure (Except.ok issues)) ?_
        exact Specification.undeclaredStatus_only fresh codes operation response.statusCode
      · rw [map_bind]
        refine bind_congr fun answer => ?_
        cases answer with
        | error reason => rfl
        | ok validator =>
            exact congrArg pure (Specification.responseIssues_only specification validator fresh codes response)

/-- To ask for some codes only is to leave out the issues with other codes afterwards: what is returned is the same
in all else, and so are the validators that were made for it. -/
theorem filter_after_the_fact (message : Sent) (store : ValidatorStore) :
    (validate specification name (context.only codes) message).run store =
      let unfiltered := (validate specification name context.unfiltered message).run store
      (unfiltered.1.map fun issues => issues.filter fun issue => codes.contains issue.code, unfiltered.2) := by
  have filtered : validate specification name (context.only codes) message =
      Except.map (Issue.among codes) <$> validate specification name context.unfiltered message := by
    cases message with
    | request request => exact validateRequest_only specification name context codes request
    | response response => exact validateResponse_only specification name context codes response
  rw [filtered, StateT.run_map]
  rfl

end ValidatorStore

end ApiContract
