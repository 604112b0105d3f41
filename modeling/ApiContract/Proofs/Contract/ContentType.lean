import Mathlib.Data.List.Forall2
import ApiContract.Proofs.Contract.ResponseBody
import ApiContract.Proofs.Contract.Termination
import ApiContract.Proofs.Text
import ApiContract.Proofs.Unicode.Case

/-!
Content types of messages. One is told if no declared media type admits it (`content_type_told`). A declared media type
with parameters admits every part of its name; where none does more than admit its own, declared media types and
content types are compared without parameters and the spaces around them.

Messages that differ in the spelling of header names alone have the same issues (`validate_respelled`): parameters are
found by names in lower case, and the name of the content type has no letter that a character beyond ASCII becomes.
-/

namespace ApiContract

open Json (Value)

namespace Specification

/-- A media type without its parameters and the spaces around it. -/
def mediaType (text : String) : String :=
  Unicode.trim (String.ofList (text.toList.takeWhile (· ≠ ';')))

/-- What a declared media type lets through: itself, and if it has parameters every part of what stands before them. -/
def Admits (declared contentType : String) : Prop :=
  declared = contentType ∨ ';' ∈ declared.toList ∧ contentType.toList <:+: declared.toList.takeWhile (· ≠ ';')

/-- A declared media type has no spaces around it, and no name of which the content type is only a part. -/
structure Precise (declared contentType : String) : Prop where
  trimmed : ';' ∉ declared.toList → Unicode.trim declared = declared
  whole : ';' ∈ declared.toList → contentType.toList <:+: declared.toList.takeWhile (· ≠ ';') →
    mediaType declared = contentType

variable {declared contentType text : String}

theorem mediaType_isInfix (text : String) : (mediaType text).toList <:+: text.toList.takeWhile (· ≠ ';') := by
  have part := Unicode.trim_isInfix (String.ofList (text.toList.takeWhile (· ≠ ';')))
  rwa [String.toList_ofList] at part

theorem mediaType_plain (text : String) : ';' ∉ (mediaType text).toList := by
  intro member
  simpa using List.mem_takeWhile_imp ((mediaType_isInfix text).subset member)

theorem takeWhile_of_notMem (free : ';' ∉ text.toList) (rest : List Char) :
    (text.toList ++ rest).takeWhile (· ≠ ';') = text.toList ++ rest.takeWhile (· ≠ ';') := by
  refine List.takeWhile_append_of_pos fun c member => ?_
  simpa using fun same : c = ';' => free (same ▸ member)

theorem mediaType_of_notMem (free : ';' ∉ text.toList) : mediaType text = Unicode.trim text := by
  have all := takeWhile_of_notMem free []
  rw [List.append_nil, List.takeWhile_nil, List.append_nil] at all
  rw [mediaType, all, String.ofList_toList]

theorem mediaType_parameters (free : ';' ∉ text.toList) (parameters : String) :
    mediaType (text ++ ";" ++ parameters) = Unicode.trim text := by
  have cut : (text ++ ";" ++ parameters).toList.takeWhile (· ≠ ';') = text.toList := by
    have mark : ";".toList = [';'] := by decide
    rw [String.toList_append, String.toList_append, mark, List.append_assoc, takeWhile_of_notMem free]
    simp
  rw [mediaType, cut, String.ofList_toList]

theorem acceptsContentType_iff : acceptsContentType declared contentType ↔ Admits declared contentType := by
  rw [acceptsContentType, Text.headD_split, Admits, Bool.or_eq_true, Bool.and_eq_true, Text.contains_iff_isInfix]
  simp

/-- A precise media type admits what is the same without parameters. -/
theorem Precise.admits_iff (precise : Precise declared (mediaType text)) :
    Admits declared (mediaType text) ↔ mediaType declared = mediaType text := by
  by_cases parameters : ';' ∈ declared.toList
  · constructor
    · rintro (same | ⟨_, part⟩)
      · exact absurd (same ▸ parameters) (mediaType_plain text)
      · exact precise.whole parameters part
    · intro same
      exact .inr ⟨parameters, same ▸ mediaType_isInfix declared⟩
  · have own : mediaType declared = declared := (mediaType_of_notMem parameters).trans (precise.trimmed parameters)
    rw [own]
    exact or_iff_left fun both => parameters both.1

/-- The content type that is sent is that of the first header of its name, and no empty one. -/
theorem contentType?_eq (headers : Assoc Value) : Exchange.contentType? headers =
    (((List.find? (fun entry => Exchange.isContentType entry.1) headers).bind fun entry => entry.2.asString?).map
      mediaType).filter (· ≠ "") := by
  unfold Exchange.contentType?
  cases List.find? (fun entry => Exchange.isContentType entry.1) headers with
  | none => rfl
  | some header =>
      cases sent : header.2.asString? with
      | none => simp [sent]
      | some text =>
          simp only [Option.bind_eq_bind, Option.bind_some, sent, Text.headD_split, Option.map_some, Option.filter_some,
            decide_not, mediaType]
          split
          next empty => simp [empty]
          next other => simp [other]

theorem mediaType_of_visible (free : ';' ∉ text.toList) (visible : Unicode.isVisible text = true) :
    mediaType text = text :=
  (mediaType_of_notMem free).trans (Unicode.trim_of_visible visible)

theorem mediaType_defaultContentType : mediaType defaultContentType = defaultContentType :=
  mediaType_of_visible (by decide +kernel) (by decide +kernel)

variable {specification : Specification} {message : MessageValidator} {context : Context}

theorem contentTypeIssues_told (unfiltered : context.includeErrors = none) (contentType : String) :
    (∃ issue ∈ contentTypeIssues message context contentType, issue.code = .invalidContentType) ↔
      ∀ declared ∈ message.mediaTypes, ¬Admits declared contentType := by
  have included : context.includes .invalidContentType = true := by rw [Context.includes, unfiltered]
  have admitted : message.mediaTypes.any (acceptsContentType · contentType) = true ↔
      ∃ declared ∈ message.mediaTypes, Admits declared contentType := by
    simp only [List.any_eq_true, acceptsContentType_iff]
  unfold contentTypeIssues
  rw [included, Bool.not_true, Bool.or_false]
  split
  next accepted =>
    obtain ⟨declared, member, admits⟩ := admitted.mp accepted
    exact iff_of_false (by simp) fun refused => refused declared member admits
  next refused =>
    refine iff_of_true ⟨_, List.mem_singleton_self _, rfl⟩ fun declared member admits => ?_
    exact refused (admitted.mpr ⟨declared, member, admits⟩)

theorem payloadIssues_untold {payload : Value} {issues : List Issue}
    (answered : specification.payloadIssues message context payload = .ok issues) :
    ∀ issue ∈ issues, issue.code ≠ .invalidContentType := by
  unfold payloadIssues at answered
  split at answered
  next found validated =>
    cases answered
    intro issue member code
    have ofSchema := Validator.validate_isOfMessage validated (List.mem_filter.mp member).1
    rw [code] at ofSchema
    cases ofSchema
  next => cases answered

/-- The content type that a message answers for is told before its payload, if it has one. -/
def typeIssues (message : MessageValidator) (context : Context) (contentType : Option String) : List Issue :=
  contentType.elim [] (contentTypeIssues message context)

theorem requestIssues_eq (request : Exchange.Request) : specification.requestIssues message context request =
    (specification.payloadIssues message context (message.requestPayload request)).map
      (typeIssues message context (Exchange.contentType? request.headers) ++ ·) := by
  unfold requestIssues typeIssues
  cases Exchange.contentType? request.headers <;>
    cases specification.payloadIssues message context (message.requestPayload request) <;> rfl

theorem responseIssues_typed (response : Exchange.Response) : specification.responseIssues message context response =
    (specification.payloadIssues message context (message.responsePayload response)).map
      (typeIssues message context (if message.hasBodySchema then
        some ((Exchange.contentType? response.headers).getD defaultContentType) else none) ++ ·) := by
  unfold responseIssues typeIssues
  cases message.hasBodySchema <;>
    cases specification.payloadIssues message context (message.responsePayload response) <;> rfl

theorem issues_told (unfiltered : context.includeErrors = none) {contentType : Option String} {payload : Value}
    {issues : List Issue} (answered : (specification.payloadIssues message context payload).map
      (typeIssues message context contentType ++ ·) = .ok issues) :
    (∃ issue ∈ issues, issue.code = .invalidContentType) ↔
      ∃ sent ∈ contentType, ∀ declared ∈ message.mediaTypes, ¬Admits declared sent := by
  cases told : specification.payloadIssues message context payload with
  | error reason =>
      rw [told] at answered
      cases answered
  | ok found =>
      rw [told] at answered
      cases answered
      have others := payloadIssues_untold told
      have first : (∃ issue ∈ typeIssues message context contentType ++ found, issue.code = .invalidContentType) ↔
          ∃ issue ∈ typeIssues message context contentType, issue.code = .invalidContentType := by
        constructor
        · rintro ⟨issue, member, code⟩
          rcases List.mem_append.mp member with early | late
          · exact ⟨issue, early, code⟩
          · exact absurd code (others issue late)
        · rintro ⟨issue, member, code⟩
          exact ⟨issue, List.mem_append_left _ member, code⟩
      rw [first]
      cases contentType with
      | none => simp [typeIssues]
      | some sent =>
          refine (contentTypeIssues_told unfiltered sent).trans ?_
          simp

end Specification

/-! ## Assembled validators -/

namespace Assembly

variable {catalog : Schema.Catalog} {before after : Validator.Arena} {assembly next : Assembly} {slot : Nat}

theorem addCoercion_hasBodySchema (assembly : Assembly) (slot name : String) (coercion : Option Coercion) :
    (assembly.addCoercion slot name coercion).hasBodySchema = assembly.hasBodySchema := by
  cases coercion <;> rfl

theorem addResponseHeader_hasBodySchema {header : String × Schema.Edge}
    (ran : (addResponseHeader catalog slot assembly header).run before = .ok (next, after)) :
    next.hasBodySchema = assembly.hasBodySchema := by
  obtain ⟨_, _, _, rest⟩ := (StateT.run_bind_eq_ok _ _ _ _).mp ran
  obtain ⟨_, _, _, answered⟩ := (StateT.run_bind_eq_ok _ _ _ _).mp rest
  cases answered
  exact addCoercion_hasBodySchema ..

theorem addResponseBody_hasBodySchema {root : Nat} {schema : Option Schema.Edge}
    (ran : (addResponseBody catalog root {} schema).run before = .ok (next, after)) :
    next.hasBodySchema = schema.isSome := by
  cases schema with
  | none =>
      cases ran
      rfl
  | some edge =>
      obtain ⟨_, _, _, rest⟩ := (StateT.run_bind_eq_ok _ _ _ _).mp ran
      obtain ⟨_, _, _, answered⟩ := (StateT.run_bind_eq_ok _ _ _ _).mp rest
      cases answered
      rfl

theorem addResponse_hasBodySchema {response : Response} {source : SourceLocation} {root : Nat}
    (ran : (addResponse catalog response source root).run before = .ok (next, after)) :
    next.hasBodySchema = response.schema.isSome := by
  obtain ⟨withBody, middle, body, rest⟩ := (StateT.run_bind_eq_ok _ _ _ _).mp ran
  have own := addResponseBody_hasBodySchema body
  split at rest
  · cases rest
    exact own
  · obtain ⟨_, _, _, rest⟩ := (StateT.run_bind_eq_ok _ _ _ _).mp rest
    obtain ⟨_, _, _, headers⟩ := (StateT.run_bind_eq_ok _ _ _ _).mp rest
    exact foldlM_keeps (fun _ assembly => assembly.hasBodySchema = response.schema.isSome)
      (fun _ _ _ _ _ _ same ran => (addResponseHeader_hasBodySchema ran).trans same) own headers

end Assembly

namespace Specification

namespace Found

/-- The media types that are declared for what was found. -/
def mediaTypes : Found → List String
  | .request operation => operation.consumes
  | .response operation _ => operation.produces

/-- A response that is declared with a schema of its body. -/
def hasBodySchema : Found → Bool
  | .request _ => false
  | .response _ declared => declared.schema.isSome

end Found

variable {specification : Specification} {found : Found} {message : MessageValidator}

theorem assemble_mediaTypes (assembled : specification.assemble found = .ok message) :
    message.mediaTypes = found.mediaTypes := by
  cases found with
  | request operation =>
      obtain ⟨_, _, _, rfl⟩ := MessageValidator.ofOperation_eq_ok assembled
      rfl
  | response operation declared =>
      obtain ⟨_, _, _, rfl⟩ := MessageValidator.ofResponse_eq_ok assembled
      rfl

theorem assemble_hasBodySchema {operation : Operation} {declared : Response}
    (assembled : specification.assemble (.response operation declared) = .ok message) :
    message.hasBodySchema = declared.schema.isSome := by
  obtain ⟨_, _, ran, rfl⟩ := MessageValidator.ofResponse_eq_ok assembled
  exact Assembly.addResponse_hasBodySchema ran

end Specification

/-! ## What is told of a message -/

namespace ValidatorStore

open Specification (Found Query Admits Precise mediaType)

namespace Sent

def query (name : String) : Sent → Query
  | .request _ => .request name
  | .response answer => .response name answer.statusCode

/-- The content type that a message answers for: that of a request if there is one, and that of a response which may
have a body. -/
def contentType? (found : Found) : Sent → Option String
  | .request asked => Exchange.contentType? asked.headers
  | .response answer =>
      if found.hasBodySchema then
        some ((Exchange.contentType? answer.headers).getD Specification.defaultContentType)
      else none

theorem contentType?_stripped {found : Found} {sent : Sent} {contentType : String}
    (answers : sent.contentType? found = some contentType) : ∃ text, contentType = mediaType text := by
  have stripped {headers : Assoc Value} {contentType : String}
      (given : Exchange.contentType? headers = some contentType) : ∃ text, contentType = mediaType text := by
    rw [Specification.contentType?_eq, Option.filter_eq_some_iff, Option.map_eq_some_iff] at given
    obtain ⟨⟨text, _, rfl⟩, _⟩ := given
    exact ⟨text, rfl⟩
  cases sent with
  | request asked => exact stripped answers
  | response answer =>
      simp only [contentType?] at answers
      split at answers
      · cases answers
        cases given : Exchange.contentType? answer.headers with
        | none => exact ⟨_, Specification.mediaType_defaultContentType.symm⟩
        | some contentType => exact stripped given
      · cases answers

end Sent

variable {specification : Specification} {name : String} {sent : Sent} {found : Found} {message : MessageValidator}
  {store : ValidatorStore} {context : Context}

theorem validateRequest_eq (request : Exchange.Request) (context : Context)
    (served : ((fetch specification (.request name)).run store).1 = .ok message) :
    ((validateRequest specification name request context).run store).1 =
      specification.requestIssues message context request := by
  unfold validateRequest
  rw [StateT.run_bind]
  cases fetched : (fetch specification (.request name)).run store with
  | mk answer after =>
      rw [fetched] at served
      obtain rfl : answer = .ok message := served
      rfl

/-- The issues of a message are those of its content type and then those of its payload. -/
theorem validate_typed (finds : specification.find (sent.query name) = .ok found)
    (assembled : specification.assemble found = .ok message)
    (served : ((fetch specification (sent.query name)).run store).1 = .ok message) (context : Context) :
    ∃ fresh payload, fresh.includeErrors = context.includeErrors ∧
      ((validate specification name context sent).run store).1 =
        (specification.payloadIssues message fresh payload).map
          (Specification.typeIssues message fresh (sent.contentType? found) ++ ·) := by
  cases sent with
  | request request =>
      refine ⟨context, message.requestPayload request, rfl, ?_⟩
      exact (validateRequest_eq request context served).trans (Specification.requestIssues_eq request)
  | response response =>
      obtain ⟨operation, declared, named, listed, rfl⟩ : ∃ operation declared,
          specification.operation? name = some operation ∧
          operation.response? response.statusCode = some declared ∧ found = .response operation declared := by
        change specification.find (.response name response.statusCode) = _ at finds
        unfold Specification.find at finds
        cases named : specification.operation? name with
        | none => simp [named] at finds
        | some operation =>
            cases listed : operation.response? response.statusCode with
            | none => simp [named, listed] at finds
            | some declared =>
                simp only [named, listed, Except.ok.injEq] at finds
                exact ⟨operation, declared, rfl, listed, finds.symm⟩
      refine ⟨
        { direction := .response, statusCode := some response.statusCode, includeErrors := context.includeErrors },
        message.responsePayload response, rfl, ?_⟩
      refine (validateResponse_eq context named listed served).trans ?_
      rw [Specification.responseIssues_typed, Specification.assemble_hasBodySchema assembled]
      rfl

theorem type_told (finds : specification.find (sent.query name) = .ok found)
    (assembled : specification.assemble found = .ok message)
    (served : ((fetch specification (sent.query name)).run store).1 = .ok message)
    (unfiltered : context.includeErrors = none) {issues : List Issue}
    (answered : ((validate specification name context sent).run store).1 = .ok issues) :
    (∃ issue ∈ issues, issue.code = .invalidContentType) ↔
      ∃ contentType ∈ sent.contentType? found, ∀ declared ∈ found.mediaTypes, ¬Admits declared contentType := by
  obtain ⟨fresh, payload, same, typed⟩ := validate_typed finds assembled served context
  rw [← Specification.assemble_mediaTypes assembled]
  exact Specification.issues_told (same.trans unfiltered) (typed.symm.trans answered)

theorem validate_answered (finds : specification.find (sent.query name) = .ok found)
    (assembled : specification.assemble found = .ok message)
    (served : ((fetch specification (sent.query name)).run store).1 = .ok message)
    (acyclic : IsAcyclic specification.draft.graph.Composes) (context : Context) :
    ∃ issues, ((validate specification name context sent).run store).1 = .ok issues := by
  obtain ⟨fresh, payload, _, typed⟩ := validate_typed finds assembled served context
  obtain ⟨failures, evaluated⟩ := Specification.messages_answered acyclic assembled fresh.direction payload
  rw [typed, Specification.payloadIssues, Validator.validate, evaluated]
  exact ⟨_, rfl⟩

/-- The content type of a message is told if no declared media type admits it. Where each is precise about it, these are
the content types that differ from all declared ones, parameters and spaces aside. -/
theorem content_type_told (finds : specification.find (sent.query name) = .ok found)
    (assembled : specification.assemble found = .ok message)
    (served : ((fetch specification (sent.query name)).run store).1 = .ok message)
    (unfiltered : context.includeErrors = none) :
    let answer := ((validate specification name context sent).run store).1
    (IsAcyclic specification.draft.graph.Composes → ∃ issues, answer = .ok issues) ∧
    ∀ issues, answer = .ok issues →
      ((∃ issue ∈ issues, issue.code = .invalidContentType) ↔
        ∃ contentType ∈ sent.contentType? found, ∀ declared ∈ found.mediaTypes, ¬Admits declared contentType) ∧
      ∀ contentType ∈ sent.contentType? found, (∀ declared ∈ found.mediaTypes, Precise declared contentType) →
        ((∃ issue ∈ issues, issue.code = .invalidContentType) ↔
          ∀ declared ∈ found.mediaTypes, mediaType declared ≠ contentType) := by
  intro answer
  refine ⟨fun acyclic => validate_answered finds assembled served acyclic context, fun issues answered => ?_⟩
  have told := type_told finds assembled served unfiltered answered
  refine ⟨told, fun contentType answers precise => ?_⟩
  obtain ⟨text, rfl⟩ := Sent.contentType?_stripped answers
  rw [told]
  constructor
  · rintro ⟨other, sameAnswer, refused⟩ declared member same
    obtain rfl : other = mediaType text := Option.some.inj (sameAnswer.symm.trans answers)
    exact refused declared member ((precise declared member).admits_iff.mpr same)
  · intro different
    refine ⟨mediaType text, answers, fun declared member admits => ?_⟩
    exact different declared member ((precise declared member).admits_iff.mp admits)

/-- An operation that takes one media type, with a parameter. -/
def mailDocuments : DocumentSet :=
  let operation : Value := .object [("operationId", .string "send"),
    ("consumes", .array [.string "application/json;odata=minimalmetadata"]),
    ("responses", .object [("200", .object [("description", .string "Sent.")])])]
  { documents := [("/api.json", .object [("paths", .object [("/mail", .object [("post", operation)])])])]
    roots := ["/api.json"] }

def mailBuild : Except BuildError Specification := (Specification.build Pass.builtIn {} mailDocuments).outcome

/-- The specification of mail, or one of nothing. -/
def mail : Specification :=
  mailBuild.toOption.getD { draft := {}, suppressions := {}, skipTrivialParameters := true }

def parts (specification : Specification) (query : Query) : Option (Found × MessageValidator) := do
  let found ← (specification.find query).toOption
  let message ← (specification.assemble found).toOption
  return (found, message)

theorem parts_eq_some {query : Query} (listed : parts specification query = some (found, message)) :
    specification.find query = .ok found ∧ specification.assemble found = .ok message ∧
      ((fetch specification query).run {}).1 = .ok message := by
  obtain ⟨_, finds, rest⟩ := Option.bind_eq_some_iff.mp listed
  obtain ⟨_, assembled, same⟩ := Option.bind_eq_some_iff.mp rest
  cases same
  have sought := Except.eq_ok_of_toOption finds
  have built := Except.eq_ok_of_toOption assembled
  exact ⟨sought, built, (fetch_empty sought).trans built⟩

def letter (contentType : String) : Sent := .request { headers := [("content-type", .string contentType)] }

def letterAnswer (contentType : String) : Except Interruption (List Issue) :=
  ((validate mail "send" { direction := .request } (letter contentType)).run {}).1

theorem mail_read : mailBuild.toOption.isSome = true ∧ mail.draft.graph.size = 0 ∧
    (parts mail (.request "send")).isSome = true ∧
    ∀ pair ∈ parts mail (.request "send"), pair.1.mediaTypes = ["application/json;odata=minimalmetadata"] := by
  decide +kernel

theorem mail_acyclic : IsAcyclic mail.draft.graph.Composes := by
  refine .of_descending (fun _ => 0) ?_
  rintro id _ ⟨edge, member, rfl⟩
  rw [Schema.Graph.node_of_size_le (by rw [mail_read.2.1]; exact Nat.zero_le id)] at member
  cases member

theorem letter_contentType? {contentType : String} (free : ';' ∉ contentType.toList)
    (visible : Unicode.isVisible contentType = true) (found : Found) (other : contentType ≠ "") :
    (letter contentType).contentType? found = some contentType := by
  change Exchange.contentType? [("content-type", .string contentType)] = _
  have named : Exchange.isContentType "content-type" = true := by decide +kernel
  rw [Specification.contentType?_eq, List.find?_cons, named]
  change (some (mediaType contentType)).filter _ = _
  rw [Specification.mediaType_of_visible free visible, Option.filter_some]
  simp [other]

/-- Plain text is not what mail takes. -/
theorem content_type_told_letter : mailBuild = .ok mail ∧ ∃ issues, letterAnswer "text/plain" = .ok issues ∧
    ∃ issue ∈ issues, issue.code = .invalidContentType := by
  obtain ⟨built, _, present, takes⟩ := mail_read
  obtain ⟨⟨found, message⟩, listed⟩ := Option.isSome_iff_exists.mp present
  obtain ⟨finds, assembled, served⟩ := parts_eq_some listed
  have told := @content_type_told mail "send" (letter "text/plain") found message {} { direction := .request } finds
    assembled served rfl
  obtain ⟨issues, answered⟩ := told.1 mail_acyclic
  refine ⟨Except.eq_ok_getD _ built, issues, answered, (told.2 issues answered).1.mpr ⟨"text/plain", ?_, ?_⟩⟩
  · exact letter_contentType? (by decide +kernel) (by decide +kernel) found (by decide)
  · rw [takes _ listed]
    simp only [List.mem_singleton, forall_eq, Admits]
    decide +kernel

/-- A part of the name is let through. -/
theorem part_of_content_type_untold : mailBuild = .ok mail ∧ ∃ found issues, mail.find (.request "send") = .ok found ∧
    (letter "json").contentType? found = some "json" ∧ (∀ declared ∈ found.mediaTypes, mediaType declared ≠ "json") ∧
    letterAnswer "json" = .ok issues ∧ ∀ issue ∈ issues, issue.code ≠ .invalidContentType := by
  obtain ⟨built, _, present, takes⟩ := mail_read
  obtain ⟨⟨found, message⟩, listed⟩ := Option.isSome_iff_exists.mp present
  obtain ⟨finds, assembled, served⟩ := parts_eq_some listed
  have sent : (letter "json").contentType? found = some "json" :=
    letter_contentType? (by decide +kernel) (by decide +kernel) found (by decide)
  obtain ⟨issues, answered⟩ := @validate_answered mail "send" (letter "json") found message {} finds assembled served
    mail_acyclic { direction := .request }
  have told := @type_told mail "send" (letter "json") found message {} { direction := .request } finds assembled served
    rfl issues answered
  refine ⟨Except.eq_ok_getD _ built, found, issues, finds, sent, ?_, answered, fun issue member code => ?_⟩
  · have spelled : "application/json;odata=minimalmetadata" = "application/json" ++ ";" ++ "odata=minimalmetadata" := by
      decide
    rw [takes _ listed]
    simp only [List.mem_singleton, forall_eq]
    rw [spelled, Specification.mediaType_parameters (by decide +kernel), Unicode.trim_of_visible (by decide +kernel)]
    decide
  · obtain ⟨contentType, answers, refused⟩ := told.mp ⟨issue, member, code⟩
    obtain rfl : contentType = "json" := Option.some.inj (answers.symm.trans sent)
    refine refused _ (takes _ listed ▸ List.mem_singleton_self _) (.inr ?_)
    decide +kernel

end ValidatorStore

/-- Headers whose names differ in case at most, each with the same value. -/
def SpelledAlike (first second : Assoc Value) : Prop :=
  List.Forall₂ (fun header other => Unicode.lower header.1 = Unicode.lower other.1 ∧ header.2 = other.2) first second

variable {first second : Assoc Value}

theorem lowerKeys_respelled (alike : SpelledAlike first second) : lowerKeys first = lowerKeys second := by
  have same : first.map (fun entry => (Unicode.lower entry.1, entry.2)) =
      second.map fun entry => (Unicode.lower entry.1, entry.2) := by
    induction alike with
    | nil => rfl
    | cons head _ ih =>
        obtain ⟨name, value⟩ := head
        rw [List.map_cons, List.map_cons, name, value, ih]
  rw [lowerKeys, lowerKeys, same]

namespace Exchange

theorem isContentType_iff (name : String) : isContentType name = true ↔ Unicode.lower name = "content-type" := by
  have plain : "content-type".toList.all (fun d => decide (d.toNat < 128 ∧ d ≠ 'i' ∧ d ≠ 'k')) = true := by decide
  simp only [List.all_eq_true, decide_eq_true_eq] at plain
  have folded : Unicode.lowerFrom [] name.toList = "content-type".toList ↔ _ := Unicode.lowerFrom_eq_iff plain
  rw [isContentType, beq_iff_eq, ← folded, Unicode.lower]
  constructor
  · intro same
    rw [same, String.ofList_toList]
  · intro same
    rw [← same, String.toList_ofList]

theorem contentType?_respelled (alike : SpelledAlike first second) : contentType? first = contentType? second := by
  have found : (List.find? (fun entry => isContentType entry.1) first).map Prod.snd =
      (List.find? (fun entry => isContentType entry.1) second).map Prod.snd := by
    induction alike with
    | nil => rfl
    | @cons header other _ _ head _ ih =>
        obtain ⟨name, value⟩ := head
        have both : isContentType header.1 = isContentType other.1 := by
          rw [Bool.eq_iff_iff, isContentType_iff, isContentType_iff, name]
        rw [List.find?_cons, List.find?_cons, ← both]
        cases isContentType header.1 with
        | true => exact congrArg some value
        | false => exact ih
  have read (headers : Assoc Value) :
      ((List.find? (fun entry => isContentType entry.1) headers).bind fun entry => entry.2.asString?) =
        ((List.find? (fun entry => isContentType entry.1) headers).map Prod.snd).bind Value.asString? := by
    rw [Option.bind_map]
    rfl
  rw [Specification.contentType?_eq, Specification.contentType?_eq, read, read, found]

end Exchange

namespace ValidatorStore

/-- A message that differs from another in the spelling of header names alone. -/
inductive Sent.Respelled : Sent → Sent → Prop where
  | request (asked : Exchange.Request) {headers others : Assoc Value} (alike : SpelledAlike headers others) :
      Respelled (.request { asked with headers }) (.request { asked with headers := others })
  | response (answer : Exchange.Response) {headers others : Assoc Value} (alike : SpelledAlike headers others) :
      Respelled (.response { answer with headers }) (.response { answer with headers := others })

variable {message other : Sent}

/-- Header names are compared without regard to case: the issues and the store do not depend on their spelling. -/
theorem validate_respelled (respelled : message.Respelled other) (specification : Specification) (name : String)
    (context : Context) :
    validate specification name context message = validate specification name context other := by
  cases respelled with
  | @request asked headers others alike =>
      have told (message : MessageValidator) :
          specification.requestIssues message context { asked with headers } =
            specification.requestIssues message context { asked with headers := others } := by
        rw [Specification.requestIssues_eq, Specification.requestIssues_eq, Exchange.contentType?_respelled alike,
          MessageValidator.requestPayload, MessageValidator.requestPayload, lowerKeys_respelled alike]
      simp only [validate, validateRequest, told]
  | @response answer headers others alike =>
      have told (message : MessageValidator) (context : Context) :
          specification.responseIssues message context { answer with headers } =
            specification.responseIssues message context { answer with headers := others } := by
        rw [Specification.responseIssues_typed, Specification.responseIssues_typed,
          Exchange.contentType?_respelled alike, MessageValidator.responsePayload, MessageValidator.responsePayload,
          lowerKeys_respelled alike]
      simp only [validate, validateResponse, told]

def bookDocuments : DocumentSet :=
  let keep : Value := .object [("name", .string "X-Keep"), ("in", .string "header"), ("type", .string "boolean")]
  let operation : Value := .object [("operationId", .string "book"), ("parameters", .array [keep]),
    ("responses", .object [("200", .object [("description", .string "Booked.")])])]
  { documents := [("/api.json", .object [("paths", .object [("/books", .object [("post", operation)])])])]
    roots := ["/api.json"] }

def bookBuild : Except BuildError Specification := (Specification.build Pass.builtIn {} bookDocuments).outcome

/-- The specification of books, or one of nothing. -/
def book : Specification :=
  bookBuild.toOption.getD { draft := {}, suppressions := {}, skipTrivialParameters := true }

def keeping (name again : String) : Sent := .request { headers := [(name, .string "true"), (again, .string "perhaps")] }

def keepingAnswer (message : Sent) : Except Interruption (List Issue) :=
  ((validate book "book" { direction := .request } message).run {}).1

/-- Names that differ are one in lower case, and of its values the last one counts. The sign of the Kelvin becomes a k. -/
theorem validate_respelled_book : bookBuild = .ok book ∧
    (keeping "X-KEEP" "x-Keep").Respelled (keeping "x-\u212aeep" "X-\u212aEEP") ∧
    keepingAnswer (keeping "X-KEEP" "x-Keep") = keepingAnswer (keeping "x-\u212aeep" "X-\u212aEEP") ∧
    (keepingAnswer (keeping "X-KEEP" "x-Keep")).toOption.map (·.map (·.code)) = some [.invalidType] := by
  have respelled : (keeping "X-KEEP" "x-Keep").Respelled (keeping "x-\u212aeep" "X-\u212aEEP") := by
    refine .request {} (.cons ⟨?_, rfl⟩ (.cons ⟨?_, rfl⟩ .nil))
    all_goals decide +kernel
  refine ⟨Except.eq_ok_getD _ (by decide +kernel), respelled, ?_, by decide +kernel⟩
  unfold keepingAnswer
  rw [validate_respelled respelled book "book" { direction := .request }]

end ValidatorStore

end ApiContract
