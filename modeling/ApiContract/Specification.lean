import ApiContract.Operation.Assembly
import ApiContract.Pass.Pipeline
import ApiContract.Schema.Rendering
import ApiContract.Settings
import ApiContract.Validator.Evaluation

/-!
Specifications: what a set of documents says, after all passes. A specification finds operations and
definitions, makes the validators of messages, and says what is wrong with a message.
-/

namespace ApiContract

open Json (Value)

structure Specification where
  draft : Draft
  suppressions : Suppressions
  skipTrivialParameters : Bool

namespace Specification

/-- What is settled before any document is touched: the order of the passes, and the suppressions. -/
structure Plan where
  schedule : Schedule
  suppressions : Suppressions
  skipTrivialParameters : Bool

def Plan.of (passes : List Pass) (settings : Settings) : Except BuildError Plan := do
  let schedule ← (Schedule.ofPasses passes).mapError BuildError.schedule
  let suppressions ← (Suppressions.ofDirectives settings.suppressions).mapError BuildError.pattern
  return { schedule, suppressions, skipTrivialParameters := settings.skipTrivialParameters }

/-- The steps that a build began, and what came of it. -/
structure Build where
  begun : List Pipeline.Step
  outcome : Except BuildError Specification

def Plan.build (plan : Plan) (documents : DocumentSet) : Build :=
  let run := Pipeline.run plan.schedule { documents }
  let finished (draft : Draft) : Specification :=
    { draft, suppressions := plan.suppressions, skipTrivialParameters := plan.skipTrivialParameters }
  { begun := run.begun, outcome := (run.outcome.mapError BuildError.ofInterruption).map finished }

def build (passes : List Pass) (settings : Settings) (documents : DocumentSet) : Build :=
  match Plan.of passes settings with
  | .error error => { begun := [], outcome := .error error }
  | .ok plan => plan.build documents

/-- An operation by its key or else by its operation id. Of operations with the same key the last
counts, of those with the same id the first. -/
def operation? (specification : Specification) (name : String) : Option Operation :=
  let operations := specification.draft.operations
  (operations.reverse.find? (·.key == name)) <|> operations.find? (·.operationId == some name)

/-- A definition, from the first root document that has it, as JSON Schema. -/
def definition? (specification : Specification) (name : String) : Option Value :=
  let draft := specification.draft
  let roots := draft.documents.urls.filter draft.documents.isRoot
  (roots.findSome? fun url => draft.graph.definition url name).map draft.graph.toValue

/-- What a validator is wanted for. -/
inductive Query where
  | request (name : String)
  | response (name status : String)

/-- What a query leads to: a whole operation, or one response of it. -/
inductive Found where
  | request (operation : Operation)
  | response (operation : Operation) (response : Response)

def find (specification : Specification) : Query → Except CompileError Found
  | .request name =>
      match specification.operation? name with
      | some operation => .ok (.request operation)
      | none => .error (.operationNotFound name)
  | .response name status =>
      match specification.operation? name with
      | none => .error (.operationNotFound name)
      | some operation =>
          match operation.response? status with
          | some response => .ok (.response operation response)
          | none => .error (.responseNotFound operation.key status)

/-- The direction and the key tell validators apart. -/
def Found.key : Found → Direction × String
  | .request operation => (.request, operation.key)
  | .response _ declared => (.response, declared.key)

def assemble (specification : Specification) : Found → Except Interruption MessageValidator
  | .request operation =>
      MessageValidator.ofOperation specification.draft.catalog specification.skipTrivialParameters operation
  | .response operation response =>
      MessageValidator.ofResponse specification.draft.catalog operation response

/-! ## Checking messages -/

/-- The media type that a response body without one is taken for. -/
def defaultContentType : String := "application/octet-stream"

/-- A declared media type accepts itself; one with parameters accepts every part of what stands before
them. -/
def acceptsContentType (declared contentType : String) : Bool :=
  declared == contentType
    || (declared.toList.contains ';'
        && Text.contains contentType.toList ((Text.split ';' declared.toList).headD []))

def contentTypeIssues (validator : MessageValidator) (context : Context) (contentType : String) :
    List Issue :=
  if validator.mediaTypes.any (acceptsContentType · contentType)
      || !context.includes .invalidContentType then []
  else
    let supported := ", ".intercalate validator.mediaTypes
    [Issue.ofCode .invalidContentType (.format contentType (.string supported))
      (Url.splitReference validator.key).1]

/-- The issues of a payload that no suppression matches. -/
def payloadIssues (specification : Specification) (validator : MessageValidator) (context : Context)
    (payload : Value) : Except Interruption (List Issue) :=
  match validator.validator.validate context payload with
  | some issues => .ok (specification.suppressions.filter issues)
  | none => .error .outOfSteps

/-- The content type of a request, if it has one, comes before its payload. -/
def requestIssues (specification : Specification) (validator : MessageValidator) (context : Context)
    (request : Exchange.Request) : Except Interruption (List Issue) := do
  let contentType := match Exchange.contentType? request.headers with
    | some contentType => contentTypeIssues validator context contentType
    | none => []
  let issues ← specification.payloadIssues validator context (validator.requestPayload request)
  return contentType ++ issues

def responseIssues (specification : Specification) (validator : MessageValidator) (context : Context)
    (response : Exchange.Response) : Except Interruption (List Issue) := do
  let contentType :=
    if validator.hasBodySchema then
      contentTypeIssues validator context
        ((Exchange.contentType? response.headers).getD defaultContentType)
    else []
  let issues ← specification.payloadIssues validator context (validator.responsePayload response)
  return contentType ++ issues

/-- The issue of a status that an operation does not declare. -/
def undeclaredStatus (operation : Operation) (context : Context) (status : String) : List Issue :=
  if context.includes .invalidResponseCode then
    [Issue.ofCode .invalidResponseCode (.data (.string status)) operation.url]
  else []

end Specification

end ApiContract
