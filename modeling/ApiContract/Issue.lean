import ApiContract.Context
import ApiContract.Failure
import ApiContract.Text.Segments

/-!
Issues: failures as they are reported. Paths are given relative to the body, failures of missing
parameters, bodies and headers get codes of their own, and failures that read the same become
one issue with several paths.
-/

namespace ApiContract

open Json (Value)

structure Issue where
  code : ErrorCode
  message : String
  severity : Severity
  /-- Pointers into the payload; places in the body are relative to the body. -/
  paths : List String
  /-- The pointer of the keyword inside its document. -/
  schemaPath : String
  source : SourceLocation
deriving DecidableEq, Repr

/-- A failure with the path and code that the report shows. -/
structure Finding where
  code : ErrorCode
  message : String
  source : SourceLocation
  keyword : Keyword
  path : String
deriving DecidableEq, Repr

namespace Failure

/-- Lies strictly inside the body of the message. -/
def isInBody (failure : Failure) : Bool := Text.startsWith failure.path "/body/"

/-- The body is the root of the reported paths; the other slots keep their names. -/
def payloadPath (failure : Failure) : String :=
  if failure.path = "/body" then ""
  else if failure.isInBody then String.ofList (failure.path.toList.drop "/body".length)
  else failure.path

def finding (context : Context) (failure : Failure) : Finding :=
  let plain : Finding :=
    { code := failure.code, message := failure.message, source := failure.source
      keyword := failure.keyword, path := failure.payloadPath }
  match context.direction with
  | .request =>
      if !failure.isInBody && failure.keyword = .required then
        { plain with
          code := .missingRequiredParameter
          message := ErrorCode.missingRequiredParameter.message .none }
      else plain
  | .response =>
      if failure.path = "/body" then
        { plain with
          code := .invalidResponseBody
          message := ErrorCode.invalidResponseBody.message .none }
      else if Text.startsWith failure.path "/headers" then
        { plain with code := .invalidResponseHeader }
      else plain

end Failure

namespace Issue

/-- An issue with the message as a whole and not with a schema. -/
def ofCode (code : ErrorCode) (detail : Detail) (url : String) : Issue :=
  { code, message := code.message detail, severity := code.severity
    paths := [], schemaPath := "", source := .document url }

def text (issue : Issue) : String :=
  issue.code.text ++ " " ++ ", ".intercalate issue.paths ++ ": " ++ issue.message

/-- An issue as JSON; positions inside documents are not known. -/
def toValue (issue : Issue) : Value :=
  .object
    [("code", .string issue.code.text),
     ("message", .string issue.message),
     ("severity", .string issue.severity.text),
     ("pathsInPayload", .array (issue.paths.map Value.string)),
     ("schemaPath", .string issue.schemaPath),
     ("source", .object
        [("url", .string issue.source.url),
         ("json_ref", (issue.source.fragment?.map Value.string).getD .null),
         ("position", .null)])]

/-- Two findings with the same code, message and source are reported as one issue. -/
def covers (issue : Issue) (finding : Finding) : Bool :=
  issue.code == finding.code && issue.message == finding.message && issue.source == finding.source

def ofFinding (finding : Finding) : Issue :=
  { code := finding.code
    message := finding.message
    severity := finding.code.severity
    paths := [finding.path]
    schemaPath := finding.source.fragment?.getD "#" ++ "/" ++ finding.keyword.name
    source := finding.source }

def addPath (issue : Issue) (path : String) : Issue :=
  if issue.paths.contains path then issue else { issue with paths := issue.paths ++ [path] }

/-- Adds a finding to the issue that covers it, or as a new issue at the end. -/
def report : List Issue → Finding → List Issue
  | [], finding => [ofFinding finding]
  | issue :: rest, finding =>
      if issue.covers finding then issue.addPath finding.path :: rest
      else issue :: report rest finding

/-- The issues of a list of failures, in the order of their first failures. -/
def ofFailures (context : Context) (failures : List Failure) : List Issue :=
  let findings := (failures.filter fun failure => !failure.skip).map (Failure.finding context)
  (findings.filter fun finding => context.includes finding.code).foldl report []

end Issue

end ApiContract
