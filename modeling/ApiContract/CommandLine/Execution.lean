import ApiContract.CommandLine.Arguments
import ApiContract.DocumentText
import ApiContract.ValidatorStore

/-!
Carrying out a command: what it reads, what it prints, and the code it ends with. The code is 0 when
all is well, 1 when a message is not valid, 2 when something is wrong with what was given, and 3 when
a file cannot be read or written.
-/

namespace ApiContract.CommandLine

open Json (Value)

/-- What a path leads to. -/
inductive FileContent where
  | text (content : String)
  | missing
  | unreadable (reason : String)

/-- How files are read and written; writing answers why it failed, if it did. -/
structure Files (m : Type → Type) where
  read : String → m FileContent
  write : String → String → m (Option String)

/-- The code at the end, and what was printed to the two streams. -/
structure Outcome where
  exit : Nat := 0
  output : String := ""
  errors : String := ""
deriving DecidableEq, Repr

namespace Outcome

def line (text : String) : String := text ++ "\n"

/-- An error as a text, or as JSON among the results. -/
def error (json : Bool) (message : String) (exit : Nat) : Outcome :=
  if json then
    { exit, output := line (Value.object [("valid", .bool false), ("error", .string message)]).compact }
  else { exit, errors := line ("Error: " ++ message) }

end Outcome

abbrev Execution (m : Type → Type) := ExceptT Outcome m

variable {m : Type → Type} [Monad m]

/-- Ends the command with an outcome unless there is a value. -/
def orElse {ε α : Type} (result : Except ε α) (outcome : ε → Outcome) : Execution m α :=
  match result with
  | .ok value => return value
  | .error error => throw (outcome error)

def loadFile (files : Files m) (path : String) : Execution m (Except LoadError Value) := do
  match ← files.read path with
  | .text content => return DocumentText.ofFile path content
  | .missing => return .error (.fileNotFound path)
  | .unreadable reason => return .error (.unreadable path reason)

/-- Remote documents are never found. -/
def loadSource (files : Files m) (source : String) : Execution m (Except LoadError Value) :=
  if Url.isRemote source then return .error (.fileNotFound source) else loadFile files source

def loadConfig (files : Files m) (path : Option String) : Execution m Settings := do
  match path with
  | none => return {}
  | some path =>
      let refused (error : LoadError) : Outcome :=
        { exit := error.exitCode, errors := Outcome.line ("Error loading config: " ++ error.message) }
      let value ← orElse (← loadFile files path) refused
      match Settings.ofValue? value with
      | some settings => return settings
      | none => throw (refused .invalidJson)

def loadRoots (files : Files m) (json : Bool) (specs : List String) : Execution m DocumentSet :=
  specs.foldlM (fun documents spec => do
    let document ← orElse (← loadSource files spec) fun error =>
      Outcome.error json ("loading " ++ spec ++ ": " ++ error.message) error.exitCode
    return documents.insertRoot spec document) {}

/-- More documents than any specification refers to. -/
def documentLimit : Nat := Nat.pow 2 64

/-- Loads what the documents refer to; what cannot be loaded is left out. -/
def loadReferenced (files : Files m) (documents : DocumentSet) :
    Execution m (Except BuildError DocumentSet) := do
  let fetch (target : String) : Execution m (Option Value) := return (← loadSource files target).toOption
  match ← DocumentSet.Loading.run fetch documentLimit (.start documents) with
  | some loading => return .ok loading.documents
  | none => return .error .outOfSteps

def buildSpecification (files : Files m) (settings : Settings) (json : Bool) (specs : List String) :
    Execution m Specification := do
  let refused (error : BuildError) : Outcome := Outcome.error json error.message error.exitCode
  let roots ← loadRoots files json specs
  let plan ← orElse (Specification.Plan.of Pass.builtIn settings) refused
  let documents ← orElse (← loadReferenced files roots) refused
  orElse (plan.build documents).outcome refused

/-! ## Commands -/

def reportAsJson (specification : Specification) (report : ValidatorStore.Report) : Value :=
  .object
    [("valid", .bool report.errors.isEmpty),
     ("operations", .number (.int specification.draft.operations.length)),
     ("compiled", .number (.int report.compiled)),
     ("errors", .array (report.errors.map fun (key, error) =>
        .object [("key", .string key), ("error", .string error.message)]))]

def reportSummary (specification : Specification) (report : ValidatorStore.Report) : String :=
  Nat.repr specification.draft.operations.length ++ " operations, " ++ Nat.repr report.compiled
    ++ " validators compiled, " ++ Nat.repr report.errors.length ++ " failed"

/-- Compiles every validator of some specifications. -/
def check (files : Files m) (settings : Settings) (specs : List String) (json : Bool) :
    Execution m Outcome := do
  let specification ← buildSpecification files settings json specs
  let (report, _) := (ValidatorStore.buildAll specification).run {}
  let exit := match report.errors with
    | [] => 0
    | (_, error) :: _ => error.exitCode
  if json then return { exit, output := Outcome.line (reportAsJson specification report).compact }
  else
    let listed := report.errors.map fun (key, error) =>
      Outcome.line ("  " ++ key ++ ": " ++ error.message)
    return { exit, output := Outcome.line (reportSummary specification report), errors := String.join listed }

/-- Prints a definition as it is after all passes. -/
def resolve (files : Files m) (settings : Settings) (spec definition : String) (output : Option String)
    (pretty : Bool) : Execution m Outcome := do
  let specification ← buildSpecification files settings false [spec]
  match specification.definition? definition with
  | none => throw (Outcome.error false ("definition not found: " ++ definition) 2)
  | some value =>
      let text := if pretty then value.indented else value.compact
      match output with
      | none => return { output := Outcome.line text }
      | some path =>
          match ← files.write path text with
          | none => return {}
          | some reason =>
              let errors := Outcome.line ("Error writing to " ++ path ++ ": " ++ reason)
              throw { exit := 3, errors }

def loadPayload (files : Files m) (json : Bool) (path : String) : Execution m Value := do
  orElse (← loadFile files path) fun error =>
    Outcome.error json ("loading payload: " ++ error.message) error.exitCode

def readPayload {α : Type} (json : Bool) (payload : Option α) : Execution m α :=
  match payload with
  | some payload => return payload
  | none => throw (Outcome.error json "invalid payload" 2)

def issueLines (issue : Issue) : String :=
  Outcome.line ("  " ++ issue.text) ++ Outcome.line ("    at " ++ issue.source.location)

def issuesOutcome (json : Bool) (issues : List Issue) : Outcome :=
  match issues, json with
  | [], true => { output := Outcome.line (Value.object [("valid", .bool true)]).compact }
  | [], false => { output := Outcome.line "Valid" }
  | issues, true =>
      let value : Value :=
        .object [("valid", .bool false), ("issues", .array (issues.map Issue.toValue))]
      { exit := 1, output := Outcome.line value.compact }
  | issues, false =>
      { exit := 1
        errors := Outcome.line "Validation failed:" ++ String.join (issues.map issueLines) }

def issuesOrError (json : Bool) (result : Except Interruption (List Issue)) : Outcome :=
  match result with
  | .ok issues => issuesOutcome json issues
  | .error error => Outcome.error json error.message error.exitCode

def checkRequest (files : Files m) (settings : Settings) (spec operation path : String) (json : Bool) :
    Execution m Outcome := do
  let payload ← loadPayload files json path
  let specification ← buildSpecification files settings json [spec]
  let request ← readPayload json (Exchange.Request.ofValue? payload)
  let work := ValidatorStore.validateRequest specification operation request (settings.context .request)
  return issuesOrError json (work.run {}).1

/-- The status stands in the place of one that the payload gives. -/
def withStatus (status : String) : Value → Value
  | .object entries => .object (Assoc.insert entries "statusCode" (.string status))
  | other => other

def checkResponse (files : Files m) (settings : Settings) (spec operation status path : String)
    (json : Bool) : Execution m Outcome := do
  let payload ← loadPayload files json path
  let specification ← buildSpecification files settings json [spec]
  let response ← readPayload json (Exchange.Response.ofValue? (withStatus status payload))
  let work := ValidatorStore.validateResponse specification operation response (settings.context .response)
  return issuesOrError json (work.run {}).1

def execute (files : Files m) (settings : Settings) : Command → Execution m Outcome
  | .check specs json => check files settings specs json
  | .resolve spec definition output pretty => resolve files settings spec definition output pretty
  | .request spec operation payload json => checkRequest files settings spec operation payload json
  | .response spec operation status payload json =>
      checkResponse files settings spec operation status payload json

def usage : String :=
  String.join (
    ["Check Swagger 2.0 specs and validate payloads against their operations", "",
     "Usage: api-contract [--config FILE] [--log-level FILTER] COMMAND", "",
     "Commands:",
     "  check SPEC... [--json]",
     "  resolve SPEC --definition NAME [--output FILE] [--pretty]",
     "  request SPEC --operation-id ID --payload FILE [--json]",
     "  response SPEC --operation-id ID --status CODE --payload FILE [--json]",
     "  help"].map Outcome.line)

def Stop.outcome : Stop → Outcome
  | .help => { output := usage }
  | .version => { output := Outcome.line "api-contract 0.3.0" }
  | .misuse reason => { exit := 2, errors := Outcome.line ("error: " ++ reason) ++ "\n" ++ usage }

/-- Carries out a command line. -/
def run (files : Files m) (words : List String) : m Outcome := do
  match Invocation.ofWords words with
  | .error stop => return stop.outcome
  | .ok invocation =>
      let work : Execution m Outcome := do
        let settings ← loadConfig files invocation.config
        execute files settings invocation.command
      match ← work.run with
      | .ok outcome => return outcome
      | .error outcome => return outcome

end ApiContract.CommandLine
