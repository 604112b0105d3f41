import ApiContract.SingleFlight
import ApiContract.Specification

/-!
A store of message validators. Each is assembled when it is first wanted, and kept whether or not
this succeeds; errors in finding an operation or a response are not kept.
-/

namespace ApiContract

/-- Validators by direction and key. -/
abbrev ValidatorStore := SingleFlight (Direction × String) (Except Interruption MessageValidator)

namespace ValidatorStore

abbrev Stored := StateM ValidatorStore

/-- A shared validator or error of compilation, or an error of the search. -/
abbrev Answer := Except CompileError (Shared (Except Interruption MessageValidator))

def caller (specification : Specification) (found : Specification.Found) :
    Caller (Direction × String) (Except Interruption MessageValidator) :=
  { key := found.key, build := fun _ => specification.assemble found }

/-- The validator of what was found. -/
def validator (specification : Specification) (found : Specification.Found) :
    Stored (Except Interruption MessageValidator) :=
  modifyGet fun store =>
    let (store, shared) := store.call (caller specification found)
    match shared with
    | some shared => (shared.outcome, store)
    | none => (.error .outOfSteps, store)

def fetch (specification : Specification) (query : Specification.Query) :
    Stored (Except Interruption MessageValidator) :=
  match specification.find query with
  | .ok found => validator specification found
  | .error error => return .error (.refused error)

/-- Puts the results of the callers back among the errors of the searches. -/
def answers : List (Except CompileError Specification.Found) →
    List (Option (Shared (Except Interruption MessageValidator))) → List (Option Answer)
  | [], _ => []
  | .error error :: rest, results => some (.error error) :: answers rest results
  | .ok _ :: rest, result :: results => result.map .ok :: answers rest results
  | .ok _ :: rest, [] => none :: answers rest []

/-- Validators that are asked for at the same time. -/
def fetchTogether (specification : Specification) (queries : List Specification.Query) :
    Stored (List (Option Answer)) :=
  modifyGet fun store =>
    let searches := queries.map specification.find
    let callers := (searches.filterMap Except.toOption).map (caller specification)
    let (store, results) := store.settle callers
    (answers searches results, store)

/-- The issues of a request. -/
def validateRequest (specification : Specification) (name : String) (request : Exchange.Request)
    (context : Context) : Stored (Except Interruption (List Issue)) := do
  match ← fetch specification (.request name) with
  | .error error => return .error error
  | .ok validator => return specification.requestIssues validator context request

/-- The issues of a response; a status that is not declared is the only one. -/
def validateResponse (specification : Specification) (name : String) (response : Exchange.Response)
    (context : Context) : Stored (Except Interruption (List Issue)) := do
  let context : Context :=
    { direction := .response, statusCode := some response.statusCode
      includeErrors := context.includeErrors }
  match specification.operation? name with
  | none => return .error (.refused (.operationNotFound name))
  | some operation =>
      if (operation.response? response.statusCode).isNone then
        return .ok (Specification.undeclaredStatus operation context response.statusCode)
      else match ← fetch specification (.response name response.statusCode) with
        | .error error => return .error error
        | .ok validator => return specification.responseIssues validator context response

/-- How many validators could be compiled, and the errors of the others by key. -/
structure Report where
  compiled : Nat := 0
  errors : List (String × Interruption) := []

def Report.add (report : Report) (key : String) (result : Except Interruption MessageValidator) : Report :=
  match result with
  | .ok _ => { report with compiled := report.compiled + 1 }
  | .error error => { report with errors := report.errors ++ [(key, error)] }

/-- Compiles the request validator and then the response validators of an operation. -/
def buildOperation (specification : Specification) (report : Report) (operation : Operation) :
    Stored Report := do
  let request ← fetch specification (.request operation.key)
  operation.responses.foldlM (fun report (status, response) => do
    let result ← fetch specification (.response operation.key status)
    return report.add response.key result) (report.add operation.key request)

def buildAll (specification : Specification) : Stored Report :=
  specification.draft.operations.foldlM (buildOperation specification) {}

end ValidatorStore

end ApiContract
