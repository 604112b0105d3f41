import ApiContract.Exchange
import ApiContract.Operation.Model
import ApiContract.Url
import ApiContract.Unicode.Case
import ApiContract.Validator.Compilation

/-!
Validators of whole messages. A request is checked as one object with a slot for each place of
parameters, a response as one with its headers and its body.
-/

namespace ApiContract

open Json (Value)

structure MessageValidator where
  /-- The key of the operation or of the response. -/
  key : String
  validator : Validator
  /-- For each slot the coercions by name. -/
  coercions : Assoc (Assoc Coercion)
  /-- The body may be left out, and an empty object stands for one that was. -/
  optionalBody : Bool
  hasBodySchema : Bool
  mediaTypes : List String

/-- Header names are compared in lower case; of names that become equal the last value counts. -/
def lowerKeys (headers : Assoc Value) : Assoc Value :=
  Assoc.ofList (headers.map fun entry => (Unicode.lower entry.1, entry.2))

namespace MessageValidator

/-- The values of a slot, read by the coercions of their names. -/
def coerce (validator : MessageValidator) (slot : String) (values : Assoc Value) : Assoc Value :=
  let table := (Assoc.find? validator.coercions slot).getD []
  values.map fun entry =>
    match Assoc.find? table entry.1 with
    | some coercion => (entry.1, coercion.apply entry.2)
    | none => entry

/-- Whether a body stands for one that was left out. -/
def omitsBody (validator : MessageValidator) (body : Value) : Bool :=
  validator.optionalBody && (body.isNull || body.asObject?.any (·.isEmpty))

def bodyEntry (body : Option Value) : Assoc Value :=
  match body with
  | some body => [("body", body)]
  | none => []

def requestPayload (validator : MessageValidator) (request : Exchange.Request) : Value :=
  .object
    ([("path", .object (validator.coerce "path" request.path)),
      ("query", .object (validator.coerce "query" request.query)),
      ("headers", .object (validator.coerce "headers" (lowerKeys request.headers))),
      ("formData", .object request.formData)]
      ++ bodyEntry (request.body.filter (!validator.omitsBody ·)))

def responsePayload (validator : MessageValidator) (response : Exchange.Response) : Value :=
  .object
    ([("headers", .object (validator.coerce "headers" (lowerKeys response.headers)))]
      ++ bodyEntry response.body)

end MessageValidator

/-- A message validator part way: the clauses of its slots, and what it knows beside them. -/
structure Assembly where
  slots : Assoc Nat := []
  coercions : Assoc (Assoc Coercion) := []
  optionalBody : Bool := false
  hasBodySchema : Bool := false

namespace Assembly

open Validator (Compiling Clause Arena)

/-- Declares a property of a clause. -/
def addProperty (parent : Nat) (name : String) (child : Nat) (required : Bool) : Compiling Unit :=
  Arena.modifyClause parent fun clause =>
    { clause with
      properties := some (Assoc.insert (clause.properties.getD []) name child)
      required :=
        if required && !clause.required.contains name then clause.required ++ [name]
        else clause.required }

def addCoercion (assembly : Assembly) (slot name : String) (coercion : Option Coercion) : Assembly :=
  match coercion with
  | none => assembly
  | some coercion =>
      let table := (Assoc.find? assembly.coercions slot).getD []
      { assembly with
        coercions := Assoc.insert assembly.coercions slot (Assoc.insert table name coercion) }

/-- The clause of a slot, which is made when its first parameter comes. -/
def slot (assembly : Assembly) (source : SourceLocation) (root : Nat) (name : String) :
    Compiling (Nat × Assembly) := do
  match Assoc.find? assembly.slots name with
  | some slot => return (slot, assembly)
  | none =>
      let slot ← Arena.push (Clause.object source)
      addProperty root name slot false
      return (slot, { assembly with slots := Assoc.insert assembly.slots name slot })

def addParameter (catalog : Schema.Catalog) (source : SourceLocation) (root : Nat) (assembly : Assembly)
    (parameter : Parameter) : Compiling Assembly := do
  let schema ← Validator.compile catalog parameter.schema.target
  if parameter.place = .body then
    addProperty root "body" schema parameter.required
    return { assembly with hasBodySchema := true, optionalBody := !parameter.required }
  else
    let slotName := parameter.place.slot
    let name := if parameter.place = .header then Unicode.lower parameter.name else parameter.name
    let (slot, assembly) ← assembly.slot source root slotName
    addProperty slot name schema parameter.required
    if parameter.place = .formData then return assembly
    else return assembly.addCoercion slotName name parameter.coercion

def addResponseBody (catalog : Schema.Catalog) (root : Nat) (assembly : Assembly)
    (schema : Option Schema.Edge) : Compiling Assembly := do
  match schema with
  | none => return assembly
  | some edge =>
      let body ← Validator.compile catalog edge.target
      let isFile := (catalog.graph.node edge.target).typeName == some "file"
      addProperty root "body" body !isFile
      return { assembly with hasBodySchema := true }

def addResponseHeader (catalog : Schema.Catalog) (slot : Nat) (assembly : Assembly)
    (header : String × Schema.Edge) : Compiling Assembly := do
  let (name, edge) := header
  let schema ← Validator.compile catalog edge.target
  addProperty slot name schema false
  return assembly.addCoercion "headers" name
    ((catalog.graph.node edge.target).typeName.bind Coercion.ofType?)

def sourceOf (key : String) : SourceLocation :=
  let (url, pointer) := Url.splitReference key
  .within url pointer

/-- Runs an assembly around the clause of a whole message. -/
def finish (key : String) (mediaTypes : List String)
    (assemble : SourceLocation → Nat → Compiling Assembly) : Except Interruption MessageValidator := do
  let source := sourceOf key
  let work : Compiling (Nat × Assembly) := do
    let root ← Arena.push (Clause.object source)
    return (root, ← assemble source root)
  let ((root, assembly), arena) ← work.run {}
  return {
    key, mediaTypes
    validator := { clauses := arena.clauses, root }
    coercions := assembly.coercions
    optionalBody := assembly.optionalBody
    hasBodySchema := assembly.hasBodySchema }

end Assembly

namespace MessageValidator

/-- The validator of requests, unless a parameter could not be used. -/
def ofOperation (catalog : Schema.Catalog) (skipTrivial : Bool) (operation : Operation) :
    Except Interruption MessageValidator :=
  match operation.errors with
  | error :: _ => .error (.refused error)
  | [] =>
      let checked := operation.parameters.filter fun parameter => !(parameter.trivial && skipTrivial)
      Assembly.finish operation.key operation.consumes fun source root =>
        checked.foldlM (Assembly.addParameter catalog source root) {}

/-- The validator of one response of an operation. -/
def ofResponse (catalog : Schema.Catalog) (operation : Operation) (response : Response) :
    Except Interruption MessageValidator :=
  Assembly.finish response.key operation.produces fun source root => do
    let assembly ← Assembly.addResponseBody catalog root {} response.schema
    if response.headers.isEmpty then return assembly
    let slot ← Validator.Arena.push (Validator.Clause.object source)
    Assembly.addProperty root "headers" slot false
    response.headers.foldlM (Assembly.addResponseHeader catalog slot) assembly

end MessageValidator

end ApiContract
