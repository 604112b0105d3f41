import ApiContract.Schema.Graph
import ApiContract.Validator.Clause

/-!
Compilation of schemas. Every schema that is reached gets one clause; its place in the table is
reserved before the schemas below it are compiled, so a schema that leads back to itself finds it.
A schema with a deferred error, or with a keyword that makes no sense, fails the compilation.
-/

namespace ApiContract.Validator

open Json (Value)

/-- The clauses so far, and the places of the schemas that have one. -/
structure Arena where
  clauses : Array Clause := #[]
  slots : List (Nat × Nat) := []

abbrev Compiling := StateT Arena (Except Interruption)

namespace Arena

def slot? (arena : Arena) (id : Nat) : Option Nat :=
  (arena.slots.find? fun entry => entry.1 == id).map Prod.snd

/-- Adds a clause and answers its place. -/
def push (clause : Clause) : Compiling Nat := do
  let arena ← get
  set { arena with clauses := arena.clauses.push clause }
  return arena.clauses.size

/-- Adds an empty clause for a schema. -/
def reserve (id : Nat) : Compiling Nat := do
  let slot ← push {}
  modify fun arena => { arena with slots := (id, slot) :: arena.slots }
  return slot

def modifyClause (slot : Nat) (change : Clause → Clause) : Compiling Unit :=
  modify fun arena => { arena with clauses := arena.clauses.modify slot change }

end Arena

/-- A list of mutabilities has to allow a direction. -/
def accessOf (node : Schema.Node) (location : String) : Except Interruption Access :=
  match node.mutability with
  | none => .ok { readOnly := node.readOnly, secret := node.secret }
  | some names =>
      let mutability : Mutability :=
        { inRequest := names.contains "create" || names.contains "update"
          inResponse := names.contains "read" }
      if mutability.inRequest || mutability.inResponse then
        .ok { readOnly := node.readOnly, mutability := some mutability, secret := node.secret }
      else
        let shown := (Value.array (names.map Value.string)).compact
        .error (.refused (.invalidMutability location shown))

/-- Dependencies of keys on lists of keys. -/
def dependenciesOf (node : Schema.Node) : List (String × List String) :=
  match Assoc.find? node.constraints "dependencies" with
  | some (.object entries) =>
      entries.map fun entry => (entry.1, (entry.2.asArray?.getD []).filterMap Value.asString?)
  | _ => []

def asksUniqueItems (node : Schema.Node) : Bool :=
  match Assoc.find? node.constraints "uniqueItems" with
  | some (.bool flag) => flag
  | _ => false

/-- The name of a schema, or else the last segment of its location. -/
def labelOf (node : Schema.Node) : Option String :=
  node.name? <|> (
    let name := Pointer.lastSegment node.source.location
    if name = "" ∨ name.toList.contains '#' then none else some (Pointer.unescape name))

def dispatchOf (node : Schema.Node) (child : Nat → Compiling Nat) : Compiling (Option Dispatch) :=
  match node.discriminator, node.tagMap with
  | some property, some tags => do
      let variants ← tags.mapM fun (tag, variant) => do
        match variant with
        | some id => return (tag, some (← child id))
        | none => return (tag, none)
      return some { property, variants }
  | _, _ => return none

def undeclaredOf (node : Schema.Node) (child : Nat → Compiling Nat) : Compiling (Option Undeclared) :=
  match node.additional with
  | some (.allowed flag) => return some (.allowed flag)
  | some (.schema edge) => return some (.clause (← child edge.target))
  | none => return none

/-- The clause of a node, given how the nodes below it are compiled. -/
def clauseOf (node : Schema.Node) (child : Nat → Compiling Nat) : Compiling Clause := do
  let location := node.source.location
  let branches (edges : Option (List Schema.Edge)) : Compiling (List Nat) :=
    (edges.getD []).mapM fun edge => child edge.target
  let properties ← match node.properties with
    | some entries =>
        some <$> entries.mapM fun entry => do return (entry.1, ← child entry.2.target)
    | none => pure none
  let undeclared ← undeclaredOf node child
  let items ← match node.items with
    | some edge => some <$> child edge.target
    | none => pure none
  let allOf ← branches node.allOf
  let anyOf ← branches node.anyOf
  let oneOf ← branches node.oneOf
  let dispatch ← dispatchOf node child
  let access ← accessOf node location
  let checks ← (Check.compileAll node.constraints location).mapError Interruption.refused
  return {
    source := node.source
    label := labelOf node
    typeName := node.typeName
    nullable := node.nullable
    enumValues := node.enumValues
    enumAsString := node.enumAsString
    access
    skip := node.skipErrors
    properties
    required := node.required
    undeclared, items, allOf, anyOf, oneOf
    uniqueItems := asksUniqueItems node
    dependencies := dependenciesOf node
    format := node.format.map Format.ofName
    checks, dispatch }

/-- Compiles a schema and everything below it; answers the place of its clause. -/
def compileWithin (catalog : Schema.Catalog) : Nat → Nat → Compiling Nat
  | 0, _ => throw .outOfSteps
  | fuel + 1, id => do
      match (← get).slot? id with
      | some slot => return slot
      | none =>
          match catalog.deferred.find? id with
          | some error => throw (.refused error)
          | none =>
              let slot ← Arena.reserve id
              let clause ← clauseOf (catalog.graph.node id) (compileWithin catalog fuel)
              Arena.modifyClause slot fun _ => clause
              return slot

/-- Every compilation below another one has reserved a place for a different schema, so the number of
nodes bounds how deep they go. -/
def compile (catalog : Schema.Catalog) (id : Nat) : Compiling Nat :=
  compileWithin catalog (catalog.graph.size + 1) id

/-- Ends a compilation whose answer is the root of the validator. -/
def ofCompiling (compiling : Compiling Nat) : Except Interruption Validator := do
  let (root, arena) ← compiling.run {}
  return { clauses := arena.clauses, root }

/-- The validator of one schema alone. -/
def ofSchema (catalog : Schema.Catalog) (id : Nat) : Except Interruption Validator :=
  ofCompiling (compile catalog id)

end ApiContract.Validator
