import ApiContract.DocumentSet
import ApiContract.Operation.Model
import ApiContract.Unicode.Case

/-!
Reading the operations and schemas of documents into a graph. Every place is built once: a node is
bound to its location before its subschemas are read, so a schema that leads back to itself finds
its own node. References are followed to the schema they end at; one that cannot be followed becomes
a placeholder with a deferred error.
-/

namespace ApiContract.Schema

open Json (Value)

/-- Reading changes a catalog; it fails only when its fuel does not last. -/
abbrev Reading := StateT Catalog Option

namespace Reading

def reference? (value : Value) : Option String := value.stringAt? "$ref"

def locationOf (url pointer : String) : String := url ++ "#" ++ pointer

def lookup (location : String) : Reading (Option Nat) := return (← get).graph.lookup location

/-- Adds a node and binds it to a location. -/
def addNode (location : String) (node : Node) : Reading Nat := do
  let catalog ← get
  let (id, graph) := catalog.graph.add node
  set { catalog with graph := graph.bind location id }
  return id

def modifyNode (id : Nat) (change : Node → Node) : Reading Unit :=
  modify fun catalog => { catalog with graph := catalog.graph.modify id change }

/-- A node keeps the first location that it was known by. -/
def identify (id : Nat) (identity : Option String) : Reading Unit :=
  modifyNode id fun node => if node.identity.isNone then { node with identity } else node

/-- Keywords with a limit, in the order in which a node lists them. -/
def limitKeywords : List String :=
  ["pattern", "minLength", "maxLength", "minimum", "maximum", "exclusiveMinimum",
   "exclusiveMaximum", "multipleOf", "minItems", "maxItems", "uniqueItems", "minProperties",
   "maxProperties"]

/-- The strings of an array; items of other types are passed over. -/
def stringsAt? (raw : Assoc Value) (key : String) : Option (List String) :=
  ((Assoc.find? raw key).bind Value.asArray?).map (·.filterMap Value.asString?)

/-- A list of types, the limits, and those dependencies that name properties. -/
def constraintsOf (raw : Assoc Value) : Assoc Value :=
  let types := match Assoc.find? raw "type" with
    | some (.array names) => [("type", Value.array names)]
    | _ => []
  let limits := limitKeywords.filterMap fun key => (Assoc.find? raw key).map (key, ·)
  let dependencies := match Assoc.find? raw "dependencies" with
    | some (.object entries) =>
        let lists := entries.filter fun entry => entry.2.isArray
        if lists.isEmpty then [] else [("dependencies", Value.object lists)]
    | _ => []
  types ++ limits ++ dependencies

/-- A node with the keywords of a schema object, its subschemas apart. -/
def nodeOf (source : SourceLocation) (identity : Option String) (raw : Assoc Value) : Node :=
  let schema := Value.object raw
  let typeName := schema.stringAt? "type"
  { kind := Kind.ofType typeName
    typeName
    format := schema.stringAt? "format"
    enumValues := schema.arrayAt? "enum"
    required := (stringsAt? raw "required").getD []
    discriminator := schema.stringAt? "discriminator"
    ownTag := schema.stringAt? "x-ms-discriminator-value"
    xNullable := schema.boolAt? "x-nullable"
    readOnly := schema.flagAt "readOnly"
    mutability := stringsAt? raw "x-ms-mutability"
    secret := schema.flagAt "x-ms-secret"
    enumAsString := ((schema.find? "x-ms-enum").map (·.flagAt "modelAsString")).getD false
    identity
    constraints := constraintsOf raw
    source }

/-- The placeholder of a reference that cannot be followed. -/
def unresolved (url pointer reference : String) : Reading Nat := do
  let location := locationOf url pointer
  match ← lookup location with
  | some id => return id
  | none =>
      let id ← addNode location { source := .within url pointer }
      modify fun catalog =>
        { catalog with
          deferred := catalog.deferred.add id (.unresolvableReference reference location) }
      return id

/-- Where a reference was written. -/
structure Origin where
  url : String
  pointer : String
  reference : String

/-- Reads the subschema at a place of a document. -/
abbrev ReadEdge := String → Value → Reading Edge

def attachProperties (read : ReadEdge) (pointer : String) (raw : Assoc Value) (id : Nat) : Reading Unit :=
  match Assoc.find? raw "properties" with
  | some (.object entries) => do
      let properties ← entries.mapM fun entry => do
        return (entry.1, ← read (Pointer.child (pointer ++ "/properties") entry.1) entry.2)
      modifyNode id fun node => { node with properties := some properties }
  | _ => return ()

def attachItems (read : ReadEdge) (pointer : String) (raw : Assoc Value) (id : Nat) : Reading Unit :=
  match Assoc.find? raw "items" with
  | some (.object entries) => do
      let items ← read (pointer ++ "/items") (.object entries)
      modifyNode id fun node => { node with items := some items }
  | _ => return ()

def attachAdditional (read : ReadEdge) (pointer : String) (raw : Assoc Value) (id : Nat) : Reading Unit :=
  match Assoc.find? raw "additionalProperties" with
  | some (.bool flag) => modifyNode id fun node => { node with additional := some (.allowed flag) }
  | some (.object entries) => do
      let target ← read (pointer ++ "/additionalProperties") (.object entries)
      modifyNode id fun node => { node with additional := some (.schema target) }
  | _ => return ()

/-- Reads the branches that a keyword lists, if it holds a list. -/
def attachBranches (read : ReadEdge) (pointer : String) (raw : Assoc Value) (keyword : String)
    (attach : List Edge → Node → Node) (id : Nat) : Reading Unit :=
  match Assoc.find? raw keyword with
  | some (.array items) => do
      let edges ← items.zipIdx.mapM fun item =>
        read (Pointer.item (pointer ++ "/" ++ keyword) item.2) item.1
      modifyNode id (attach edges)
  | _ => return ()

/-- Reads the subschemas of a node: properties, items, additional properties, then branches. -/
def attachAll (read : ReadEdge) (pointer : String) (raw : Assoc Value) (id : Nat) : Reading Unit := do
  attachProperties read pointer raw id
  attachItems read pointer raw id
  attachAdditional read pointer raw id
  attachBranches read pointer raw "allOf" (fun edges node => { node with allOf := some edges }) id
  attachBranches read pointer raw "anyOf" (fun edges node => { node with anyOf := some edges }) id
  attachBranches read pointer raw "oneOf" (fun edges node => { node with oneOf := some edges }) id

mutual

/-- The edge to the subschema found at a place. -/
def edge (documents : DocumentSet) : Nat → String → String → Value → Reading Edge
  | 0, _, _, _ => failure
  | fuel + 1, url, pointer, value =>
      match reference? value with
      | some reference => do
          let target ← follow documents fuel ⟨url, pointer, reference⟩ url reference []
          return Edge.reference target
      | none => do
          let target ← build documents fuel url pointer value none
          return Edge.inline target

/-- Follows a chain of references to a schema, and refuses to pass the same location twice. -/
def follow (documents : DocumentSet) : Nat → Origin → String → String → List String → Reading Nat
  | 0, _, _, _, _ => failure
  | fuel + 1, origin, base, current, passed =>
      match documents.resolve? base current with
      | none => unresolved origin.url origin.pointer origin.reference
      | some target => do
          let location := target.location
          match ← lookup location with
          | some id =>
              identify id (some location)
              return id
          | none =>
              if passed.contains location then
                unresolved origin.url origin.pointer origin.reference
              else
                let (targetUrl, targetPointer) := Url.splitReference location
                match reference? target.value with
                | some next => follow documents fuel origin targetUrl next (location :: passed)
                | none => build documents fuel targetUrl targetPointer target.value (some location)

/-- The node of the schema at a place. A value that is no object makes a node without keywords. -/
def build (documents : DocumentSet) : Nat → String → String → Value → Option String → Reading Nat
  | 0, _, _, _, _ => failure
  | fuel + 1, url, pointer, value, identity => do
      let location := locationOf url pointer
      match ← lookup location with
      | some id =>
          identify id identity
          return id
      | none =>
          let source := SourceLocation.within url pointer
          match value with
          | .object raw =>
              let node := nodeOf source identity raw
              let id ← addNode location node
              modify fun catalog =>
                { catalog with collections := catalog.collections.add node.kind id }
              attachAll (edge documents fuel url) pointer raw id
              return id
          | _ => addNode location { identity, source }

end

/-! ## Fuel -/

/-- Every step down binds a new location or passes a new reference, and there are at most as many
locations as pairs of a place where a reference may lead and a place below it. -/
def fuelFor (documents : DocumentSet) : Nat :=
  let size := Value.weightEntries documents.documents + 2
  8 * size * size + 8

/-! ## Operations -/

/-- The media types of an operation, or else of its document, or else JSON. -/
def mediaTypes (operation document : Value) (key : String) : List String :=
  match ((operation.find? key) <|> (document.find? key)).bind Value.asArray? with
  | some types => types.filterMap Value.asString?
  | none => ["application/json"]

/-- A plain string in the path, or the plain string `api-version` in the query. -/
def isTrivial (parameter : Value) (place : ParameterPlace) (name : String) : Bool :=
  let plain (inside : String) : Bool := match parameter with
    | .object fields => fields.all fun field =>
        match field.1 with
        | "name" => true
        | "description" => true
        | "required" => true
        | "in" => field.2.asString? == some inside
        | "type" => field.2.asString? == some "string"
        | _ => false
    | _ => false
  match place with
  | .path => plain "path"
  | .query => name == "api-version" && plain "query"
  | _ => false

/-- Where a parameter or response is written, after its own reference was followed one step. -/
structure Place where
  url : String
  pointer : String
  value : Value
  viaRef : Bool

def place? (documents : DocumentSet) (url pointer : String) (raw : Value) : Except String Place :=
  match reference? raw with
  | some reference =>
      match documents.resolve? url reference with
      | some target =>
          let (targetUrl, targetPointer) := Url.splitReference target.location
          .ok ⟨targetUrl, targetPointer, target.value, true⟩
      | none => .error reference
  | none => .ok ⟨url, pointer, raw, false⟩

/-- The schema of a parameter: that of the body, or the parameter itself. -/
def parameterSchema (documents : DocumentSet) (fuel : Nat) (place : ParameterPlace) (parameter : Place) :
    Reading Edge :=
  if place = .body then
    let pointer := parameter.pointer ++ "/schema"
    match parameter.value.find? "schema" with
    | some schema => edge documents fuel parameter.url pointer schema
    | none => do
        let target ← build documents fuel parameter.url pointer .null none
        return Edge.inline target
  else do
    let target ← build documents fuel parameter.url parameter.pointer parameter.value none
    return ⟨target, parameter.viaRef⟩

def parameter (documents : DocumentSet) (fuel : Nat) (url pointer : String) (raw : Value) :
    Reading (Except CompileError Parameter) :=
  match place? documents url pointer raw with
  | .error reference => return .error (.unresolvableReference reference (locationOf url pointer))
  | .ok found =>
      match found.value.stringAt? "name" with
      | none =>
          return .error (.invalidSchema (locationOf found.url found.pointer) "parameter has no name")
      | some name =>
          let inside := (found.value.stringAt? "in").getD ""
          match ParameterPlace.ofText? inside with
          | none => return .error (.unsupportedParameterLocation name inside)
          | some place => do
              let schema ← parameterSchema documents fuel place found
              return .ok
                { name, place, schema
                  required := place = .path || found.value.flagAt "required"
                  allowEmptyValue := place = .query && found.value.flagAt "allowEmptyValue"
                  coercion := (found.value.stringAt? "type").bind Coercion.ofType?
                  trivial := isTrivial found.value place name }

/-- A parameter takes the place of an earlier one of the same name and place. -/
def mergeParameter : List Parameter → Parameter → List Parameter
  | [], parameter => [parameter]
  | earlier :: rest, parameter =>
      if earlier.name = parameter.name ∧ earlier.place = parameter.place then parameter :: rest
      else earlier :: mergeParameter rest parameter

/-- The parameters of a path and its operation, and the errors of those that cannot be used. -/
structure ParameterList where
  parameters : List Parameter := []
  errors : List CompileError := []

namespace ParameterList

def add (list : ParameterList) (outcome : Except CompileError Parameter) : ParameterList :=
  match outcome with
  | .ok parameter => { list with parameters := mergeParameter list.parameters parameter }
  | .error error => { list with errors := list.errors ++ [error] }

end ParameterList

/-- Adds the parameters of an owner, which is a path item or an operation. -/
def addParameters (documents : DocumentSet) (fuel : Nat) (url pointer : String) (owner : Value)
    (list : ParameterList) : Reading ParameterList := do
  let raw := (owner.arrayAt? "parameters").getD []
  let outcomes ← raw.zipIdx.mapM fun item =>
    parameter documents fuel url (Pointer.item (pointer ++ "/parameters") item.2) item.1
  return outcomes.foldl ParameterList.add list

def responseHeaders (documents : DocumentSet) (fuel : Nat) (place : Place) : Reading (Assoc Edge) := do
  let headers ← ((place.value.objectAt? "headers").getD []).mapM fun header => do
    let target ← edge documents fuel place.url (Pointer.child (place.pointer ++ "/headers") header.1) header.2
    return (Unicode.lower header.1, target)
  return Assoc.ofList headers

def response (documents : DocumentSet) (fuel : Nat) (url pointer operationKey status : String)
    (raw : Value) : Reading Response := do
  let key := operationKey ++ "/responses/" ++ status
  match place? documents url pointer raw with
  | .error reference =>
      let target ← unresolved url pointer reference
      return { key, status, schema := some (.reference target), headers := [] }
  | .ok place =>
      let schema ← match place.value.find? "schema" with
        | some schema => do
            let target ← edge documents fuel place.url (place.pointer ++ "/schema") schema
            pure (some target)
        | none => pure none
      let headers ← responseHeaders documents fuel place
      return { key, status, schema, headers }

/-- The operation of one method of a path. -/
def operation (documents : DocumentSet) (fuel : Nat) (url : String) (document : Value) (path : String)
    (item : Value) (method : String) (raw : Value) : Reading Operation := do
  let pathPointer := Pointer.child "/paths" path
  let pointer := pathPointer ++ "/" ++ method
  let key := locationOf url pointer
  let ofPath ← addParameters documents fuel url pathPointer item {}
  let list ← addParameters documents fuel url pointer raw ofPath
  let responses ← ((raw.objectAt? "responses").getD []).mapM fun entry => do
    let found ← response documents fuel url (Pointer.child (pointer ++ "/responses") entry.1) key
      entry.1 entry.2
    return (entry.1, found)
  return {
    key, method, path, url, responses
    operationId := raw.stringAt? "operationId"
    parameters := list.parameters
    consumes := mediaTypes raw document "consumes"
    produces := mediaTypes raw document "produces"
    errors := list.errors }

def methods : List String := ["get", "put", "post", "delete", "options", "head", "patch"]

/-- The operations of a path, in the order of the methods. -/
def pathOperations (documents : DocumentSet) (fuel : Nat) (url : String) (document : Value)
    (path : String) (item : Value) : Reading (List Operation) :=
  let present := methods.filterMap fun method => (item.find? method).map (method, ·)
  present.mapM fun entry => operation documents fuel url document path item entry.1 entry.2

/-- The named definition of a document. -/
def definition (documents : DocumentSet) (fuel : Nat) (url name : String) (value : Value) : Reading Nat :=
  let pointer := Pointer.child "/definitions" name
  match reference? value with
  | some reference => follow documents fuel ⟨url, pointer, reference⟩ url reference []
  | none => build documents fuel url pointer value (some (locationOf url pointer))

/-- Reads every operation, then every named definition, of a document. -/
def document (documents : DocumentSet) (fuel : Nat) (url : String) : Reading (List Operation) :=
  match documents.get? url with
  | none => return []
  | some value => do
      let operations ← ((value.objectAt? "paths").getD []).mapM fun entry =>
        pathOperations documents fuel url value entry.1 entry.2
      ((value.objectAt? "definitions").getD []).forM fun entry => do
        let _ ← definition documents fuel url entry.1 entry.2
      return operations.flatten

/-! ## Variants -/

/-- Whether the `allOf` references of a raw schema lead to a schema with a discriminator that is in
the graph; answers the locations seen on the way as well. -/
def inheritsKnownRoot (documents : DocumentSet) (graph : Graph) :
    Nat → String → Value → List String → Bool × List String
  | 0, _, _, seen => (false, seen)
  | fuel + 1, url, raw, seen =>
      ((raw.arrayAt? "allOf").getD []).foldl (fun (found, seen) branch =>
        if found then (found, seen)
        else match (reference? branch).bind (documents.resolve? url) with
          | none => (false, seen)
          | some target =>
              let location := target.location
              if seen.contains location then (false, seen)
              else if (target.value.find? "discriminator").isSome && (graph.lookup location).isSome then
                (true, location :: seen)
              else
                inheritsKnownRoot documents graph fuel (Url.splitReference location).1 target.value
                  (location :: seen)) (false, seen)

/-- All named definitions of all documents: document, name and value. -/
def definitions (documents : DocumentSet) : List (String × String × Value) :=
  documents.documents.flatMap fun entry =>
    ((entry.2.objectAt? "definitions").getD []).map fun definition => (entry.1, definition.1, definition.2)

/-- Builds every definition that is not in the graph and inherits from a root that is; answers how
many there were. -/
def discoverRound (documents : DocumentSet) (fuel : Nat) : Reading Nat :=
  (definitions documents).foldlM (fun added (url, name, value) => do
    let graph := (← get).graph
    if (graph.definition url name).isSome then return added
    else if (inheritsKnownRoot documents graph fuel url value []).1 then
      let _ ← definition documents fuel url name value
      return added + 1
    else return added) 0

/-- Repeats until a round adds nothing; answers how many definitions were added. -/
def discover (documents : DocumentSet) (fuel : Nat) : Nat → Reading Nat
  | 0 => failure
  | rounds + 1 => do
      let added ← discoverRound documents fuel
      if added = 0 then return 0
      else return added + (← discover documents fuel rounds)

/-- Where each round but the last binds a definition, one round more than definitions is enough. -/
def discoverVariants (documents : DocumentSet) : Reading Nat :=
  discover documents (fuelFor documents) ((definitions documents).length + 1)

end Reading

end ApiContract.Schema
