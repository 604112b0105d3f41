import ApiContract.Failure
import ApiContract.Pointer

/-!
Schemas as nodes of a graph: the keywords of one schema, with edges in the place of its subschemas.
-/

namespace ApiContract.Schema

open Json (Value)

/-- Schemas without a type count as objects. -/
inductive Kind where
  | object
  | array
  | primitive
deriving DecidableEq, Repr, Inhabited

namespace Kind

def ofType : Option String → Kind
  | none => .object
  | some name => if name = "object" then .object else if name = "array" then .array else .primitive

def text : Kind → String
  | .object => "object"
  | .array => "array"
  | .primitive => "primitive"

end Kind

/-- A link to a subschema. One that was written as a reference may share its target. -/
structure Edge where
  target : Nat
  viaRef : Bool
deriving DecidableEq, Repr, Inhabited

namespace Edge

def inline (target : Nat) : Edge := ⟨target, false⟩

def reference (target : Nat) : Edge := ⟨target, true⟩

end Edge

/-- What is said about keys that are not declared. -/
inductive Additional where
  | allowed (flag : Bool)
  | schema (edge : Edge)
deriving DecidableEq, Repr

structure Node where
  kind : Kind := .object
  typeName : Option String := none
  format : Option String := none
  enumValues : Option (List Value) := none
  properties : Option (Assoc Edge) := none
  required : List String := []
  items : Option Edge := none
  allOf : Option (List Edge) := none
  anyOf : Option (List Edge) := none
  oneOf : Option (List Edge) := none
  additional : Option Additional := none
  discriminator : Option String := none
  /-- Tags of the hierarchy below this schema: its own one leads nowhere, the others to a variant. -/
  tagMap : Option (Assoc (Option Nat)) := none
  /-- The tag that the schema gives itself. -/
  ownTag : Option String := none
  nullable : Bool := false
  /-- Nullability as written. -/
  xNullable : Option Bool := none
  readOnly : Bool := false
  mutability : Option (List String) := none
  secret : Bool := false
  enumAsString : Bool := false
  /-- Failures of this schema are not reported. -/
  skipErrors : Bool := false
  /-- The location that references know the schema by. -/
  identity : Option String := none
  /-- Keywords with a limit, as written. -/
  constraints : Assoc Value := []
  source : SourceLocation
deriving Repr, Inhabited

namespace Node

/-- The schema that accepts null alone. -/
def nullMarker (source : SourceLocation) : Node :=
  { kind := .primitive, typeName := some "null", skipErrors := true, source }

/-- The schema that accepts what an edge leads to, or null. -/
def nullableWrapper (source : SourceLocation) (edge : Edge) (marker : Nat) : Node :=
  { kind := .object, skipErrors := true, anyOf := some [edge, .inline marker], source }

/-- The name that a schema has by the location it is known by, if that is a place below the root. -/
def name? (node : Node) : Option String :=
  node.identity.bind fun identity =>
    let name := Pointer.lastSegment identity
    if name = "" ∨ name.toList.contains '#' then none else some name

/-- The tag of a schema: the one it gives itself, or its name. -/
def tag? (node : Node) : Option String := node.ownTag <|> node.name?

def isObjectTyped (node : Node) : Bool := node.typeName == some "object"

def propertyList (node : Node) : Assoc Edge := node.properties.getD []

def hasProperties (node : Node) : Bool := !node.propertyList.isEmpty

end Node

end ApiContract.Schema
