import ApiContract.Schema.Graph

/-!
Schemas written back as JSON. An edge that was written as a reference, or that leads back to a
schema being written, is written as a reference to its target; all others are written out.
-/

namespace ApiContract.Schema

open Json (Value)

namespace Graph

def referenceTo (graph : Graph) (target : Nat) : Value :=
  let node := graph.node target
  .object [("$ref", .string (node.identity.getD node.source.location))]

/-- The entry of a keyword that may be missing. -/
def entry (key : String) (value : Option Value) : Assoc Value :=
  match value with
  | some value => [(key, value)]
  | none => []

def flagEntry (key : String) (flag : Bool) : Assoc Value :=
  if flag then [(key, .bool true)] else []

def texts (items : List String) : Value := .array (items.map Value.string)

/-- The keywords of a node; edges are written by the given function. -/
def fields (graph : Graph) (node : Node) (edge : Edge → Value) : Assoc Value :=
  let branches (edges : List Edge) : Value := .array (edges.map edge)
  let additional : Additional → Value
    | .allowed flag => .bool flag
    | .schema target => edge target
  let tagTarget : Option Nat → Value
    | some variant => graph.referenceTo variant
    | none => .null
  entry "type" (node.typeName.map .string)
    ++ entry "format" (node.format.map .string)
    ++ entry "enum" (node.enumValues.map .array)
    ++ node.constraints
    ++ entry "properties" (node.properties.map fun properties =>
        .object (properties.map fun property => (property.1, edge property.2)))
    ++ (if node.required.isEmpty then [] else [("required", texts node.required)])
    ++ entry "items" (node.items.map edge)
    ++ entry "allOf" (node.allOf.map branches)
    ++ entry "anyOf" (node.anyOf.map branches)
    ++ entry "oneOf" (node.oneOf.map branches)
    ++ entry "additionalProperties" (node.additional.map additional)
    ++ entry "discriminator" (node.discriminator.map .string)
    ++ entry "discriminatorMap" (node.tagMap.map fun tags =>
        .object (tags.map fun tag => (tag.1, tagTarget tag.2)))
    ++ flagEntry "nullable" node.nullable
    ++ flagEntry "readOnly" node.readOnly
    ++ entry "x-ms-mutability" (node.mutability.map texts)
    ++ flagEntry "x-ms-secret" node.secret

/-- Writes a node, given the nodes that are being written around it. Those all differ, so a fuel of
the number of nodes is enough. -/
def render (graph : Graph) : Nat → List Nat → Nat → Value
  | 0, _, id => graph.referenceTo id
  | fuel + 1, stack, id =>
      .object (Assoc.ofList (graph.fields (graph.node id) fun edge =>
        if edge.viaRef || (id :: stack).contains edge.target then graph.referenceTo edge.target
        else render graph fuel (id :: stack) edge.target))

/-- The JSON Schema of a node. -/
def toValue (graph : Graph) (id : Nat) : Value := graph.render (graph.size + 1) [] id

end Graph

end ApiContract.Schema
