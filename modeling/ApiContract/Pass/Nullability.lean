import ApiContract.Pass.Basic

/-!
Nullability. Optional properties admit null and required ones do not, unless their schema says
otherwise. A schema of its own is marked; one that was referred to may be shared, so the edge to it
is led through a wrapper that admits null as well.
-/

namespace ApiContract

namespace Schema

namespace Graph

def markNullable (graph : Graph) (id : Nat) : Graph :=
  graph.modify id fun node => { node with nullable := true }

/-- Adds a wrapper that admits null or what an edge leads to; answers the edge to the wrapper. -/
def wrapNullable (graph : Graph) (edge : Edge) : Edge × Graph :=
  let source := (graph.node edge.target).source
  let (marker, graph) := graph.add (Node.nullMarker source)
  let (wrapper, graph) := graph.add (Node.nullableWrapper source edge marker)
  (.inline wrapper, graph)

/-- Decides for one property of an owner. -/
def nullProperty (owner : Nat) (required : List String) (graph : Graph) (property : String × Edge) : Graph :=
  let (key, edge) := property
  let target := graph.node edge.target
  if !target.xNullable.getD (!required.contains key) then graph
  else if !edge.viaRef || target.xNullable == some true then graph.markNullable edge.target
  else
    let (wrapper, graph) := graph.wrapNullable edge
    graph.modify owner fun node =>
      { node with properties := node.properties.map fun table => Assoc.insert table key wrapper }

/-- Values of undeclared keys admit null unless a schema of their own refuses it. -/
def nullAdditional (owner : Nat) (graph : Graph) : Graph :=
  match (graph.node owner).additional with
  | some (.schema edge) =>
      if edge.viaRef then
        let (wrapper, graph) := graph.wrapNullable edge
        graph.modify owner fun node => { node with additional := some (.schema wrapper) }
      else if (graph.node edge.target).xNullable == some false then graph
      else graph.markNullable edge.target
  | _ => graph

def nullObject (graph : Graph) (owner : Nat) : Graph :=
  let node := graph.node owner
  (node.propertyList.foldl (nullProperty owner node.required) graph).nullAdditional owner

/-- Items admit null only where their schema says so. -/
def nullItems (graph : Graph) (owner : Nat) : Graph :=
  match (graph.node owner).items with
  | some edge =>
      if (graph.node edge.target).xNullable == some true then graph.markNullable edge.target else graph
  | none => graph

/-- Query parameters that may be sent empty admit null. -/
def nullParameter (graph : Graph) (parameter : Parameter) : Graph :=
  if parameter.place = .query ∧ parameter.allowEmptyValue then graph.markNullable parameter.schema.target
  else graph

end Graph

end Schema

namespace Draft

def admitNull (draft : Draft) : Draft :=
  draft.modifyGraph fun graph =>
    let collections := draft.catalog.collections
    let objects := collections.objects.foldl Schema.Graph.nullObject graph
    let arrays := collections.arrays.foldl Schema.Graph.nullItems objects
    (draft.operations.flatMap (·.parameters)).foldl Schema.Graph.nullParameter arrays

end Draft

namespace Pass

def admitNull : Pass :=
  { name := "nullable", after := ["all-of"], action := .global fun draft => .ok draft.admitNull }

end Pass

end ApiContract
