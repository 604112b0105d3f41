import ApiContract.Pass.Basic

/-!
Inheritance. An object schema takes over the properties and the required names of its `allOf`
branches, after these have taken over those of theirs; its own properties win, and of the branches
the first. The branches are then forgotten, except by base schemas that lead on to their root.
-/

namespace ApiContract

namespace Schema

namespace Node

/-- Only objects, and schemas without a type, inherit. -/
def inherits (node : Node) : Bool := node.typeName.all (· == "object")

/-- A node that takes over what it lacks of a parent. -/
def absorb (node parent : Node) : Node :=
  { node with
    properties := node.properties.map fun own =>
      parent.propertyList.foldl (fun table entry => Assoc.insertNew table entry.1 entry.2) own
    required := parent.required.foldl (fun names name =>
      if names.contains name then names else names ++ [name]) node.required }

end Node

/-- A graph in which some schemas have been merged already. -/
structure Merging where
  graph : Graph
  visited : List Nat := []

namespace Merging

def modifyNode (id : Nat) (change : Node → Node) (merging : Merging) : Merging :=
  { merging with graph := merging.graph.modify id change }

def visit (id : Nat) (merging : Merging) : Merging :=
  { merging with visited := id :: merging.visited }

/-- Merges the branches of a schema into it, each after its own branches. -/
def merge (bases : List Nat) : Nat → Nat → StateT Merging Option Unit
  | 0, _ => failure
  | fuel + 1, id => do
      let merging ← get
      let node := merging.graph.node id
      match node.allOf with
      | none => return ()
      | some branches =>
          if !node.inherits || merging.visited.contains id then return ()
          else
            modify (visit id)
            modify (modifyNode id fun node => { node with properties := some node.propertyList })
            branches.forM fun branch => do
              merge bases fuel branch.target
              let parent := (← get).graph.node branch.target
              modify (modifyNode id (·.absorb parent))
            modify (modifyNode id fun node =>
              if bases.contains id && node.discriminator.isNone then node else { node with allOf := none })

/-- Every merge below another one visits a new schema, so the number of nodes bounds how deep they go. -/
def mergeAll (bases objects : List Nat) (graph : Graph) : Option Graph :=
  ((objects.forM (merge bases (graph.size + 1))).run { graph }).map fun (_, merging) => merging.graph

end Merging

end Schema

namespace Draft

def mergeBranches (draft : Draft) : Except Interruption Draft :=
  match Schema.Merging.mergeAll draft.baseSchemas draft.catalog.collections.objects draft.graph with
  | some graph => .ok (draft.modifyGraph fun _ => graph)
  | none => .error .outOfSteps

end Draft

namespace Pass

def mergeBranches : Pass :=
  { name := "all-of", before := ["no-additional-properties", "nullable"]
    action := .global Draft.mergeBranches }

end Pass

end ApiContract
