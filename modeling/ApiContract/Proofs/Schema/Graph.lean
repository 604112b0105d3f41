import ApiContract.Schema.Graph

/-!
Nodes of graphs that nodes were added to or changed in, and where nodes lead.
-/

namespace ApiContract.Schema

namespace Node

/-- The property with the tag, and where the tags lead. -/
def routing? (node : Node) : Option (String × Assoc (Option Nat)) :=
  node.discriminator.bind fun property => node.tagMap.map fun tags => (property, tags)

/-- The schemas that validation may go on to from a schema. -/
inductive LeadsTo (node : Node) : Nat → Prop
  | property {key edge} : (key, edge) ∈ node.propertyList → LeadsTo node edge.target
  | additional {edge} : node.additional = some (.schema edge) → LeadsTo node edge.target
  | items {edge} : node.items = some edge → LeadsTo node edge.target
  | allOf {edge} : edge ∈ node.allOf.getD [] → LeadsTo node edge.target
  | anyOf {edge} : edge ∈ node.anyOf.getD [] → LeadsTo node edge.target
  | oneOf {edge} : edge ∈ node.oneOf.getD [] → LeadsTo node edge.target
  | variant {property tags tag id} : node.routing? = some (property, tags) → (tag, some id) ∈ tags →
      LeadsTo node id

end Node

namespace Graph

variable (graph : Graph) (id other : Nat) (node : Node) (change : Node → Node)

theorem node_of_size_le {graph : Graph} {id : Nat} (outside : graph.size ≤ id) : graph.node id = default := by
  unfold size at outside
  simp [Graph.node, Array.getD, Nat.not_lt.mpr outside]

@[simp] theorem size_modify : (graph.modify id change).size = graph.size := by
  simp [size, modify]

@[simp] theorem size_add : (graph.add node).2.size = graph.size + 1 := by
  simp [size, add]

@[simp] theorem add_fst : (graph.add node).1 = graph.size := rfl

@[simp] theorem locations_modify : (graph.modify id change).locations = graph.locations := rfl

@[simp] theorem node_bind (location : String) : (graph.bind location id).node other = graph.node other := rfl

@[simp] theorem size_bind (location : String) : (graph.bind location id).size = graph.size := rfl

theorem node_modify_self {graph : Graph} {id : Nat} (inside : id < graph.size) :
    (graph.modify id change).node id = change (graph.node id) := by
  unfold size at inside
  simp [Graph.node, modify, Array.getD, inside, Array.getElem_modify]

theorem node_modify_of_ne {id other : Nat} (different : other ≠ id) :
    (graph.modify id change).node other = graph.node other := by
  by_cases inside : other < graph.nodes.size
  · simp [Graph.node, modify, Array.getD, inside, Array.getElem_modify, Ne.symm different]
  · simp [Graph.node, modify, Array.getD, inside]

theorem node_modify_outside {graph : Graph} {id : Nat} (outside : graph.size ≤ id) :
    (graph.modify id change).node other = graph.node other := by
  by_cases same : other = id
  · subst same
    rw [node_of_size_le outside, node_of_size_le (by rwa [size_modify])]
  · exact node_modify_of_ne graph change same

theorem node_add_of_ne {graph : Graph} {id : Nat} (different : id ≠ graph.size) :
    (graph.add node).2.node id = graph.node id := by
  by_cases inside : id < graph.size
  · unfold size at inside
    simp [Graph.node, add, Array.getD, inside, Nat.lt_succ_of_lt inside, Array.getElem_push_lt inside]
  · rw [node_of_size_le (Nat.le_of_not_lt inside), node_of_size_le]
    rw [size_add]
    omega

@[simp] theorem node_add_self : (graph.add node).2.node graph.size = node := by
  simp [Graph.node, add, size, Array.getD]

/-- Graphs with the same nodes and places are the same. -/
theorem ext_node {graph other : Graph} (size : graph.size = other.size) (locations : graph.locations = other.locations)
    (nodes : ∀ id, graph.node id = other.node id) : graph = other := by
  obtain ⟨own, _⟩ := graph
  obtain ⟨others, _⟩ := other
  cases locations
  congr 1
  refine Array.ext size fun id inside insideToo => ?_
  have same := nodes id
  simpa [Graph.node, Array.getD, inside, insideToo] using same

end Graph

end ApiContract.Schema
