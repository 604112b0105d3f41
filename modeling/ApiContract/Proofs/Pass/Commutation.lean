import ApiContract.Proofs.Pass.Closure
import ApiContract.Proofs.Pass.Nullability

/-!
Closing objects and admitting null do not interfere (`closeObjects_admitNull`). Closing writes only what a schema
says of other keys, and only where it says nothing; admitting null reads this only where it names a schema. The
schemas that admitting null adds have no properties, and no schema gets its first property by it, so that closing
finds the same schemas to close.
-/

namespace ApiContract

namespace Schema

namespace Node

variable {node : Node} {isBase : Bool}

theorem closed_of_bare (bare : node.hasProperties = false) : node.closed isBase = node := by
  simp [closed, bare]

theorem closed_nullable (node : Node) (isBase : Bool) :
    ({ node with nullable := true } : Node).closed isBase = { node.closed isBase with nullable := true } := by
  unfold closed Node.hasProperties Node.propertyList
  dsimp only
  split <;> rfl

theorem hasProperties_insert (key : String) (edge : Edge) (declares : node.hasProperties = true) :
    ({ node with properties := node.properties.map fun table => Assoc.insert table key edge } : Node).hasProperties =
      true := by
  unfold hasProperties propertyList at declares ⊢
  dsimp only
  rcases listed : node.properties with _ | _ | ⟨first, rest⟩
  · simp [listed] at declares
  · simp [listed] at declares
  · rw [Option.map_some, Option.getD_some, Assoc.insert]
    split <;> rfl

/-- Where there are properties already, closing does not see another one. -/
theorem closed_insert (key : String) (edge : Edge) (declares : node.hasProperties = true) :
    ({ node with properties := node.properties.map fun table => Assoc.insert table key edge } : Node).closed isBase =
      { node.closed isBase with
        properties := (node.closed isBase).properties.map fun table => Assoc.insert table key edge } := by
  unfold closed
  rw [hasProperties_insert key edge declares, declares]
  dsimp only
  split <;> rfl

/-- What a schema is told of other keys by others wins over closing it. -/
theorem closed_override (edge : Edge) :
    ({ node with additional := some (.schema edge) } : Node).closed isBase =
      { node.closed isBase with additional := some (.schema edge) } := by
  rw [closed_eq node isBase]
  exact if_neg (by simp)

theorem additional_closed_iff (edge : Edge) :
    (node.closed isBase).additional = some (.schema edge) ↔ node.additional = some (.schema edge) := by
  rcases node.closed_additional isBase with same | ⟨shut, silent, _⟩
  · rw [same]
  · simp [shut, silent]

end Node

namespace Graph

variable {graph : Graph} {isBase : Bool} {id owner : Nat}

theorem modify_modify_comm {first second : Nat} {change other : Node → Node}
    (commutes : first = second → other (change (graph.node first)) = change (other (graph.node first))) :
    (graph.modify first change).modify second other = (graph.modify second other).modify first change := by
  have nodes : (graph.nodes.modify first change).modify second other =
      (graph.nodes.modify second other).modify first change := by
    refine Array.ext (by simp) fun place inside _ => ?_
    have below : place < graph.nodes.size := by simpa using inside
    simp only [Array.getElem_modify]
    by_cases here : first = place
    · subst here
      by_cases both : second = first
      · subst both
        have here : graph.node second = graph.nodes[second] := by simp [node, Array.getD, below]
        simpa [here] using commutes rfl
      · simp [both]
    · simp [here]
  simp only [modify, nodes]

theorem add_modify {change : Node → Node} {node : Node} (fixed : change node = node) :
    ((graph.modify id change).add node) = ((graph.add node).1, (graph.add node).2.modify id change) := by
  have nodes : (graph.nodes.modify id change).push node = (graph.nodes.push node).modify id change := by
    refine Array.ext (by simp) fun place inside _ => ?_
    have below : place < graph.nodes.size + 1 := by simpa using inside
    by_cases old : place < graph.nodes.size
    · simp [Array.getElem_modify, Array.getElem_push, old]
    · simp [Array.getElem_modify, Array.getElem_push, old, fixed]
  simp [add, modify, nodes]

def close (isBase : Bool) (id : Nat) (graph : Graph) : Graph := graph.modify id (·.closed isBase)

theorem node_close_self : (graph.close isBase id).node id = (graph.node id).closed isBase := by
  by_cases inside : id < graph.size
  · exact node_modify_self _ inside
  · rw [close, node_modify_outside _ _ (Nat.le_of_not_lt inside), node_of_size_le (Nat.le_of_not_lt inside)]
    exact (Node.closed_of_bare rfl).symm

theorem node_close_of_ne {other : Nat} (different : other ≠ id) :
    (graph.close isBase id).node other = graph.node other :=
  node_modify_of_ne _ _ different

/-- Closing changes nothing but what is said of other keys. -/
theorem read_close {α : Type} (read : Node → α) (blind : ∀ node additional, read { node with additional } = read node)
    (other : Nat) : read ((graph.close isBase id).node other) = read (graph.node other) := by
  by_cases same : other = id
  · subst same
    rw [node_close_self, Node.closed_eq, blind]
  · rw [node_close_of_ne same]

theorem xNullable_close (other : Nat) :
    ((graph.close isBase id).node other).xNullable = (graph.node other).xNullable :=
  read_close Node.xNullable (fun _ _ => rfl) other

theorem additional_close_iff (edge : Edge) :
    ((graph.close isBase id).node owner).additional = some (.schema edge) ↔
      (graph.node owner).additional = some (.schema edge) := by
  by_cases same : owner = id
  · subst same
    rw [node_close_self, Node.additional_closed_iff]
  · rw [node_close_of_ne same]

/-! ## Decisions about null -/

theorem close_markNullable (target : Nat) :
    (graph.close isBase id).markNullable target = (graph.markNullable target).close isBase id :=
  modify_modify_comm fun _ => (Node.closed_nullable _ _).symm

theorem close_add {node : Node} (bare : node.hasProperties = false) :
    (graph.close isBase id).add node = ((graph.add node).1, (graph.add node).2.close isBase id) :=
  add_modify (Node.closed_of_bare bare)

theorem close_wrapNullable (edge : Edge) :
    (graph.close isBase id).wrapNullable edge =
      ((graph.wrapNullable edge).1, (graph.wrapNullable edge).2.close isBase id) := by
  have source : ((graph.close isBase id).node edge.target).source = (graph.node edge.target).source :=
    read_close Node.source (fun _ _ => rfl) edge.target
  have marker (source : SourceLocation) : (Node.nullMarker source).hasProperties = false := rfl
  have wrapper (source : SourceLocation) (marker : Nat) :
      (Node.nullableWrapper source edge marker).hasProperties = false := rfl
  simp only [wrapNullable, source, close_add (marker _), close_add (wrapper _ _)]

theorem close_wrapAdditional (edge : Edge) :
    (graph.close isBase id).wrapAdditional owner edge = (graph.wrapAdditional owner edge).close isBase id := by
  unfold wrapAdditional
  rw [close_wrapNullable]
  exact modify_modify_comm fun _ => (Node.closed_override _).symm

theorem inside_of_hasProperties (declares : (graph.node owner).hasProperties = true) : owner < graph.size := by
  refine Nat.lt_of_not_le fun outside => ?_
  rw [node_of_size_le outside] at declares
  cases declares

theorem close_wrapProperty (key : String) (edge : Edge) (declares : (graph.node owner).hasProperties = true) :
    (graph.close isBase id).wrapProperty owner key edge = (graph.wrapProperty owner key edge).close isBase id := by
  unfold wrapProperty
  rw [close_wrapNullable]
  refine modify_modify_comm fun same => ?_
  subst same
  have kept : (graph.wrapNullable edge).2.node id = graph.node id :=
    node_wrapNullable_of_lt (inside_of_hasProperties declares)
  exact (Node.closed_insert key _ (kept.symm ▸ declares)).symm

theorem nullProperty_eq (required : List String) (key : String) (edge : Edge) :
    graph.nullProperty owner required (key, edge) =
      if !(graph.node edge.target).xNullable.getD (!required.contains key) then graph
      else if !edge.viaRef || (graph.node edge.target).xNullable == some true then graph.markNullable edge.target
      else graph.wrapProperty owner key edge := rfl

theorem nullAdditional_eq_of_schema {edge : Edge} (said : (graph.node owner).additional = some (.schema edge)) :
    graph.nullAdditional owner =
      if edge.viaRef then graph.wrapAdditional owner edge
      else if (graph.node edge.target).xNullable == some false then graph
      else graph.markNullable edge.target := by
  rw [nullAdditional, said]
  rfl

theorem nullAdditional_eq_self (unsaid : ∀ edge, (graph.node owner).additional ≠ some (.schema edge)) :
    graph.nullAdditional owner = graph := by
  unfold nullAdditional
  split
  next edge said => exact absurd said (unsaid edge)
  · rfl

theorem hasProperties_nullProperty (required : List String) (property : String × Edge)
    (declares : (graph.node owner).hasProperties = true) :
    ((graph.nullProperty owner required property).node owner).hasProperties = true := by
  obtain ⟨key, edge⟩ := property
  rw [nullProperty_eq]
  split
  · exact declares
  · split
    · rw [node_markNullable]
      exact declares
    · rw [node_wrapProperty_self key edge (inside_of_hasProperties declares)]
      exact Node.hasProperties_insert key _ declares

theorem close_nullProperty (required : List String) (property : String × Edge)
    (declares : (graph.node owner).hasProperties = true) :
    (graph.close isBase id).nullProperty owner required property =
      (graph.nullProperty owner required property).close isBase id := by
  obtain ⟨key, edge⟩ := property
  rw [nullProperty_eq, nullProperty_eq, xNullable_close]
  split
  · rfl
  · split
    · exact close_markNullable edge.target
    · exact close_wrapProperty key edge declares

theorem close_nullProperties (required : List String) (properties : Assoc Edge)
    (declares : (graph.node owner).hasProperties = true) :
    properties.foldl (nullProperty owner required) (graph.close isBase id) =
      (properties.foldl (nullProperty owner required) graph).close isBase id := by
  induction properties generalizing graph with
  | nil => rfl
  | cons property rest ih =>
      rw [List.foldl_cons, List.foldl_cons, close_nullProperty required property declares]
      exact ih (hasProperties_nullProperty required property declares)

theorem close_nullAdditional (owner : Nat) :
    (graph.close isBase id).nullAdditional owner = (graph.nullAdditional owner).close isBase id := by
  by_cases said : ∃ edge, (graph.node owner).additional = some (.schema edge)
  · obtain ⟨edge, said⟩ := said
    rw [nullAdditional_eq_of_schema said, nullAdditional_eq_of_schema ((additional_close_iff edge).mpr said),
      xNullable_close]
    split
    · exact close_wrapAdditional edge
    · split
      · rfl
      · exact close_markNullable edge.target
  · rw [not_exists] at said
    rw [nullAdditional_eq_self said,
      nullAdditional_eq_self fun edge said' => said edge ((additional_close_iff edge).mp said')]

theorem close_nullObject (owner : Nat) :
    (graph.close isBase id).nullObject owner = (graph.nullObject owner).close isBase id := by
  have listed : ((graph.close isBase id).node owner).propertyList = (graph.node owner).propertyList :=
    read_close Node.propertyList (fun _ _ => rfl) owner
  have required : ((graph.close isBase id).node owner).required = (graph.node owner).required :=
    read_close Node.required (fun _ _ => rfl) owner
  simp only [nullObject, listed, required]
  by_cases declares : (graph.node owner).hasProperties = true
  · rw [close_nullProperties _ _ declares, close_nullAdditional]
  · -- without properties there is nothing to decide but what other keys admit
    have empty : (graph.node owner).propertyList = [] := by simpa [Node.hasProperties] using declares
    rw [empty]
    exact close_nullAdditional owner

theorem close_nullItems (owner : Nat) :
    (graph.close isBase id).nullItems owner = (graph.nullItems owner).close isBase id := by
  have items : ((graph.close isBase id).node owner).items = (graph.node owner).items :=
    read_close Node.items (fun _ _ => rfl) owner
  unfold nullItems
  rw [items]
  split
  next edge _ =>
    rw [xNullable_close]
    split
    · exact close_markNullable edge.target
    · rfl
  · rfl

theorem close_nullParameter (parameter : Parameter) :
    (graph.close isBase id).nullParameter parameter = (graph.nullParameter parameter).close isBase id := by
  unfold nullParameter
  split
  · exact close_markNullable parameter.schema.target
  · rfl

/-- All decisions about null, over the collected objects and arrays and the parameters of operations. -/
def nullAll (objects arrays : List Nat) (parameters : List Parameter) (graph : Graph) : Graph :=
  parameters.foldl nullParameter (arrays.foldl nullItems (objects.foldl nullObject graph))

theorem close_nullAll (objects arrays : List Nat) (parameters : List Parameter) :
    (graph.close isBase id).nullAll objects arrays parameters =
      (graph.nullAll objects arrays parameters).close isBase id := by
  unfold nullAll
  rw [List.foldl_hom (close isBase id) fun _ => close_nullObject,
    List.foldl_hom (close isBase id) fun _ => close_nullItems,
    List.foldl_hom (close isBase id) fun _ => close_nullParameter]

end Graph

end Schema

namespace Draft

open Schema (Graph)

theorem closeObjects_eq (draft : Draft) : draft.closeObjects = draft.modifyGraph fun graph =>
    draft.catalog.collections.objects.foldl (fun graph id => graph.close (draft.isBaseSchema id) id) graph := by
  have each (owners : List Nat) (current : Draft) :
      owners.foldl (fun current id => current.modifyNode id (·.closed (draft.isBaseSchema id))) current =
        current.modifyGraph fun graph =>
          owners.foldl (fun graph id => graph.close (draft.isBaseSchema id) id) graph := by
    induction owners generalizing current with
    | nil => rfl
    | cons owner rest ih =>
        rw [List.foldl_cons, ih]
        rfl
  exact each _ draft

/-- Closing objects and admitting null do not depend on which of them comes first. -/
theorem closeObjects_admitNull (draft : Draft) : draft.closeObjects.admitNull = draft.admitNull.closeObjects := by
  rw [closeObjects_eq, closeObjects_eq]
  let collections := draft.catalog.collections
  let nullify := Graph.nullAll collections.objects collections.arrays (draft.operations.flatMap (·.parameters))
  let shut := fun (graph : Graph) id => graph.close (draft.isBaseSchema id) id
  have commutes : nullify (collections.objects.foldl shut draft.graph) =
      collections.objects.foldl shut (nullify draft.graph) :=
    (List.foldl_hom nullify fun _ _ => (Graph.close_nullAll _ _ _).symm).symm
  exact congrArg (fun graph => draft.modifyGraph fun _ => graph) commutes

end Draft

end ApiContract
