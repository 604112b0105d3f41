import ApiContract.Pass.Closure
import ApiContract.Proofs.Schema.Graph

/-!
Closing and loosening change each collected object once, by what it says itself.
-/

namespace ApiContract

namespace Schema.Node

variable (node : Node) (isBase : Bool)

theorem closed_eq : node.closed isBase = { node with additional := (node.closed isBase).additional } := by
  unfold closed
  split <;> rfl

theorem loosened_eq : node.loosened = { node with typeName := node.loosened.typeName } := by
  unfold loosened
  split <;> rfl

theorem closed_additional : (node.closed isBase).additional = node.additional ∨
    (node.closed isBase).additional = some (.allowed false) ∧ node.additional = none ∧ node.tagMap = none ∧
      isBase = false ∧ node.hasProperties = true := by
  unfold closed
  split
  next closes =>
    right
    simp only [Bool.and_eq_true, Option.isNone_iff_eq_none, Bool.not_eq_true'] at closes
    exact ⟨rfl, closes.1.1.1, closes.1.1.2, closes.1.2, closes.2⟩
  · exact .inl rfl

theorem closed_of_silent {node : Node} (silent : node.additional = none) (untagged : node.tagMap = none)
    (declares : node.hasProperties = true) : (node.closed false).additional = some (.allowed false) := by
  simp [closed, silent, untagged, declares]

theorem loosened_typeName : node.loosened.typeName = node.typeName ∨
    node.loosened.typeName = none ∧ node.typeName = some "object" ∧ node.hasProperties = false ∧
      node.additional = none := by
  unfold loosened
  split
  next loosens =>
    right
    simp only [Bool.and_eq_true, Option.isNone_iff_eq_none, Bool.not_eq_true'] at loosens
    exact ⟨rfl, by simpa [isObjectTyped] using loosens.1.1, loosens.1.2, loosens.2⟩
  · exact .inl rfl

theorem closed_closed : (node.closed isBase).closed isBase = node.closed isBase := by
  by_cases closes : (node.additional.isNone && node.tagMap.isNone && !isBase && node.hasProperties) = true
  · have shut : node.closed isBase = { node with additional := some (.allowed false) } := if_pos closes
    rw [shut]
    exact if_neg (by simp)
  · have kept : node.closed isBase = node := if_neg closes
    rw [kept, kept]

theorem loosened_loosened : node.loosened.loosened = node.loosened := by
  by_cases loosens : (node.isObjectTyped && !node.hasProperties && node.additional.isNone) = true
  · have untyped : node.loosened = { node with typeName := none } := if_pos loosens
    rw [untyped]
    exact if_neg (by simp [isObjectTyped])
  · have kept : node.loosened = node := if_neg loosens
    rw [kept, kept]

end Schema.Node

namespace Draft

variable (draft : Draft) (id : Nat) (change : Nat → Schema.Node → Schema.Node)

/-- The draft with another graph of as many schemas. -/
structure SameBut (draft other : Draft) : Prop where
  size : other.graph.size = draft.graph.size
  collections : other.catalog.collections = draft.catalog.collections
  deferred : other.catalog.deferred = draft.catalog.deferred
  operations : other.operations = draft.operations
  baseSchemas : other.baseSchemas = draft.baseSchemas

theorem sameBut_foldl (owners : List Nat) :
    draft.SameBut (owners.foldl (fun draft id => draft.modifyNode id (change id)) draft) := by
  induction owners generalizing draft with
  | nil => exact ⟨rfl, rfl, rfl, rfl, rfl⟩
  | cons owner rest ih =>
      have later := ih (draft.modifyNode owner (change owner))
      exact ⟨later.size.trans (Schema.Graph.size_modify _ _ _), later.collections, later.deferred,
        later.operations, later.baseSchemas⟩

theorem node_foldl_of_notMem {owners : List Nat} (absent : id ∉ owners) :
    (owners.foldl (fun draft id => draft.modifyNode id (change id)) draft).graph.node id = draft.graph.node id := by
  induction owners generalizing draft with
  | nil => rfl
  | cons owner rest ih =>
      rw [List.mem_cons, not_or] at absent
      rw [List.foldl_cons, ih _ absent.2]
      exact Schema.Graph.node_modify_of_ne _ _ absent.1

theorem node_foldl_of_mem {id : Nat} (idempotent : ∀ node, change id (change id node) = change id node)
    {owners : List Nat} (member : id ∈ owners) (inside : id < draft.graph.size) :
    (owners.foldl (fun draft id => draft.modifyNode id (change id)) draft).graph.node id =
      change id (draft.graph.node id) := by
  induction owners generalizing draft with
  | nil => cases member
  | cons owner rest ih =>
      rw [List.foldl_cons]
      have kept : (draft.modifyNode owner (change owner)).graph.size = draft.graph.size :=
        Schema.Graph.size_modify _ _ _
      by_cases own : id = owner
      · subst own
        have changed : (draft.modifyNode id (change id)).graph.node id = change id (draft.graph.node id) :=
          Schema.Graph.node_modify_self _ inside
        by_cases again : id ∈ rest
        · rw [ih _ again (kept ▸ inside), changed, idempotent]
        · rw [node_foldl_of_notMem _ id change again, changed]
      · have later : id ∈ rest := (List.mem_cons.mp member).resolve_left own
        rw [ih _ later (kept ▸ inside)]
        exact congrArg (change id) (Schema.Graph.node_modify_of_ne _ _ own)

theorem closeObjects_sameBut : draft.SameBut draft.closeObjects := draft.sameBut_foldl _ _

theorem loosenObjects_sameBut : draft.SameBut draft.loosenObjects := draft.sameBut_foldl _ _

variable {id}

theorem node_closeObjects_of_mem (member : id ∈ draft.catalog.collections.objects) (inside : id < draft.graph.size) :
    draft.closeObjects.graph.node id = (draft.graph.node id).closed (draft.isBaseSchema id) :=
  draft.node_foldl_of_mem _ (fun node => node.closed_closed _) member inside

theorem node_closeObjects_of_notMem (absent : id ∉ draft.catalog.collections.objects) :
    draft.closeObjects.graph.node id = draft.graph.node id :=
  draft.node_foldl_of_notMem id _ absent

theorem node_loosenObjects_of_mem (member : id ∈ draft.catalog.collections.objects) (inside : id < draft.graph.size) :
    draft.loosenObjects.graph.node id = (draft.graph.node id).loosened :=
  draft.node_foldl_of_mem _ (fun node => node.loosened_loosened) member inside

theorem node_loosenObjects_of_notMem (absent : id ∉ draft.catalog.collections.objects) :
    draft.loosenObjects.graph.node id = draft.graph.node id :=
  draft.node_foldl_of_notMem id _ absent

end Draft

end ApiContract
