import Mathlib.Data.List.Forall2
import Mathlib.Logic.Relation
import ApiContract.Proofs.Schema.Graph
import ApiContract.Proofs.Stateful
import ApiContract.Schema.Reading

/-!
Reading takes small steps: it adds placeholders and schemas, names them, and attaches subschemas to
schemas that were collected. Everything that is read is reached by such steps (`Built`).
-/

namespace ApiContract.Schema

open Json (Value)

namespace Catalog

def place (catalog : Catalog) (url pointer : String) (node : Node) : Catalog :=
  { catalog with
    graph := (catalog.graph.add node).2.bind (Reading.locationOf url pointer) catalog.graph.size }

def collect (catalog : Catalog) (kind : Kind) (id : Nat) : Catalog :=
  { catalog with collections := catalog.collections.add kind id }

def change (catalog : Catalog) (id : Nat) (change : Node → Node) : Catalog :=
  { catalog with graph := catalog.graph.modify id change }

def spoil (catalog : Catalog) (id : Nat) (error : CompileError) : Catalog :=
  { catalog with deferred := catalog.deferred.add id error }

end Catalog

def Collections.ofKind (collections : Collections) : Kind → List Nat
  | .object => collections.objects
  | .array => collections.arrays
  | .primitive => collections.primitives

/-- What is attached to a schema after it was added. -/
inductive Attachment where
  | properties (entries : Assoc Edge)
  | items (edge : Edge)
  | additional (others : Additional)
  | allOf (edges : List Edge)
  | anyOf (edges : List Edge)
  | oneOf (edges : List Edge)

namespace Attachment

def attach : Attachment → Node → Node
  | properties entries, node => { node with properties := some entries }
  | items edge, node => { node with items := some edge }
  | additional others, node => { node with additional := some others }
  | allOf edges, node => { node with allOf := some edges }
  | anyOf edges, node => { node with anyOf := some edges }
  | oneOf edges, node => { node with oneOf := some edges }

def edges : Attachment → List Edge
  | properties entries => entries.map Prod.snd
  | items edge => [edge]
  | additional (.schema edge) => [edge]
  | additional (.allowed _) => []
  | allOf edges => edges
  | anyOf edges => edges
  | oneOf edges => edges

end Attachment

namespace Reading

/-- One step of reading. -/
inductive Step (catalog : Catalog) : Catalog → Prop
  | placeholder {url pointer identity} : catalog.graph.lookup (locationOf url pointer) = none →
      Step catalog (catalog.place url pointer { identity, source := .within url pointer })
  | schema {url pointer identity raw} : catalog.graph.lookup (locationOf url pointer) = none →
      Step catalog ((catalog.place url pointer (nodeOf (.within url pointer) identity raw)).collect
        (nodeOf (.within url pointer) identity raw).kind catalog.graph.size)
  | identify {id identity} :
      Step catalog (catalog.change id fun node => if node.identity.isNone then { node with identity } else node)
  | attach {id} (attachment : Attachment) : id < catalog.graph.size →
      id ∈ catalog.collections.ofKind (catalog.graph.node id).kind →
      (∀ edge ∈ attachment.edges, edge.target < catalog.graph.size) →
      Step catalog (catalog.change id attachment.attach)
  | spoil {id error} : Step catalog (catalog.spoil id error)

abbrev Grows : Catalog → Catalog → Prop := Relation.ReflTransGen Step

/-- What can be reached by reading. -/
abbrev Built (catalog : Catalog) : Prop := Grows {} catalog

/-! ## What lasts -/

theorem Step.size_le {before after : Catalog} (step : Step before after) :
    before.graph.size ≤ after.graph.size := by
  cases step with
  | placeholder | schema => simp [Catalog.collect, Catalog.place]
  | identify | attach => simp [Catalog.change]
  | spoil => exact Nat.le_refl _

theorem Grows.size_le {before after : Catalog} (grows : Grows before after) :
    before.graph.size ≤ after.graph.size := by
  induction grows with
  | refl => exact Nat.le_refl _
  | tail _ step ih => exact Nat.le_trans ih step.size_le

/-- The schema has a node that was collected by its kind. -/
structure Collected (catalog : Catalog) (id : Nat) : Prop where
  inside : id < catalog.graph.size
  member : id ∈ catalog.collections.ofKind (catalog.graph.node id).kind

theorem kind_attach (attachment : Attachment) (node : Node) : (attachment.attach node).kind = node.kind := by
  cases attachment <;> rfl

theorem node_change (catalog : Catalog) (id other : Nat) (change : Node → Node) :
    (catalog.change id change).graph.node other =
      if other = id ∧ id < catalog.graph.size then change (catalog.graph.node other)
      else catalog.graph.node other := by
  unfold Catalog.change
  by_cases same : other = id
  · subst same
    by_cases inside : other < catalog.graph.size
    · simp [inside, Graph.node_modify_self change inside]
    · simp [inside, Graph.node_modify_outside _ _ (Nat.le_of_not_lt inside)]
  · simp [same, Graph.node_modify_of_ne _ _ same]

theorem node_place_of_ne {catalog : Catalog} {url pointer : String} {node : Node} {id : Nat}
    (different : id ≠ catalog.graph.size) :
    (catalog.place url pointer node).graph.node id = catalog.graph.node id := by
  simp [Catalog.place, Graph.node_add_of_ne _ different]

theorem node_place_self (catalog : Catalog) (url pointer : String) (node : Node) :
    (catalog.place url pointer node).graph.node catalog.graph.size = node := by
  simp [Catalog.place]

theorem mem_ofKind_add {collections : Collections} {kind other : Kind} {id added : Nat} :
    id ∈ (collections.add kind added).ofKind other ↔
      id ∈ collections.ofKind other ∨ kind = other ∧ id = added := by
  cases kind <;> cases other <;> simp [Collections.add, Collections.ofKind]

theorem Step.collected {before after : Catalog} (step : Step before after) {id : Nat}
    (collected : Collected before id) : Collected after id := by
  refine ⟨Nat.lt_of_lt_of_le collected.inside step.size_le, ?_⟩
  have member := collected.member
  have old := Nat.ne_of_lt collected.inside
  cases step with
  | placeholder => rwa [node_place_of_ne old]
  | schema =>
      rw [Catalog.collect, node_place_of_ne old]
      exact mem_ofKind_add.mpr (.inl member)
  | identify =>
      rw [node_change]
      split
      · split <;> exact member
      · exact member
  | attach attachment =>
      rw [node_change]
      split
      · rw [kind_attach]
        exact member
      · exact member
  | spoil => exact member

theorem Grows.collected {before after : Catalog} (grows : Grows before after) {id : Nat}
    (collected : Collected before id) : Collected after id := by
  induction grows with
  | refl => exact collected
  | tail _ step ih => exact step.collected ih

theorem lookup_place_self (catalog : Catalog) (url pointer : String) (node : Node) :
    (catalog.place url pointer node).graph.lookup (locationOf url pointer) = some catalog.graph.size :=
  Assoc.find?_insert_self _ _ _

theorem lookup_place_of_ne (catalog : Catalog) {url pointer location : String} (node : Node)
    (different : location ≠ locationOf url pointer) :
    (catalog.place url pointer node).graph.lookup location = catalog.graph.lookup location :=
  Assoc.find?_insert_of_ne _ _ different

theorem Step.lookup {before after : Catalog} (step : Step before after) {location : String} {id : Nat}
    (found : before.graph.lookup location = some id) : after.graph.lookup location = some id := by
  cases step with
  | placeholder free | schema free =>
      rw [← found]
      refine lookup_place_of_ne before _ fun same => ?_
      cases (same ▸ free).symm.trans found
  | identify | attach | spoil => exact found

/-- A location keeps the node that it is bound to. -/
theorem Grows.lookup {before after : Catalog} (grows : Grows before after) {location : String} {id : Nat}
    (found : before.graph.lookup location = some id) : after.graph.lookup location = some id := by
  induction grows with
  | refl => exact found
  | tail _ step ih => exact step.lookup ih

theorem Grows.lookup_eq_none {before after : Catalog} (grows : Grows before after) {location : String}
    (free : after.graph.lookup location = none) : before.graph.lookup location = none := by
  cases known : before.graph.lookup location with
  | none => rfl
  | some id => cases (grows.lookup known).symm.trans free

theorem Built.lookup_lt {catalog : Catalog} (built : Built catalog) {location : String} {id : Nat}
    (found : catalog.graph.lookup location = some id) : id < catalog.graph.size := by
  induction built generalizing location id with
  | refl => cases found
  | @tail before after _ step ih =>
      have placed {url pointer : String} {node : Node}
          (found : (before.place url pointer node).graph.lookup location = some id) : id < before.graph.size + 1 := by
        by_cases own : location = locationOf url pointer
        · subst own
          cases (lookup_place_self before url pointer node).symm.trans found
          exact Nat.lt_succ_self _
        · rw [lookup_place_of_ne before node own] at found
          exact Nat.lt_succ_of_lt (ih found)
      cases step with
      | placeholder | schema =>
          have bound := placed found
          simpa [Catalog.collect, Catalog.place] using bound
      | identify | attach =>
          have bound := ih found
          simpa [Catalog.change] using bound
      | spoil => exact ih found

end Reading

end ApiContract.Schema
