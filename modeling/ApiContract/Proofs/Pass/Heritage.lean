import ApiContract.Proofs.Pass.Finish
import ApiContract.Proofs.Pass.Hierarchy
import ApiContract.Proofs.Pass.Inheritance

/-!
What becomes of what was written, stage by stage.
-/

namespace ApiContract

namespace Schema

variable {graph tagged : Graph}

theorem Retagged.inheritsFrom (retagged : Retagged graph tagged) : InheritsFrom tagged = InheritsFrom graph := by
  funext id parent
  unfold InheritsFrom
  rw [retagged.node id]
  rfl

theorem Retagged.founded (retagged : Retagged graph tagged) {id : Nat} (founded : Founded graph id) :
    Founded tagged id := by
  unfold Founded Lineage at *
  rwa [retagged.inheritsFrom]

theorem InheritsFrom.mergeable {id parent : Nat} (inherits : InheritsFrom graph id parent) : Mergeable graph id := by
  obtain ⟨typed, branches, listed, _⟩ := inherits
  exact ⟨typed, by simp [listed]⟩

end Schema

namespace Draft

open Schema Schema.Reading

variable {documents : DocumentSet} {written tagged merged final : Draft}

theorem mergeBranches_outcome (merge : tagged.mergeBranches = .ok merged) :
    Merging.Outcome tagged.graph tagged.baseSchemas tagged.catalog.collections.objects merged.graph ∧
      merged.catalog.collections = tagged.catalog.collections ∧ merged.catalog.deferred = tagged.catalog.deferred ∧
      merged.operations = tagged.operations ∧ merged.baseSchemas = tagged.baseSchemas := by
  unfold mergeBranches at merge
  split at merge
  next graph answered =>
    cases merge
    exact ⟨Merging.mergeAll_outcome answered, rfl, rfl, rfl, rfl⟩
  · cases merge

namespace Stages

variable (stages : Stages documents written tagged merged final)

include stages

theorem built : Built written.catalog := stages.read.fresh.built

theorem retagged : Retagged written.graph tagged.graph := (buildTagMaps_retags stages.tags).1.1

theorem outcome : Merging.Outcome tagged.graph tagged.baseSchemas written.catalog.collections.objects merged.graph := by
  have same := (buildTagMaps_retags stages.tags).1.2
  rw [← same]
  exact (mergeBranches_outcome stages.branches).1

theorem collections : merged.catalog.collections = written.catalog.collections :=
  (mergeBranches_outcome stages.branches).2.1.trans (buildTagMaps_retags stages.tags).1.2

theorem size : merged.graph.size = written.graph.size :=
  stages.outcome.size.trans stages.retagged.size

theorem inside {id : Nat} (member : id ∈ merged.catalog.collections.objects) : id < merged.graph.size := by
  rw [stages.collections] at member
  rw [stages.size]
  have collected : id ∈ written.catalog.collections.ofKind .object := member
  exact (stages.built.ofKind collected).1

theorem last : Last merged final := by
  rw [stages.finish]
  exact last_passes fun id member => stages.inside member

/-- Inheritance and tags leave the other keywords as they are written. -/
theorem merged_node (id : Nat) : merged.graph.node id = { written.graph.node id with
    tagMap := (tagged.graph.node id).tagMap
    properties := (merged.graph.node id).properties
    required := (merged.graph.node id).required
    allOf := (merged.graph.node id).allOf } := by
  have apart := (stages.outcome.widened id).apart
  unfold Node.SameApart at apart
  rw [apart, stages.retagged.node id]

theorem merged_nullable (id : Nat) : (merged.graph.node id).nullable = false := by
  rw [stages.merged_node id]
  exact (stages.built.written id).nullable

theorem tagged_propertyList (id : Nat) :
    (tagged.graph.node id).propertyList = (written.graph.node id).propertyList := by
  rw [stages.retagged.node id]
  rfl

theorem tagged_required (id : Nat) : (tagged.graph.node id).required = (written.graph.node id).required := by
  rw [stages.retagged.node id]

theorem mem_merged_allOf {id : Nat} {edge : Edge} (member : edge ∈ (merged.graph.node id).allOf.getD []) :
    edge ∈ (written.graph.node id).allOf.getD [] := by
  have taggedAllOf : (tagged.graph.node id).allOf = (written.graph.node id).allOf := by
    rw [stages.retagged.node id]
  rcases (stages.outcome.widened id).allOf with forgotten | kept
  · rw [forgotten] at member
    cases member
  · rwa [kept, taggedAllOf] at member

theorem merged_discriminator (id : Nat) :
    (merged.graph.node id).discriminator = (written.graph.node id).discriminator := by
  rw [stages.merged_node id]

theorem baseSchemas : merged.baseSchemas = tagged.baseSchemas := (mergeBranches_outcome stages.branches).2.2.2.2

/-- Tags lead to collected schemas, from which base schemas lead back to the root. -/
theorem mapped {root variant : Nat} {tag : String} {tags : Assoc (Option Nat)}
    (mapped : (merged.graph.node root).tagMap = some tags) (among : (tag, some variant) ∈ tags) :
    variant ∈ merged.catalog.collections.objects ∧ root ≠ variant ∧
      Ascends written.graph merged.baseSchemas root variant := by
  rw [stages.merged_node root] at mapped
  have unmapped : ∀ id, (written.graph.node id).tagMap = none := fun id => (stages.built.written id).tagMap
  rw [stages.collections, stages.baseSchemas]
  exact buildTagMaps_variants stages.tags unmapped root tags tag variant mapped among

theorem ascends {root variant : Nat} {property tag : String} {tags : Assoc (Option Nat)}
    (routes : (merged.graph.node root).routing? = some (property, tags)) (among : (tag, some variant) ∈ tags) :
    variant ∈ merged.catalog.collections.objects ∧ root ≠ variant ∧
      Ascends written.graph merged.baseSchemas root variant := by
  unfold Node.routing? at routes
  obtain ⟨_, _, found⟩ := Option.bind_eq_some_iff.mp routes
  obtain ⟨_, same, pair⟩ := Option.map_eq_some_iff.mp found
  cases pair
  exact stages.mapped same among

theorem variants {id variant : Nat} {property tag : String} {tags : Assoc (Option Nat)}
    (routes : (merged.graph.node id).routing? = some (property, tags)) (among : (tag, some variant) ∈ tags) :
    variant < merged.graph.size ∧ (merged.graph.node variant).discriminator = none := by
  obtain ⟨collected, different, ascends⟩ := stages.ascends routes among
  refine ⟨stages.inside collected, ?_⟩
  rw [stages.merged_discriminator]
  exact ascends.plain different

theorem source {id : Nat} {entry : String × Edge} (member : entry ∈ (merged.graph.node id).propertyList) :
    ∃ ancestor, Lineage written.graph id ancestor ∧ entry ∈ (written.graph.node ancestor).propertyList := by
  obtain ⟨ancestor, lineage, declared⟩ := (stages.outcome.widened id).source entry member
  unfold Lineage at lineage
  rw [stages.retagged.inheritsFrom] at lineage
  exact ⟨ancestor, lineage, by rwa [stages.tagged_propertyList] at declared⟩

/-- No edge leads out of the graph after inheritance either. -/
theorem leadsTo_lt {id target : Nat} (leads : (merged.graph.node id).LeadsTo target) : target < merged.graph.size := by
  have known {id target : Nat} (leads : (written.graph.node id).LeadsTo target) : target < merged.graph.size :=
    stages.size ▸ stages.built.leadsTo_lt leads
  have apart := stages.merged_node id
  cases leads with
  | property member =>
      obtain ⟨_, _, declared⟩ := stages.source member
      exact known (.property declared)
  | additional said =>
      rw [apart] at said
      exact known (.additional said)
  | items listed =>
      rw [apart] at listed
      exact known (.items listed)
  | allOf member => exact known (.allOf (stages.mem_merged_allOf member))
  | anyOf member =>
      rw [apart] at member
      exact known (.anyOf member)
  | oneOf member =>
      rw [apart] at member
      exact known (.oneOf member)
  | variant routes among => exact (stages.variants routes among).1

theorem complete {id parent : Nat} (inherits : InheritsFrom written.graph id parent) :
    Merging.Complete tagged.graph tagged.baseSchemas id (merged.graph.node id) := by
  have inheritsTagged : InheritsFrom tagged.graph id parent := by rwa [stages.retagged.inheritsFrom]
  refine stages.outcome.complete id ?_ inheritsTagged.mergeable
  obtain ⟨typed, branches, listed, _⟩ := inherits
  refine stages.built.mem_objects (fun childless => ?_) typed
  cases childless.allOf.symm.trans listed

theorem inside_of_inheritsFrom {id parent : Nat} (inherits : InheritsFrom written.graph id parent) :
    id < merged.graph.size := by
  rw [stages.size]
  refine Nat.lt_of_not_le fun outside => inherits.mergeable.2 ?_
  rw [Graph.node_of_size_le outside]
  rfl

theorem branchless {id : Nat} (inherits : (written.graph.node id).inherits = true)
    (declares : (written.graph.node id).discriminator ≠ none) : (merged.graph.node id).allOf.getD [] = [] := by
  refine List.eq_nil_iff_forall_not_mem.mpr fun edge member => ?_
  have among := stages.mem_merged_allOf member
  rcases listed : (written.graph.node id).allOf with _ | branches
  · simp [listed] at among
  · rw [listed, Option.getD_some] at among
    obtain ⟨_, parents, _, _, _, same⟩ := stages.complete ⟨inherits, branches, listed, edge, among, rfl⟩
    have forgotten : (merged.graph.node id).allOf = none := by
      rw [same]
      refine Node.allOf_settled_of_root ?_
      rwa [Node.discriminator_foldl_absorb, Node.gathered, stages.retagged.discriminator]
    simp [forgotten] at member

theorem tabled {id parent : Nat} (inherits : InheritsFrom written.graph id parent) :
    (merged.graph.node id).Tabled := by
  obtain ⟨_, parents, _, _, _, same⟩ := stages.complete inherits
  rw [same]
  exact Node.tabled_settled (Node.tabled_foldl_absorb (by simp [Node.Tabled, Node.gathered]) parents)

theorem final_allOf {id : Nat} (inside : id < merged.graph.size) :
    (final.graph.node id).allOf = (merged.graph.node id).allOf := by
  rw [(stages.last.ends id inside).apart]

theorem final_routing? {id : Nat} (inside : id < merged.graph.size) :
    (final.graph.node id).routing? = (merged.graph.node id).routing? := by
  unfold Node.routing?
  rw [(stages.last.ends id inside).apart]

/-- The passes after reading change no operation. -/
theorem operations : final.operations = written.operations := by
  have tagged := (buildTagMaps_retags stages.tags).2
  have merged := (mergeBranches_outcome stages.branches).2.2.2.1
  rw [stages.finish, (loosenObjects_sameBut _).operations]
  exact ((closeObjects_sameBut _).operations.trans merged).trans tagged

theorem final_source {id : Nat} (inside : id < merged.graph.size) :
    (final.graph.node id).source = (merged.graph.node id).source := by
  rw [(stages.last.ends id inside).apart]

theorem final_skipErrors {id : Nat} (inside : id < merged.graph.size) : (final.graph.node id).skipErrors = false := by
  rw [(stages.last.ends id inside).apart, stages.merged_node id]
  exact (stages.built.written id).skipErrors

theorem objects_of_inherits {id : Nat} (inside : id < merged.graph.size)
    (inherits : (written.graph.node id).inherits = true) :
    (final.graph.node id).typeName = none ∨ (final.graph.node id).typeName = some "object" := by
  have same : (merged.graph.node id).typeName = (written.graph.node id).typeName := by
    rw [stages.merged_node id]
  rcases (stages.last.ends id inside).typeName with kept | ⟨untyped, _⟩
  · rw [kept, same]
    unfold Node.inherits at inherits
    rcases typed : (written.graph.node id).typeName with _ | name
    · exact .inl rfl
    · rw [typed] at inherits
      exact .inr (by simpa using inherits)
  · exact .inl untyped

theorem admits_objects {id : Nat} (collected : id ∈ merged.catalog.collections.objects) :
    (final.graph.node id).typeName = none ∨ (final.graph.node id).typeName = some "object" := by
  refine stages.objects_of_inherits (stages.inside collected) ?_
  rw [stages.collections] at collected
  exact stages.built.inherits_of_mem collected

end Stages

end Draft

end ApiContract
