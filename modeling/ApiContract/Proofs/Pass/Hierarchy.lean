import ApiContract.Proofs.Assoc
import ApiContract.Proofs.Pass.Roots

/-!
Building the maps of tags changes no keyword of any schema. Tags only lead to collected schemas, from which base
schemas lead back to the root. A root that others inherit from has a map, or it fails every validator that needs it.
-/

namespace ApiContract

namespace Schema

/-- Two graphs of the same schemas, up to their maps of tags. -/
structure Retagged (graph tagged : Graph) : Prop where
  size : tagged.size = graph.size
  locations : tagged.locations = graph.locations
  node : ∀ id, tagged.node id = { graph.node id with tagMap := (tagged.node id).tagMap }

theorem Retagged.refl (graph : Graph) : Retagged graph graph := ⟨rfl, rfl, fun _ => rfl⟩

theorem Retagged.trans {graph middle tagged : Graph} (first : Retagged graph middle)
    (second : Retagged middle tagged) : Retagged graph tagged := by
  refine ⟨second.size.trans first.size, second.locations.trans first.locations, ?_⟩
  intro id
  rw [second.node id, first.node id]

theorem Retagged.modify (graph : Graph) (id : Nat) (tags : Node → Option (Assoc (Option Nat))) :
    Retagged graph (graph.modify id fun node => { node with tagMap := tags node }) := by
  refine ⟨Graph.size_modify _ _ _, Graph.locations_modify _ _ _, ?_⟩
  intro other
  by_cases same : other = id
  · subst same
    by_cases inside : other < graph.size
    · rw [Graph.node_modify_self _ inside]
    · rw [Graph.node_modify_outside _ _ (Nat.le_of_not_lt inside)]
  · rw [Graph.node_modify_of_ne _ _ same]

variable {graph tagged : Graph}

theorem Retagged.discriminator (retagged : Retagged graph tagged) (id : Nat) :
    (tagged.node id).discriminator = (graph.node id).discriminator := by
  have same := congrArg Node.discriminator (retagged.node id)
  exact same

theorem Retagged.allOf (retagged : Retagged graph tagged) (id : Nat) :
    (tagged.node id).allOf = (graph.node id).allOf := by
  have same := congrArg Node.allOf (retagged.node id)
  exact same

theorem Retagged.rootOf (retagged : Retagged graph tagged) : RootSearch.rootOf tagged = RootSearch.rootOf graph := by
  have same (fuel : Nat) : RootSearch.findRoot tagged fuel = RootSearch.findRoot graph fuel := by
    induction fuel with
    | zero => rfl
    | succ fuel ih =>
        funext id
        simp only [RootSearch.findRoot, retagged.discriminator, retagged.allOf, ih]
  funext id
  rw [RootSearch.rootOf, RootSearch.rootOf, same, retagged.size]

namespace Deferred

variable {deferred : Deferred} {id other : Nat}

theorem isSome_find?_add_self (deferred : Deferred) (id : Nat) (error : CompileError) :
    ((deferred.add id error).find? id).isSome = true := by
  unfold add
  split
  next known => exact known
  · simp [find?]

theorem isSome_find?_add (error : CompileError) (known : (deferred.find? other).isSome = true) :
    ((deferred.add id error).find? other).isSome = true := by
  unfold add
  split
  · exact known
  · rw [find?, Option.isSome_map] at known ⊢
    rw [List.find?_append, Option.isSome_or, known, Bool.true_or]

end Deferred

namespace Catalog

/-- A catalog whose graph was retagged and whose collections stay. -/
def Retags (catalog tagged : Catalog) : Prop :=
  Retagged catalog.graph tagged.graph ∧ tagged.collections = catalog.collections

theorem Retags.refl (catalog : Catalog) : Retags catalog catalog := ⟨.refl _, rfl⟩

theorem Retags.trans {catalog middle tagged : Catalog} (first : Retags catalog middle)
    (second : Retags middle tagged) : Retags catalog tagged :=
  ⟨first.1.trans second.1, second.2.trans first.2⟩

/-- The steps by which a schema is entered into the map of its root. -/
inductive Enrolls (root id : Nat) (catalog : Catalog) : Catalog → Prop
  | opens (tag : String) :
      Enrolls root id catalog (catalog.modifyNode root fun node => { node with tagMap := some [(tag, none)] })
  | enters (tag : String) : root ≠ id → Enrolls root id catalog (catalog.modifyNode root fun node =>
      { node with tagMap := node.tagMap.map fun tags => Assoc.insert tags tag (some id) })
  | defers (place : Nat) (error : CompileError) : Enrolls root id catalog (catalog.defer place error)

theorem openMap?_keeps {motive : Catalog → Prop} {catalog opened : Catalog} {root id : Nat}
    (keeps : ∀ before after, Enrolls root id before after → motive before → motive after) (start : motive catalog)
    (openedMap : catalog.openMap? root = some opened) : motive opened := by
  unfold openMap? at openedMap
  dsimp only at openedMap
  split at openedMap
  · cases openedMap
    exact start
  · obtain ⟨tag, _, rfl⟩ := Option.map_eq_some_iff.mp openedMap
    exact keeps _ _ (.opens tag) start

theorem enroll_keeps {motive : Catalog → Prop} {catalog : Catalog} {root id : Nat}
    (keeps : ∀ before after, Enrolls root id before after → motive before → motive after) (start : motive catalog) :
    motive (catalog.enroll root id) := by
  unfold enroll
  split
  · split
    · exact start
    · exact keeps _ _ (.defers _ _) start
  next opened openedMap =>
    have still := openMap?_keeps keeps start openedMap
    split
    · exact still
    next different =>
      split
      next tag _ => exact keeps _ _ (.enters tag different) still
      · exact keeps _ _ (.defers _ _) (keeps _ _ (.defers _ _) still)

theorem Enrolls.retags {root id : Nat} {before after : Catalog} (step : Enrolls root id before after) :
    Retags before after := by
  cases step with
  | opens tag => exact ⟨.modify _ root fun _ => some [(tag, none)], rfl⟩
  | enters tag => exact ⟨.modify _ root fun node => node.tagMap.map fun tags => Assoc.insert tags tag (some id), rfl⟩
  | defers => exact ⟨.refl _, rfl⟩

theorem enroll_retags (catalog : Catalog) (root id : Nat) : Retags catalog (catalog.enroll root id) :=
  enroll_keeps (fun _ _ step earlier => earlier.trans step.retags) (.refl catalog)

theorem enrollAll_keeps {motive : Catalog → Prop} {objects : List Nat} {catalog tagged : Catalog} {before after : RootSearch}
    (keeps : ∀ root id before after, Enrolls root id before after → motive before → motive after) (start : motive catalog)
    (ran : (catalog.enrollAll objects).run before = some (tagged, after)) : motive tagged := by
  induction objects generalizing catalog before with
  | nil =>
      cases ran
      exact start
  | cons id rest ih =>
      rw [enrollAll, StateT.run_bind_eq_some] at ran
      obtain ⟨root, middle, _, later⟩ := ran
      cases root with
      | none => exact ih start later
      | some root => exact ih (enroll_keeps (keeps root id) start) later

theorem enrollAll_retags {objects : List Nat} {catalog tagged : Catalog} {before after : RootSearch}
    (ran : (catalog.enrollAll objects).run before = some (tagged, after)) : Retags catalog tagged :=
  enrollAll_keeps (fun _ _ _ _ step earlier => earlier.trans step.retags) (.refl catalog) ran

def DistinctTags (graph : Graph) : Prop :=
  ∀ id tags, (graph.node id).tagMap = some tags → (Assoc.keys tags).Nodup

theorem DistinctTags.modify {graph : Graph} (distinct : DistinctTags graph) (root : Nat)
    (tags : Node → Option (Assoc (Option Nat)))
    (written : ∀ table, tags (graph.node root) = some table → (Assoc.keys table).Nodup) :
    DistinctTags (graph.modify root fun node => { node with tagMap := tags node }) := by
  intro id table mapped
  by_cases same : id = root
  · subst same
    by_cases inside : id < graph.size
    · rw [Graph.node_modify_self _ inside] at mapped
      exact written table mapped
    · rw [Graph.node_modify_outside _ _ (Nat.le_of_not_lt inside)] at mapped
      exact distinct id table mapped
  · rw [Graph.node_modify_of_ne _ _ same] at mapped
    exact distinct id table mapped

theorem enrollAll_distinctTags {objects : List Nat} {catalog tagged : Catalog} {before after : RootSearch}
    (distinct : DistinctTags catalog.graph)
    (ran : (catalog.enrollAll objects).run before = some (tagged, after)) : DistinctTags tagged.graph := by
  refine enrollAll_keeps (motive := fun catalog => DistinctTags catalog.graph) ?_ distinct ran
  intro root id before after step distinct
  cases step with
  | opens tag =>
      refine distinct.modify root (fun _ => some [(tag, none)]) fun table mapped => ?_
      cases mapped
      exact List.nodup_singleton tag
  | enters tag =>
      refine distinct.modify root (fun node => node.tagMap.map _) fun table mapped => ?_
      obtain ⟨tags, old, rfl⟩ := Option.map_eq_some_iff.mp mapped
      exact Assoc.nodup_keys_insert _ (distinct root tags old)
  | defers => exact distinct

/-- Tags lead to collected schemas, from which base schemas lead back to the root. -/
def Variants (graph : Graph) (objects bases : List Nat) (tagged : Graph) : Prop :=
  ∀ root tags tag id, (tagged.node root).tagMap = some tags → (tag, some id) ∈ tags →
    id ∈ objects ∧ root ≠ id ∧ Ascends graph bases root id

variable {graph : Graph} {objects bases more : List Nat} {catalog tagged : Catalog} {root id : Nat}

theorem Variants.mono (variants : Variants graph objects bases catalog.graph) (subset : bases ⊆ more) :
    Variants graph objects more catalog.graph := by
  intro root tags tag id mapped member
  obtain ⟨collected, different, ascends⟩ := variants root tags tag id mapped member
  exact ⟨collected, different, ascends.mono subset⟩

theorem Variants.modify (variants : Variants graph objects bases catalog.graph)
    {tags : Node → Option (Assoc (Option Nat))}
    (written : ∀ table tag id, tags (catalog.graph.node root) = some table → (tag, some id) ∈ table →
      id ∈ objects ∧ root ≠ id ∧ Ascends graph bases root id) :
    Variants graph objects bases (catalog.modifyNode root fun node => { node with tagMap := tags node }).graph := by
  intro other table tag id mapped member
  rw [modifyNode] at mapped
  by_cases same : other = root
  · subst same
    by_cases inside : other < catalog.graph.size
    · rw [Graph.node_modify_self _ inside] at mapped
      exact written table tag id mapped member
    · rw [Graph.node_modify_outside _ _ (Nat.le_of_not_lt inside)] at mapped
      exact variants other table tag id mapped member
  · rw [Graph.node_modify_of_ne _ _ same] at mapped
    exact variants other table tag id mapped member

theorem Variants.enroll (variants : Variants graph objects bases catalog.graph) (collected : id ∈ objects)
    (ascends : Ascends graph bases root id) : Variants graph objects bases (catalog.enroll root id).graph := by
  refine enroll_keeps (motive := fun catalog => Variants graph objects bases catalog.graph) ?_ variants
  intro before after step variants
  cases step with
  | opens tag =>
      refine variants.modify ?_
      intro table name id mapped member
      cases mapped
      simp at member
  | enters tag different =>
      refine variants.modify ?_
      intro table name variant mapped member
      obtain ⟨tags, tagged, rfl⟩ := Option.map_eq_some_iff.mp mapped
      rcases Assoc.mem_insert member with old | new
      · exact variants root tags name variant tagged old
      · cases new
        exact ⟨collected, different, ascends⟩
  | defers => exact variants

theorem enrollAll_variants {ids : List Nat} {before after : RootSearch} (among : ids ⊆ objects)
    (retagged : Retagged graph catalog.graph) (grounded : before.Grounded graph)
    (variants : Variants graph objects before.bases catalog.graph)
    (ran : (catalog.enrollAll ids).run before = some (tagged, after)) :
    Variants graph objects after.bases tagged.graph := by
  induction ids generalizing catalog before with
  | nil =>
      cases ran
      exact variants
  | cons id rest ih =>
      obtain ⟨collected, amongRest⟩ := List.cons_subset.mp among
      rw [enrollAll, StateT.run_bind_eq_some, retagged.rootOf] at ran
      obtain ⟨root, middle, searched, later⟩ := ran
      have climbs := RootSearch.findRoot_climbs grounded searched
      have variantsMiddle := variants.mono climbs.bases
      cases root with
      | none => exact ih amongRest retagged climbs.grounded variantsMiddle later
      | some root =>
          exact ih amongRest (retagged.trans (enroll_retags catalog root id).1) climbs.grounded
            (variantsMiddle.enroll collected (climbs.ascends root rfl)) later

/-! ## Roots that others inherit from -/

variable {other : Nat}

/-- A schema has a map of tags, or an error that fails every validator that needs it. -/
def Opened (catalog : Catalog) (id : Nat) : Prop :=
  (catalog.graph.node id).tagMap.isSome = true ∨ (catalog.deferred.find? id).isSome = true

theorem Opened.defer (opened : Opened catalog other) (id : Nat) (error : CompileError) :
    Opened (catalog.defer id error) other :=
  opened.imp_right (Deferred.isSome_find?_add error)

theorem Opened.modify (opened : Opened catalog other) {tags : Node → Option (Assoc (Option Nat))}
    (kept : ∀ node, node.tagMap.isSome = true → (tags node).isSome = true) :
    Opened (catalog.modifyNode id fun node => { node with tagMap := tags node }) other := by
  refine opened.imp_left fun mapped => ?_
  rw [modifyNode]
  by_cases same : other = id
  · subst same
    by_cases inside : other < catalog.graph.size
    · rw [Graph.node_modify_self _ inside]
      exact kept _ mapped
    · rwa [Graph.node_modify_outside _ _ (Nat.le_of_not_lt inside)]
  · rwa [Graph.node_modify_of_ne _ _ same]

theorem Opened.step {before after : Catalog} (step : Enrolls root id before after) (opened : Opened before other) :
    Opened after other := by
  cases step with
  | opens => exact opened.modify fun _ _ => rfl
  | enters => exact opened.modify fun node mapped => by rwa [Option.isSome_map]
  | defers => exact opened.defer _ _

theorem Opened.enroll (opened : Opened catalog other) (root id : Nat) : Opened (catalog.enroll root id) other :=
  enroll_keeps (motive := (Opened · other)) (fun _ _ step => .step step) opened

end Catalog

end Schema

/-- Maps of tags are built by enrolling all objects. -/
theorem Draft.buildTagMaps_eq_ok {draft tagged : Draft} (ran : draft.buildTagMaps = .ok tagged) :
    ∃ catalog search, (draft.catalog.enrollAll draft.catalog.collections.objects).run { bases := draft.baseSchemas } =
      some (catalog, search) ∧ tagged = { draft with catalog, baseSchemas := search.bases } := by
  unfold buildTagMaps at ran
  dsimp only at ran
  split at ran
  next catalog search answered =>
    cases ran
    exact ⟨catalog, search, answered, rfl⟩
  · cases ran

theorem Draft.buildTagMaps_retags {draft tagged : Draft} (ran : draft.buildTagMaps = .ok tagged) :
    draft.catalog.Retags tagged.catalog ∧ tagged.operations = draft.operations := by
  obtain ⟨catalog, search, answered, rfl⟩ := buildTagMaps_eq_ok ran
  exact ⟨Schema.Catalog.enrollAll_retags answered, rfl⟩

theorem Draft.buildTagMaps_distinctTags {draft tagged : Draft} (ran : draft.buildTagMaps = .ok tagged)
    (unmapped : ∀ id, (draft.graph.node id).tagMap = none) : Schema.Catalog.DistinctTags tagged.graph := by
  obtain ⟨catalog, search, answered, rfl⟩ := buildTagMaps_eq_ok ran
  exact Schema.Catalog.enrollAll_distinctTags (fun id tags mapped => by cases (unmapped id).symm.trans mapped) answered

theorem Draft.buildTagMaps_variants {draft tagged : Draft} (ran : draft.buildTagMaps = .ok tagged)
    (unmapped : ∀ id, (draft.graph.node id).tagMap = none) :
    Schema.Catalog.Variants draft.graph draft.catalog.collections.objects tagged.baseSchemas tagged.graph := by
  obtain ⟨catalog, search, answered, rfl⟩ := buildTagMaps_eq_ok ran
  refine Schema.Catalog.enrollAll_variants (List.Subset.refl _) (.refl _)
    (Schema.RootSearch.grounded_start draft.graph draft.baseSchemas) ?_ answered
  intro root tags tag id mapped
  cases (unmapped root).symm.trans mapped

end ApiContract
