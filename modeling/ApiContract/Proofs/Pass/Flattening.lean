import ApiContract.Proofs.Pass.Inheritance
import ApiContract.Proofs.Related

/-!
Merging where no schema inherits from itself. Every merge ends (`mergeAll_answers`), whatever the order in which
schemas are merged the outcome is the same (`Inherited.unique`), and merging again changes nothing
(`inherited_merged`). A merged schema is described without the merge by what its branches became (`Flattened`).
-/

namespace ApiContract

/-- The items of a list and then those of another one that are not the same as an item before. -/
def followedBy {α : Type} (same : α → α → Bool) (own others : List α) : List α :=
  own ++ (others.filter fun other => !own.any (same other)).eraseDupsBy same

theorem foldl_eq_followedBy {α : Type} (same : α → α → Bool) (own others : List α) :
    others.foldl (fun items other => if items.any (same other) then items else items ++ [other]) own =
      followedBy same own others := by
  induction others generalizing own with
  | nil => simp [followedBy]
  | cons first rest ih =>
      rw [List.foldl_cons, ih]
      unfold followedBy
      cases known : own.any (same first) with
      | true => simp [known]
      | false =>
          rw [List.filter_cons_of_pos (by simp [known]), List.eraseDupsBy_cons, List.filter_filter, if_neg (by simp),
            List.append_assoc, List.singleton_append]
          congr 3
          refine List.filter_congr fun other _ => ?_
          simp [Bool.and_comm]

theorem followedBy_of_known {α : Type} {same : α → α → Bool} {own others : List α}
    (known : ∀ other ∈ others, own.any (same other) = true) : followedBy same own others = own := by
  have nothing : (others.filter fun other => !own.any (same other)) = [] :=
    List.filter_eq_nil_iff.mpr fun other member => by simp [known other member]
  rw [followedBy, nothing]
  exact List.append_nil own

namespace Assoc

variable {α : Type}

theorem contains_eq_any (entries : Assoc α) (key : String) :
    contains entries key = entries.any fun entry => key == entry.1 := by
  rw [Bool.eq_iff_iff, contains_iff_mem_keys, List.any_eq_true, keys, List.mem_map]
  refine exists_congr fun entry => and_congr_right fun _ => ?_
  rw [beq_iff_eq, eq_comm]

theorem foldl_insertNew (own others : Assoc α) :
    others.foldl (fun table entry => insertNew table entry.1 entry.2) own =
      followedBy (fun entry other => entry.1 == other.1) own others := by
  rw [← foldl_eq_followedBy]
  simp only [insertNew, contains_eq_any]

end Assoc

namespace Schema

namespace Node

theorem propertyList_absorb {node : Node} (tabled : node.Tabled) (parent : Node) :
    (node.absorb parent).propertyList =
      parent.propertyList.foldl (fun table entry => Assoc.insertNew table entry.1 entry.2) node.propertyList := by
  obtain ⟨own, listed⟩ := Option.ne_none_iff_exists'.mp tabled
  simp [propertyList, absorb, listed]

theorem propertyList_foldl_absorb {node : Node} (tabled : node.Tabled) (parents : List Node) :
    (parents.foldl absorb node).propertyList =
      followedBy (fun entry other => entry.1 == other.1) node.propertyList (parents.flatMap propertyList) := by
  rw [← Assoc.foldl_insertNew, List.foldl_flatMap]
  induction parents generalizing node with
  | nil => rfl
  | cons parent rest ih =>
      rw [List.foldl_cons, ih (tabled_absorb parent tabled), propertyList_absorb tabled, List.foldl_cons]

theorem required_foldl_absorb (node : Node) (parents : List Node) :
    (parents.foldl absorb node).required = followedBy (· == ·) node.required (parents.flatMap required) := by
  rw [← foldl_eq_followedBy, List.foldl_flatMap]
  induction parents generalizing node with
  | nil => rfl
  | cons parent rest ih =>
      rw [List.foldl_cons, ih, List.foldl_cons]
      simp only [absorb, List.contains_eq_any_beq]

theorem Tabled.properties_eq {node : Node} (tabled : node.Tabled) : node.properties = some node.propertyList := by
  obtain ⟨own, listed⟩ := Option.ne_none_iff_exists'.mp tabled
  rw [propertyList, listed, Option.getD_some]

theorem Tabled.gathered {node : Node} (tabled : node.Tabled) : node.gathered = node := by
  rw [Node.gathered, ← tabled.properties_eq]

theorem tabled_gathered (node : Node) : node.gathered.Tabled := by
  simp [Tabled, Node.gathered]

@[simp] theorem properties_settled (node : Node) (bases : List Nat) (id : Nat) :
    (node.settled bases id).properties = node.properties := by
  unfold settled
  split <;> rfl

theorem allOf_settled (node : Node) (bases : List Nat) (id : Nat) :
    (node.settled bases id).allOf = if id ∈ bases ∧ node.discriminator = none then node.allOf else none := by
  unfold settled
  by_cases kept : id ∈ bases ∧ node.discriminator = none
  · rw [if_pos kept, if_pos (by simp [kept])]
  · rw [if_neg kept, if_neg (by simpa using kept)]

theorem sameApart_foldl_absorb (node : Node) (parents : List Node) : node.SameApart (parents.foldl absorb node) := by
  induction parents generalizing node with
  | nil => exact .refl node
  | cons parent rest ih => exact (node.sameApart_absorb parent).trans (ih (node.absorb parent))

/-- Taking over what is there already changes nothing. -/
theorem absorb_of_takesOver {node parent : Node} (takesOver : Merging.TakesOver node parent) :
    node.absorb parent = node := by
  have required : (node.absorb parent).required = node.required := by
    have added := required_foldl_absorb node [parent]
    rw [List.flatMap_singleton, followedBy_of_known] at added
    · exact added
    · intro name member
      exact List.any_eq_true.mpr ⟨name, takesOver.1 member, by simp⟩
  have properties : (node.absorb parent).properties = node.properties := by
    cases listed : node.properties with
    | none => simp [absorb, listed]
    | some own =>
        have declared entry (member : entry ∈ parent.propertyList) : own.any (entry.1 == ·.1) = true := by
          have present : entry.1 ∈ Assoc.keys parent.propertyList := List.mem_map_of_mem member
          have handed := takesOver.2 entry.1 ((Assoc.contains_iff_mem_keys _ _).mpr present)
          rw [propertyList, listed] at handed
          exact (Assoc.contains_eq_any own entry.1).symm.trans handed
        simp only [absorb, listed, Option.map_some, Assoc.foldl_insertNew, followedBy_of_known declared]
  have whole : node.absorb parent =
      { node with properties := (node.absorb parent).properties, required := (node.absorb parent).required } := rfl
  rw [whole, properties, required]

theorem foldl_absorb_of_takesOver {node : Node} {parents : List Node}
    (takesOver : ∀ parent ∈ parents, Merging.TakesOver node parent) : parents.foldl absorb node = node := by
  induction parents with
  | nil => rfl
  | cons parent rest ih =>
      rw [List.foldl_cons, absorb_of_takesOver (takesOver parent List.mem_cons_self)]
      exact ih fun other member => takesOver other (List.mem_cons_of_mem _ member)

end Node

/-! ## Merges end -/

namespace Merging

variable {graph : Graph} {bases objects : List Nat} {id : Nat}

/-- The number of schemas that no merge has visited. -/
def unvisited (graph : Graph) (visited : List Nat) : Nat :=
  ((Finset.range graph.size).filter (· ∉ visited)).card

theorem unvisited_le (graph : Graph) (visited : List Nat) : unvisited graph visited ≤ graph.size :=
  (Finset.card_filter_le _ _).trans_eq (Finset.card_range _)

theorem unvisited_cons_lt {visited : List Nat} (inside : id < graph.size) (fresh : id ∉ visited) :
    unvisited graph (id :: visited) < unvisited graph visited := by
  refine Finset.card_lt_card (Finset.ssubset_iff_of_subset ?_ |>.mpr ⟨id, ?_, ?_⟩)
  · refine Finset.monotone_filter_right _ ?_
    exact fun other _ later => List.not_mem_of_not_mem_cons later
  · exact Finset.mem_filter.mpr ⟨Finset.mem_range.mpr inside, fresh⟩
  · simp

/-- The schemas and their places are those of a graph, and at most some of them were not visited. -/
structure Roomy (graph : Graph) (count : Nat) (merging : Merging) : Prop where
  size : merging.graph.size = graph.size
  locations : merging.graph.locations = graph.locations
  unvisited : unvisited graph merging.visited ≤ count

theorem Roomy.modifyNode {count : Nat} {merging : Merging} (roomy : Roomy graph count merging) (id : Nat)
    (change : Node → Node) : Roomy graph count (merging.modifyNode id change) :=
  ⟨(Graph.size_modify _ _ _).trans roomy.size, roomy.locations, roomy.unvisited⟩

theorem Roomy.visit {count : Nat} {merging : Merging} (roomy : Roomy graph count merging) (inside : id < graph.size)
    (fresh : id ∉ merging.visited) : Roomy graph (count - 1) (merging.visit id) := by
  refine ⟨roomy.size, roomy.locations, ?_⟩
  have fewer := unvisited_cons_lt inside fresh
  have bounded := roomy.unvisited
  change Merging.unvisited graph (id :: merging.visited) ≤ count - 1
  omega

theorem Roomy.mono {count more : Nat} {merging : Merging} (roomy : Roomy graph count merging) (le : count ≤ more) :
    Roomy graph more merging :=
  ⟨roomy.size, roomy.locations, roomy.unvisited.trans le⟩

/-- Every merge below another one visits a schema that none visited before. -/
theorem merge_answers {fuel count : Nat} (enough : count < fuel) :
    Answers (Roomy graph count) (merge bases fuel id) := by
  induction fuel generalizing id count with
  | zero => exact absurd enough (Nat.not_lt_zero _)
  | succ fuel ih =>
      intro before roomy
      cases listed : (before.graph.node id).allOf with
      | none => exact ⟨(), before, by simp [merge, listed], roomy⟩
      | some branches =>
          by_cases idle : (!(before.graph.node id).inherits || before.visited.contains id) = true
          · refine ⟨(), before, ?_, roomy⟩
            rw [merge, StateT.run_bind_eq_some]
            refine ⟨before, before, rfl, ?_⟩
            simp only [listed]
            rw [if_pos idle]
            rfl
          · have fresh : id ∉ before.visited := by
              intro member
              simp [member] at idle
            have inside : id < graph.size := by
              rw [← roomy.size]
              by_contra outside
              rw [Graph.node_of_size_le (Nat.le_of_not_lt outside)] at listed
              cases listed
            have fewer := unvisited_cons_lt inside fresh
            have bounded := roomy.unvisited
            have below target : Answers (Roomy graph (count - 1)) (merge bases fuel target) := ih (by omega)
            have answers : Answers (Roomy graph (count - 1)) (do
                modify (modifyNode id fun node => { node with properties := some node.propertyList })
                branches.forM fun branch => do
                  merge bases fuel branch.target
                  let parent := (← get).graph.node branch.target
                  modify (modifyNode id (·.absorb parent))
                modify (modifyNode id fun node =>
                  if bases.contains id && node.discriminator.isNone then node else { node with allOf := none })) := by
              refine .bind (.modify fun _ kept => kept.modifyNode id _) fun _ => ?_
              refine .bind (.forM fun branch _ => ?_) fun _ => .modify fun _ kept => kept.modifyNode id _
              refine .bind (below branch.target) fun _ => .bind .get fun _ => ?_
              exact .modify fun _ kept => kept.modifyNode id _
            obtain ⟨_, after, ran, kept⟩ := answers (before.visit id) (roomy.visit inside fresh)
            refine ⟨(), after, ?_, kept.mono (Nat.sub_le _ _)⟩
            rw [merge, StateT.run_bind_eq_some]
            refine ⟨before, before, rfl, ?_⟩
            simp only [listed]
            rw [if_neg idle, StateT.run_bind_eq_some]
            exact ⟨(), before.visit id, rfl, ran⟩

theorem mergeAll_answers (bases objects : List Nat) (graph : Graph) :
    ∃ merged, mergeAll bases objects graph = some merged ∧ merged.locations = graph.locations := by
  have roomy : Roomy graph graph.size { graph } := ⟨rfl, rfl, unvisited_le graph []⟩
  have answers : Answers (Roomy graph graph.size) (objects.forM (merge bases (graph.size + 1))) :=
    .forM fun _ _ => merge_answers (Nat.lt_succ_self _)
  obtain ⟨_, after, ran, kept⟩ := answers _ roomy
  exact ⟨after.graph, by rw [mergeAll, ran]; rfl, kept.locations⟩

/-! ## What merges come to -/

/-- What becomes of a schema does not depend on when it is merged. -/
theorem Inherited.unique {node other : Node} (first : Inherited graph bases id node)
    (second : Inherited graph bases id other) : node = other := by
  induction first generalizing other with
  | @plain id refuses =>
      cases second with
      | plain => rfl
      | merged inherits listed => exact absurd ⟨inherits, by simp [listed]⟩ refuses
  | @merged id branches parents inherits listed lengths paired ih =>
      cases second with
      | plain refuses => exact absurd ⟨inherits, by simp [listed]⟩ refuses
      | @merged _ others parentsToo _ listedToo lengthsToo pairedToo =>
          cases listed.symm.trans listedToo
          have pairs : List.Forall₂ (fun branch parent => ∀ {other}, Inherited graph bases branch.target other →
              parent = other) branches parents :=
            List.forall₂_iff_zip.mpr ⟨lengths.symm, fun among => ih _ among⟩
          have pairsToo : List.Forall₂ (fun branch parent => Inherited graph bases branch.target parent)
              branches parentsToo :=
            List.forall₂_iff_zip.mpr ⟨lengthsToo.symm, fun among => pairedToo _ among⟩
          have same : List.Forall₂ Eq parents parentsToo :=
            pairs.meet (fun _ _ _ agrees inherited => agrees inherited) pairsToo
          rw [List.forall₂_eq_eq_eq] at same
          rw [same]

theorem lt_size_of_mergeable (mergeable : Mergeable graph id) : id < graph.size := by
  by_contra outside
  refine mergeable.2 ?_
  rw [Graph.node_of_size_le (Nat.le_of_not_lt outside)]
  rfl

theorem lt_size_of_inheritsFrom {parent : Nat} (inherits : InheritsFrom graph id parent) : id < graph.size := by
  obtain ⟨typed, branches, listed, _⟩ := inherits
  exact lt_size_of_mergeable ⟨typed, by simp [listed]⟩

theorem Outcome.inherited {merged : Graph} (outcome : Outcome graph bases objects merged)
    (acyclic : IsAcyclic (InheritsFrom graph)) (covers : ∀ id, Mergeable graph id → id ∈ objects) (id : Nat) :
    Inherited graph bases id (merged.node id) := by
  by_cases mergeable : Mergeable graph id
  · have founded : Founded graph id := fun ancestor _ => acyclic ancestor
    exact (outcome.complete id (covers id mergeable) mergeable).inherited founded
  · rw [outcome.untouched id mergeable]
    exact .plain mergeable

/-- A merged schema as it is declared: by what is written in it, and by what its branches became. -/
structure Flattened (graph merged : Graph) (bases : List Nat) (id : Nat) (branches : List Edge) : Prop where
  properties : (merged.node id).properties = some
    (followedBy (fun entry other => entry.1 == other.1) (graph.node id).propertyList
      (branches.flatMap fun branch => (merged.node branch.target).propertyList))
  required : (merged.node id).required =
    followedBy (· == ·) (graph.node id).required (branches.flatMap fun branch => (merged.node branch.target).required)
  allOf : (merged.node id).allOf =
    if id ∈ bases ∧ (graph.node id).discriminator = none then some branches else none
  apart : (graph.node id).SameApart (merged.node id)

variable {merged : Graph} {branches : List Edge}

def Settled (graph : Graph) (bases : List Nat) (merged : Graph) : Prop :=
  ∀ id, Inherited graph bases id (merged.node id)

theorem Settled.node_eq (settled : Settled graph bases merged) (inherits : (graph.node id).inherits = true)
    (listed : (graph.node id).allOf = some branches) :
    merged.node id = ((branches.map fun branch => merged.node branch.target).foldl Node.absorb
      (graph.node id).gathered).settled bases id := by
  have paired : List.Forall₂ (fun branch parent => Inherited graph bases branch.target parent) branches
      (branches.map fun branch => merged.node branch.target) :=
    List.forall₂_map_right_iff.mpr (List.forall₂_same.mpr fun branch _ => settled branch.target)
  obtain ⟨lengths, pairs⟩ := List.forall₂_iff_zip.mp paired
  exact (settled id).unique (.merged inherits listed lengths.symm fun _ among => pairs among)

theorem Settled.flattened (settled : Settled graph bases merged) (inherits : (graph.node id).inherits = true)
    (listed : (graph.node id).allOf = some branches) : Flattened graph merged bases id branches := by
  have node := settled.node_eq inherits listed
  have tabled := Node.tabled_gathered (graph.node id)
  have gathered : (graph.node id).gathered.propertyList = (graph.node id).propertyList := rfl
  refine ⟨?_, ?_, ?_, ?_⟩ <;> rw [node]
  · rw [Node.properties_settled, (Node.tabled_foldl_absorb tabled _).properties_eq,
      Node.propertyList_foldl_absorb tabled, List.flatMap_map, gathered]
  · rw [Node.required_settled, Node.required_foldl_absorb, List.flatMap_map]
    rfl
  · rw [Node.allOf_settled, Node.allOf_foldl_absorb, Node.discriminator_foldl_absorb]
    exact if_congr Iff.rfl listed rfl
  · exact (Node.sameApart_foldl_absorb (graph.node id).gathered _).trans (Node.sameApart_settled _ bases id)

theorem Settled.refused (settled : Settled graph bases merged) (refuses : ¬Mergeable graph id) :
    merged.node id = graph.node id :=
  (settled id).unique (.plain refuses)

/-- Branches that are left over were there before. -/
theorem Settled.inheritsFrom (settled : Settled graph bases merged) {parent : Nat}
    (inherits : InheritsFrom merged id parent) : InheritsFrom graph id parent := by
  by_cases mergeable : Mergeable graph id
  · obtain ⟨typed, branched⟩ := mergeable
    obtain ⟨branches, listed⟩ := Option.ne_none_iff_exists'.mp branched
    obtain ⟨_, kept, listedStill, branch, member, rfl⟩ := inherits
    have allOf := (settled.flattened typed listed).allOf
    rw [listedStill] at allOf
    split at allOf
    · cases allOf
      exact ⟨typed, branches, listed, branch, member, rfl⟩
    · cases allOf
  · have same := settled.refused mergeable
    unfold InheritsFrom at inherits ⊢
    rwa [same] at inherits

theorem Settled.absorbed_again (settled : Settled graph bases merged) (inherits : (merged.node id).inherits = true)
    (listed : (merged.node id).allOf = some branches) :
    ((branches.map fun branch => merged.node branch.target).foldl Node.absorb (merged.node id).gathered).settled
      bases id = merged.node id := by
  have mergeable : Mergeable graph id := by
    by_contra refuses
    have same := settled.refused refuses
    rw [same] at inherits listed
    exact refuses ⟨inherits, by simp [listed]⟩
  obtain ⟨typed, branched⟩ := mergeable
  obtain ⟨written, listedBefore⟩ := Option.ne_none_iff_exists'.mp branched
  have flattened := settled.flattened typed listedBefore
  have kept := flattened.allOf
  rw [listed] at kept
  split at kept
  next base =>
    cases kept
    have tabled : (merged.node id).Tabled := by simp [Node.Tabled, flattened.properties]
    have takesOver : ∀ parent ∈ branches.map fun branch => merged.node branch.target,
        TakesOver (merged.node id) parent := by
      intro parent member
      rw [settled.node_eq typed listedBefore]
      exact takesOver_parent member
    have plain : (merged.node id).discriminator = none := by
      rw [flattened.apart]
      exact base.2
    rw [tabled.gathered, Node.foldl_absorb_of_takesOver takesOver, Node.settled_of_base (by simpa using base.1) plain]
  · cases kept

/-- Merging again changes nothing, since what the branches that are left declare was taken over already. -/
theorem Settled.again (settled : Settled graph bases merged) (acyclic : IsAcyclic (InheritsFrom graph)) :
    Settled merged bases merged := by
  intro id
  induction below : reach (InheritsFrom graph) graph.size id using Nat.strong_induction_on generalizing id with
  | _ count ih =>
      by_cases mergeable : Mergeable merged id
      · obtain ⟨typed, branched⟩ := mergeable
        obtain ⟨branches, listed⟩ := Option.ne_none_iff_exists'.mp branched
        have parents : List.Forall₂ (fun branch parent => Inherited merged bases branch.target parent) branches
            (branches.map fun branch => merged.node branch.target) := by
          refine List.forall₂_map_right_iff.mpr (List.forall₂_same.mpr fun branch member => ?_)
          have inherits := settled.inheritsFrom ⟨typed, branches, listed, branch, member, rfl⟩
          have inside := lt_size_of_inheritsFrom inherits
          exact ih _ (below ▸ acyclic.reach_lt inside inherits) _ rfl
        obtain ⟨lengths, pairs⟩ := List.forall₂_iff_zip.mp parents
        have inherited := Inherited.merged typed listed lengths.symm fun _ among => pairs among
        rwa [settled.absorbed_again typed listed] at inherited
      · exact .plain mergeable

/-- Where no schema inherits from itself, there is one graph that merging makes of a graph, in every order in which all
schemas with branches have their turn; and merging makes no other graph of that one. -/
theorem mergeAll_settles (acyclic : IsAcyclic (InheritsFrom graph)) (bases : List Nat) :
    ∃ merged, merged.size = graph.size ∧ merged.locations = graph.locations ∧ Settled graph bases merged ∧
      ∀ objects, (∀ id, Mergeable graph id → id ∈ objects) →
        mergeAll bases objects graph = some merged ∧ mergeAll bases objects merged = some merged := by
  have each (objects : List Nat) (covers : ∀ id, Mergeable graph id → id ∈ objects) :
      ∃ merged, mergeAll bases objects graph = some merged ∧ merged.size = graph.size ∧
        merged.locations = graph.locations ∧ Settled graph bases merged := by
    obtain ⟨merged, answered, locations⟩ := mergeAll_answers bases objects graph
    have outcome := mergeAll_outcome answered
    exact ⟨merged, answered, outcome.size, locations, outcome.inherited acyclic covers⟩
  obtain ⟨merged, _, size, locations, settled⟩ :=
    each (List.range graph.size) fun id mergeable => List.mem_range.mpr (lt_size_of_mergeable mergeable)
  refine ⟨merged, size, locations, settled, fun objects covers => ⟨?_, ?_⟩⟩
  · obtain ⟨other, answered, sizeToo, locationsToo, settledToo⟩ := each objects covers
    rw [answered, Graph.ext_node (sizeToo.trans size.symm) (locationsToo.trans locations.symm)
      fun id => (settledToo id).unique (settled id)]
  · obtain ⟨other, answered, locationsToo⟩ := mergeAll_answers bases objects merged
    have outcome := mergeAll_outcome answered
    have acyclicAfter : IsAcyclic (InheritsFrom merged) := acyclic.mono fun _ _ => settled.inheritsFrom
    have coversAfter id (mergeable : Mergeable merged id) : id ∈ objects := by
      refine covers id ?_
      by_contra refuses
      have same := settled.refused refuses
      unfold Mergeable at mergeable refuses
      rw [same] at mergeable
      exact refuses mergeable
    have settledToo := outcome.inherited acyclicAfter coversAfter
    rw [answered, Graph.ext_node outcome.size locationsToo
      fun id => (settledToo id).unique (settled.again acyclic id)]

end Merging

end Schema

end ApiContract
