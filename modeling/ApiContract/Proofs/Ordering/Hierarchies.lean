import ApiContract.Proofs.Contract.Hierarchy
import ApiContract.Proofs.Contract.Inheritance
import ApiContract.Proofs.Ordering.Twins

/-!
Hierarchies under other numbers. Roots, base schemas and maps of tags are found in paired drafts alike
(`Sketched.buildTagMaps`), as long as no branches lead a schema back to itself and tags can be told apart; and schemas
inherit alike in both (`Sketched.mergeBranches`).
-/

namespace ApiContract

open Relation

namespace Schema

/-- The schema has the other one among its branches. -/
def Graph.HasBranch (graph : Graph) (id branch : Nat) : Prop :=
  ∃ edge ∈ (graph.node id).allOf.getD [], edge.target = branch

variable {graph tagged : Graph} {id : Nat}

theorem Retagged.outline (retagged : Retagged graph tagged) (id : Nat) :
    (tagged.node id).outline = (graph.node id).outline := by
  have same := congrArg Node.outline (retagged.node id)
  exact same

theorem Graph.HasParent.hasBranch {parent : Nat} (member : graph.HasParent id parent) : graph.HasBranch id parent := by
  obtain ⟨edge, among, same⟩ := List.mem_map.mp member
  exact ⟨edge, List.mem_of_mem_filter among, same⟩

theorem InheritsFrom.hasBranch {parent : Nat} (inherits : InheritsFrom graph id parent) :
    graph.HasBranch id parent := by
  obtain ⟨_, branches, listed, branch, member, same⟩ := inherits
  exact ⟨branch, listed ▸ member, same⟩

theorem Retagged.hasBranch (retagged : Retagged graph tagged) : tagged.HasBranch = graph.HasBranch := by
  funext id branch
  rw [Graph.HasBranch, Graph.HasBranch, retagged.allOf]

end Schema

namespace Draft

open Schema

theorem Matched.tagged {pairing : Pairing} {draft tagged : Draft} {root : Nat → Option Nat}
    (matched : Matched pairing draft)
    (enrolled : Catalog.Enrolled draft.graph draft.catalog.deferred root draft.catalog.collections.objects
    tagged.catalog)
    (collections : tagged.catalog.collections = draft.catalog.collections) : Matched pairing tagged where
  objects id member := matched.objects id (collections ▸ member)
  arrays id member := matched.arrays id (collections ▸ member)
  owners id leads := matched.owners id (enrolled.retagged.outline id ▸ leads)
  blank id lost := by
    have blank := matched.blank id lost
    have same : tagged.graph.node id = _ := enrolled.retagged.node id
    refine ⟨?_, (enrolled.retagged.outline id).trans blank.outline, ?_, ?_, ?_⟩
    · rw [← Option.isSome_iff_ne_none, enrolled.spoiled]
      exact .inl (Option.isSome_iff_ne_none.mpr blank.spoiled)
    · rw [same]
      exact blank.discriminator
    · rw [same]
      exact blank.required
    · rw [same]
      exact blank.xNullable

theorem Blank.rootless {draft : Draft} {root : Nat → Option Nat} {id : Nat} (blank : draft.Blank id)
    (finds : FindsRoots draft.graph root) : root id = none := by
  have branchless : (draft.graph.node id).allOf = none := congrArg Outline.allOf blank.outline
  rw [finds id, blank.discriminator, Graph.parents, branchless]
  rfl

namespace Sketched

variable {pairing : Pairing} {one other : Draft} (sketched : Sketched pairing one other) {id twin branch : Nat}

include sketched

theorem branches_near (same : pairing.same id twin) :
    List.Forall₂ (Edge.Alike pairing.Near) ((one.graph.node id).allOf.getD [])
      ((other.graph.node twin).allOf.getD []) :=
  (sketched.nodes id twin same).outline.allOf.getD_nil

theorem twin_of_branch (step : one.graph.HasBranch id branch) : ∃ twin, pairing.same id twin := by
  refine sketched.matched.owners id fun none => ?_
  have branchless : (one.graph.node id).allOf = .none := congrArg Outline.allOf none
  obtain ⟨edge, member, _⟩ := step
  rw [branchless] at member
  cases member

theorem branch_back {next : Nat} (same : pairing.same id twin) (sameToo : pairing.same branch next)
    (step : other.graph.HasBranch twin next) : one.graph.HasBranch id branch := by
  obtain ⟨edge, member, rfl⟩ := step
  obtain ⟨own, among, alike⟩ := (sketched.branches_near same).exists_left member
  exact ⟨own, among, (sketched.sound.near_iff_left sameToo).mp alike.near⟩

theorem acyclic (acyclic : IsAcyclic one.graph.HasBranch) : IsAcyclic other.graph.HasBranch := by
  have back {twin next : Nat} (chain : TransGen other.graph.HasBranch twin next) :
      ∀ {last}, other.graph.HasBranch next last →
        ∃ id branch, pairing.same id twin ∧ pairing.same branch next ∧ TransGen one.graph.HasBranch id branch := by
    induction chain with
    | single step =>
        intro last onward
        obtain ⟨id, same⟩ := sketched.flip.twin_of_branch step
        obtain ⟨branch, sameToo⟩ := sketched.flip.twin_of_branch onward
        exact ⟨id, branch, same, sameToo, .single (sketched.branch_back same sameToo step)⟩
    | tail _ step ih =>
        intro last onward
        obtain ⟨id, middle, same, sameMiddle, chain⟩ := ih step
        obtain ⟨branch, sameToo⟩ := sketched.flip.twin_of_branch onward
        exact ⟨id, branch, same, sameToo, chain.tail (sketched.branch_back sameMiddle sameToo step)⟩
  intro twin cycle
  obtain ⟨_, step, _⟩ := TransGen.head'_iff.mp cycle
  obtain ⟨id, branch, same, sameToo, chain⟩ := back cycle step
  cases sketched.sound.backward _ _ _ same sameToo
  exact acyclic _ chain

theorem parents_near (same : pairing.same id twin) :
    List.Forall₂ pairing.Near (one.graph.parents id) (other.graph.parents twin) := by
  have references := List.rel_filter (p := fun edge : Edge => edge.viaRef) (q := fun edge : Edge => edge.viaRef)
    (fun _ _ (alike : Edge.Alike pairing.Near _ _) => iff_of_eq (congrArg (· = true) alike.viaRef))
    (sketched.branches_near same)
  exact List.forall₂_map_left_iff.mpr (List.forall₂_map_right_iff.mpr (references.imp fun _ _ alike => alike.near))

theorem tag?_eq (same : pairing.same id twin) : (one.graph.node id).tag? = (other.graph.node twin).tag? :=
  (sketched.nodes id twin same).same Node.tag? fun _ => rfl

/-! ## Roots -/

section

variable {root rootToo : Nat → Option Nat} (finds : FindsRoots one.graph root)
  (findsToo : FindsRoots other.graph rootToo) (acyclic : IsAcyclic one.graph.HasBranch)

include finds findsToo acyclic

theorem root_near (near : pairing.Near id twin) : Option.Rel pairing.same (root id) (rootToo twin) := by
  have parents : IsAcyclic one.graph.HasParent := acyclic.mono fun _ _ => Graph.HasParent.hasBranch
  induction size : reach one.graph.HasParent one.graph.size id using Nat.strong_induction_on generalizing id twin with
  | _ size ih =>
      rcases near with same | ⟨lost, lostToo⟩
      · rw [finds id, findsToo twin, (sketched.nodes id twin same).same Node.discriminator fun _ => rfl]
        split
        · exact .some same
        · refine (sketched.parents_near same).findSome? fun parent member parentToo near => ?_
          exact ih _ (size ▸ parents.reach_lt (Graph.lt_size_of_hasParent member) member) near rfl
      · rw [Blank.rootless (sketched.matched.blank id lost) finds,
          Blank.rootless (sketched.matchedToo.blank twin lostToo) findsToo]
        exact .none

theorem chooses_twin {parent : Nat} (same : pairing.same id twin) (chooses : Chooses one.graph root id parent) :
    ∃ parentToo, pairing.same parent parentToo ∧ Chooses other.graph rootToo twin parentToo := by
  have rooted {first second : Nat} (near : pairing.Near first second) :
      (root first).isSome = (rootToo second).isSome := by
    rcases (sketched.root_near finds findsToo acyclic near).none_or_some with ⟨none, noneToo⟩ | ⟨_, _, some, someToo, _⟩
    · rw [none, noneToo]
    · rw [some, someToo, Option.isSome_some, Option.isSome_some]
  have chosen : Option.Rel pairing.Near ((one.graph.parents id).find? fun parent => (root parent).isSome)
      ((other.graph.parents twin).find? fun parent => (rootToo parent).isSome) :=
    (sketched.parents_near same).find? fun _ _ _ near => rooted near
  rw [chooses.2] at chosen
  obtain ⟨parentToo, chosenToo, near⟩ := chosen.exists_right
  refine ⟨parentToo, near.resolve_right fun ⟨lost, _⟩ => ?_,
    ((sketched.nodes id twin same).same Node.discriminator fun _ => rfl).symm.trans chooses.1, chosenToo⟩
  have hasRoot := (chooses.root_eq finds).2
  rw [Blank.rootless (sketched.matched.blank parent lost) finds] at hasRoot
  cases hasRoot

theorem chain_twin {base : Nat} (same : pairing.same id twin) (chain : TransGen (Chooses one.graph root) id base) :
    ∃ baseToo, pairing.same base baseToo ∧ TransGen (Chooses other.graph rootToo) twin baseToo := by
  induction chain with
  | single chooses =>
      obtain ⟨next, sameNext, choosesToo⟩ := sketched.chooses_twin finds findsToo acyclic same chooses
      exact ⟨next, sameNext, .single choosesToo⟩
  | tail _ chooses ih =>
      obtain ⟨middle, sameMiddle, chain⟩ := ih
      obtain ⟨next, sameNext, choosesToo⟩ := sketched.chooses_twin finds findsToo acyclic sameMiddle chooses
      exact ⟨next, sameNext, chain.tail choosesToo⟩

/-- The twin of a variant is a variant of the twin of its root. -/
theorem variant_twin {top topToo : Nat} (sameTop : pairing.same top topToo)
    (member : id ∈ one.catalog.collections.objects) (rooted : root id = some top) :
    ∃ twin, pairing.same id twin ∧ twin ∈ other.catalog.collections.objects ∧ rootToo twin = some topToo := by
  obtain ⟨twin, same⟩ := sketched.matched.objects id member
  have found := sketched.root_near finds findsToo acyclic (.inl same)
  rw [rooted] at found
  obtain ⟨another, rootedToo, sameRoot⟩ := found.exists_right
  cases sketched.sound.forward _ _ _ sameTop sameRoot
  exact ⟨twin, same, (sketched.objects id twin same).mp member, rootedToo⟩

/-! ## Maps of tags -/

theorem leads_twin {top topToo : Nat} {tags tagsToo : Assoc (Option Nat)} (sameTop : pairing.same top topToo)
    (exact : Exact one.graph root one.catalog.collections.objects top tags)
    (exactToo : Exact other.graph rootToo other.catalog.collections.objects topToo tagsToo) {tag : String}
    {target : Option Nat} (found : Assoc.find? tags tag = some target) :
    ∃ targetToo, Assoc.find? tagsToo tag = some targetToo ∧ Option.Rel pairing.same target targetToo := by
  rcases (exact.leads tag target).mp found with ⟨rfl, named⟩ | ⟨id, member, different, rooted, rfl, named⟩
  · exact ⟨none, (exactToo.leads tag none).mpr (.inl ⟨rfl, sketched.tag?_eq sameTop ▸ named⟩), .none⟩
  · obtain ⟨twin, same, memberToo, rootedToo⟩ := sketched.variant_twin finds findsToo acyclic sameTop member rooted
    refine ⟨some twin, (exactToo.leads tag (some twin)).mpr (.inr ⟨twin, memberToo, ?_, rootedToo, rfl, ?_⟩),
      .some same⟩
    · exact fun equal => different ((sketched.sound.eq_iff same sameTop).mpr equal)
    · exact sketched.tag?_eq same ▸ named

theorem tagsAlike {top topToo : Nat} {tags tagsToo : Assoc (Option Nat)} (sameTop : pairing.same top topToo)
    (exact : Exact one.graph root one.catalog.collections.objects top tags)
    (exactToo : Exact other.graph rootToo other.catalog.collections.objects topToo tagsToo)
    (distinct : (Assoc.keys tags).Nodup) (distinctToo : (Assoc.keys tagsToo).Nodup) :
    TagsAlike pairing tags tagsToo := by
  refine ⟨fun tag => ?_, distinct, distinctToo⟩
  rcases found : Assoc.find? tags tag with _ | target
  · rcases foundToo : Assoc.find? tagsToo tag with _ | targetToo
    · exact .none
    · obtain ⟨_, some, _⟩ := sketched.flip.leads_twin findsToo finds (sketched.acyclic acyclic) sameTop exactToo
        exact foundToo
      cases found.symm.trans some
  · obtain ⟨targetToo, foundToo, targets⟩ := sketched.leads_twin finds findsToo acyclic sameTop exact exactToo found
    rw [foundToo]
    exact .some targets

theorem maps_alike {tagged taggedToo : Draft} (same : pairing.same id twin)
    (enrolled : Catalog.Enrolled one.graph one.catalog.deferred root one.catalog.collections.objects tagged.catalog)
    (enrolledToo :
      Catalog.Enrolled other.graph other.catalog.deferred rootToo other.catalog.collections.objects taggedToo.catalog)
    (distinct : Catalog.DistinctTags tagged.graph) (distinctToo : Catalog.DistinctTags taggedToo.graph) :
    Option.Rel (TagsAlike pairing) (tagged.graph.node id).tagMap (taggedToo.graph.node twin).tagMap := by
  have used : (∃ variant ∈ one.catalog.collections.objects, root variant = some id) ↔
      ∃ variant ∈ other.catalog.collections.objects, rootToo variant = some twin := by
    constructor
    · rintro ⟨variant, member, rooted⟩
      obtain ⟨variantToo, _, memberToo, rootedToo⟩ := sketched.variant_twin finds findsToo acyclic same member rooted
      exact ⟨variantToo, memberToo, rootedToo⟩
    · rintro ⟨variant, member, rooted⟩
      obtain ⟨variantToo, _, memberToo, rootedToo⟩ :=
        sketched.flip.variant_twin findsToo finds (sketched.acyclic acyclic) same member rooted
      exact ⟨variantToo, memberToo, rootedToo⟩
  have named := sketched.tag?_eq same
  by_cases silent : (one.graph.node id).tag? = none ∨ ¬∃ variant ∈ one.catalog.collections.objects,
    root variant = some id
  · rw [show (tagged.graph.node id).tagMap = none from enrolled.unmapped id silent,
      show (taggedToo.graph.node twin).tagMap = none from enrolledToo.unmapped twin (by rwa [← named, ← used])]
    exact .none
  · rw [not_or, not_not] at silent
    obtain ⟨tags, mapped, exact⟩ := enrolled.mapped id silent.2 silent.1
    obtain ⟨tagsToo, mappedToo, exactToo⟩ := enrolledToo.mapped twin (used.mp silent.2) (named ▸ silent.1)
    rw [show (tagged.graph.node id).tagMap = _ from mapped, show (taggedToo.graph.node twin).tagMap = _ from mappedToo]
    exact .some (sketched.tagsAlike finds findsToo acyclic same exact exactToo (distinct _ _ mapped)
      (distinctToo _ _ mappedToo))

theorem mistagged_twin (same : pairing.same id twin)
    (mistagged : Mistagged one.graph root one.catalog.collections.objects id) :
    Mistagged other.graph rootToo other.catalog.collections.objects twin := by
  cases mistagged with
  | @head variant member different rooted untagged =>
      obtain ⟨variantToo, sameVariant, memberToo, rootedToo⟩ :=
        sketched.variant_twin finds findsToo acyclic same member rooted
      refine .head memberToo (fun equal => different ((sketched.sound.eq_iff sameVariant same).mpr equal)) rootedToo ?_
      rwa [← sketched.tag?_eq same, ← sketched.tag?_eq sameVariant]
  | @variant top member different rooted tagged untagged =>
      have found := sketched.root_near finds findsToo acyclic (.inl same)
      rw [rooted] at found
      obtain ⟨topToo, rootedToo, sameTop⟩ := found.exists_right
      refine .variant ((sketched.objects id twin same).mp member)
        (fun equal => different ((sketched.sound.eq_iff same sameTop).mpr equal)) rootedToo ?_ ?_
      · rwa [← sketched.tag?_eq sameTop]
      · rwa [← sketched.tag?_eq same]

theorem tagsApart (apart : TagsApart one.graph root one.catalog.collections.objects) :
    TagsApart other.graph rootToo other.catalog.collections.objects := by
  have back {twin topToo : Nat} (member : twin ∈ other.catalog.collections.objects)
    (rooted : rootToo twin = some topToo) :
      ∃ id top, pairing.same id twin ∧ pairing.same top topToo ∧ id ∈ one.catalog.collections.objects ∧
        root id = some top := by
    obtain ⟨id, same⟩ := sketched.matchedToo.objects twin member
    have found := sketched.root_near finds findsToo acyclic (.inl same)
    rw [rooted] at found
    obtain ⟨top, rootedOne, sameTop⟩ := found.exists_left
    exact ⟨id, top, same, sameTop, (sketched.objects id twin same).mpr member, rootedOne⟩
  constructor
  · intro twin member topToo tag rooted different named
    obtain ⟨id, top, same, sameTop, memberOne, rootedOne⟩ := back member rooted
    rw [← sketched.tag?_eq same] at named
    rw [← sketched.tag?_eq sameTop]
    exact apart.own id memberOne top tag rootedOne
      (fun equal => different ((sketched.sound.eq_iff same sameTop).mp equal)) named
  · intro twin member twinToo memberToo topToo tag rooted rootedToo named namedToo
    obtain ⟨id, top, same, sameTop, memberOne, rootedOne⟩ := back member rooted
    obtain ⟨idToo, another, sameToo, sameTopToo, memberOneToo, rootedOneToo⟩ := back memberToo rootedToo
    cases sketched.sound.backward _ _ _ sameTop sameTopToo
    rw [← sketched.tag?_eq same] at named
    rw [← sketched.tag?_eq sameToo] at namedToo
    exact (sketched.sound.eq_iff same sameToo).mp
      (apart.apart id memberOne idToo memberOneToo top tag rootedOne rootedOneToo named namedToo)

end

/-- Two drafts that are paired get the same hierarchies. -/
theorem buildTagMaps (fresh : Fresh one) (freshToo : Fresh other) (acyclic : IsAcyclic one.graph.HasBranch)
    (apart : TagsApart one.graph one.graph.root? one.catalog.collections.objects) :
    ∃ tagged taggedToo, one.buildTagMaps = .ok tagged ∧ other.buildTagMaps = .ok taggedToo ∧
      Sketched pairing tagged taggedToo := by
  have acyclicToo := sketched.acyclic acyclic
  have parents : IsAcyclic one.graph.HasParent := acyclic.mono fun _ _ => Graph.HasParent.hasBranch
  have parentsToo : IsAcyclic other.graph.HasParent := acyclicToo.mono fun _ _ => Graph.HasParent.hasBranch
  have finds := findsRoots_root? parents
  have findsToo := findsRoots_root? parentsToo
  obtain ⟨tagged, ran, enrolled, bases, collections, frame⟩ := buildTagMaps_enrolled fresh parents apart
  obtain ⟨taggedToo, ranToo, enrolledToo, basesToo, collectionsToo, frameToo⟩ :=
    buildTagMaps_enrolled freshToo parentsToo (sketched.tagsApart finds findsToo acyclic apart)
  have operations : tagged.operations = one.operations := by rw [frame]
  have operationsToo : taggedToo.operations = other.operations := by rw [frameToo]
  refine ⟨tagged, taggedToo, ran, ranToo,
    { sound := sketched.sound
      inside := fun id twin same => ?_
      nodes := fun id twin same => ⟨?_, ?_, ?_⟩
      deferred := fun id twin same => ?_
      operations := ?_
      operationsToo := ?_
      objects := fun id twin same => ?_
      arrays := fun id twin same => ?_
      bases := fun id twin same => ?_
      matched := sketched.matched.tagged enrolled collections
      matchedToo := sketched.matchedToo.tagged enrolledToo collectionsToo }⟩
  · rw [show tagged.graph.size = _ from enrolled.retagged.size, show taggedToo.graph.size = _ from
      enrolledToo.retagged.size]
    exact sketched.inside id twin same
  · rw [show tagged.graph.node id = _ from enrolled.retagged.node id,
      show taggedToo.graph.node twin = _ from enrolledToo.retagged.node twin]
    exact (sketched.nodes id twin same).bare
  · rw [show (tagged.graph.node id).outline = _ from enrolled.retagged.outline id,
      show (taggedToo.graph.node twin).outline = _ from enrolledToo.retagged.outline twin]
    exact (sketched.nodes id twin same).outline
  · exact sketched.maps_alike finds findsToo acyclic same enrolled enrolledToo
      (buildTagMaps_distinctTags ran fun id => (fresh.built.written id).tagMap)
      (buildTagMaps_distinctTags ranToo fun id => (freshToo.built.written id).tagMap)
  · refine not_iff_not.mp ?_
    rw [← ne_eq, ← ne_eq, ← Option.isSome_iff_ne_none, ← Option.isSome_iff_ne_none, enrolled.spoiled,
      enrolledToo.spoiled,
      Option.isSome_iff_ne_none, Option.isSome_iff_ne_none]
    refine or_congr (not_congr (sketched.deferred id twin same)) ?_
    exact ⟨sketched.mistagged_twin finds findsToo acyclic same,
      sketched.flip.mistagged_twin findsToo finds acyclicToo same⟩
  · rw [operations, operationsToo]
    exact sketched.operations
  · rw [operations, operationsToo]
    exact sketched.operationsToo
  · rw [collections, collectionsToo]
    exact sketched.objects id twin same
  · rw [collections, collectionsToo]
    exact sketched.arrays id twin same
  · rw [bases, basesToo]
    constructor
    · rintro ⟨variant, member, chain⟩
      obtain ⟨variantToo, sameVariant⟩ := sketched.matched.objects variant member
      obtain ⟨baseToo, sameBase, chainToo⟩ := sketched.chain_twin finds findsToo acyclic sameVariant chain
      cases sketched.sound.forward _ _ _ same sameBase
      exact ⟨variantToo, (sketched.objects _ _ sameVariant).mp member, chainToo⟩
    · rintro ⟨variantToo, member, chain⟩
      obtain ⟨variant, sameVariant⟩ := sketched.matchedToo.objects variantToo member
      obtain ⟨base, sameBase, chainToo⟩ := sketched.flip.chain_twin findsToo finds acyclicToo sameVariant chain
      cases sketched.sound.backward _ _ _ same sameBase
      exact ⟨variant, (sketched.objects _ _ sameVariant).mpr member, chainToo⟩

end Sketched

end Draft

/-! ## Inheritance -/

namespace Assoc

variable {α β : Type} {related : α → β → Prop} {left added : Assoc α} {right addedToo : Assoc β}

theorem insertNew_tables (tables : Schema.Outline.Tables related left right) (key : String) {value : α} {other : β}
    (values : related value other) :
    Schema.Outline.Tables related (insertNew left key value) (insertNew right key other) := by
  have known : contains left key = contains right key := by
    rw [Bool.eq_iff_iff, contains_iff_mem_keys, contains_iff_mem_keys, Validator.keys_alike tables]
  unfold insertNew
  rw [known]
  split
  · exact tables
  · exact List.rel_append tables (.cons ⟨rfl, values⟩ .nil)

theorem foldl_insertNew_tables (addedTables : Schema.Outline.Tables related added addedToo)
    (tables : Schema.Outline.Tables related left right) :
    Schema.Outline.Tables related (added.foldl (fun table entry => insertNew table entry.1 entry.2) left)
      (addedToo.foldl (fun table entry => insertNew table entry.1 entry.2) right) := by
  induction addedTables generalizing left right with
  | nil => exact tables
  | cons both _ ih =>
      rw [List.foldl_cons, List.foldl_cons, both.1]
      exact ih (insertNew_tables tables _ both.2)

end Assoc

namespace Schema

variable {pairing : Pairing} {node other parent parentToo : Node}

/-- Two schemas hand the same properties and required names down to those that inherit from them. -/
structure Node.HandsAlike (pairing : Pairing) (parent other : Node) : Prop where
  properties : Outline.Tables (Edge.Alike pairing.Near) parent.propertyList other.propertyList
  required : parent.required = other.required

namespace Node.Alike

theorem hands (alike : node.Alike pairing other) : node.HandsAlike pairing other :=
  ⟨alike.propertyList, alike.same Node.required fun _ => rfl⟩

theorem gathered (alike : node.Alike pairing other) : node.gathered.Alike pairing other.gathered where
  bare := alike.bare
  outline := { alike.outline with properties := .some alike.propertyList }
  tags := alike.tags

theorem absorb (alike : node.Alike pairing other) (hands : parent.HandsAlike pairing parentToo) :
    (node.absorb parent).Alike pairing (other.absorb parentToo) where
  bare := by
    have required : (node.absorb parent).required = (other.absorb parentToo).required := by
      rw [Node.absorb, Node.absorb, hands.required, alike.same Node.required fun _ => rfl]
    exact (congrArg (fun bare : Node => { bare with required := (node.absorb parent).required }) alike.bare).trans
      (congrArg (fun required => { other.bare with required, tagMap := none }) required)
  outline :=
    { alike.outline with
      properties := by
        have tables := alike.outline.properties
        change Option.Rel _ (node.properties.map _) (other.properties.map _)
        change Option.Rel _ node.properties other.properties at tables
        rcases tables.none_or_some with ⟨none, noneToo⟩ | ⟨_, _, some, someToo, tables⟩
        · rw [none, noneToo]
          exact .none
        · rw [some, someToo]
          exact .some (Assoc.foldl_insertNew_tables hands.properties tables) }
  tags := alike.tags

theorem foldl_absorb {parents parentsToo : List Node} (hands : List.Forall₂ (HandsAlike pairing) parents parentsToo)
    (alike : node.Alike pairing other) :
    (parents.foldl Node.absorb node).Alike pairing (parentsToo.foldl Node.absorb other) := by
  induction hands generalizing node other with
  | nil => exact alike
  | cons first _ ih => exact ih (alike.absorb first)

theorem settled {bases basesToo : List Nat} {id twin : Nat} (alike : node.Alike pairing other)
    (same : id ∈ bases ↔ twin ∈ basesToo) : (node.settled bases id).Alike pairing (other.settled basesToo twin) := by
  have kept : (bases.contains id && node.discriminator.isNone) =
      (basesToo.contains twin && other.discriminator.isNone) := by
    rw [alike.same Node.discriminator fun _ => rfl, Bool.eq_iff_iff, Bool.and_eq_true, Bool.and_eq_true,
      List.contains_iff_mem, List.contains_iff_mem, same]
  unfold Node.settled
  rw [kept]
  split
  · exact alike
  · exact ⟨alike.bare, { alike.outline with allOf := .none }, alike.tags⟩

end Node.Alike

end Schema

namespace Draft

open Schema Merging

variable {pairing : Pairing} {draft draftToo one other : Draft} {merged mergedToo : Graph} {id twin : Nat}

theorem Blank.not_mergeable (blank : draft.Blank id) : ¬Mergeable draft.graph id :=
  fun mergeable => mergeable.2 (congrArg Outline.allOf blank.outline)

theorem Blank.hands (blank : draft.Blank id) (blankToo : draftToo.Blank twin) :
    (draft.graph.node id).HandsAlike pairing (draftToo.graph.node twin) where
  properties := by
    have none : (draft.graph.node id).properties = .none := congrArg Outline.properties blank.outline
    have noneToo : (draftToo.graph.node twin).properties = .none := congrArg Outline.properties blankToo.outline
    rw [Node.propertyList, Node.propertyList, none, noneToo]
    exact .nil
  required := blank.required.trans blankToo.required.symm

theorem Matched.inherited (matched : Matched pairing draft)
    (settled : Merging.Settled draft.graph draft.baseSchemas merged) :
    Matched pairing (draft.modifyGraph fun _ => merged) where
  objects := matched.objects
  arrays := matched.arrays
  owners id leads := by
    refine matched.owners id fun none => leads ?_
    have branchless : (draft.graph.node id).allOf = .none := congrArg Outline.allOf none
    exact (congrArg Node.outline (settled.refused fun mergeable => mergeable.2 branchless)).trans none
  blank id lost := by
    have blank := matched.blank id lost
    have same := settled.refused blank.not_mergeable
    exact ⟨blank.spoiled, (congrArg Node.outline same).trans blank.outline,
      (congrArg Node.discriminator same).trans blank.discriminator, (congrArg Node.required same).trans blank.required,
      (congrArg Node.xNullable same).trans blank.xNullable⟩

namespace Sketched

variable (sketched : Sketched pairing one other)

include sketched

theorem mergeable_iff (same : pairing.same id twin) : Mergeable one.graph id ↔ Mergeable other.graph twin := by
  have alike := sketched.nodes id twin same
  have branches : (one.graph.node id).allOf = none ↔ (other.graph.node twin).allOf = none := by
    have related : Option.Rel _ (one.graph.node id).allOf (other.graph.node twin).allOf := alike.outline.allOf
    rcases related.none_or_some with ⟨none, noneToo⟩ | ⟨_, _, some, someToo, _⟩
    · rw [none, noneToo]
    · rw [some, someToo]
      exact iff_of_false (Option.some_ne_none _) (Option.some_ne_none _)
  rw [Mergeable, Mergeable, alike.same Node.inherits fun _ => rfl, ne_eq, ne_eq, branches]

/-- Schemas that are the same inherit the same. The induction is on the number of schemas that branches lead to. -/
theorem merged_alike (acyclic : IsAcyclic one.graph.HasBranch)
    (settled : Merging.Settled one.graph one.baseSchemas merged)
    (settledToo : Merging.Settled other.graph other.baseSchemas mergedToo) (same : pairing.same id twin) :
    (merged.node id).Alike pairing (mergedToo.node twin) := by
  induction size : reach one.graph.HasBranch one.graph.size id using Nat.strong_induction_on generalizing id twin with
  | _ size ih =>
      have alike := sketched.nodes id twin same
      by_cases mergeable : Mergeable one.graph id
      · have mergeableToo := (sketched.mergeable_iff same).mp mergeable
        obtain ⟨branches, listed⟩ := Option.ne_none_iff_exists'.mp mergeable.2
        obtain ⟨branchesToo, listedToo⟩ := Option.ne_none_iff_exists'.mp mergeableToo.2
        have near := sketched.branches_near same
        rw [listed, listedToo, Option.getD_some, Option.getD_some] at near
        rw [settled.node_eq mergeable.1 listed, settledToo.node_eq mergeableToo.1 listedToo]
        refine (Node.Alike.foldl_absorb ?_ alike.gathered).settled (sketched.bases id twin same)
        refine List.forall₂_map_left_iff.mpr (List.forall₂_map_right_iff.mpr ?_)
        refine ((List.forall₂_and_left (p := (· ∈ branches)) branches branchesToo).mpr
          ⟨fun _ member => member, near⟩).imp ?_
        rintro branch branchToo ⟨member, alike⟩
        have step : one.graph.HasBranch _ branch.target := ⟨branch, by rwa [listed], rfl⟩
        rcases alike.near with sameToo | ⟨lost, lostToo⟩
        · exact (ih _ (size ▸ acyclic.reach_lt (lt_size_of_mergeable mergeable) step) sameToo rfl).hands
        · have blank := sketched.matched.blank branch.target lost
          have blankToo := sketched.matchedToo.blank branchToo.target lostToo
          rw [settled.refused blank.not_mergeable, settledToo.refused blankToo.not_mergeable]
          exact blank.hands blankToo
      · rw [settled.refused mergeable, settledToo.refused (mergeable ∘ (sketched.mergeable_iff same).mpr)]
        exact alike

theorem mergeBranches (acyclic : IsAcyclic one.graph.HasBranch)
    (covers : ∀ id, Mergeable one.graph id → id ∈ one.catalog.collections.objects)
    (coversToo : ∀ id, Mergeable other.graph id → id ∈ other.catalog.collections.objects) :
    ∃ merged mergedToo, one.mergeBranches = .ok merged ∧ other.mergeBranches = .ok mergedToo ∧
      Sketched pairing merged mergedToo := by
  have inherits {graph : Graph} (acyclic : IsAcyclic graph.HasBranch) : IsAcyclic (InheritsFrom graph) :=
    acyclic.mono fun _ _ => InheritsFrom.hasBranch
  obtain ⟨merged, size, _, settled, answers⟩ := mergeAll_settles (inherits acyclic) one.baseSchemas
  obtain ⟨mergedToo, sizeToo, _, settledToo, answersToo⟩ :=
    mergeAll_settles (inherits (sketched.acyclic acyclic)) other.baseSchemas
  refine ⟨one.modifyGraph fun _ => merged, other.modifyGraph fun _ => mergedToo, ?_, ?_,
    { sound := sketched.sound
      inside := fun id twin same => size.symm ▸ sizeToo.symm ▸ sketched.inside id twin same
      nodes := fun id twin same => sketched.merged_alike acyclic settled settledToo same
      deferred := sketched.deferred
      operations := sketched.operations
      operationsToo := sketched.operationsToo
      objects := sketched.objects
      arrays := sketched.arrays
      bases := sketched.bases
      matched := sketched.matched.inherited settled
      matchedToo := sketched.matchedToo.inherited settledToo }⟩
  · rw [Draft.mergeBranches, (answers _ covers).1]
  · rw [Draft.mergeBranches, (answersToo _ coversToo).1]

end Sketched

end Draft

end ApiContract
