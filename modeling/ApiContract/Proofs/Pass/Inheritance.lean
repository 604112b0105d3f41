import Mathlib.Data.List.Forall2
import Mathlib.Logic.Relation
import ApiContract.Pass.Inheritance
import ApiContract.Proofs.Assoc
import ApiContract.Proofs.Related
import ApiContract.Proofs.Schema.Graph
import ApiContract.Proofs.Stateful

/-!
Inheritance takes over what branches declare and require. A merge visits a schema once; what it leaves is
the schema with all of its branches absorbed, as they were when their turn came (`Absorbed`). Schemas that
were visited before a merge, and those that it does not visit, stay as they are (`Progress`).
-/

namespace ApiContract.Schema

namespace Node

variable (node parent : Node) (key : String)

def Tabled (node : Node) : Prop := node.properties ≠ none

theorem find?_absorb {node : Node} (tabled : node.Tabled) :
    Assoc.find? (node.absorb parent).propertyList key =
      (Assoc.find? node.propertyList key).or (Assoc.find? parent.propertyList key) := by
  obtain ⟨own, listed⟩ := Option.ne_none_iff_exists'.mp tabled
  simp only [propertyList, absorb, listed, Option.map_some, Option.getD_some]
  exact Assoc.find?_foldl_insertNew _ own key

theorem mem_absorb {entry : String × Edge} (member : entry ∈ (node.absorb parent).propertyList) :
    entry ∈ node.propertyList ∨ entry ∈ parent.propertyList := by
  rcases listed : node.properties with _ | own
  · simp [propertyList, absorb, listed] at member
  · simp only [propertyList, absorb, listed, Option.map_some, Option.getD_some] at member ⊢
    exact Assoc.mem_foldl_insertNew member

theorem tabled_absorb {node : Node} (tabled : node.Tabled) : (node.absorb parent).Tabled := by
  simpa [Tabled, absorb] using tabled

theorem mem_foldl_required (added names : List String) (name : String) :
    name ∈ added.foldl (fun names name => if names.contains name then names else names ++ [name]) names ↔
      name ∈ names ∨ name ∈ added := by
  induction added generalizing names with
  | nil => simp
  | cons first rest ih =>
      rw [List.foldl_cons, ih, List.mem_cons, ← or_assoc]
      refine or_congr_left ?_
      split
      next present =>
        have member : first ∈ names := by simpa using present
        constructor
        · exact .inl
        · rintro (old | rfl)
          · exact old
          · exact member
      · simp

theorem mem_required_absorb : key ∈ (node.absorb parent).required ↔ key ∈ node.required ∨ key ∈ parent.required :=
  mem_foldl_required parent.required node.required key

/-- Nodes that differ in what inheritance changes alone. -/
def SameApart (node other : Node) : Prop :=
  other = { node with properties := other.properties, required := other.required, allOf := other.allOf }

theorem SameApart.refl : node.SameApart node := rfl

theorem SameApart.trans {node other another : Node} (same : node.SameApart other) (sameToo : other.SameApart another) :
    node.SameApart another := by
  unfold SameApart at *
  rw [sameToo, same]

theorem sameApart_absorb : node.SameApart (node.absorb parent) := rfl

/-- A node whose table of properties is there for others to be added. -/
def gathered (node : Node) : Node := { node with properties := some node.propertyList }

/-- Only base schemas that declare no discriminator keep their branches. -/
def settled (bases : List Nat) (id : Nat) (node : Node) : Node :=
  if bases.contains id && node.discriminator.isNone then node else { node with allOf := none }

@[simp] theorem propertyList_settled (bases : List Nat) (id : Nat) :
    (node.settled bases id).propertyList = node.propertyList := by
  unfold settled
  split <;> rfl

@[simp] theorem required_settled (bases : List Nat) (id : Nat) :
    (node.settled bases id).required = node.required := by
  unfold settled
  split <;> rfl

theorem sameApart_settled (bases : List Nat) (id : Nat) : node.SameApart (node.settled bases id) := by
  unfold settled
  split <;> rfl

theorem settled_of_base {bases : List Nat} {id : Nat} {node : Node} (base : bases.contains id = true)
    (plain : node.discriminator = none) : node.settled bases id = node := by
  unfold settled
  rw [if_pos (by rw [base, plain]; rfl)]

theorem allOf_settled_of_root {bases : List Nat} {id : Nat} {node : Node} (declares : node.discriminator ≠ none) :
    (node.settled bases id).allOf = none := by
  unfold settled
  rw [if_neg (by simp [declares])]

theorem tabled_settled {bases : List Nat} {id : Nat} {node : Node} (tabled : node.Tabled) :
    (node.settled bases id).Tabled := by
  unfold settled
  split <;> exact tabled

theorem allOf_foldl_absorb (parents : List Node) : (parents.foldl absorb node).allOf = node.allOf := by
  induction parents generalizing node with
  | nil => rfl
  | cons parent rest ih => exact ih (node.absorb parent)

theorem discriminator_foldl_absorb (parents : List Node) :
    (parents.foldl absorb node).discriminator = node.discriminator := by
  induction parents generalizing node with
  | nil => rfl
  | cons parent rest ih => exact ih (node.absorb parent)

theorem tabled_foldl_absorb {node : Node} (tabled : node.Tabled) (parents : List Node) :
    (parents.foldl absorb node).Tabled := by
  induction parents generalizing node with
  | nil => exact tabled
  | cons parent rest ih => exact ih (tabled_absorb parent tabled)

end Node

/-! ## Who inherits from whom -/

/-- A schema that inherits has the other one among its branches. -/
def InheritsFrom (graph : Graph) (id parent : Nat) : Prop :=
  (graph.node id).inherits = true ∧
    ∃ branches, (graph.node id).allOf = some branches ∧ ∃ branch ∈ branches, branch.target = parent

abbrev Lineage (graph : Graph) : Nat → Nat → Prop := Relation.ReflTransGen (InheritsFrom graph)

/-- Nothing that the schema inherits from inherits from itself. -/
def Founded (graph : Graph) (id : Nat) : Prop :=
  ∀ ancestor, Lineage graph id ancestor → ¬Relation.TransGen (InheritsFrom graph) ancestor ancestor

def Mergeable (graph : Graph) (id : Nat) : Prop :=
  (graph.node id).inherits = true ∧ (graph.node id).allOf ≠ none

theorem Founded.ancestor {graph : Graph} {id ancestor : Nat} (founded : Founded graph id)
    (lineage : Lineage graph id ancestor) : Founded graph ancestor :=
  fun further leads => founded further (lineage.trans leads)

namespace Merging

variable (written : Graph) (bases : List Nat)

/-- A node that took over declarations of ancestors and is otherwise as written. -/
structure Widened (id : Nat) (node : Node) : Prop where
  apart : (written.node id).SameApart node
  required : (written.node id).required ⊆ node.required
  found : ∀ key edge, Assoc.find? (written.node id).propertyList key = some edge →
    Assoc.find? node.propertyList key = some edge
  source : ∀ entry ∈ node.propertyList,
    ∃ ancestor, Lineage written id ancestor ∧ entry ∈ (written.node ancestor).propertyList
  allOf : node.allOf = none ∨ node.allOf = (written.node id).allOf

/-- What merging makes of schemas that nothing leads back to. -/
inductive Inherited : Nat → Node → Prop
  | plain {id} : ¬Mergeable written id → Inherited id (written.node id)
  | merged {id branches parents} : (written.node id).inherits = true →
      (written.node id).allOf = some branches → parents.length = branches.length →
      (∀ pair ∈ branches.zip parents, Inherited pair.1.target pair.2) →
      Inherited id ((parents.foldl Node.absorb (written.node id).gathered).settled bases id)

def Absorbed (id : Nat) (branch : Edge) (parent : Node) : Prop :=
  Widened written branch.target parent ∧ (Founded written id → Inherited written bases branch.target parent)

def Complete (id : Nat) (node : Node) : Prop :=
  ∃ branches parents, (written.node id).inherits = true ∧ (written.node id).allOf = some branches ∧
    List.Forall₂ (Absorbed written bases id) branches parents ∧
    node = (parents.foldl Node.absorb (written.node id).gathered).settled bases id

structure Sane (merging : Merging) : Prop where
  mergeable : ∀ id ∈ merging.visited, Mergeable written id
  untouched : ∀ id, id ∉ merging.visited → merging.graph.node id = written.node id
  widened : ∀ id, Widened written id (merging.graph.node id)

/-- Schemas that a merge finds visited below its own are done, unless they lead back to themselves. -/
def Ready (id : Nat) (merging : Merging) : Prop :=
  ∀ other ∈ merging.visited, Lineage written id other → Founded written other →
    Inherited written bases other (merging.graph.node other)

structure Progress (before after : Merging) : Prop where
  size : after.graph.size = before.graph.size
  visited : before.visited ⊆ after.visited
  kept : ∀ id ∈ before.visited, after.graph.node id = before.graph.node id
  complete : ∀ id ∈ after.visited, id ∉ before.visited → Complete written bases id (after.graph.node id)

/-- A merge went on from one state to another, and visited its schema if that can be merged. -/
structure Merges (id : Nat) (before after : Merging) : Prop where
  sane : Sane written after
  progress : Progress written bases before after
  entered : Mergeable written id → id ∈ after.visited

/-- Amid the branches of a schema: those that are done were absorbed. -/
structure Halfway (id : Nat) (before current : Merging) (done : List Edge) : Prop where
  sane : Sane written current
  size : current.graph.size = before.graph.size
  entered : id ∈ current.visited
  visited : before.visited ⊆ current.visited
  kept : ∀ other ∈ before.visited, current.graph.node other = before.graph.node other
  complete : ∀ other ∈ current.visited, other ∉ before.visited → other ≠ id →
    Complete written bases other (current.graph.node other)
  absorbed : ∃ parents, List.Forall₂ (Absorbed written bases id) done parents ∧
    current.graph.node id = parents.foldl Node.absorb (written.node id).gathered

variable {written : Graph} {bases : List Nat} {id : Nat} {node parent : Node}

theorem Widened.refl : Widened written id (written.node id) :=
  ⟨.refl _, List.Subset.refl _, fun _ _ found => found, fun _ member => ⟨id, .refl, member⟩, .inr rfl⟩

theorem Widened.gathered (widened : Widened written id node) : Widened written id node.gathered :=
  ⟨widened.apart.trans rfl, widened.required, widened.found, widened.source, widened.allOf⟩

theorem Widened.settled (widened : Widened written id node) : Widened written id (node.settled bases id) := by
  refine ⟨widened.apart.trans (Node.sameApart_settled node bases id), ?_, ?_, ?_, ?_⟩
  · rw [Node.required_settled]
    exact widened.required
  · rw [Node.propertyList_settled]
    exact widened.found
  · rw [Node.propertyList_settled]
    exact widened.source
  · unfold Node.settled
    split
    · exact widened.allOf
    · exact .inl rfl

theorem Widened.absorb {ancestor : Nat} (widened : Widened written id node) (tabled : node.Tabled)
    (other : Widened written ancestor parent) (inherits : InheritsFrom written id ancestor) :
    Widened written id (node.absorb parent) := by
  refine ⟨widened.apart.trans (Node.sameApart_absorb node parent), ?_, ?_, ?_, widened.allOf⟩
  · intro key member
    exact (Node.mem_required_absorb node parent key).mpr (.inl (widened.required member))
  · intro key edge found
    rw [Node.find?_absorb parent key tabled, widened.found key edge found, Option.some_or]
  · intro entry member
    rcases Node.mem_absorb node parent member with own | added
    · exact widened.source entry own
    · obtain ⟨further, lineage, declared⟩ := other.source entry added
      exact ⟨further, .head inherits lineage, declared⟩

theorem Complete.inherited (complete : Complete written bases id node) (founded : Founded written id) :
    Inherited written bases id node := by
  obtain ⟨branches, parents, inherits, listed, absorbed, rfl⟩ := complete
  obtain ⟨lengths, paired⟩ := List.forall₂_iff_zip.mp absorbed
  refine .merged inherits listed lengths.symm ?_
  rintro ⟨branch, parent⟩ member
  exact (paired member).2 founded

theorem Sane.start : Sane written { graph := written } :=
  ⟨fun _ member => absurd member List.not_mem_nil, fun _ _ => rfl, fun _ => .refl⟩

theorem Sane.inside {merging : Merging} (sane : Sane written merging) (fresh : id ∉ merging.visited)
    (mergeable : Mergeable written id) : id < merging.graph.size := by
  by_contra outside
  have absent := Graph.node_of_size_le (Nat.le_of_not_lt outside)
  rw [sane.untouched id fresh] at absent
  refine mergeable.2 ?_
  rw [absent]
  rfl

theorem Sane.modifyNode {merging : Merging} (sane : Sane written merging) (entered : id ∈ merging.visited)
    {change : Node → Node} (widened : Widened written id (change (merging.graph.node id))) :
    Sane written (merging.modifyNode id change) := by
  refine ⟨sane.mergeable, ?_, ?_⟩
  · intro other fresh
    have different : other ≠ id := fun same => fresh (same ▸ entered)
    exact (Graph.node_modify_of_ne _ _ different).trans (sane.untouched other fresh)
  · intro other
    by_cases same : other = id
    · subst same
      by_cases inside : other < merging.graph.size
      · have changed : (merging.modifyNode other change).graph.node other = change (merging.graph.node other) :=
          Graph.node_modify_self _ inside
        rwa [changed]
      · have unchanged : (merging.modifyNode other change).graph.node other = merging.graph.node other :=
          Graph.node_modify_outside _ _ (Nat.le_of_not_lt inside)
        rw [unchanged]
        exact sane.widened other
    · have unchanged : (merging.modifyNode id change).graph.node other = merging.graph.node other :=
        Graph.node_modify_of_ne _ _ same
      rw [unchanged]
      exact sane.widened other

theorem Sane.visit {merging : Merging} (sane : Sane written merging) (mergeable : Mergeable written id) :
    Sane written (merging.visit id) := by
  refine ⟨?_, ?_, sane.widened⟩
  · intro other member
    rcases List.mem_cons.mp member with rfl | earlier
    · exact mergeable
    · exact sane.mergeable other earlier
  · intro other fresh
    exact sane.untouched other fun earlier => fresh (List.mem_cons_of_mem _ earlier)

theorem Progress.refl (merging : Merging) : Progress written bases merging merging :=
  ⟨rfl, List.Subset.refl _, fun _ _ => rfl, fun _ member fresh => absurd member fresh⟩

theorem Progress.trans {before middle after : Merging} (first : Progress written bases before middle)
    (second : Progress written bases middle after) : Progress written bases before after := by
  refine ⟨second.size.trans first.size, List.Subset.trans first.visited second.visited, ?_, ?_⟩
  · intro other member
    rw [second.kept other (first.visited member), first.kept other member]
  · intro other member fresh
    by_cases early : other ∈ middle.visited
    · rw [second.kept other early]
      exact first.complete other early fresh
    · exact second.complete other member early

theorem Halfway.start {before : Merging} (sane : Sane written before) (mergeable : Mergeable written id)
    (fresh : id ∉ before.visited) :
    Halfway written bases id before ((before.visit id).modifyNode id Node.gathered) [] := by
  have inside := sane.inside fresh mergeable
  have entered : id ∈ (before.visit id).visited := List.mem_cons_self
  have other_ne {other : Nat} (member : other ∈ before.visited) : other ≠ id := fun same => fresh (same ▸ member)
  refine ⟨(sane.visit mergeable).modifyNode entered (sane.widened id).gathered, Graph.size_modify _ _ _,
    entered, List.subset_cons_self _ _, ?_, ?_, [], .nil, ?_⟩
  · intro other member
    exact Graph.node_modify_of_ne _ _ (other_ne member)
  · intro other member old different
    rcases List.mem_cons.mp member with same | earlier
    · exact absurd same different
    · exact absurd earlier old
  · have changed : ((before.visit id).modifyNode id Node.gathered).graph.node id = (before.graph.node id).gathered :=
      Graph.node_modify_self _ inside
    rw [changed, sane.untouched id fresh]
    rfl

theorem Halfway.ready {before current : Merging} {done : List Edge} {target : Nat}
    (halfway : Halfway written bases id before current done) (ready : Ready written bases id before)
    (inherits : InheritsFrom written id target) : Ready written bases target current := by
  intro other member lineage founded
  by_cases early : other ∈ before.visited
  · rw [halfway.kept other early]
    exact ready other early (.head inherits lineage) founded
  · by_cases same : other = id
    · subst same
      exact absurd (Relation.TransGen.head' inherits lineage) (founded other .refl)
    · exact (halfway.complete other member early same).inherited founded

theorem Merges.absorbed {before after : Merging} {branch : Edge}
    (merges : Merges written bases branch.target before after) (ready : Ready written bases branch.target before)
    (inherits : InheritsFrom written id branch.target) :
    Absorbed written bases id branch (after.graph.node branch.target) := by
  refine ⟨merges.sane.widened branch.target, ?_⟩
  intro founded
  have foundedBelow := founded.ancestor (.single inherits)
  by_cases mergeable : Mergeable written branch.target
  · by_cases early : branch.target ∈ before.visited
    · rw [merges.progress.kept _ early]
      exact ready _ early .refl foundedBelow
    · exact (merges.progress.complete _ (merges.entered mergeable) early).inherited foundedBelow
  · have untouched : branch.target ∉ after.visited := fun member => mergeable (merges.sane.mergeable _ member)
    rw [merges.sane.untouched _ untouched]
    exact .plain mergeable

theorem Halfway.step {before current after : Merging} {done : List Edge} {branch : Edge}
    (halfway : Halfway written bases id before current done) (ready : Ready written bases id before)
    (fresh : id ∉ before.visited) (inherits : InheritsFrom written id branch.target)
    (inside : id < before.graph.size) (merges : Merges written bases branch.target current after) :
    Halfway written bases id before (after.modifyNode id (·.absorb (after.graph.node branch.target)))
      (done ++ [branch]) := by
  have entered := merges.progress.visited halfway.entered
  have size := merges.progress.size.trans halfway.size
  obtain ⟨parents, absorbed, own⟩ := halfway.absorbed
  have ownAfter := (merges.progress.kept id halfway.entered).trans own
  have tabled : (after.graph.node id).Tabled := by
    rw [ownAfter]
    exact Node.tabled_foldl_absorb (by simp [Node.Tabled, Node.gathered]) parents
  have other_ne {other : Nat} (member : other ∈ before.visited) : other ≠ id := fun same => fresh (same ▸ member)
  have widened := (merges.sane.widened id).absorb tabled (merges.sane.widened branch.target) inherits
  refine ⟨merges.sane.modifyNode entered widened, (Graph.size_modify _ _ _).trans size, entered,
    List.Subset.trans halfway.visited merges.progress.visited, ?_, ?_, ?_⟩
  · intro other member
    have unchanged := Graph.node_modify_of_ne after.graph (·.absorb (after.graph.node branch.target)) (other_ne member)
    exact unchanged.trans ((merges.progress.kept other (halfway.visited member)).trans (halfway.kept other member))
  · intro other member old different
    have unchanged := Graph.node_modify_of_ne after.graph (·.absorb (after.graph.node branch.target)) different
    rw [Merging.modifyNode, unchanged]
    by_cases early : other ∈ current.visited
    · rw [merges.progress.kept other early]
      exact halfway.complete other early old different
    · exact merges.progress.complete other member early
  · refine ⟨parents ++ [after.graph.node branch.target], ?_, ?_⟩
    · exact List.rel_append absorbed (.cons (merges.absorbed (halfway.ready ready inherits) inherits) .nil)
    · have changed : (after.modifyNode id (·.absorb (after.graph.node branch.target))).graph.node id =
          (after.graph.node id).absorb (after.graph.node branch.target) :=
        Graph.node_modify_self _ (by omega)
      rw [changed, ownAfter, List.foldl_append]
      rfl

theorem Halfway.finish {before current : Merging} {branches : List Edge}
    (halfway : Halfway written bases id before current branches) (mergeable : Mergeable written id)
    (inside : id < before.graph.size) (fresh : id ∉ before.visited)
    (listed : (written.node id).allOf = some branches) :
    Merges written bases id before (current.modifyNode id (·.settled bases id)) := by
  obtain ⟨parents, absorbed, own⟩ := halfway.absorbed
  have other_ne {other : Nat} (member : other ∈ before.visited) : other ≠ id := fun same => fresh (same ▸ member)
  refine ⟨halfway.sane.modifyNode halfway.entered (halfway.sane.widened id).settled,
    ⟨(Graph.size_modify _ _ _).trans halfway.size, halfway.visited, ?_, ?_⟩, fun _ => halfway.entered⟩
  · intro other member
    exact (Graph.node_modify_of_ne _ _ (other_ne member)).trans (halfway.kept other member)
  · intro other member old
    by_cases same : other = id
    · subst same
      have size := halfway.size
      have changed : (current.modifyNode other (·.settled bases other)).graph.node other =
          (current.graph.node other).settled bases other :=
        Graph.node_modify_self _ (by omega)
      rw [changed, own]
      exact ⟨branches, parents, mergeable.1, listed, absorbed, rfl⟩
    · have unchanged := Graph.node_modify_of_ne current.graph (·.settled bases id) same
      rw [Merging.modifyNode, unchanged]
      exact halfway.complete other member old same

theorem run_modify (change : Merging → Merging) (before after : Merging) (answer : Unit) :
    (modify change : StateT Merging Option Unit).run before = some (answer, after) ↔ after = change before := by
  cases answer
  constructor
  · rintro ⟨⟩
    rfl
  · rintro rfl
    rfl

theorem merges_branches {fuel : Nat} {before : Merging} (ready : Ready written bases id before)
    (fresh : id ∉ before.visited) (inside : id < before.graph.size)
    (merged : ∀ target current after, Sane written current → Ready written bases target current →
      (merge bases fuel target).run current = some ((), after) → Merges written bases target current after)
    (rest done : List Edge) (inherit : ∀ branch ∈ rest, InheritsFrom written id branch.target)
    {current after : Merging} (halfway : Halfway written bases id before current done)
    (ran : (rest.forM fun branch => do
        merge bases fuel branch.target
        let parent := (← get).graph.node branch.target
        modify (modifyNode id (·.absorb parent))).run current = some ((), after)) :
    Halfway written bases id before after (done ++ rest) := by
  induction rest generalizing current done with
  | nil =>
      cases ran
      rwa [List.append_nil]
  | cons branch rest ih =>
      simp only [List.forM, StateT.run_bind_eq_some, run_modify] at ran
      obtain ⟨_, next, ⟨_, middle, below, parent, _, ⟨⟩, rfl⟩, later⟩ := ran
      have inherits := inherit branch List.mem_cons_self
      have merges := merged branch.target current middle halfway.sane (halfway.ready ready inherits) below
      have stepped := halfway.step ready fresh inherits inside merges
      have finished := ih (done ++ [branch]) (fun other member => inherit other (List.mem_cons_of_mem _ member))
        stepped later
      rwa [List.append_assoc] at finished

theorem merge_merges (fuel id : Nat) {before after : Merging} (sane : Sane written before)
    (ready : Ready written bases id before) (ran : (merge bases fuel id).run before = some ((), after)) :
    Merges written bases id before after := by
  induction fuel generalizing id before after with
  | zero => cases ran
  | succ fuel ih =>
      rw [merge, StateT.run_bind_eq_some] at ran
      obtain ⟨_, _, ⟨⟩, ran⟩ := ran
      dsimp only at ran
      have apart := (sane.widened id).apart
      have typed : (before.graph.node id).inherits = (written.node id).inherits := by
        rw [apart]
        rfl
      by_cases entered : id ∈ before.visited
      · have idle : after = before := by
          split at ran
          · cases ran
            rfl
          · rw [if_pos (by simp [entered])] at ran
            cases ran
            rfl
        subst idle
        exact ⟨sane, .refl _, fun _ => entered⟩
      · have own := sane.untouched id entered
        rw [own] at ran
        by_cases mergeable : Mergeable written id
        · obtain ⟨inherits, branched⟩ := mergeable
          obtain ⟨branches, listed⟩ := Option.ne_none_iff_exists'.mp branched
          simp only [listed] at ran
          rw [if_neg (by simp [inherits, entered])] at ran
          simp only [StateT.run_bind_eq_some, run_modify] at ran
          obtain ⟨_, _, rfl, _, _, rfl, _, middle, loop, rfl⟩ := ran
          have inside := sane.inside entered ⟨inherits, branched⟩
          have halfway : Halfway written bases id before _ [] := Halfway.start sane ⟨inherits, branched⟩ entered
          have inherit : ∀ branch ∈ branches, InheritsFrom written id branch.target :=
            fun branch member => ⟨inherits, branches, listed, branch, member, rfl⟩
          have finished := merges_branches ready entered inside
            (fun target current after sane ready ran => ih target sane ready ran) branches [] inherit halfway loop
          exact finished.finish ⟨inherits, branched⟩ inside entered listed
        · have idle : after = before := by
            split at ran
            · cases ran
              rfl
            next branches listed =>
              have refuses : (written.node id).inherits = false := by
                by_contra inherits
                exact mergeable ⟨by simpa using inherits, by simp [listed]⟩
              rw [if_pos (by simp [refuses])] at ran
              cases ran
              rfl
          subst idle
          exact ⟨sane, .refl _, fun possible => absurd possible mergeable⟩

/-- What all merges together make of a graph. -/
structure Outcome (written : Graph) (bases objects : List Nat) (final : Graph) : Prop where
  size : final.size = written.size
  widened : ∀ id, Widened written id (final.node id)
  complete : ∀ id ∈ objects, Mergeable written id → Complete written bases id (final.node id)
  untouched : ∀ id, ¬Mergeable written id → final.node id = written.node id

theorem merges_objects {fuel : Nat} {objects : List Nat} {before after : Merging} (sane : Sane written before)
    (complete : ∀ id ∈ before.visited, Complete written bases id (before.graph.node id))
    (ran : (objects.forM (merge bases fuel)).run before = some ((), after)) :
    Sane written after ∧ Progress written bases before after ∧
      ∀ id ∈ objects, Mergeable written id → id ∈ after.visited := by
  induction objects generalizing before with
  | nil =>
      cases ran
      exact ⟨sane, .refl _, fun _ member => absurd member List.not_mem_nil⟩
  | cons id rest ih =>
      simp only [List.forM, StateT.run_bind_eq_some] at ran
      obtain ⟨_, middle, first, later⟩ := ran
      have ready : Ready written bases id before :=
        fun other member _ founded => (complete other member).inherited founded
      have merges := merge_merges fuel id sane ready first
      have completeMiddle : ∀ other ∈ middle.visited, Complete written bases other (middle.graph.node other) := by
        intro other member
        by_cases early : other ∈ before.visited
        · rw [merges.progress.kept other early]
          exact complete other early
        · exact merges.progress.complete other member early
      obtain ⟨saneAfter, progress, entered⟩ := ih merges.sane completeMiddle later
      refine ⟨saneAfter, merges.progress.trans progress, ?_⟩
      intro other member mergeable
      rcases List.mem_cons.mp member with rfl | among
      · exact progress.visited (merges.entered mergeable)
      · exact entered other among mergeable

theorem mergeAll_outcome {objects : List Nat} {final : Graph} (answer : mergeAll bases objects written = some final) :
    Outcome written bases objects final := by
  obtain ⟨⟨_, after⟩, ran, rfl⟩ := Option.map_eq_some_iff.mp answer
  obtain ⟨sane, progress, entered⟩ := merges_objects Sane.start (fun _ member => absurd member List.not_mem_nil) ran
  refine ⟨progress.size, sane.widened, ?_, ?_⟩
  · intro id member mergeable
    exact progress.complete id (entered id member mergeable) List.not_mem_nil
  · intro id refuses
    exact sane.untouched id fun member => refuses (sane.mergeable id member)

/-! ## What schemas take over -/

theorem required_foldl_absorb (parents : List Node) : node.required ⊆ (parents.foldl Node.absorb node).required := by
  induction parents generalizing node with
  | nil => exact List.Subset.refl _
  | cons first rest ih =>
      intro key member
      exact ih ((Node.mem_required_absorb node first key).mpr (.inl member))

theorem required_foldl_absorb_of_mem {parents : List Node} (among : parent ∈ parents) :
    parent.required ⊆ (parents.foldl Node.absorb node).required := by
  induction parents generalizing node with
  | nil => cases among
  | cons first rest ih =>
      rcases List.mem_cons.mp among with rfl | later
      · intro key member
        exact required_foldl_absorb rest ((Node.mem_required_absorb node parent key).mpr (.inr member))
      · exact ih later

theorem find?_foldl_absorb {start : Node} (tabled : start.Tabled) (parents : List Node) (key : String) :
    Assoc.find? (parents.foldl Node.absorb start).propertyList key =
      (Assoc.find? start.propertyList key).or
        (parents.findSome? fun parent => Assoc.find? parent.propertyList key) := by
  induction parents generalizing start with
  | nil => simp
  | cons first rest ih =>
      rw [List.foldl_cons, ih (Node.tabled_absorb first tabled), Node.find?_absorb first key tabled,
        List.findSome?_cons, Option.or_assoc]
      cases Assoc.find? first.propertyList key <;> simp

/-- A node requires and declares what another one does. -/
def TakesOver (node parent : Node) : Prop :=
  parent.required ⊆ node.required ∧
    ∀ key, (Assoc.find? parent.propertyList key).isSome → (Assoc.find? node.propertyList key).isSome

theorem TakesOver.trans {child : Node} (first : TakesOver child node) (second : TakesOver node parent) :
    TakesOver child parent :=
  ⟨List.Subset.trans second.1 first.1, fun key declared => first.2 key (second.2 key declared)⟩

theorem Widened.takesOver (widened : Widened written id node) : TakesOver node (written.node id) := by
  refine ⟨widened.required, ?_⟩
  intro key declared
  obtain ⟨edge, found⟩ := Option.isSome_iff_exists.mp declared
  rw [widened.found key edge found]
  rfl

theorem takesOver_own (parents : List Node) :
    TakesOver ((parents.foldl Node.absorb node.gathered).settled bases id) node := by
  constructor
  · rw [Node.required_settled]
    have kept : node.gathered.required ⊆ _ := required_foldl_absorb parents
    exact kept
  · intro key declared
    have tabled : node.gathered.Tabled := by simp [Node.Tabled, Node.gathered]
    rw [Node.propertyList_settled, find?_foldl_absorb tabled, Option.isSome_or, Bool.or_eq_true]
    exact .inl declared

theorem takesOver_parent {parents : List Node} (among : parent ∈ parents) :
    TakesOver ((parents.foldl Node.absorb node.gathered).settled bases id) parent := by
  constructor
  · rw [Node.required_settled]
    exact required_foldl_absorb_of_mem among
  · intro key declared
    have tabled : node.gathered.Tabled := by simp [Node.Tabled, Node.gathered]
    rw [Node.propertyList_settled, find?_foldl_absorb tabled, Option.isSome_or, Bool.or_eq_true]
    exact .inr (List.findSome?_isSome_iff.mpr ⟨parent, among, declared⟩)

/-- Direct branches hand down what is written in them. -/
theorem Complete.takesOver (complete : Complete written bases id node) {ancestor : Nat}
    (inherits : InheritsFrom written id ancestor) : TakesOver node (written.node ancestor) := by
  obtain ⟨branches, parents, _, listed, absorbed, rfl⟩ := complete
  obtain ⟨_, others, sameList, branch, member, rfl⟩ := inherits
  cases listed.symm.trans sameList
  obtain ⟨parent, among, widened, _⟩ := absorbed.exists_right member
  exact (takesOver_parent among).trans widened.takesOver

theorem Inherited.takesOver (inherited : Inherited written bases id node) {ancestor : Nat}
    (lineage : Lineage written id ancestor) : TakesOver node (written.node ancestor) := by
  induction inherited generalizing ancestor with
  | @plain id refuses =>
      rcases Relation.ReflTransGen.cases_head lineage with rfl | ⟨next, ⟨inherits, branches, listed, _⟩, _⟩
      · exact Widened.refl.takesOver
      · exact absurd ⟨inherits, by simp [listed]⟩ refuses
  | @merged id branches parents inherits listed lengths paired ih =>
      rcases Relation.ReflTransGen.cases_head lineage with rfl | ⟨_, ⟨_, _, sameList, branch, member, rfl⟩, later⟩
      · exact takesOver_own parents
      · cases listed.symm.trans sameList
        have pairs : List.Forall₂ (fun branch parent => ∀ {ancestor}, Lineage written branch.target ancestor →
            TakesOver parent (written.node ancestor)) branches parents :=
          List.forall₂_iff_zip.mpr ⟨lengths.symm, fun among => ih _ among⟩
        obtain ⟨parent, among, handsDown⟩ := pairs.exists_right member
        exact (takesOver_parent among).trans (handsDown later)

end Merging

end ApiContract.Schema
