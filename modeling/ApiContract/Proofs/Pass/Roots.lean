import ApiContract.Pass.Hierarchy
import ApiContract.Proofs.Related
import ApiContract.Proofs.Schema.Graph
import ApiContract.Proofs.Stateful

/-!
Searches for roots. Where references of branches lead no schema back to itself, a search finds the root
(`findRoot_finds`), whatever was searched before, and passes the parents on the way to it. In any case base
schemas lead to the root that is found (`findRoot_climbs`).
-/

namespace ApiContract.Schema

open Relation

namespace Graph

/-- The schemas that the branches of a schema refer to. -/
def parents (graph : Graph) (id : Nat) : List Nat :=
  (((graph.node id).allOf.getD []).filter (·.viaRef)).map (·.target)

def HasParent (graph : Graph) (id parent : Nat) : Prop := parent ∈ graph.parents id

def rootWithin (graph : Graph) : Nat → Nat → Option Nat
  | 0, _ => none
  | fuel + 1, id =>
      if (graph.node id).discriminator.isSome then some id
      else (graph.parents id).findSome? (graph.rootWithin fuel)

/-- The root of a schema: the schema itself if it declares a discriminator, or else the root of its first parent that
has one. -/
def root? (graph : Graph) (id : Nat) : Option Nat := graph.rootWithin (graph.size + 1) id

theorem lt_size_of_hasParent {graph : Graph} {id parent : Nat} (member : graph.HasParent id parent) :
    id < graph.size := by
  by_contra outside
  rw [HasParent, parents, node_of_size_le (Nat.le_of_not_lt outside)] at member
  cases member

theorem lt_size_of_discriminator {graph : Graph} {id : Nat} (declares : (graph.node id).discriminator ≠ none) :
    id < graph.size := by
  by_contra outside
  rw [node_of_size_le (Nat.le_of_not_lt outside)] at declares
  exact declares rfl

end Graph

/-- What it means for a function to give the roots of schemas. -/
def FindsRoots (graph : Graph) (root : Nat → Option Nat) : Prop :=
  ∀ id, root id = if (graph.node id).discriminator.isSome then some id else (graph.parents id).findSome? root

theorem findSome?_congr {first second : Nat → Option Nat} {items : List Nat}
    (same : ∀ item ∈ items, first item = second item) : items.findSome? first = items.findSome? second := by
  induction items with
  | nil => rfl
  | cons item rest ih =>
      rw [List.findSome?_cons, List.findSome?_cons, same item List.mem_cons_self,
        ih fun other later => same other (List.mem_cons_of_mem _ later)]

theorem rootWithin_stable {graph : Graph} (acyclic : IsAcyclic graph.HasParent) {fuel more id : Nat}
    (enough : reach graph.HasParent graph.size id < fuel) (enoughToo : reach graph.HasParent graph.size id < more) :
    graph.rootWithin fuel id = graph.rootWithin more id := by
  induction fuel generalizing more id with
  | zero => exact absurd enough (Nat.not_lt_zero _)
  | succ fuel ih =>
      obtain ⟨more, rfl⟩ := Nat.exists_eq_succ_of_ne_zero (Nat.ne_zero_of_lt enoughToo)
      rw [Graph.rootWithin, Graph.rootWithin]
      split
      · rfl
      · refine findSome?_congr fun parent member => ?_
        have below := acyclic.reach_lt (Graph.lt_size_of_hasParent member) member
        exact ih (by omega) (by omega)

/-- Where parents lead no schema back to itself there is exactly one such function. -/
theorem findsRoots_root? {graph : Graph} (acyclic : IsAcyclic graph.HasParent) : FindsRoots graph graph.root? := by
  intro id
  rw [Graph.root?, Graph.rootWithin]
  split
  · rfl
  · refine findSome?_congr fun parent member => ?_
    have below := acyclic.reach_lt (Graph.lt_size_of_hasParent member) member
    have bounded := reach_le graph.HasParent graph.size id
    exact rootWithin_stable acyclic (by omega) (by omega)

/-- The parent through which a schema has its root. -/
def Chooses (graph : Graph) (root : Nat → Option Nat) (id parent : Nat) : Prop :=
  (graph.node id).discriminator = none ∧ (graph.parents id).find? (fun parent => (root parent).isSome) = some parent

/-- The schema is a root, or it refers to a base schema that leads to the root. -/
inductive Ascends (graph : Graph) (bases : List Nat) (top : Nat) : Nat → Prop
  | root : (graph.node top).discriminator.isSome = true → Ascends graph bases top top
  | parent {id parent} : (graph.node id).discriminator = none → graph.HasParent id parent → parent ∈ bases →
      Ascends graph bases top parent → Ascends graph bases top id

variable {graph : Graph} {root : Nat → Option Nat} {id parent base : Nat}

theorem Ascends.mono {bases more : List Nat} {top : Nat} (ascends : Ascends graph bases top id)
    (subset : bases ⊆ more) : Ascends graph more top id := by
  induction ascends with
  | root declares => exact .root declares
  | parent plain member base _ ih => exact .parent plain member (subset base) ih

theorem findSome?_eq_bind (visit : Nat → Option α) (items : List Nat) :
    items.findSome? visit = (items.find? fun item => (visit item).isSome).bind visit := by
  induction items with
  | nil => rfl
  | cons item rest ih =>
      rw [List.findSome?_cons, List.find?_cons]
      cases found : visit item with
      | none => simpa [found] using ih
      | some value => simp [found]

theorem Chooses.root_eq (finds : FindsRoots graph root) (chooses : Chooses graph root id parent) :
    root id = root parent ∧ (root parent).isSome = true := by
  have hasRoot : (root parent).isSome = true := by simpa using List.find?_some chooses.2
  refine ⟨?_, hasRoot⟩
  rw [finds id, chooses.1, findSome?_eq_bind, chooses.2]
  rfl

theorem isSome_of_chooses (finds : FindsRoots graph root) (chain : TransGen (Chooses graph root) id base) :
    (root id).isSome = true := by
  obtain ⟨parent, chooses, _⟩ := TransGen.head'_iff.mp chain
  rw [(chooses.root_eq finds).1]
  exact (chooses.root_eq finds).2

theorem chain_iff (chooses : Chooses graph root id parent) :
    TransGen (Chooses graph root) id base ↔ base = parent ∨ TransGen (Chooses graph root) parent base := by
  constructor
  · intro chain
    obtain ⟨other, choosesOther, rest⟩ := TransGen.head'_iff.mp chain
    obtain rfl := Option.some.inj (chooses.2.symm.trans choosesOther.2)
    exact (reflTransGen_iff_eq_or_transGen.mp rest)
  · rintro (rfl | rest)
    · exact .single chooses
    · exact .head chooses rest

theorem Ascends.plain {bases : List Nat} {top : Nat} (ascends : Ascends graph bases top id) (different : top ≠ id) :
    (graph.node id).discriminator = none := by
  cases ascends with
  | root => exact absurd rfl different
  | parent plain => exact plain

namespace RootSearch

theorem answer?_record_self (search : RootSearch) (id : Nat) (answer : Option Nat) :
    (search.record id answer).answer? id = some answer := by
  simp [answer?, record]

theorem answer?_record_of_ne (search : RootSearch) (answer : Option Nat) {id other : Nat} (different : other ≠ id) :
    (search.record id answer).answer? other = search.answer? other := by
  simp [answer?, record, Ne.symm different]

theorem mem_insertAscending {id other : Nat} {bases : List Nat} :
    other ∈ insertAscending id bases ↔ other = id ∨ other ∈ bases := by
  induction bases with
  | nil => simp [insertAscending]
  | cons first rest ih =>
      rw [insertAscending]
      split
      · simp
      · split
        next same => simp [same]
        · simp only [List.mem_cons, ih]
          tauto

/-- What earlier searches left behind: those that are still going on answer that there is no root, and the others
answered with the root and passed all bases on the way to it. -/
structure Sound (graph : Graph) (root : Nat → Option Nat) (searching : List Nat) (search : RootSearch) : Prop where
  unfinished : ∀ id ∈ searching, search.answer? id = some none
  finished : ∀ id answer, id ∉ searching → search.answer? id = some answer →
    answer = root id ∧ ∀ base, TransGen (Chooses graph root) id base → base ∈ search.bases

theorem Sound.start (bases : List Nat) : Sound graph root [] { bases } where
  unfinished := fun _ none => nomatch none
  finished := fun _ _ _ answered => nomatch answered

variable {searching : List Nat} {search : RootSearch}

theorem Sound.begin (sound : Sound graph root searching search) :
    Sound graph root (id :: searching) (search.record id none) where
  unfinished := by
    intro other member
    by_cases same : other = id
    · rw [same, answer?_record_self]
    · rw [answer?_record_of_ne _ _ same]
      exact sound.unfinished other ((List.mem_cons.mp member).resolve_left same)
  finished := by
    intro other answer outside answered
    rw [List.mem_cons, not_or] at outside
    rw [answer?_record_of_ne _ _ outside.1] at answered
    exact sound.finished other answer outside.2 answered

theorem Sound.giveUp (finds : FindsRoots graph root) (sound : Sound graph root (id :: searching) search)
    (rootless : root id = none) : Sound graph root searching search where
  unfinished := fun other member => sound.unfinished other (List.mem_cons_of_mem _ member)
  finished := by
    intro other answer outside answered
    by_cases same : other = id
    · subst same
      cases answered.symm.trans (sound.unfinished other List.mem_cons_self)
      refine ⟨rootless.symm, ?_⟩
      intro base chain
      have hasRoot := isSome_of_chooses finds chain
      simp [rootless] at hasRoot
    · exact sound.finished other answer (List.not_mem_cons_of_ne_of_not_mem same outside) answered

theorem Sound.conclude (finds : FindsRoots graph root) (sound : Sound graph root (id :: searching) search)
    (fresh : id ∉ searching) (chooses : Chooses graph root id parent)
    (passed : ∀ base, TransGen (Chooses graph root) parent base → base ∈ search.bases) :
    Sound graph root searching ((search.addBase parent).record id (root parent)) where
  unfinished := by
    intro other member
    have different : other ≠ id := by
      rintro rfl
      exact fresh member
    rw [answer?_record_of_ne _ _ different]
    exact sound.unfinished other (List.mem_cons_of_mem _ member)
  finished := by
    intro other answer outside answered
    by_cases same : other = id
    · subst same
      rw [answer?_record_self, Option.some.injEq] at answered
      refine ⟨answered.symm.trans (chooses.root_eq finds).1.symm, ?_⟩
      intro base chain
      rcases (chain_iff chooses).mp chain with rfl | rest
      · exact mem_insertAscending.mpr (.inl rfl)
      · exact mem_insertAscending.mpr (.inr (passed base rest))
    · rw [answer?_record_of_ne _ _ same] at answered
      obtain ⟨agrees, bases⟩ := sound.finished other answer (List.not_mem_cons_of_ne_of_not_mem same outside) answered
      exact ⟨agrees, fun base chain => mem_insertAscending.mpr (.inr (bases base chain))⟩

/-- A search that finds the root of a schema, and passes exactly the bases on the way to it. -/
def Finds (graph : Graph) (root : Nat → Option Nat) (searching : List Nat) (before : RootSearch) (id : Nat)
    (search : StateT RootSearch Option (Option Nat)) : Prop :=
  ∃ after, search.run before = some (root id, after) ∧ Sound graph root searching after ∧
    ∀ base, base ∈ after.bases ↔ base ∈ before.bases ∨ TransGen (Chooses graph root) id base

theorem findSomeM?_finds (finds : FindsRoots graph root) {searching : List Nat}
    {search : Nat → StateT RootSearch Option (Option Nat)} {parents : List Nat}
    (each : ∀ parent ∈ parents, ∀ before, Sound graph root searching before →
      Finds graph root searching before parent (search parent))
    {before : RootSearch} (sound : Sound graph root searching before) :
    ∃ after, (parents.findSomeM? fun target => do
          return (← search target).map fun root => (target, root)).run before =
        some ((parents.find? fun parent => (root parent).isSome).bind fun parent =>
          (root parent).map fun root => (parent, root), after) ∧
      Sound graph root searching after ∧
      ∀ base, base ∈ after.bases ↔ base ∈ before.bases ∨
        ∃ parent, (parents.find? fun parent => (root parent).isSome) = some parent ∧
          TransGen (Chooses graph root) parent base := by
  induction parents generalizing before with
  | nil => exact ⟨before, rfl, sound, fun base => by simp⟩
  | cons first rest ih =>
      obtain ⟨middle, ran, soundMiddle, passed⟩ := each first List.mem_cons_self before sound
      have later := ih (fun parent member => each parent (List.mem_cons_of_mem _ member)) soundMiddle
      rw [List.findSomeM?, List.find?_cons]
      cases found : root first with
      | none =>
          obtain ⟨after, ranRest, soundAfter, passedRest⟩ := later
          refine ⟨after, ?_, soundAfter, ?_⟩
          · simpa [StateT.run_bind, ran, found] using ranRest
          · intro base
            have unchained : ¬TransGen (Chooses graph root) first base := by
              intro chain
              have hasRoot := isSome_of_chooses finds chain
              simp [found] at hasRoot
            rw [passedRest, passed]
            simp [unchained]
      | some target =>
          refine ⟨middle, ?_, soundMiddle, ?_⟩
          · simp [StateT.run_bind, ran, found]
          · intro base
            rw [passed]
            simp

theorem unchained (finds : FindsRoots graph root) (rootless : root id = none) :
    ¬TransGen (Chooses graph root) id base := by
  intro chain
  have hasRoot := isSome_of_chooses finds chain
  simp [rootless] at hasRoot

/-- How a search ends after the parents of the schema were searched. -/
def ending (after : RootSearch) (id : Nat) : Option (Nat × Nat) → Option Nat × RootSearch
  | none => (none, after)
  | some (target, root) => (some root, (after.addBase target).record id (some root))

theorem findRoot_run {fuel : Nat} {before after : RootSearch} {branches : List Edge} {found : Option (Nat × Nat)}
    (plain : (graph.node id).discriminator = none) (listed : (graph.node id).allOf = some branches)
    (unknown : before.answer? id = none)
    (ran : ((graph.parents id).findSomeM? fun target => do
      return (← findRoot graph fuel target).map fun root => (target, root)).run (before.record id none) =
        some (found, after)) :
    (findRoot graph (fuel + 1) id).run before = some (ending after id found) := by
  rw [Graph.parents, listed, Option.getD_some] at ran
  rw [findRoot]
  simp only [plain, Option.isSome_none, Bool.false_eq_true, if_false, listed, StateT.run_bind, StateT.run_get,
    pure_bind, unknown, StateT.run_modify, ran]
  cases found with
  | none => rfl
  | some pair => rfl

theorem finds_parents (finds : FindsRoots graph root) {fuel : Nat} {before : RootSearch} {branches : List Edge}
    (plain : (graph.node id).discriminator = none) (listed : (graph.node id).allOf = some branches)
    (unknown : before.answer? id = none) (fresh : id ∉ searching) (sound : Sound graph root searching before)
    (below : ∀ parent ∈ graph.parents id, ∀ middle, Sound graph root (id :: searching) middle →
      Finds graph root (id :: searching) middle parent (findRoot graph fuel parent)) :
    Finds graph root searching before id (findRoot graph (fuel + 1) id) := by
  obtain ⟨after, ran, soundAfter, passed⟩ := findSomeM?_finds finds below sound.begin
  have rootOfChosen := finds id
  rw [plain, Option.isSome_none, if_neg Bool.false_ne_true, findSome?_eq_bind] at rootOfChosen
  have searched := findRoot_run plain listed unknown ran
  cases chosen : (graph.parents id).find? (fun parent => (root parent).isSome) with
  | none =>
      rw [chosen] at rootOfChosen searched
      refine ⟨after, searched.trans (by rw [rootOfChosen]; rfl), soundAfter.giveUp finds rootOfChosen, ?_⟩
      intro base
      rw [passed]
      simp [chosen, unchained finds rootOfChosen, record]
  | some parent =>
      have chooses : Chooses graph root id parent := ⟨plain, chosen⟩
      obtain ⟨same, hasRoot⟩ := chooses.root_eq finds
      obtain ⟨target, found⟩ := Option.isSome_iff_exists.mp hasRoot
      have passedParent base (chain : TransGen (Chooses graph root) parent base) : base ∈ after.bases :=
        (passed base).mpr (.inr ⟨parent, chosen, chain⟩)
      refine ⟨(after.addBase parent).record id (root parent), ?_,
        soundAfter.conclude finds fresh chooses passedParent, ?_⟩
      · rw [searched, chosen, same, Option.bind_some, found]
        rfl
      · intro base
        have added : base ∈ ((after.addBase parent).record id (root parent)).bases ↔
            base = parent ∨ base ∈ after.bases :=
          mem_insertAscending
        rw [added, passed, chain_iff chooses]
        simp [chosen, record]
        tauto

/-- A search finds the root, unless it comes back to a schema that is still being searched. The induction is on the
fuel, which lasts as every parent leads to fewer schemas. -/
theorem findRoot_finds (finds : FindsRoots graph root) (acyclic : IsAcyclic graph.HasParent) {fuel id : Nat}
    {searching : List Nat} {before : RootSearch} (enough : reach graph.HasParent graph.size id < fuel)
    (apart : ∀ other ∈ searching, ¬ReflTransGen graph.HasParent id other)
    (sound : Sound graph root searching before) :
    Finds graph root searching before id (findRoot graph fuel id) := by
  induction fuel generalizing id searching before with
  | zero => exact absurd enough (Nat.not_lt_zero _)
  | succ fuel ih =>
      have fresh : id ∉ searching := fun member => apart id member .refl
      by_cases plain : (graph.node id).discriminator = none
      · cases listed : (graph.node id).allOf with
        | none =>
            have rootless : root id = none := by
              rw [finds id, plain, Graph.parents, listed]
              rfl
            refine ⟨before, ?_, sound, ?_⟩
            · simp [findRoot, plain, listed, rootless]
            · intro base
              simp [unchained finds rootless]
        | some branches =>
            cases known : before.answer? id with
            | some answer =>
                obtain ⟨same, passed⟩ := sound.finished id answer fresh known
                refine ⟨before, ?_, sound, ?_⟩
                · simp [findRoot, StateT.run_bind, plain, listed, known, same]
                · intro base
                  constructor
                  · exact .inl
                  · rintro (old | chain)
                    · exact old
                    · exact passed base chain
            | none =>
                refine finds_parents finds plain listed known fresh sound ?_
                intro parent member middle soundMiddle
                have less := acyclic.reach_lt (Graph.lt_size_of_hasParent member) member
                refine ih (by omega) ?_ soundMiddle
                intro other among leads
                rcases List.mem_cons.mp among with rfl | later
                · exact acyclic other (.head' member leads)
                · exact apart other later (.head member leads)
      · have declares : (graph.node id).discriminator.isSome = true := by
          simpa [Option.isSome_iff_ne_none] using plain
        refine ⟨before, ?_, sound, ?_⟩
        · simp [findRoot, declares, finds id]
        · intro base
          constructor
          · exact .inl
          · rintro (old | chain)
            · exact old
            · obtain ⟨_, chooses, _⟩ := TransGen.head'_iff.mp chain
              exact absurd chooses.1 plain

theorem rootOf_finds (finds : FindsRoots graph root) (acyclic : IsAcyclic graph.HasParent) {id : Nat}
    {before : RootSearch} (sound : Sound graph root [] before) :
    Finds graph root [] before id (rootOf graph id) := by
  have bounded := reach_le graph.HasParent graph.size id
  exact findRoot_finds finds acyclic (Nat.lt_succ_of_le bounded) (fun _ none => nomatch none) sound

variable {before after : RootSearch}

/-! ## One search -/

/-- Searches for the roots of some schemas, one after the other, that found none. -/
inductive Fruitless (search : Nat → StateT RootSearch Option (Option Nat)) : List Nat → RootSearch → RootSearch → Prop
  | nil {state} : Fruitless search [] state state
  | cons {first rest} {before middle after : RootSearch} : (search first).run before = some (none, middle) →
      Fruitless search rest middle after → Fruitless search (first :: rest) before after

/-- A search of parents ends at the first one that has a root. -/
theorem findSomeM?_fruitless {search : Nat → StateT RootSearch Option (Option Nat)} {parents : List Nat}
    {found : Option (Nat × Nat)}
    (ran : (parents.findSomeM? fun target => do
      return (← search target).map fun root => (target, root)).run before = some (found, after)) :
    found = none ∧ Fruitless search parents before after ∨
      ∃ passed parent rest top middle, parents = passed ++ parent :: rest ∧ found = some (parent, top) ∧
        Fruitless search passed before middle ∧ (search parent).run middle = some (some top, after) := by
  induction parents generalizing before with
  | nil =>
      cases ran
      exact .inl ⟨rfl, .nil⟩
  | cons first rest ih =>
      rw [List.findSomeM?, StateT.run_bind_eq_some] at ran
      obtain ⟨outcome, middle, ranFirst, following⟩ := ran
      obtain ⟨answer, _, searched, same⟩ := (StateT.run_bind_eq_some _ _ _ _).mp ranFirst
      cases same
      cases answer with
      | none =>
          rcases ih following with
            ⟨missed, fruitless⟩ | ⟨passed, parent, others, top, last, rfl, rfl, fruitless, rooted⟩
          · exact .inl ⟨missed, .cons searched fruitless⟩
          · exact .inr ⟨first :: passed, parent, others, top, last, rfl, rfl, .cons searched fruitless, rooted⟩
      | some top =>
          cases following
          exact .inr ⟨[], first, rest, top, before, rfl, rfl, .nil, searched⟩

/-- What a search for the root of a schema can do. -/
inductive Searched (graph : Graph) (search : Nat → StateT RootSearch Option (Option Nat)) (id : Nat)
    (before : RootSearch) : Option Nat → RootSearch → Prop
  | itself : (graph.node id).discriminator ≠ none → Searched graph search id before (some id) before
  | parentless : (graph.node id).discriminator = none → (graph.node id).allOf = none →
      Searched graph search id before none before
  | known {answer} : (graph.node id).discriminator = none → (graph.node id).allOf ≠ none →
      before.answer? id = some answer → Searched graph search id before answer before
  | rootless {after : RootSearch} : (graph.node id).discriminator = none → (graph.node id).allOf ≠ none →
      before.answer? id = none → Fruitless search (graph.parents id) (before.record id none) after →
      Searched graph search id before none after
  | inherited {passed rest : List Nat} {parent top : Nat} {middle after : RootSearch} :
      (graph.node id).discriminator = none → (graph.node id).allOf ≠ none →
      before.answer? id = none → graph.parents id = passed ++ parent :: rest →
      Fruitless search passed (before.record id none) middle →
      (search parent).run middle = some (some top, after) →
      Searched graph search id before (some top) ((after.addBase parent).record id (some top))

theorem findRoot_searched {fuel : Nat} {answer : Option Nat}
    (ran : (findRoot graph (fuel + 1) id).run before = some (answer, after)) :
    Searched graph (findRoot graph fuel) id before answer after := by
  rw [findRoot] at ran
  dsimp only at ran
  split at ran
  next declares =>
    cases ran
    exact .itself (Option.isSome_iff_ne_none.mp declares)
  next undeclared =>
    have plain : (graph.node id).discriminator = none := by simpa using undeclared
    split at ran
    next unlisted =>
      cases ran
      exact .parentless plain unlisted
    next branches listed =>
      have inherits : (graph.node id).allOf ≠ none := by simp [listed]
      obtain ⟨_, _, got, following⟩ := (StateT.run_bind_eq_some _ _ _ _).mp ran
      cases got
      split at following
      next known answered =>
        cases following
        exact .known plain inherits answered
      next unknown =>
        obtain ⟨_, _, noted, searching⟩ := (StateT.run_bind_eq_some _ _ _ _).mp following
        cases noted
        obtain ⟨found, middle, searched, ending⟩ := (StateT.run_bind_eq_some _ _ _ _).mp searching
        have parents : graph.parents id = (branches.filter (·.viaRef)).map (·.target) := by
          rw [Graph.parents, listed, Option.getD_some]
        rcases findSomeM?_fruitless searched with
          ⟨rfl, fruitless⟩ | ⟨passed, parent, rest, top, last, split, rfl, fruitless, rooted⟩
        · cases ending
          exact .rootless plain inherits unknown (parents ▸ fruitless)
        · cases ending
          exact .inherited plain inherits unknown (parents.trans split) fruitless rooted

/-! ## Searches that may come back -/

/-- The answers are roots that base schemas lead to. -/
def Grounded (graph : Graph) (search : RootSearch) : Prop :=
  ∀ id top, search.answer? id = some (some top) → Ascends graph search.bases top id

theorem grounded_start (graph : Graph) (bases : List Nat) : Grounded graph { bases } :=
  fun _ _ answered => nomatch answered

/-- What a search for the root of a schema does, also where references lead back to where they started. A root
becomes a base schema only as the answer to the search of another schema. -/
structure Climbs (graph : Graph) (id : Nat) (before : RootSearch) (answer : Option Nat) (after : RootSearch) :
    Prop where
  grounded : Grounded graph after
  bases : before.bases ⊆ after.bases
  ascends : ∀ top, answer = some top → Ascends graph after.bases top id
  headed : ∀ base ∈ after.bases, (graph.node base).discriminator ≠ none →
    base ∈ before.bases ∨ answer = some base ∧ base ≠ id

theorem Climbs.stay (grounded : Grounded graph before) {answer : Option Nat}
    (ascends : ∀ top, answer = some top → Ascends graph before.bases top id) :
    Climbs graph id before answer before :=
  ⟨grounded, List.Subset.refl _, ascends, fun _ old _ => .inl old⟩

theorem Grounded.record (grounded : Grounded graph before) {answer : Option Nat}
    (ascends : ∀ top, answer = some top → Ascends graph before.bases top id) :
    Grounded graph (before.record id answer) := by
  intro other top answered
  by_cases same : other = id
  · subst same
    rw [answer?_record_self, Option.some.injEq] at answered
    exact ascends top answered
  · rw [answer?_record_of_ne _ _ same] at answered
    exact grounded other top answered

theorem subset_addBase (search : RootSearch) (id : Nat) : search.bases ⊆ (search.addBase id).bases :=
  fun _ old => mem_insertAscending.mpr (.inr old)

theorem Grounded.addBase (grounded : Grounded graph before) (id : Nat) : Grounded graph (before.addBase id) :=
  fun other top answered => (grounded other top answered).mono (subset_addBase before id)

theorem Fruitless.climbs {search : Nat → StateT RootSearch Option (Option Nat)} {parents : List Nat}
    (each : ∀ parent before answer after, Grounded graph before → (search parent).run before = some (answer, after) →
      Climbs graph parent before answer after)
    (fruitless : Fruitless search parents before after) (grounded : Grounded graph before) :
    Grounded graph after ∧ before.bases ⊆ after.bases ∧
      ∀ base ∈ after.bases, (graph.node base).discriminator ≠ none → base ∈ before.bases := by
  induction fruitless with
  | nil => exact ⟨grounded, List.Subset.refl _, fun _ old _ => old⟩
  | cons ran _ ih =>
      have climbs := each _ _ _ _ grounded ran
      obtain ⟨groundedAfter, bases, headed⟩ := ih climbs.grounded
      refine ⟨groundedAfter, List.Subset.trans climbs.bases bases, fun base member declares => ?_⟩
      rcases climbs.headed base (headed base member declares) declares with old | ⟨answered, _⟩
      · exact old
      · cases answered

theorem findRoot_climbs {fuel : Nat} {answer : Option Nat} (grounded : Grounded graph before)
    (ran : (findRoot graph fuel id).run before = some (answer, after)) : Climbs graph id before answer after := by
  induction fuel generalizing id before answer after with
  | zero => cases ran
  | succ fuel ih =>
      have started : Grounded graph (before.record id none) := grounded.record fun _ absurd => by cases absurd
      have missed {parents : List Nat} {middle : RootSearch}
          (fruitless : Fruitless (findRoot graph fuel) parents (before.record id none) middle) :=
        fruitless.climbs (fun _ _ _ _ grounded ran => ih grounded ran) started
      cases findRoot_searched ran with
      | itself declares =>
          refine .stay grounded ?_
          rintro _ ⟨⟩
          exact .root (Option.isSome_iff_ne_none.mpr declares)
      | parentless => exact .stay grounded fun _ absurd => by cases absurd
      | known _ _ answered => exact .stay grounded fun top same => grounded id top (answered.trans (congrArg some same))
      | rootless _ _ _ fruitless =>
          obtain ⟨groundedAfter, bases, headed⟩ := missed fruitless
          refine ⟨groundedAfter, bases, fun _ absurd => ?_, fun base member declares => ?_⟩
          · cases absurd
          · exact .inl (headed base member declares)
      | @inherited passed rest parent top middle last plain _ _ listed fruitless rooted =>
          obtain ⟨groundedMiddle, bases, headed⟩ := missed fruitless
          have climbs := ih groundedMiddle rooted
          have above := climbs.ascends top rfl
          have member : graph.HasParent id parent := by simp [Graph.HasParent, listed]
          have ascends : Ascends graph (last.addBase parent).bases top id :=
            .parent plain member (mem_insertAscending.mpr (.inl rfl)) (above.mono (subset_addBase last parent))
          refine ⟨(climbs.grounded.addBase parent).record ?_,
            List.Subset.trans bases (List.Subset.trans climbs.bases (subset_addBase last parent)), ?_, ?_⟩
          · rintro _ ⟨⟩
            exact ascends
          · rintro _ ⟨⟩
            exact ascends
          · intro base member declares
            -- The parent that answered is the root itself, or it has no discriminator.
            have different : base ≠ id := by
              rintro rfl
              exact declares plain
            rcases mem_insertAscending.mp member with rfl | old
            · by_cases same : top = base
              · exact .inr ⟨congrArg some same, different⟩
              · exact absurd (above.plain same) declares
            · rcases climbs.headed base old declares with earlier | ⟨answered, _⟩
              · exact .inl (headed base earlier declares)
              · exact .inr ⟨answered, different⟩

end RootSearch

end ApiContract.Schema
