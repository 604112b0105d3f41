import ApiContract.Proofs.Pass.Roots

/-!
Searches for roots that share what they found, also where references lead back to where they started. A search always
ends (`rootOf_answers`), it never forgets (`findRoot_tells`), and a first search misses no root (`first_rootOf_iff`).
Later searches read the provisional answers of earlier ones; they still find the root of every schema whose references
enter no cycle (`findRoot_faithful`).
-/

namespace ApiContract.Schema

open Relation

namespace Graph

/-- The parents that a search for the root of a schema turns to. -/
def Asks (graph : Graph) (id parent : Nat) : Prop :=
  (graph.node id).discriminator = none ∧ graph.HasParent id parent

/-- Some chain of references leads to a schema that declares a discriminator. -/
def LeadsToRoot (graph : Graph) (id : Nat) : Prop :=
  ∃ top, ReflTransGen graph.HasParent id top ∧ (graph.node top).discriminator ≠ none

/-- No search that starts here can come back to a schema that it came from. -/
def Unlooped (graph : Graph) (id : Nat) : Prop :=
  ∀ other, ReflTransGen graph.Asks id other → ¬TransGen graph.Asks other other

/-- The answer to a search that no other one came before. -/
def ownRoot? (graph : Graph) (id : Nat) : Option Nat :=
  ((RootSearch.rootOf graph id).run {}).bind Prod.fst

theorem Unlooped.parent {graph : Graph} {id parent : Nat} (unlooped : graph.Unlooped id)
    (asks : graph.Asks id parent) : graph.Unlooped parent :=
  fun other leads => unlooped other (.head asks leads)

theorem Unlooped.of_parents {graph : Graph} {id : Nat} (each : ∀ parent, graph.Asks id parent → graph.Unlooped parent) :
    graph.Unlooped id := by
  intro other leads cycle
  rcases ReflTransGen.cases_head leads with rfl | ⟨parent, asks, rest⟩
  · obtain ⟨parent, asks, back⟩ := TransGen.head'_iff.mp cycle
    exact each parent asks id back cycle
  · exact each parent asks other rest cycle

end Graph

/-- The root of a schema is the schema itself if it declares a discriminator, or else the root of its first parent that
has one. Where parents lead back to the schema this need not say anything. -/
inductive RootIs (graph : Graph) : Nat → Option Nat → Prop
  | itself {id} : (graph.node id).discriminator ≠ none → RootIs graph id (some id)
  | inherited {id passed parent rest top} : (graph.node id).discriminator = none →
      graph.parents id = passed ++ parent :: rest → (∀ other ∈ passed, RootIs graph other none) →
      RootIs graph parent (some top) → RootIs graph id (some top)
  | rootless {id} : (graph.node id).discriminator = none → (∀ parent ∈ graph.parents id, RootIs graph parent none) →
      RootIs graph id none

variable {graph : Graph} {id : Nat}

theorem RootIs.unique {first second : Option Nat} (isFirst : RootIs graph id first)
    (isSecond : RootIs graph id second) : first = second := by
  induction isFirst generalizing second with
  | itself declares =>
      cases isSecond with
      | itself => rfl
      | inherited plain => exact absurd plain declares
      | rootless plain => exact absurd plain declares
  | @inherited id passed parent rest top plain listed _ _ passedOver found =>
      cases isSecond with
      | itself declares => exact absurd plain declares
      | rootless _ all =>
          have member : parent ∈ graph.parents id := by simp [listed]
          exact found (all parent member)
      | @inherited _ passedToo parentToo restToo topToo _ listedToo missing rooted =>
          -- Neither chosen parent stands before the other one, since those before the chosen one have no root.
          rcases List.append_eq_append_iff.mp (listed.symm.trans listedToo) with
            ⟨between, rfl, same⟩ | ⟨between, rfl, same⟩
          · cases between with
            | nil =>
                cases same
                exact found rooted
            | cons other others =>
                cases same
                exact absurd (found (missing parent (by simp))) (by simp)
          · cases between with
            | nil =>
                cases same
                exact found rooted
            | cons other others =>
                cases same
                exact absurd (passedOver parentToo (by simp) rooted) (by simp)
  | @rootless id plain _ all =>
      cases isSecond with
      | itself declares => exact absurd plain declares
      | rootless => rfl
      | @inherited _ passed parent rest top _ listed _ rooted =>
          have member : parent ∈ graph.parents id := by simp [listed]
          exact absurd (all parent member rooted) (by simp)

theorem RootIs.declares {answer : Option Nat} (rooted : RootIs graph id answer) :
    ∀ top, answer = some top → (graph.node top).discriminator ≠ none := by
  induction rooted with
  | itself declares =>
      rintro _ ⟨⟩
      exact declares
  | inherited _ _ _ _ _ ih => exact ih
  | rootless => exact fun _ absurd => by cases absurd

theorem Ascends.leads {bases : List Nat} {top : Nat} (ascends : Ascends graph bases top id) :
    (graph.node top).discriminator ≠ none ∧ ReflTransGen graph.HasParent id top := by
  induction ascends with
  | root declares => exact ⟨Option.isSome_iff_ne_none.mp declares, .refl⟩
  | parent _ member _ _ ih => exact ⟨ih.1, .head member ih.2⟩

namespace RootSearch

variable {before after later : RootSearch}

/-! ## Searches never forget -/

/-- The later search knows all answers of the one before. -/
def Extends (before after : RootSearch) : Prop :=
  ∀ id answer, before.answer? id = some answer → after.answer? id = some answer

theorem Extends.refl (search : RootSearch) : Extends search search :=
  fun _ _ answered => answered

theorem Extends.trans (first : Extends before after) (second : Extends after later) : Extends before later :=
  fun id answer answered => second id answer (first id answer answered)

theorem extends_record (unknown : before.answer? id = none) (answer : Option Nat) :
    Extends before (before.record id answer) := by
  intro other known answered
  have different : other ≠ id := by
    rintro rfl
    cases unknown.symm.trans answered
  rw [answer?_record_of_ne _ _ different, answered]

/-- The provisional answer of a schema may be replaced once by its root. -/
theorem Extends.conclude (unknown : before.answer? id = none) (extended : Extends (before.record id none) after)
    (parent : Nat) (answer : Option Nat) : Extends before ((after.addBase parent).record id answer) := by
  intro other known answered
  have different : other ≠ id := by
    rintro rfl
    cases unknown.symm.trans answered
  rw [answer?_record_of_ne _ _ different]
  exact extended other known (by rw [answer?_record_of_ne _ _ different, answered])

def tells (graph : Graph) (search : RootSearch) (id : Nat) : Option Nat :=
  if (graph.node id).discriminator ≠ none then some id
  else if (graph.node id).allOf = none then none
  else (search.answer? id).getD none

theorem Fruitless.extends {search : Nat → StateT RootSearch Option (Option Nat)} {parents : List Nat}
    (fruitless : Fruitless search parents before after)
    (each : ∀ parent before answer after, (search parent).run before = some (answer, after) → Extends before after) :
    Extends before after := by
  induction fruitless with
  | nil => exact .refl _
  | cons searched _ ih => exact (each _ _ _ _ searched).trans ih

theorem findRoot_extends {fuel : Nat} {answer : Option Nat}
    (ran : (findRoot graph fuel id).run before = some (answer, after)) : Extends before after := by
  induction fuel generalizing id before answer after with
  | zero => cases ran
  | succ fuel ih =>
      cases findRoot_searched ran with
      | itself => exact .refl _
      | parentless => exact .refl _
      | known => exact .refl _
      | rootless _ _ unknown fruitless =>
          exact (extends_record unknown none).trans (fruitless.extends fun _ _ _ _ ran => ih ran)
      | inherited _ _ unknown _ fruitless rooted =>
          exact .conclude unknown ((fruitless.extends fun _ _ _ _ ran => ih ran).trans (ih rooted)) _ _

theorem Fruitless.keeps {fuel : Nat} {parents : List Nat}
    (fruitless : Fruitless (findRoot graph fuel) parents before after) : Extends before after :=
  fruitless.extends fun _ _ _ _ ran => findRoot_extends ran

/-- A schema is not asked again after it was given up. -/
theorem Fruitless.recorded {fuel : Nat} {parents : List Nat}
    (fruitless : Fruitless (findRoot graph fuel) parents (before.record id none) after) :
    after.answer? id = some none :=
  fruitless.keeps id none (answer?_record_self _ _ _)

/-- Whatever is searched later, the answer is what is known about the schema. -/
theorem findRoot_tells {fuel : Nat} {answer : Option Nat}
    (ran : (findRoot graph fuel id).run before = some (answer, after)) (extended : Extends after later) :
    answer = tells graph later id := by
  cases fuel with
  | zero => cases ran
  | succ fuel =>
      cases findRoot_searched ran with
      | itself declares => simp [tells, declares]
      | parentless plain unlisted => simp [tells, plain, unlisted]
      | known plain inherits answered => simp [tells, plain, inherits, extended id _ answered]
      | rootless plain inherits _ fruitless => simp [tells, plain, inherits, extended id _ fruitless.recorded]
      | inherited plain inherits =>
          simp [tells, plain, inherits, extended id _ (answer?_record_self _ _ _)]

/-! ## Searches end -/

/-- The number of schemas that have no answer yet. -/
def unanswered (graph : Graph) (search : RootSearch) : Nat :=
  ((Finset.range graph.size).filter fun id => search.answer? id = none).card

theorem unanswered_le (graph : Graph) (search : RootSearch) : unanswered graph search ≤ graph.size :=
  (Finset.card_filter_le _ _).trans_eq (Finset.card_range _)

theorem Extends.unanswered_le (extended : Extends before after) (graph : Graph) :
    unanswered graph after ≤ unanswered graph before := by
  refine Finset.card_le_card (Finset.monotone_filter_right _ ?_)
  intro other _ unknown
  by_contra known
  obtain ⟨answer, answered⟩ := Option.ne_none_iff_exists'.mp known
  cases unknown.symm.trans (extended other answer answered)

theorem unanswered_record_lt (inside : id < graph.size) (unknown : before.answer? id = none) (answer : Option Nat) :
    unanswered graph (before.record id answer) < unanswered graph before := by
  refine Finset.card_lt_card (Finset.ssubset_iff_of_subset ?_ |>.mpr ⟨id, ?_, ?_⟩)
  · refine Finset.monotone_filter_right _ ?_
    intro other _ unrecorded
    by_contra known
    obtain ⟨earlier, answered⟩ := Option.ne_none_iff_exists'.mp known
    cases unrecorded.symm.trans (extends_record unknown answer other earlier answered)
  · exact Finset.mem_filter.mpr ⟨Finset.mem_range.mpr inside, unknown⟩
  · simp [answer?_record_self]

theorem findSomeM?_answers {search : Nat → StateT RootSearch Option (Option Nat)} (parents : List Nat)
    (each : ∀ parent middle, Extends before middle → ∃ answer after,
      (search parent).run middle = some (answer, after) ∧ Extends middle after) :
    ∃ found after, (parents.findSomeM? fun target => do
      return (← search target).map fun root => (target, root)).run before = some (found, after) := by
  induction parents generalizing before with
  | nil => exact ⟨none, before, rfl⟩
  | cons first rest ih =>
      obtain ⟨answer, middle, searched, extended⟩ := each first before (.refl _)
      cases answer with
      | none =>
          obtain ⟨found, after, ran⟩ := ih fun parent last reached => each parent last (extended.trans reached)
          exact ⟨found, after, by simpa [List.findSomeM?, StateT.run_bind, searched] using ran⟩
      | some top => exact ⟨some (first, top), middle, by simp [List.findSomeM?, StateT.run_bind, searched]⟩

/-- A search ends, since each search below another one finds a schema that had no answer. -/
theorem findRoot_answers {fuel : Nat} (enough : unanswered graph before < fuel) :
    ∃ answer after, (findRoot graph fuel id).run before = some (answer, after) := by
  induction fuel generalizing id before with
  | zero => exact absurd enough (Nat.not_lt_zero _)
  | succ fuel ih =>
      by_cases plain : (graph.node id).discriminator = none
      · cases listed : (graph.node id).allOf with
        | none => exact ⟨none, before, by simp [findRoot, plain, listed]⟩
        | some branches =>
            cases known : before.answer? id with
            | some answer => exact ⟨answer, before, by simp [findRoot, StateT.run_bind, plain, listed, known]⟩
            | none =>
                have inside : id < graph.size := by
                  by_contra outside
                  rw [Graph.node_of_size_le (Nat.le_of_not_lt outside)] at listed
                  cases listed
                have fewer := unanswered_record_lt inside known none
                have below parent middle (reached : Extends (before.record id none) middle) :
                    ∃ answer after, (findRoot graph fuel parent).run middle = some (answer, after) ∧
                      Extends middle after := by
                  have enoughBelow : unanswered graph middle < fuel := by
                    have bounded := reached.unanswered_le graph
                    omega
                  obtain ⟨answer, after, ran⟩ := ih enoughBelow
                  exact ⟨answer, after, ran, findRoot_extends ran⟩
                obtain ⟨found, after, ran⟩ := findSomeM?_answers (graph.parents id) below
                exact ⟨_, _, findRoot_run plain listed known ran⟩
      · have declares : (graph.node id).discriminator.isSome = true := Option.isSome_iff_ne_none.mpr plain
        exact ⟨some id, before, by simp [findRoot, declares]⟩

theorem rootOf_answers (graph : Graph) (id : Nat) (before : RootSearch) :
    ∃ answer after, (rootOf graph id).run before = some (answer, after) :=
  findRoot_answers (Nat.lt_succ_of_le (unanswered_le graph before))

/-! ## First searches -/

/-- A schema without a root of its own that has no parents or whose search came to nothing. -/
def Spent (graph : Graph) (search : RootSearch) (id : Nat) : Prop :=
  (graph.node id).discriminator = none ∧ (graph.parents id = [] ∨ search.answer? id = some none)

/-- No root was found so far. The parents of a schema that is no longer being searched came to nothing. -/
structure Barren (graph : Graph) (searching : List Nat) (search : RootSearch) : Prop where
  none : ∀ id answer, search.answer? id = some answer → answer = none
  closed : ∀ id, search.answer? id = some Option.none → id ∉ searching → ∀ parent ∈ graph.parents id,
    Spent graph search parent

theorem barren_start (graph : Graph) (bases : List Nat) : Barren graph [] { bases } where
  none := fun _ _ answered => nomatch answered
  closed := fun _ answered => nomatch answered

theorem Spent.mono (spent : Spent graph before id) (extended : Extends before after) : Spent graph after id :=
  ⟨spent.1, spent.2.imp_right (extended id none)⟩

variable {searching : List Nat}

theorem Barren.begin (barren : Barren graph searching before) (unknown : before.answer? id = .none) :
    Barren graph (id :: searching) (before.record id .none) where
  none := by
    intro other answer answered
    by_cases same : other = id
    · subst same
      rw [answer?_record_self, Option.some.injEq] at answered
      exact answered.symm
    · rw [answer?_record_of_ne _ _ same] at answered
      exact barren.none other answer answered
  closed := by
    intro other answered outside parent member
    rw [List.mem_cons, not_or] at outside
    rw [answer?_record_of_ne _ _ outside.1] at answered
    exact (barren.closed other answered outside.2 parent member).mono (extends_record unknown _)

theorem Barren.giveUp (barren : Barren graph (id :: searching) after)
    (spent : ∀ parent ∈ graph.parents id, Spent graph after parent) : Barren graph searching after where
  none := barren.none
  closed := by
    intro other answered outside
    by_cases same : other = id
    · subst same
      exact spent
    · exact barren.closed other answered (List.not_mem_cons_of_ne_of_not_mem same outside)

theorem Fruitless.barren {fuel : Nat} {parents : List Nat}
    (fruitless : Fruitless (findRoot graph fuel) parents before after) (barren : Barren graph searching before)
    (each : ∀ parent ∈ parents, ∀ before after, Barren graph searching before →
      (findRoot graph fuel parent).run before = some (none, after) →
      Barren graph searching after ∧ Spent graph after parent) :
    Barren graph searching after ∧ ∀ parent ∈ parents, Spent graph after parent := by
  induction fruitless with
  | nil => exact ⟨barren, fun _ none => nomatch none⟩
  | cons searched others ih =>
      obtain ⟨barrenMiddle, spent⟩ := each _ List.mem_cons_self _ _ barren searched
      obtain ⟨barrenAfter, spentRest⟩ :=
        ih barrenMiddle fun parent member => each parent (List.mem_cons_of_mem _ member)
      exact ⟨barrenAfter, List.forall_mem_cons.mpr ⟨spent.mono others.keeps, spentRest⟩⟩

/-- A search that came to nothing saw everything that the schema leads to, as far as nothing is being searched. -/
theorem findRoot_barren {fuel : Nat} (barren : Barren graph searching before)
    (ran : (findRoot graph fuel id).run before = some (none, after)) :
    Barren graph searching after ∧ Spent graph after id := by
  induction fuel generalizing id searching before after with
  | zero => cases ran
  | succ fuel ih =>
      cases findRoot_searched ran with
      | parentless plain unlisted =>
          have alone : graph.parents id = [] := by simp [Graph.parents, unlisted]
          exact ⟨barren, plain, .inl alone⟩
      | known plain _ answered => exact ⟨barren, plain, .inr answered⟩
      | rootless plain _ unknown fruitless =>
          obtain ⟨barrenAfter, spent⟩ := fruitless.barren (barren.begin unknown) fun _ _ _ _ barren ran => ih barren ran
          exact ⟨barrenAfter.giveUp spent, plain, .inr fruitless.recorded⟩

theorem Barren.spent_of_leads (barren : Barren graph [] after) (spent : Spent graph after id) {other : Nat}
    (leads : ReflTransGen graph.HasParent id other) : Spent graph after other := by
  induction leads with
  | refl => exact spent
  | @tail middle last _ member ih =>
      rcases ih.2 with alone | answered
      · rw [Graph.HasParent, alone] at member
        cases member
      · exact barren.closed middle answered List.not_mem_nil last member

/-- A first search finds a root if there is one, cycle or not. -/
theorem first_rootOf_iff {bases : List Nat} {answer : Option Nat}
    (ran : (rootOf graph id).run { bases } = some (answer, after)) : answer.isSome = true ↔ graph.LeadsToRoot id := by
  constructor
  · intro rooted
    obtain ⟨top, rfl⟩ := Option.isSome_iff_exists.mp rooted
    obtain ⟨declares, leads⟩ := ((findRoot_climbs (grounded_start graph bases) ran).ascends top rfl).leads
    exact ⟨top, leads, declares⟩
  · rintro ⟨top, leads, declares⟩
    cases answer with
    | some root => rfl
    | none =>
        obtain ⟨barren, spent⟩ := findRoot_barren (barren_start graph bases) ran
        exact absurd (barren.spent_of_leads spent leads).1 declares

/-! ## Later searches -/

/-- Schemas that lead to no cycle were answered with their roots, unless they are still being searched. -/
def Faithful (graph : Graph) (searching : List Nat) (search : RootSearch) : Prop :=
  ∀ id answer, graph.Unlooped id → id ∉ searching → search.answer? id = some answer → RootIs graph id answer

theorem faithful_start (graph : Graph) (bases : List Nat) : Faithful graph [] { bases } :=
  fun _ _ _ _ answered => nomatch answered

theorem Faithful.record (faithful : Faithful graph (id :: searching) before) (answer : Option Nat) :
    Faithful graph (id :: searching) (before.record id answer) := by
  intro other known unlooped outside answered
  rw [answer?_record_of_ne _ _ (List.ne_of_not_mem_cons outside)] at answered
  exact faithful other known unlooped outside answered

theorem Faithful.begin (faithful : Faithful graph searching before) (answer : Option Nat) :
    Faithful graph (id :: searching) (before.record id answer) := by
  refine Faithful.record ?_ answer
  exact fun other known unlooped outside => faithful other known unlooped (List.not_mem_of_not_mem_cons outside)

theorem Faithful.conclude (faithful : Faithful graph (id :: searching) after) {answer : Option Nat}
    (answered : after.answer? id = some answer) (rooted : graph.Unlooped id → RootIs graph id answer) :
    Faithful graph searching after := by
  intro other known unlooped outside answeredOther
  by_cases same : other = id
  · subst same
    cases answered.symm.trans answeredOther
    exact rooted unlooped
  · exact faithful other known unlooped (List.not_mem_cons_of_ne_of_not_mem same outside) answeredOther

theorem Fruitless.faithful {search : Nat → StateT RootSearch Option (Option Nat)} {parents : List Nat}
    (fruitless : Fruitless search parents before after) (faithful : Faithful graph searching before)
    (each : ∀ parent ∈ parents, ∀ before answer after, Faithful graph searching before →
      (search parent).run before = some (answer, after) →
      Faithful graph searching after ∧ (graph.Unlooped parent → RootIs graph parent answer)) :
    Faithful graph searching after ∧ ∀ parent ∈ parents, graph.Unlooped parent → RootIs graph parent none := by
  induction fruitless with
  | nil => exact ⟨faithful, fun _ none => nomatch none⟩
  | cons searched _ ih =>
      obtain ⟨faithfulMiddle, rootless⟩ := each _ List.mem_cons_self _ _ _ faithful searched
      obtain ⟨faithfulAfter, rootlessRest⟩ :=
        ih faithfulMiddle fun parent member => each parent (List.mem_cons_of_mem _ member)
      exact ⟨faithfulAfter, List.forall_mem_cons.mpr ⟨rootless, rootlessRest⟩⟩

/-- Below a schema that leads to no cycle no search comes back to one that is going on, so provisional answers are not
read there. -/
theorem findRoot_faithful {fuel : Nat} {answer : Option Nat} (faithful : Faithful graph searching before)
    (apart : ∀ other ∈ searching, graph.Unlooped other → ¬ReflTransGen graph.Asks id other)
    (ran : (findRoot graph fuel id).run before = some (answer, after)) :
    Faithful graph searching after ∧ (graph.Unlooped id → RootIs graph id answer) := by
  induction fuel generalizing id searching before answer after with
  | zero => cases ran
  | succ fuel ih =>
      have below (plain : (graph.node id).discriminator = none) : ∀ parent ∈ graph.parents id, ∀ before answer after,
          Faithful graph (id :: searching) before → (findRoot graph fuel parent).run before = some (answer, after) →
          Faithful graph (id :: searching) after ∧ (graph.Unlooped parent → RootIs graph parent answer) := by
        intro parent member _ _ _ faithful ran
        refine ih faithful ?_ ran
        intro other among unlooped leads
        rcases List.mem_cons.mp among with rfl | earlier
        · exact unlooped other .refl (.head' ⟨plain, member⟩ leads)
        · exact apart other earlier unlooped (.head ⟨plain, member⟩ leads)
      cases findRoot_searched ran with
      | itself declares => exact ⟨faithful, fun _ => .itself declares⟩
      | parentless plain unlisted =>
          refine ⟨faithful, fun _ => .rootless plain ?_⟩
          simp [Graph.parents, unlisted]
      | known _ _ answered =>
          refine ⟨faithful, fun unlooped => faithful id answer unlooped ?_ answered⟩
          exact fun member => apart id member unlooped .refl
      | rootless plain _ _ fruitless =>
          obtain ⟨faithfulAfter, rootless⟩ := fruitless.faithful (faithful.begin none) (below plain)
          have rooted (unlooped : graph.Unlooped id) : RootIs graph id none :=
            .rootless plain fun parent member => rootless parent member (unlooped.parent ⟨plain, member⟩)
          exact ⟨faithfulAfter.conclude fruitless.recorded rooted, rooted⟩
      | @inherited passed rest parent top middle last plain _ _ listed fruitless searched =>
          have among other (member : other ∈ passed) : other ∈ graph.parents id := by simp [listed, member]
          have chosen : parent ∈ graph.parents id := by simp [listed]
          obtain ⟨faithfulMiddle, rootless⟩ :=
            fruitless.faithful (faithful.begin none) fun other member => below plain other (among other member)
          obtain ⟨faithfulLast, rootedParent⟩ := below plain parent chosen _ _ _ faithfulMiddle searched
          have rooted (unlooped : graph.Unlooped id) : RootIs graph id (some top) := by
            refine .inherited plain listed ?_ (rootedParent (unlooped.parent ⟨plain, chosen⟩))
            exact fun other member => rootless other member (unlooped.parent ⟨plain, among other member⟩)
          have noted : Faithful graph (id :: searching) (last.addBase parent) := faithfulLast
          exact ⟨(noted.record (some top)).conclude (answer?_record_self _ _ _) rooted, rooted⟩

end RootSearch

end ApiContract.Schema
