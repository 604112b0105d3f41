import Mathlib.Data.Finset.Card
import Mathlib.Data.List.Perm.Subperm
import Mathlib.Tactic.Ring
import ApiContract.Proofs.Schema.Standing
import ApiContract.Proofs.Stateful

/-!
Readings are answered: the fuel for the documents lasts for every schema in them (`fuel_suffices`, `demand_le_fuelFor`).

On the way from a schema to one inside it the value gets smaller. A reference either leads to a location that was bound
before, or to one that is bound next; a chain of references passes each location once.
-/

namespace ApiContract.Schema

open Json (Value)

/-! ## Unbound locations -/

def Catalog.unbound (catalog : Catalog) (locations : List String) : Nat :=
  (locations.toFinset.filter fun location => catalog.graph.lookup location = none).card

namespace Catalog

variable {catalog before after : Catalog} {locations : List String} {location : String}

theorem unbound_le_length : catalog.unbound locations ≤ locations.length :=
  Nat.le_trans (Finset.card_filter_le _ _) (List.toFinset_card_le _)

theorem unbound_mono (kept : ∀ location, after.graph.lookup location = none → before.graph.lookup location = none) :
    after.unbound locations ≤ before.unbound locations := by
  apply Finset.card_le_card
  intro location member
  rw [Finset.mem_filter] at member ⊢
  exact ⟨member.1, kept location member.2⟩

theorem unbound_lt (kept : ∀ location, after.graph.lookup location = none → before.graph.lookup location = none)
    (member : location ∈ locations) (free : before.graph.lookup location = none)
    (bound : after.graph.lookup location ≠ none) : after.unbound locations < before.unbound locations := by
  apply Finset.card_lt_card
  refine Finset.ssubset_iff_of_subset ?_ |>.mpr ⟨location, ?_, ?_⟩
  · intro other among
    rw [Finset.mem_filter] at among ⊢
    exact ⟨among.1, kept other among.2⟩
  · exact Finset.mem_filter.mpr ⟨List.mem_toFinset.mpr member, free⟩
  · intro still
    exact bound (Finset.mem_filter.mp still).2

theorem lookup_of_place {url pointer : String} {node : Node}
    (free : (catalog.place url pointer node).graph.lookup location = none) :
    catalog.graph.lookup location = none := by
  by_cases own : location = Reading.locationOf url pointer
  · subst own
    cases (Reading.lookup_place_self catalog url pointer node).symm.trans free
  · rwa [Reading.lookup_place_of_ne catalog node own] at free

theorem unbound_place_le {url pointer : String} {node : Node} :
    (catalog.place url pointer node).unbound locations ≤ catalog.unbound locations :=
  unbound_mono fun _ => lookup_of_place

theorem unbound_place_lt {url pointer : String} {node : Node} (member : Reading.locationOf url pointer ∈ locations)
    (free : catalog.graph.lookup (Reading.locationOf url pointer) = none) :
    (catalog.place url pointer node).unbound locations < catalog.unbound locations := by
  refine unbound_lt (fun _ => lookup_of_place) member free ?_
  rw [Reading.lookup_place_self]
  exact Option.some_ne_none _

theorem unbound_pos (member : location ∈ locations) (free : catalog.graph.lookup location = none) :
    0 < catalog.unbound locations :=
  Finset.card_pos.mpr ⟨location, Finset.mem_filter.mpr ⟨List.mem_toFinset.mpr member, free⟩⟩

end Catalog

namespace Reading

variable {documents : DocumentSet} {locations : List String} {most : Nat} {α : Type}

/-- At most some number of the locations have no node. -/
def AtMost (locations : List String) (most : Nat) (catalog : Catalog) : Prop := catalog.unbound locations ≤ most

theorem lookup_answers {location : String} {next : Option Nat → Reading α} {holds : Catalog → Prop}
    (bound : ∀ id, Answers holds (next (some id)))
    (free : ∀ before, holds before → before.graph.lookup location = none →
      ∃ result after, (next none).run before = some (result, after) ∧ holds after) :
    Answers holds (lookup location >>= next) := by
  intro before start
  cases known : before.graph.lookup location with
  | none =>
      obtain ⟨result, after, ran, kept⟩ := free before start known
      exact ⟨result, after, (StateT.run_bind_eq_some _ _ _ _).mpr ⟨none, before, known ▸ rfl, ran⟩, kept⟩
  | some id =>
      obtain ⟨result, after, ran, kept⟩ := bound id before start
      exact ⟨result, after, (StateT.run_bind_eq_some _ _ _ _).mpr ⟨some id, before, known ▸ rfl, ran⟩, kept⟩

theorem modifyNode_answers (id : Nat) (change : Node → Node) : Answers (AtMost locations most) (modifyNode id change) :=
  .modify fun _ start => start

theorem unresolved_answers (url pointer reference : String) :
    Answers (AtMost locations most) (unresolved url pointer reference) := by
  refine lookup_answers (fun id => .pure id) fun before start _ => ?_
  refine ⟨before.graph.size, _, rfl, ?_⟩
  exact Nat.le_trans Catalog.unbound_place_le start

/-! ## Subschemas -/

section

variable {read : ReadEdge} {raw : Assoc Value}
  (reads : ∀ pointer inner, Relation.TransGen Value.Holds (.object raw) inner →
    Answers (AtMost locations most) (read pointer inner))
  (pointer : String) (id : Nat)

include reads

theorem attachProperties_answers : Answers (AtMost locations most) (attachProperties read pointer raw id) := by
  unfold attachProperties
  split
  next entries found =>
    have inside {entry : String × Value} (member : entry ∈ entries) :
        Relation.TransGen Value.Holds (.object raw) entry.2 :=
      .tail (.single (Value.holds_of_find? found)) (.entry member)
    refine .bind (.mapM fun entry member => ?_) fun _ => modifyNode_answers id _
    exact .bind (reads _ _ (inside member)) fun _ => .pure _
  · exact .pure _

theorem attachItems_answers : Answers (AtMost locations most) (attachItems read pointer raw id) := by
  unfold attachItems
  split
  next found =>
    exact .bind (reads _ _ (.single (Value.holds_of_find? found))) fun _ => modifyNode_answers id _
  · exact .pure _

theorem attachAdditional_answers : Answers (AtMost locations most) (attachAdditional read pointer raw id) := by
  unfold attachAdditional
  split
  · exact modifyNode_answers id _
  next found =>
    exact .bind (reads _ _ (.single (Value.holds_of_find? found))) fun _ => modifyNode_answers id _
  · exact .pure _

theorem attachBranches_answers (keyword : String) (attach : List Edge → Node → Node) :
    Answers (AtMost locations most) (attachBranches read pointer raw keyword attach id) := by
  unfold attachBranches
  split
  next items found =>
    have inside {item : Value × Nat} (member : item ∈ items.zipIdx) :
        Relation.TransGen Value.Holds (.object raw) item.1 :=
      .tail (.single (Value.holds_of_find? found)) (.item (List.fst_mem_of_mem_zipIdx member))
    exact .bind (.mapM fun item member => reads _ _ (inside member)) fun _ => modifyNode_answers id _
  · exact .pure _

theorem attachAll_answers : Answers (AtMost locations most) (attachAll read pointer raw id) := by
  refine .bind (attachProperties_answers reads pointer id) fun _ => ?_
  refine .bind (attachItems_answers reads pointer id) fun _ => ?_
  refine .bind (attachAdditional_answers reads pointer id) fun _ => ?_
  refine .bind (attachBranches_answers reads pointer id "allOf" _) fun _ => ?_
  refine .bind (attachBranches_answers reads pointer id "anyOf" _) fun _ => ?_
  exact attachBranches_answers reads pointer id "oneOf" _

end

/-! ## Fuel -/

/-- The fuel that reading an edge takes at most, for a depth of the value and a number of landings that are not bound.
The span bounds the number of landings and twice the depth of values. -/
def demand (span depth most : Nat) : Nat := 2 * depth + most * (2 * span + 2) + span + 2

theorem demand_inside {span depth lower most fuel : Nat} (shallower : lower < depth)
    (enough : demand span depth most ≤ fuel + 2) : demand span lower most ≤ fuel := by
  unfold demand at enough ⊢
  omega

theorem demand_landed {span depth lower most fuel : Nat} (bounded : 2 * depth ≤ span) (shallower : lower < depth)
    (enough : (most + 1) * (2 * span + 2) ≤ fuel + 1) : demand span lower most ≤ fuel := by
  rw [Nat.succ_mul] at enough
  unfold demand
  omega

def span (documents : DocumentSet) : Nat := 2 * Value.weightEntries documents.documents

theorem demand_le_fuelFor {depth most : Nat} (shallow : 2 * depth ≤ span documents) (few : most ≤ span documents) :
    demand (span documents) depth most ≤ fuelFor documents := by
  have landed := Nat.mul_le_mul_right (2 * span documents + 2) few
  have squares : fuelFor documents = span documents * (2 * span documents + 2) + 14 * span documents + 40 := by
    unfold fuelFor span
    ring
  rw [squares]
  unfold demand
  omega

/-- The readings that lead on to each other are answered where the fuel is not less than they take. -/
structure Suffices (documents : DocumentSet) (fuel : Nat) : Prop where
  edge : ∀ {url pointer value most}, (url, value) ∈ sites documents →
    demand (span documents) value.depth most ≤ fuel →
    Answers (AtMost (landings documents) most) (edge documents fuel url pointer value)
  follow : ∀ {origin base current passed most}, Stands documents base current →
    passed.Nodup → passed ⊆ landings documents →
    most * (2 * span documents + 2) + span documents + 1 ≤ fuel + passed.length →
    Answers (AtMost (landings documents) most) (follow documents fuel origin base current passed)
  build : ∀ {url pointer value identity most}, (url, value) ∈ sites documents →
    demand (span documents) value.depth most ≤ fuel + 1 →
    Answers (AtMost (landings documents) most) (build documents fuel url pointer value identity)
  land : ∀ {url pointer value identity most}, (url, value) ∈ sites documents →
    locationOf url pointer ∈ landings documents → (most + 1) * (2 * span documents + 2) ≤ fuel →
    Answers (AtMost (landings documents) (most + 1)) (Reading.build documents fuel url pointer value identity)

/-- A schema is read with its own location bound, and what it holds is answered then. -/
theorem build_answers {fuel fewer : Nat} {url pointer : String} {value : Value} {identity : Option String}
    (placed : ∀ before node, AtMost (landings documents) most before →
      before.graph.lookup (locationOf url pointer) = none →
      AtMost (landings documents) fewer (before.place url pointer node))
    (less : fewer ≤ most)
    (inside : ∀ place inner, Relation.TransGen Value.Holds value inner →
      Answers (AtMost (landings documents) fewer) (edge documents fuel url place inner)) :
    Answers (AtMost (landings documents) most) (build documents (fuel + 1) url pointer value identity) := by
  rw [build]
  refine lookup_answers (fun id => .bind (modifyNode_answers id _) fun _ => .pure id) fun before start free => ?_
  cases value with
  | object raw =>
      let node := nodeOf (.within url pointer) identity raw
      let collected := (before.place url pointer node).collect node.kind before.graph.size
      have few : AtMost (landings documents) fewer collected := placed before node start free
      obtain ⟨_, after, ran, kept⟩ := attachAll_answers inside pointer before.graph.size collected few
      refine ⟨before.graph.size, after, ?_, Nat.le_trans kept less⟩
      refine (StateT.run_bind_eq_some _ _ _ _).mpr ⟨_, _, rfl, ?_⟩
      refine (StateT.run_bind_eq_some _ _ _ _).mpr ⟨_, _, rfl, ?_⟩
      exact (StateT.run_bind_eq_some _ _ _ _).mpr ⟨_, after, ran, rfl⟩
  | null | bool flag | number n | string text | array items =>
      exact ⟨before.graph.size, _, rfl, Nat.le_trans (placed before _ start free) less⟩

theorem span_bounds {url : String} {value : Value} (site : (url, value) ∈ sites documents) :
    2 * value.depth ≤ span documents :=
  Nat.mul_le_mul_left 2 (depth_le_of_mem_sites site)

theorem length_le_span {passed : List String} (distinct : passed.Nodup) (among : passed ⊆ landings documents) :
    passed.length ≤ span documents :=
  Nat.le_trans (List.subperm_of_subset distinct among).length_le (length_landings_le documents)

theorem Suffices.zero (documents : DocumentSet) : Suffices documents 0 := by
  constructor
  · intro _ _ _ _ _ enough
    exact absurd enough (by simp [demand])
  · intro _ _ _ passed _ _ distinct among enough
    have bounded := length_le_span distinct among
    omega
  · intro _ _ _ _ _ _ enough
    unfold demand at enough
    omega
  · intro _ _ _ _ most _ _ enough
    rw [Nat.succ_mul] at enough
    omega

/-- A chain of references ends, or passes a landing that it has not passed before. -/
theorem Suffices.follow_succ {fuel most : Nat} (suffice : Suffices documents fuel) {origin : Origin}
    {base current : String} {passed : List String} (stands : Stands documents base current) (distinct : passed.Nodup)
    (among : passed ⊆ landings documents)
    (enough : most * (2 * span documents + 2) + span documents + 1 ≤ fuel + 1 + passed.length) :
    Answers (AtMost (landings documents) most) (Reading.follow documents (fuel + 1) origin base current passed) := by
  rw [Reading.follow]
  split
  · exact unresolved_answers _ _ _
  next target resolved =>
    have landing := stands.mem_landings resolved
    refine lookup_answers (fun id => .bind (modifyNode_answers id _) fun _ => .pure id) fun before start free => ?_
    dsimp only
    split
    · exact unresolved_answers _ _ _ before start
    next new =>
      have distinctOn : (target.location :: passed).Nodup := List.nodup_cons.mpr ⟨by simpa using new, distinct⟩
      have amongOn : target.location :: passed ⊆ landings documents := List.cons_subset.mpr ⟨landing, among⟩
      have site := mem_sites_of_resolve? resolved
      obtain ⟨rest, cut, spelled⟩ := splitReference_location target.url target.pointer
      rw [← DocumentSet.Target.location] at cut spelled
      rw [cut]
      dsimp only
      split
      next reference written =>
        refine suffice.follow ⟨target.value, site, written⟩ distinctOn amongOn ?_ before start
        rw [List.length_cons]
        omega
      · have bounded := length_le_span distinctOn amongOn
        rw [List.length_cons] at bounded
        -- The landing is one of those that are not bound, so that there is one less inside.
        obtain ⟨fewer, rfl⟩ := Nat.exists_eq_add_one.mpr
          (Nat.lt_of_lt_of_le (Catalog.unbound_pos landing free) start)
        exact suffice.land site (by rwa [spelled]) (by omega) before start

theorem Suffices.succ {fuel : Nat} (suffice : Suffices documents fuel) : Suffices documents (fuel + 1) := by
  constructor
  · intro url pointer value most site enough
    rw [Reading.edge]
    split
    next reference written =>
      refine .bind (suffice.follow ⟨value, site, written⟩ List.nodup_nil (List.nil_subset _) ?_) fun _ => .pure _
      unfold demand at enough
      simp only [List.length_nil]
      omega
    · exact .bind (suffice.build site (by omega)) fun _ => .pure _
  · exact suffice.follow_succ
  · intro url pointer value identity most site enough
    refine build_answers ?_ (Nat.le_refl most) fun place inner holds => ?_
    · intro before node start _
      exact Nat.le_trans Catalog.unbound_place_le start
    · exact suffice.edge (mem_sites_of_holds site holds) (demand_inside (Value.depth_lt_of_transGen holds) enough)
  · intro url pointer value identity most site landing enough
    refine build_answers ?_ (Nat.le_succ most) fun place inner holds => ?_
    · intro before node start free
      exact Nat.le_of_lt_succ (Nat.lt_of_lt_of_le (Catalog.unbound_place_lt landing free) start)
    · exact suffice.edge (mem_sites_of_holds site holds)
        (demand_landed (span_bounds site) (Value.depth_lt_of_transGen holds) enough)

theorem fuel_suffices (documents : DocumentSet) (fuel : Nat) : Suffices documents fuel := by
  induction fuel with
  | zero => exact .zero documents
  | succ fuel ih => exact ih.succ

end Reading

end ApiContract.Schema
