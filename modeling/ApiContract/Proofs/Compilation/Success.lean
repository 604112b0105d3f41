import Mathlib.Data.Finset.Card
import Mathlib.Logic.Relation
import ApiContract.Proofs.Compilation.Correctness
import ApiContract.Proofs.Schema.Graph

/-!
Which compilations succeed. A run takes places for schemas that are reached, and fails only if one of these is at
fault (`compileWithin_ends`), so every schema below one that compiles compiles as well.
-/

namespace ApiContract.Validator

open Schema (Node Catalog)

variable {α β : Type}

/-- Compilation of the schema alone finds no fault. -/
structure Sane (catalog : Catalog) (id : Nat) : Prop where
  unbroken : catalog.deferred.find? id = none
  bare : ∃ clause, bareOf (catalog.graph.node id) = .ok clause

/-- Compilation of the schema alone fails. -/
inductive Faulty (catalog : Catalog) (id : Nat) : Interruption → Prop
  | deferred {error} : catalog.deferred.find? id = some error → Faulty catalog id (.refused error)
  | own {reason} : bareOf (catalog.graph.node id) = .error reason → Faulty catalog id reason

theorem Sane.not_faulty {catalog : Catalog} {id : Nat} {reason : Interruption} (sane : Sane catalog id) :
    ¬Faulty catalog id reason := by
  rintro (deferred | own)
  · cases sane.unbroken.symm.trans deferred
  · obtain ⟨clause, bared⟩ := sane.bare
    cases bared.symm.trans own

def Leads (catalog : Catalog) (id target : Nat) : Prop := (catalog.graph.node id).LeadsTo target

namespace Arena

/-- An arena with places for more schemas, all of them wanted, and with no other new clauses. The old clauses are
still there. -/
structure Fills (wanted : Nat → Prop) (before after : Arena) : Prop where
  kept : before.slots ⊆ after.slots
  wanted : ∀ id place, after.Slot id place → before.Slot id place ∨ wanted id
  taken : ∀ place < after.clauses.size, place < before.clauses.size ∨ ∃ id, after.Slot id place
  size : before.clauses.size ≤ after.clauses.size
  old : ∀ place < before.clauses.size, after.clauses.getD place {} = before.clauses.getD place {}

namespace Fills

variable {wanted more : Nat → Prop} {before middle after : Arena}

theorem refl (wanted : Nat → Prop) (arena : Arena) : Fills wanted arena arena :=
  ⟨List.Subset.refl _, fun _ _ placed => .inl placed, fun _ below => .inl below, Nat.le_refl _, fun _ _ => rfl⟩

theorem trans (first : Fills wanted before middle) (second : Fills wanted middle after) :
    Fills wanted before after where
  kept := List.Subset.trans first.kept second.kept
  wanted id place placed := (second.wanted id place placed).elim (first.wanted id place) .inr
  taken place below := by
    rcases second.taken place below with earlier | later
    · rcases first.taken place earlier with old | ⟨id, placed⟩
      · exact .inl old
      · exact .inr ⟨id, second.kept placed⟩
    · exact .inr later
  size := Nat.le_trans first.size second.size
  old place below := (second.old place (Nat.lt_of_lt_of_le below first.size)).trans (first.old place below)

theorem mono (weaker : ∀ id, wanted id → more id) (fills : Fills wanted before after) : Fills more before after :=
  ⟨fills.kept, fun id place placed => (fills.wanted id place placed).imp_right (weaker id), fills.taken, fills.size,
    fills.old⟩

end Fills

theorem fills_reserved {wanted : Nat → Prop} {id : Nat} (arena : Arena) (own : wanted id) :
    arena.Fills wanted (arena.reserved id) where
  kept _ old := List.mem_cons_of_mem _ old
  wanted other place placed := by
    rcases List.mem_cons.mp placed with same | old
    · cases same
      exact .inr own
    · exact .inl old
  taken place below := by
    rw [clauses_reserved, Array.size_push] at below
    rcases Nat.lt_succ_iff_lt_or_eq.mp below with old | rfl
    · exact .inl old
    · exact .inr ⟨id, List.mem_cons_self⟩
  size := by simp
  old place below := getD_push_of_lt _ below

/-- A clause that was not there before is completed. -/
theorem Fills.settled {wanted : Nat → Prop} {before after : Arena} (fills : Fills wanted before after) {place : Nat}
    (new : before.clauses.size ≤ place) (clause : Clause) : Fills wanted before (after.settled place clause) where
  kept := fills.kept
  wanted := fills.wanted
  taken other below := fills.taken other (by simpa using below)
  size := by simpa using fills.size
  old other below := by
    rw [clauses_settled, getD_modify_of_ne _ _ (by omega)]
    exact fills.old other below

end Arena

/-- Wherever some places are taken, the run takes more of them for wanted schemas, or it fails for a reason that is
foreseen. -/
structure Ends (start : Arena) (wanted : Nat → Prop) (foreseen : Interruption → Prop) (compiling : Compiling α) :
    Prop where
  fills : ∀ {before result after}, start.slots ⊆ before.slots → compiling.run before = .ok (result, after) →
    before.Fills wanted after
  fails : ∀ {before reason}, start.slots ⊆ before.slots → compiling.run before = .error reason → foreseen reason

namespace Ends

variable {start : Arena} {wanted more : Nat → Prop} {foreseen further : Interruption → Prop}

theorem pure (result : α) : Ends start wanted foreseen (pure result) where
  fills _ ran := by
    cases ran
    exact .refl _ _
  fails _ ran := by cases ran

theorem lift {outcome : Except Interruption α} (faults : ∀ reason, outcome = .error reason → foreseen reason) :
    Ends start wanted foreseen (liftM outcome) := by
  cases outcome with
  | error reason =>
      refine ⟨fun _ ran => ?_, fun _ ran => ?_⟩
      · cases ran
      · cases ran
        exact faults reason rfl
  | ok result => exact .pure result

theorem bind {compiling : Compiling α} {next : α → Compiling β} (ends : Ends start wanted foreseen compiling)
    (endsNext : ∀ result, Ends start wanted foreseen (next result)) :
    Ends start wanted foreseen (compiling >>= next) where
  fills kept ran := by
    obtain ⟨result, middle, first, later⟩ := (StateT.run_bind_eq_ok _ _ _ _).mp ran
    have filled := ends.fills kept first
    exact filled.trans ((endsNext result).fills (List.Subset.trans kept filled.kept) later)
  fails kept ran := by
    rcases (StateT.run_bind_eq_error _ _ _ _).mp ran with first | ⟨result, middle, first, later⟩
    · exact ends.fails kept first
    · exact (endsNext result).fails (List.Subset.trans kept (ends.fills kept first).kept) later

theorem map {compiling : Compiling α} (ends : Ends start wanted foreseen compiling) (change : α → β) :
    Ends start wanted foreseen (change <$> compiling) := by
  rw [map_eq_pure_bind]
  exact .bind ends fun _ => .pure _

theorem mapM {items : List α} {visit : α → Compiling β}
    (each : ∀ item ∈ items, Ends start wanted foreseen (visit item)) :
    Ends start wanted foreseen (items.mapM visit) := by
  induction items with
  | nil =>
      rw [List.mapM_nil]
      exact .pure _
  | cons item rest ih =>
      rw [List.mapM_cons]
      refine .bind (each item List.mem_cons_self) fun _ => ?_
      exact .bind (ih fun item member => each item (List.mem_cons_of_mem _ member)) fun _ => .pure _

theorem mono {compiling : Compiling α} (weaker : ∀ id, wanted id → more id)
    (weakerToo : ∀ reason, foreseen reason → further reason) (ends : Ends start wanted foreseen compiling) :
    Ends start more further compiling :=
  ⟨fun kept ran => (ends.fills kept ran).mono weaker, fun kept ran => weakerToo _ (ends.fails kept ran)⟩

end Ends

theorem assemble_eq_error {node : Node} {properties : Option (Assoc Nat)} {undeclared : Option Undeclared}
    {items : Option Nat} {allOf anyOf oneOf : List Nat} {dispatch : Option Dispatch} {reason : Interruption}
    (failed : assemble node properties undeclared items allOf anyOf oneOf dispatch = .error reason) :
    bareOf node = .error reason := by
  rcases (Except.bind_eq_error _ _ _).mp failed with own | ⟨_, _, ⟨⟩⟩
  exact own

theorem clauseOf_ends {start : Arena} {wanted : Nat → Prop} {foreseen : Interruption → Prop} {node : Node}
    {child : Nat → Compiling Nat} (own : ∀ reason, bareOf node = .error reason → foreseen reason)
    (ends : ∀ target, node.LeadsTo target → Ends start wanted foreseen (child target)) :
    Ends start wanted foreseen (clauseOf node child) := by
  have properties : Ends start wanted foreseen (propertiesOf node child) := by
    unfold propertiesOf
    rcases listed : node.properties with _ | entries
    · exact .pure _
    · refine .map (.mapM fun entry member => .bind (ends _ ?_) fun _ => .pure _) _
      exact .property (by rw [Node.propertyList, listed]; exact member)
  have undeclared : Ends start wanted foreseen (undeclaredOf node child) := by
    unfold undeclaredOf
    split
    · exact .pure _
    next edge additional => exact .bind (ends _ (.additional additional)) fun _ => .pure _
    · exact .pure _
  have items : Ends start wanted foreseen (itemsOf node child) := by
    unfold itemsOf
    split
    next edge items => exact .map (ends _ (.items items)) _
    · exact .pure _
  have dispatch : Ends start wanted foreseen (dispatchOf node child) := by
    unfold dispatchOf
    split
    next property tags declared mapped =>
      have routing : node.routing? = some (property, tags) := by simp [Node.routing?, declared, mapped]
      refine .bind (.mapM fun entry member => ?_) fun _ => .pure _
      obtain ⟨tag, variant⟩ := entry
      cases variant with
      | none => exact .pure _
      | some id => exact .bind (ends id (.variant routing member)) fun _ => .pure _
    · exact .pure _
  rw [clauseOf_eq]
  refine .bind properties fun _ => .bind undeclared fun _ => .bind items fun _ => ?_
  refine .bind (.mapM fun edge member => ends _ (.allOf member)) fun _ => ?_
  refine .bind (.mapM fun edge member => ends _ (.anyOf member)) fun _ => ?_
  refine .bind (.mapM fun edge member => ends _ (.oneOf member)) fun _ => .bind dispatch fun _ => ?_
  exact .lift fun reason failed => own reason (assemble_eq_error failed)

section

open Classical

noncomputable def unplaced (catalog : Catalog) (arena : Arena) : Nat :=
  ((Finset.range catalog.graph.size).filter fun id => id ∉ arena.slots.map Prod.fst).card

theorem unplaced_le_size (catalog : Catalog) (arena : Arena) : unplaced catalog arena ≤ catalog.graph.size :=
  (Finset.card_filter_le _ _).trans_eq (Finset.card_range _)

theorem unplaced_mono {catalog : Catalog} {arena later : Arena} (grown : arena.slots ⊆ later.slots) :
    unplaced catalog later ≤ unplaced catalog arena := by
  apply Finset.card_le_card
  intro id member
  rw [Finset.mem_filter] at member ⊢
  exact ⟨member.1, fun old => member.2 (List.map_subset Prod.fst grown old)⟩

theorem unplaced_reserve_lt {catalog : Catalog} {arena : Arena} {id place : Nat}
    (inside : id < catalog.graph.size) (fresh : id ∉ arena.slots.map Prod.fst) {later : Arena}
    (reserved : later.slots = (id, place) :: arena.slots) : unplaced catalog later < unplaced catalog arena := by
  apply Finset.card_lt_card
  refine Finset.ssubset_iff_of_subset ?_ |>.mpr ⟨id, ?_, ?_⟩
  · intro other member
    rw [Finset.mem_filter] at member ⊢
    exact ⟨member.1, fun old => member.2 (by rw [reserved]; exact List.mem_cons_of_mem _ old)⟩
  · exact Finset.mem_filter.mpr ⟨Finset.mem_range.mpr inside, fresh⟩
  · intro member
    refine (Finset.mem_filter.mp member).2 ?_
    rw [reserved]
    exact List.mem_cons_self

end

theorem not_leads_of_size_le {catalog : Catalog} {id target : Nat} (outside : catalog.graph.size ≤ id) :
    ¬Leads catalog id target := by
  unfold Leads
  rw [Schema.Graph.node_of_size_le outside]
  rintro (member | additional | items | member | member | member | ⟨routing, _⟩)
  · exact absurd member List.not_mem_nil
  · cases additional
  · cases items
  · exact absurd member List.not_mem_nil
  · exact absurd member List.not_mem_nil
  · exact absurd member List.not_mem_nil
  · cases routing

/-- The schemas that are reached get places, and a fault is that of one of them. The induction is on the fuel, and
each level below reserves a place for one more schema. -/
theorem compileWithin_ends {catalog : Catalog} {fuel id : Nat} {start : Arena}
    (enough : unplaced catalog start < fuel) :
    Ends start (Relation.ReflTransGen (Leads catalog) id)
      (fun reason => ∃ other, Relation.ReflTransGen (Leads catalog) id other ∧ Faulty catalog other reason)
      (compileWithin catalog fuel id) := by
  induction fuel generalizing id start with
  | zero => omega
  | succ fuel ih =>
      have below {before : Arena} (kept : start.slots ⊆ before.slots) (fresh : before.slot? id = none) :
          Ends (before.reserved id) (Relation.ReflTransGen (Leads catalog) id)
            (fun reason => ∃ other, Relation.ReflTransGen (Leads catalog) id other ∧ Faulty catalog other reason)
            (clauseOf (catalog.graph.node id) (compileWithin catalog fuel)) := by
        refine clauseOf_ends (fun reason failed => ⟨id, .refl, .own failed⟩) fun target leads => ?_
        have inside : id < catalog.graph.size := by
          by_contra outside
          exact not_leads_of_size_le (Nat.le_of_not_lt outside) leads
        have fewer : unplaced catalog (before.reserved id) < unplaced catalog before :=
          unplaced_reserve_lt inside ((Arena.slot?_eq_none before id).mp fresh) rfl
        have bounded : unplaced catalog before ≤ unplaced catalog start := unplaced_mono kept
        refine (ih (by omega)).mono (fun other reaches => .head leads reaches) ?_
        rintro reason ⟨other, reaches, faulty⟩
        exact ⟨other, .head leads reaches, faulty⟩
      constructor
      · intro before place after kept ran
        rcases compileWithin_eq_ok ran with ⟨_, rfl⟩ | ⟨fresh, _, clause, middle, compiled, _, rfl⟩
        · exact .refl _ _
        · have filled := (below kept fresh).fills (List.Subset.refl _) compiled
          exact ((before.fills_reserved .refl).trans filled).settled (Nat.le_refl _) clause
      · intro before reason kept ran
        obtain ⟨fresh, ⟨error, deferred, rfl⟩ | failed⟩ := compileWithin_eq_error ran
        · exact ⟨id, .refl, .deferred deferred⟩
        · exact (below kept fresh).fails (List.Subset.refl _) failed

theorem compile_ends (catalog : Catalog) (id : Nat) :
    Ends {} (Relation.ReflTransGen (Leads catalog) id)
      (fun reason => ∃ other, Relation.ReflTransGen (Leads catalog) id other ∧ Faulty catalog other reason)
      (compile catalog id) :=
  compileWithin_ends (Nat.lt_succ_of_le (unplaced_le_size catalog {}))

/-- A schema compiles if no schema that it leads to is broken. -/
theorem compile_succeeds {catalog : Catalog} {id : Nat}
    (sane : ∀ other, Relation.ReflTransGen (Leads catalog) id other → Sane catalog other) :
    ∃ root arena, (compile catalog id).run {} = .ok (root, arena) := by
  cases ran : (compile catalog id).run {} with
  | error reason =>
      obtain ⟨other, reaches, faulty⟩ := (compile_ends catalog id).fails (List.Subset.refl _) ran
      exact absurd faulty (sane other reaches).not_faulty
  | ok answer => exact ⟨answer.1, answer.2, rfl⟩

theorem ofSchema_succeeds {catalog : Catalog} {id : Nat}
    (sane : ∀ other, Relation.ReflTransGen (Leads catalog) id other → Sane catalog other) :
    ∃ validator, ofSchema catalog id = .ok validator := by
  obtain ⟨root, arena, ran⟩ := compile_succeeds sane
  exact ⟨_, (Except.bind_eq_ok _ _ _).mpr ⟨(root, arena), ran, rfl⟩⟩

namespace Mirror

variable {catalog : Catalog} {slot : Nat → Nat → Prop} {validator : Validator} {id : Nat}

theorem sane (mirror : Mirror catalog slot validator id) {other place : Nat} (placed : slot other place) :
    Sane catalog other :=
  ⟨mirror.unbroken placed, _, (mirror.depicts placed).bare⟩

theorem closed (mirror : Mirror catalog slot validator id) {other place target : Nat}
    (placed : slot other place) (leads : Leads catalog other target) : ∃ next, slot target next := by
  have depicts := mirror.depicts placed
  cases leads with
  | property member =>
      have properties := depicts.properties
      unfold Node.propertyList at member
      rcases listed : (catalog.graph.node other).properties with _ | entries
      · rw [listed] at member
        exact absurd member List.not_mem_nil
      · rw [listed] at properties member
        obtain ⟨_, _, entries⟩ := properties.exists_right
        obtain ⟨entry, _, _, slotted⟩ := entries.exists_right member
        exact ⟨entry.2, slotted⟩
  | additional said =>
      have undeclared := depicts.undeclared
      rw [said] at undeclared
      obtain ⟨_, _, _ | ⟨slotted⟩⟩ := undeclared.exists_right
      exact ⟨_, slotted⟩
  | items said =>
      have items := depicts.items
      rw [said] at items
      obtain ⟨_, _, slotted⟩ := items.exists_right
      exact ⟨_, slotted⟩
  | allOf member =>
      obtain ⟨next, _, slotted⟩ := depicts.allOf.exists_right member
      exact ⟨next, slotted⟩
  | anyOf member =>
      obtain ⟨next, _, slotted⟩ := depicts.anyOf.exists_right member
      exact ⟨next, slotted⟩
  | oneOf member =>
      obtain ⟨next, _, slotted⟩ := depicts.oneOf.exists_right member
      exact ⟨next, slotted⟩
  | variant routing member =>
      have dispatch := depicts.dispatch
      rw [routing] at dispatch
      obtain ⟨_, _, _, variants⟩ := dispatch.exists_right
      obtain ⟨⟨tag, next⟩, _, _, chosen⟩ := variants.exists_right member
      obtain ⟨_, _, slotted⟩ := chosen.exists_right
      exact ⟨_, slotted⟩

theorem reached (mirror : Mirror catalog slot validator id) {other place target : Nat} (placed : slot other place)
    (reaches : Relation.ReflTransGen (Leads catalog) other target) : ∃ next, slot target next := by
  induction reaches with
  | refl => exact ⟨place, placed⟩
  | tail _ leads ih =>
      obtain ⟨next, slotted⟩ := ih
      exact mirror.closed slotted leads

theorem below (mirror : Mirror catalog slot validator id) {other place : Nat} (placed : slot other place) :
    ∃ validator, ofSchema catalog other = .ok validator := by
  apply ofSchema_succeeds
  intro target reaches
  obtain ⟨next, slotted⟩ := mirror.reached placed reaches
  exact mirror.sane slotted

end Mirror

end ApiContract.Validator
