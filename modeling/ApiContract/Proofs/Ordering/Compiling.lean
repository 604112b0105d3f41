import Mathlib.Combinatorics.Enumerative.DoubleCounting
import ApiContract.Proofs.Compilation.Assembly
import ApiContract.Proofs.Compilation.Transfer
import ApiContract.Proofs.Ordering.Nulling

/-!
Validators under other numbers. A schema compiles if and only if no schema that it leads to is broken (`Clean`), so
of schemas that are the same in two drafts both compile or neither. The tables that come of it hold the same clauses
at other places (`Together`), and say the same of every message (`MessageValidator.Agrees`).
-/

namespace ApiContract

open Relation (ReflTransGen)

/-- Where every number below a bound has a counterpart below the other bound, and no two have the same one, the
other bound is not less. -/
theorem le_of_counterparts {related : Nat → Nat → Prop} {bound other : Nat}
    (total : ∀ first < bound, ∃ second < other, related first second)
    (single : ∀ first another second, related first second → related another second → first = another) :
    bound ≤ other := by
  rw [← Finset.card_range bound, ← Finset.card_range other]
  refine Finset.card_le_card_of_forall_subsingleton related (fun first member => ?_) fun second _ => ?_
  · obtain ⟨second, below, both⟩ := total first (Finset.mem_range.mp member)
    exact ⟨second, Finset.mem_range.mpr below, both⟩
  · rintro first ⟨_, both⟩ another ⟨_, bothToo⟩
    exact single first another second both bothToo

namespace Schema

theorem Node.Alike.routing? {pairing : Pairing} {node other : Node} (alike : node.Alike pairing other) :
    Option.Rel (fun routing routingToo => routing.1 = routingToo.1 ∧ TagsAlike pairing routing.2 routingToo.2)
      node.routing?
      other.routing? := by
  unfold Node.routing?
  rw [alike.same Node.discriminator fun _ => rfl]
  rcases other.discriminator with _ | property
  · exact .none
  · rcases alike.tags.none_or_some with ⟨none, noneToo⟩ | ⟨_, _, some, someToo, maps⟩
    · rw [none, noneToo]
      exact .none
    · rw [some, someToo]
      exact .some ⟨rfl, maps⟩

/-- Wherever a node leads, one that differs from it only in numbers leads as well. -/
theorem Node.Alike.leadsTo {pairing : Pairing} {node other : Node} {target : Nat} (alike : node.Alike pairing other)
    (leads : node.LeadsTo target) : ∃ twin, pairing.Near target twin ∧ other.LeadsTo twin := by
  have branches {edges edgesToo : Option (List Edge)} {edge : Edge}
      (lists : Option.Rel (List.Forall₂ (Edge.Alike pairing.Near)) edges edgesToo) (member : edge ∈ edges.getD []) :
      ∃ edgeToo ∈ edgesToo.getD [], pairing.Near edge.target edgeToo.target := by
    obtain ⟨edgeToo, memberToo, both⟩ := lists.getD_nil.exists_right member
    exact ⟨edgeToo, memberToo, both.near⟩
  cases leads with
  | property member =>
      obtain ⟨⟨_, edge⟩, memberToo, _, both⟩ := alike.propertyList.exists_right member
      exact ⟨edge.target, both.near, .property memberToo⟩
  | additional said =>
      obtain ⟨_, saidToo, both⟩ := (said ▸ additional_of_outline alike.outline.additional).exists_right
      cases both with
      | schema edges => exact ⟨_, edges.near, .additional saidToo⟩
  | items said =>
      have items : Option.Rel (Edge.Alike pairing.Near) node.items other.items := alike.outline.items
      obtain ⟨edge, saidToo, both⟩ := (said ▸ items).exists_right
      exact ⟨edge.target, both.near, .items saidToo⟩
  | allOf member =>
      obtain ⟨edge, memberToo, near⟩ := branches alike.outline.allOf member
      exact ⟨edge.target, near, .allOf memberToo⟩
  | anyOf member =>
      obtain ⟨edge, memberToo, near⟩ := branches alike.outline.anyOf member
      exact ⟨edge.target, near, .anyOf memberToo⟩
  | oneOf member =>
      obtain ⟨edge, memberToo, near⟩ := branches alike.outline.oneOf member
      exact ⟨edge.target, near, .oneOf memberToo⟩
  | @variant _ _ tag _ routed member =>
      obtain ⟨routing, routedToo, same, maps⟩ := (routed ▸ alike.routing?).exists_right
      have found := maps.leads tag
      rw [Assoc.find?_of_mem maps.distinct member] at found
      obtain ⟨_, foundToo, targets⟩ := found.exists_right
      obtain ⟨twin, rfl, paired⟩ := targets.exists_right
      exact ⟨twin, .inl paired, .variant routedToo (Assoc.mem_of_find? foundToo)⟩

end Schema

namespace Validator

open Schema (Catalog Pairing)

variable {catalog : Catalog} {arena : Arena} {id target place : Nat}

/-- No schema that is reached from this one is broken. -/
def Clean (catalog : Catalog) (id : Nat) : Prop := ∀ other, ReflTransGen (Leads catalog) id other → Sane catalog other

namespace Arena

theorem Sound.reached (sound : arena.Sound catalog []) (placed : arena.Slot id place)
    (reaches : ReflTransGen (Leads catalog) id target) : ∃ next, arena.Slot target next :=
  (sound.mirror placed).reached placed reaches

theorem Sound.clean (sound : arena.Sound catalog []) (placed : arena.Slot id place) : Clean catalog id := by
  intro other reaches
  obtain ⟨next, slotted⟩ := sound.reached placed reaches
  exact (sound.mirror placed).sane slotted

end Arena

/-- From any table, exactly the schemas that lead to nothing broken compile. -/
theorem compile_outcome (catalog : Catalog) (id : Nat) {before : Arena} (sound : before.Sound catalog []) :
    (∃ place after, (compile catalog id).run before = .ok (place, after) ∧ Clean catalog id) ∨
      ∃ reason, (compile catalog id).run before = .error reason ∧ ¬Clean catalog id := by
  cases ran : (compile catalog id).run before with
  | ok answer =>
      obtain ⟨after, _, placed⟩ := compileWithin_compiles catalog [] _ id before answer.1 answer.2 sound ran
      exact .inl ⟨answer.1, answer.2, rfl, after.clean placed⟩
  | error reason =>
      refine .inr ⟨reason, rfl, fun clean => ?_⟩
      obtain ⟨other, reaches, faulty⟩ := (compile_ends catalog id).fails (List.nil_subset _) ran
      exact (clean other reaches).not_faulty faulty

end Validator

namespace Draft.Mates

open Schema Validator

variable {pairing : Pairing} {one other : Draft} (mates : Mates pairing one other) {id twin target : Nat}

include mates

theorem flip : Mates pairing.flip other one :=
  ⟨mates.toPaired.flip, mates.doomedToo, mates.doomed⟩

theorem same_of_clean (near : pairing.Near id twin) (clean : Clean one.catalog id) : pairing.same id twin := by
  rcases near with same | ⟨lost, _⟩
  · exact same
  · obtain ⟨broken, reaches, spoiled⟩ := mates.doomed id lost
    exact absurd (clean broken reaches).unbroken spoiled

theorem sane (same : pairing.same id twin) (sane : Sane one.catalog id) : Sane other.catalog twin where
  unbroken := (mates.deferred id twin same).mp sane.unbroken
  bare := by
    obtain ⟨clause, bared⟩ := sane.bare
    have bareSame := (mates.nodes id twin same).same bareOf fun _ => rfl
    exact ⟨clause, bareSame.symm.trans bared⟩

/-- What is reached from the twin is the same as something that is reached from the schema. -/
theorem reached_twin (near : pairing.Near id twin) (clean : Clean one.catalog id)
    (reaches : ReflTransGen (Leads other.catalog) twin target) :
    ∃ origin, ReflTransGen (Leads one.catalog) id origin ∧ pairing.same origin target := by
  induction reaches with
  | refl => exact ⟨id, .refl, mates.same_of_clean near clean⟩
  | tail _ leads ih =>
      obtain ⟨middle, reached, same⟩ := ih
      obtain ⟨origin, nearOrigin, leadsBack⟩ := (mates.nodes middle _ same).flip.leadsTo leads
      have reachedOrigin := reached.tail leadsBack
      exact ⟨origin, reachedOrigin, mates.same_of_clean (Pairing.near_flip.mp nearOrigin)
        fun further later => clean further (reachedOrigin.trans later)⟩

theorem clean (near : pairing.Near id twin) (clean : Clean one.catalog id) :
    pairing.same id twin ∧ Clean other.catalog twin := by
  refine ⟨mates.same_of_clean near clean, fun target reaches => ?_⟩
  obtain ⟨origin, reached, same⟩ := mates.reached_twin near clean reaches
  exact mates.sane same (clean origin reached)

end Draft.Mates

namespace Validator

open Schema (Catalog Pairing)

/-! ## Tables at other places -/

/-- Both runs are answered, with answers that are related, or neither is. -/
inductive Outcomes {α β : Type} (related : α → β → Prop) : Except Interruption α → Except Interruption β → Prop
  | answered {result twin} : related result twin → Outcomes related (.ok result) (.ok twin)
  | failed {reason reasonToo} : Outcomes related (.error reason) (.error reasonToo)

namespace Outcomes

variable {α β γ δ : Type} {related weaker : α → β → Prop} {more : γ → δ → Prop} {run : Except Interruption α}
  {runToo : Except Interruption β}

theorem imp (outcomes : Outcomes related run runToo)
    (weakens : ∀ result twin, related result twin → weaker result twin) :
    Outcomes weaker run runToo := by
  cases outcomes with
  | answered both => exact .answered (weakens _ _ both)
  | failed => exact .failed

theorem bind {next : α → Except Interruption γ} {nextToo : β → Except Interruption δ}
    (outcomes : Outcomes related run runToo)
    (later : ∀ result twin, related result twin → Outcomes more (next result) (nextToo twin)) :
    Outcomes more (run >>= next) (runToo >>= nextToo) := by
  cases outcomes with
  | answered both => exact later _ _ both
  | failed => exact .failed

theorem foldlM {ι κ : Type} {each : ι → κ → Prop} {items : List ι} {itemsToo : List κ} {step : α → ι → Compiling α}
    {stepToo : β → κ → Compiling β} {held : α × Arena → β × Arena → Prop} {start : α} {startToo : β}
    {before beforeToo : Arena}
    (alike : List.Forall₂ each items itemsToo)
    (steps : ∀ item twin, each item twin → ∀ result resultToo, held result resultToo →
      Outcomes held ((step result.1 item).run result.2) ((stepToo resultToo.1 twin).run resultToo.2))
    (holds : held (start, before) (startToo, beforeToo)) :
    Outcomes held ((items.foldlM step start).run before) ((itemsToo.foldlM stepToo startToo).run beforeToo) := by
  induction alike generalizing start startToo before beforeToo with
  | nil => exact .answered holds
  | cons head _ ih =>
      rw [List.foldlM_cons, List.foldlM_cons]
      exact (steps _ _ head _ _ holds).bind fun _ _ holds => ih holds

theorem isOk_eq (outcomes : Outcomes related run runToo) : run.isOk = runToo.isOk := by
  cases outcomes <;> rfl

theorem toOption_bind {next : α → Except Interruption γ} {nextToo : β → Except Interruption γ}
    (outcomes : Outcomes related run runToo) (later : ∀ result twin, related result twin → next result = nextToo twin) :
    (run >>= next).toOption = (runToo >>= nextToo).toOption := by
  cases outcomes with
  | answered both => exact congrArg Except.toOption (later _ _ both)
  | failed => rfl

end Outcomes

/-- A table of clauses for schemas, and at some places for a message and its parts. -/
structure Side (catalog : Catalog) (frames : List Nat) (arena : Arena) : Prop where
  sound : arena.Sound catalog []
  free : ∀ place ∈ frames, arena.Free place
  distinct : frames.Nodup
  total : ∀ place < arena.clauses.size, (∃ id, arena.Slot id place) ∨ place ∈ frames

namespace Side

variable {catalog : Catalog} {frames : List Nat} {arena before after : Arena} {id place parent : Nat}

theorem compile (side : Side catalog frames before) (ran : (compile catalog id).run before = .ok (place, after)) :
    Side catalog frames after ∧ after.Slot id place ∧ before.Fills (ReflTransGen (Leads catalog) id) after := by
  obtain ⟨sound, grown, placed⟩ := compileWithin_compiles catalog [] _ id before place after side.sound ran
  have fills := (compile_ends catalog id).fills (List.nil_subset _) ran
  refine ⟨⟨sound, fun place member => (side.free place member).extend grown, side.distinct, fun place inside => ?_⟩,
    placed, fills⟩
  rcases fills.taken place inside with old | slotted
  · exact (side.total place old).imp_left fun ⟨id, slotted⟩ => ⟨id, fills.kept slotted⟩
  · exact .inl slotted

theorem push (side : Side catalog frames arena) {clause : Clause} (frame : clause.Frame) :
    Side catalog (arena.clauses.size :: frames) { arena with clauses := arena.clauses.push clause } where
  sound := side.sound.push frame
  free place member := by
    rcases List.mem_cons.mp member with rfl | old
    · exact side.sound.push_free clause
    · exact (side.free place old).extend (arena.extends_push clause)
  distinct := List.nodup_cons.mpr ⟨fun member => Nat.lt_irrefl _ (side.free _ member).inside, side.distinct⟩
  total place inside := by
    rw [Array.size_push] at inside
    rcases Nat.lt_succ_iff_lt_or_eq.mp inside with old | rfl
    · exact (side.total place old).imp_right (List.mem_cons_of_mem _)
    · exact .inr List.mem_cons_self

theorem modify (side : Side catalog frames arena) (among : parent ∈ frames) {change : Clause → Clause}
    (keeps : ∀ clause, clause.Frame → (change clause).Frame) :
    Side catalog frames { arena with clauses := arena.clauses.modify parent change } where
  sound := side.sound.modify (side.free parent among) keeps
  free place member := (side.free place member).extend (arena.extends_modify parent change)
  distinct := side.distinct
  total place inside := side.total place (by rwa [Array.size_modify] at inside)

end Side

section

variable (pairing : Pairing) (frames : List (Nat × Nat)) (left right : Arena)

/-- The places of one schema in two tables, or those of one part of a message. -/
inductive Counterpart (place other : Nat) : Prop
  | schema {id twin} : pairing.same id twin → left.Slot id place → right.Slot twin other → Counterpart place other
  | frame : (place, other) ∈ frames → Counterpart place other

/-- Two tables for the same message: the same schemas have places, and the parts of the message have like clauses. -/
structure Together (catalog catalogToo : Catalog) : Prop where
  side : Side catalog (frames.map Prod.fst) left
  sideToo : Side catalogToo (frames.map Prod.snd) right
  twin : ∀ id place, left.Slot id place → ∃ twin other, pairing.same id twin ∧ right.Slot twin other
  twinToo : ∀ twin other, right.Slot twin other → ∃ id place, pairing.same id twin ∧ left.Slot id place
  alike : ∀ frame ∈ frames, Clause.Alike (Counterpart pairing frames left right) (left.clauses.getD frame.1 {})
    (right.clauses.getD frame.2 {})

end

variable {pairing : Pairing} {frames more : List (Nat × Nat)} {left right later laterToo : Arena} {place other : Nat}

theorem Counterpart.mono (counterpart : Counterpart pairing frames left right place other)
    (kept : left.slots ⊆ later.slots)
    (keptToo : right.slots ⊆ laterToo.slots) (known : frames ⊆ more) :
    Counterpart pairing more later laterToo place other := by
  cases counterpart with
  | schema same slotted slottedToo => exact .schema same (kept slotted) (keptToo slottedToo)
  | frame member => exact .frame (known member)

theorem Clause.Alike.declare {rel : Nat → Nat → Prop} {clause twin : Clause} (alike : Clause.Alike rel clause twin)
    {child childToo : Nat} (children : rel child childToo) (name : String) (required : Bool) :
    Clause.Alike rel (clause.declare name child required) (twin.declare name childToo required) where
  bare := by
    have same := congrArg (fun bare : Clause => (bare.declare name child required).bare) alike.bare
    exact same
  properties := .some (Assoc.insert_tables alike.properties.getD_nil name children)
  undeclared := alike.undeclared
  items := alike.items
  allOf := alike.allOf
  anyOf := alike.anyOf
  oneOf := alike.oneOf
  dispatch := alike.dispatch

theorem Clause.alike_object (rel : Nat → Nat → Prop) (source : SourceLocation) :
    Clause.Alike rel (Clause.object source) (Clause.object source) :=
  ⟨rfl, .some .nil, .none, .none, .nil, .nil, .nil, .none⟩

namespace Together

variable {catalog catalogToo : Catalog}

theorem frame_inside (together : Together pairing frames left right catalog catalogToo) {frame : Nat × Nat}
    (member : frame ∈ frames) : left.Free frame.1 ∧ right.Free frame.2 :=
  ⟨together.side.free _ (List.mem_map_of_mem member), together.sideToo.free _ (List.mem_map_of_mem member)⟩

theorem push (together : Together pairing frames left right catalog catalogToo) (source : SourceLocation) :
    Together pairing ((left.clauses.size, right.clauses.size) :: frames)
      { left with clauses := left.clauses.push (Clause.object source) }
      { right with clauses := right.clauses.push (Clause.object source) } catalog catalogToo where
  side := together.side.push (Assembly.object_frame source)
  sideToo := together.sideToo.push (Assembly.object_frame source)
  twin := together.twin
  twinToo := together.twinToo
  alike frame member := by
    rcases List.mem_cons.mp member with rfl | old
    · have last (clauses : Array Clause) : (clauses.push (Clause.object source)).getD clauses.size {} =
          Clause.object source := by
        simp [Array.getD]
      rw [last, last]
      exact Clause.alike_object _ source
    · have inside := together.frame_inside old
      rw [getD_push_of_lt _ inside.1.inside, getD_push_of_lt _ inside.2.inside]
      exact (together.alike frame old).imp fun _ _ counterpart =>
        counterpart.mono (List.Subset.refl _) (List.Subset.refl _) (List.subset_cons_self _ _)

/-- Both messages declare one more member of the same part. -/
theorem declare (together : Together pairing frames left right catalog catalogToo) {parent : Nat × Nat}
    (among : parent ∈ frames) {child childToo : Nat} (children : Counterpart pairing frames left right child childToo)
    (name : String) (required : Bool) :
    Together pairing frames
      { left with clauses := left.clauses.modify parent.1 (Clause.declare name child required) }
      { right with clauses := right.clauses.modify parent.2 (Clause.declare name childToo required) } catalog
        catalogToo where
  side := together.side.modify (List.mem_map_of_mem among) fun _ => Clause.Frame.declare
  sideToo := together.sideToo.modify (List.mem_map_of_mem among) fun _ => Clause.Frame.declare
  twin := together.twin
  twinToo := together.twinToo
  alike frame member := by
    have kept {place other : Nat} (counterpart : Counterpart pairing frames left right place other) :
        Counterpart pairing frames
          { left with clauses := left.clauses.modify parent.1 (Clause.declare name child required) }
          { right with clauses := right.clauses.modify parent.2 (Clause.declare name childToo required) } place other :=
      counterpart.mono (List.Subset.refl _) (List.Subset.refl _) (List.Subset.refl _)
    have alike := together.alike frame member
    by_cases own : frame = parent
    · subst own
      rw [getD_modify_self (together.frame_inside member).1.inside,
        getD_modify_self (together.frame_inside member).2.inside]
      exact (alike.declare children name required).imp fun _ _ => kept
    · have different : frame.1 ≠ parent.1 := fun same =>
        own (List.inj_on_of_nodup_map together.side.distinct member among same)
      have differentToo : frame.2 ≠ parent.2 := fun same =>
        own (List.inj_on_of_nodup_map together.sideToo.distinct member among same)
      rw [getD_modify_of_ne _ _ different, getD_modify_of_ne _ _ differentToo]
      exact alike.imp fun _ _ => kept

end Together

end Validator

namespace Draft.Mates

open Schema Validator

variable {pairing : Pairing} {one other : Draft} (mates : Mates pairing one other) {frames : List (Nat × Nat)}
  {left right : Arena} {id twin : Nat}

include mates

/-- The other table has a place for whatever the run took one for. -/
theorem twin_placed (near : pairing.Near id twin) (clean : Clean one.catalog id) {after afterToo : Arena}
    {placeToo : Nat}
    (twins : ∀ id place, left.Slot id place → ∃ twin place, pairing.same id twin ∧ right.Slot twin place)
    (fills : left.Fills (ReflTransGen (Leads one.catalog) id) after) (kept : right.slots ⊆ afterToo.slots)
    (sound : afterToo.Sound other.catalog []) (placed : afterToo.Slot twin placeToo) {reached place : Nat}
    (slotted : after.Slot reached place) : ∃ twin place, pairing.same reached twin ∧ afterToo.Slot twin place := by
  rcases fills.wanted reached place slotted with old | reaches
  · obtain ⟨twin, place, same, slottedToo⟩ := twins reached place old
    exact ⟨twin, place, same, kept slottedToo⟩
  · obtain ⟨same, cleanToo⟩ := mates.clean near clean
    obtain ⟨target, reachesToo, sameTarget⟩ := mates.flip.reached_twin (.inl same) cleanToo reaches
    obtain ⟨place, slottedToo⟩ := sound.reached placed reachesToo
    exact ⟨target, place, sameTarget, slottedToo⟩

theorem compile (together : Together pairing frames left right one.catalog other.catalog)
    (near : pairing.Near id twin) :
    Outcomes (fun result resultToo => Together pairing frames result.2 resultToo.2 one.catalog other.catalog ∧
        pairing.same id twin ∧ Counterpart pairing frames result.2 resultToo.2 result.1 resultToo.1)
      ((compile one.catalog id).run left) ((compile other.catalog twin).run right) := by
  have nearToo : pairing.flip.Near twin id := Pairing.near_flip.mpr near
  rcases compile_outcome one.catalog id together.side.sound with ⟨place, after, ran, clean⟩ | ⟨reason, ran, unclean⟩
  · rcases compile_outcome other.catalog twin together.sideToo.sound with
      ⟨placeToo, afterToo, ranToo, cleanToo⟩ | ⟨_, _, uncleanToo⟩
    · have same := mates.same_of_clean near clean
      obtain ⟨side, placed, fills⟩ := together.side.compile ran
      obtain ⟨sideToo, placedToo, fillsToo⟩ := together.sideToo.compile ranToo
      have kept {place other : Nat} (counterpart : Counterpart pairing frames left right place other) :
          Counterpart pairing frames after afterToo place other :=
        counterpart.mono fills.kept fillsToo.kept (List.Subset.refl _)
      rw [ran, ranToo]
      refine .answered ⟨⟨side, sideToo, fun id place slotted => ?_, fun twin place slotted => ?_,
        fun frame member => ?_⟩,
        same, .schema same placed placedToo⟩
      · exact mates.twin_placed near clean together.twin fills fillsToo.kept sideToo.sound placedToo slotted
      · have twins twin place (slotted : right.Slot twin place) :
            ∃ id place, pairing.flip.same twin id ∧ left.Slot id place := together.twinToo twin place slotted
        exact mates.flip.twin_placed nearToo cleanToo twins fillsToo fills.kept side.sound placed slotted
      · have inside := together.frame_inside member
        rw [fills.old _ inside.1.inside, fillsToo.old _ inside.2.inside]
        exact (together.alike frame member).imp fun _ _ => kept
    · exact absurd (mates.clean near clean).2 uncleanToo
  · rcases compile_outcome other.catalog twin together.sideToo.sound with
      ⟨_, _, _, cleanToo⟩ | ⟨reasonToo, ranToo, _⟩
    · exact absurd (mates.flip.clean nearToo cleanToo).2 unclean
    · rw [ran, ranToo]
      exact .failed

end Draft.Mates

namespace Assembly

open Schema Validator

/-- Two message validators part way that know the same, where the clauses of their slots correspond. -/
structure Alike (frames : List (Nat × Nat)) (assembly twin : Assembly) : Prop where
  slots : List.Forall₂ (fun entry other => entry.1 = other.1 ∧ (entry.2, other.2) ∈ frames) assembly.slots twin.slots
  coercions : assembly.coercions = twin.coercions
  optionalBody : assembly.optionalBody = twin.optionalBody
  hasBodySchema : assembly.hasBodySchema = twin.hasBodySchema

/-- Two runs stand at the same point of a message. -/
structure Abreast (pairing : Pairing) (one other : Catalog) (frames : List (Nat × Nat))
    (result twin : Assembly × Arena) :
    Prop where
  together : Together pairing frames result.2 twin.2 one other
  alike : Alike frames result.1 twin.1

variable {pairing : Pairing} {one other : Draft} {frames : List (Nat × Nat)} {left right : Arena}
  {assembly twin : Assembly}
  {root rootToo : Nat}

theorem Alike.widen {more : List (Nat × Nat)} (alike : Alike frames assembly twin) (known : frames ⊆ more) :
    Alike more assembly twin :=
  { alike with slots := alike.slots.imp fun _ _ both => ⟨both.1, known both.2⟩ }

theorem Alike.enter {place placeToo : Nat} (alike : Alike frames assembly twin) (name : String)
    (member : (place, placeToo) ∈ frames) :
    Alike frames { assembly with slots := Assoc.insert assembly.slots name place }
      { twin with slots := Assoc.insert twin.slots name placeToo } :=
  { alike with
    slots := @Assoc.insert_tables _ _ (fun place other => (place, other) ∈ frames) _ _ alike.slots name _ _ member }

theorem Alike.coerce (alike : Alike frames assembly twin) (slot name : String) (coercion : Option Coercion) :
    Alike frames (assembly.addCoercion slot name coercion) (twin.addCoercion slot name coercion) := by
  cases coercion with
  | none => exact alike
  | some coercion =>
      refine ⟨alike.slots, ?_, alike.optionalBody, alike.hasBodySchema⟩
      unfold addCoercion
      dsimp only
      rw [alike.coercions]

/-- Two runs look up a slot: where there was none yet, both made one. -/
structure SlottedAlike (pairing : Pairing) (one other : Catalog) (frames : List (Nat × Nat)) (left right : Arena)
    (result twin : (Nat × Assembly) × Arena) : Prop where
  known : ∃ more, frames ⊆ more ∧ (result.1.1, twin.1.1) ∈ more ∧
    Abreast pairing one other more (result.1.2, result.2) (twin.1.2, twin.2)
  kept : left.slots ⊆ result.2.slots
  keptToo : right.slots ⊆ twin.2.slots

theorem slot_abreast (abreast : Abreast pairing one.catalog other.catalog frames (assembly, left) (twin, right))
    (among : (root, rootToo) ∈ frames) (source : SourceLocation) (name : String) :
    Outcomes (SlottedAlike pairing one.catalog other.catalog frames left right)
      ((assembly.slot source root name).run left)
      ((twin.slot source rootToo name).run right) := by
  have found : Option.Rel (fun place other => (place, other) ∈ frames) (Assoc.find? assembly.slots name)
      (Assoc.find? twin.slots name) := find?_alike abreast.alike.slots name
  unfold slot
  rcases found.none_or_some with ⟨none, noneToo⟩ | ⟨place, placeToo, some, someToo, member⟩
  · rw [none, noneToo]
    have declared := (abreast.together.push source).declare (List.mem_cons_of_mem _ among) (.frame List.mem_cons_self)
      name false
    have alike := abreast.alike.widen (List.subset_cons_self (left.clauses.size, right.clauses.size) frames)
    exact .answered ⟨⟨_, List.subset_cons_self _ _, List.mem_cons_self, declared, alike.enter name List.mem_cons_self⟩,
      List.Subset.refl _, List.Subset.refl _⟩
  · rw [some, someToo]
    exact .answered ⟨⟨frames, List.Subset.refl _, member, abreast⟩, List.Subset.refl _, List.Subset.refl _⟩

variable (mates : Draft.Mates pairing one other)

include mates

theorem addParameter_abreast {parameter parameterToo : Parameter} (alike : parameter.Alike pairing.Near parameterToo)
    (abreast : Abreast pairing one.catalog other.catalog frames (assembly, left) (twin, right))
    (among : (root, rootToo) ∈ frames) (source : SourceLocation) :
    Outcomes (fun result resultToo => ∃ frames, (root, rootToo) ∈ frames ∧
        Abreast pairing one.catalog other.catalog frames result resultToo)
      ((addParameter one.catalog source root assembly parameter).run left)
      ((addParameter other.catalog source rootToo twin parameterToo).run right) := by
  have place := alike.same Parameter.place fun _ _ => rfl
  have name := alike.same Parameter.name fun _ _ => rfl
  have required := alike.same Parameter.required fun _ _ => rfl
  have coercion := alike.same Parameter.coercion fun _ _ => rfl
  unfold addParameter
  rw [StateT.run_bind, StateT.run_bind, place, name, required, coercion]
  refine (mates.compile abreast.together alike.schema.near).bind fun compiled compiledToo both => ?_
  obtain ⟨child, arena⟩ := compiled
  obtain ⟨childToo, arenaToo⟩ := compiledToo
  obtain ⟨together, _, children⟩ := both
  dsimp only at together children ⊢
  by_cases body : parameterToo.place = .body
  · rw [if_pos body, if_pos body]
    refine .answered ⟨frames, among, together.declare among children _ _, ?_⟩
    exact ⟨abreast.alike.slots, abreast.alike.coercions, rfl, rfl⟩
  · rw [if_neg body, if_neg body, StateT.run_bind, StateT.run_bind]
    refine (slot_abreast ⟨together, abreast.alike⟩ among source _).bind fun slotted slottedToo both => ?_
    obtain ⟨⟨place, next⟩, arena⟩ := slotted
    obtain ⟨⟨placeToo, nextToo⟩, arenaToo⟩ := slottedToo
    obtain ⟨⟨more, known, member, abreast⟩, kept, keptToo⟩ := both
    have declared := abreast.together.declare member (children.mono kept keptToo known)
      (if parameterToo.place = .header then Unicode.lower parameterToo.name else parameterToo.name)
        parameterToo.required
    by_cases form : parameterToo.place = .formData
    · simp only [if_pos form]
      exact .answered ⟨more, known among, declared, abreast.alike⟩
    · simp only [if_neg form]
      exact .answered ⟨more, known among, declared, abreast.alike.coerce _ _ _⟩

theorem addResponseBody_abreast {schema schemaToo : Option Edge}
    (alike : Option.Rel (Edge.Alike pairing.Near) schema schemaToo)
    (abreast : Abreast pairing one.catalog other.catalog frames (assembly, left) (twin, right))
    (among : (root, rootToo) ∈ frames) :
    Outcomes (Abreast pairing one.catalog other.catalog frames)
      ((addResponseBody one.catalog root assembly schema).run left)
      ((addResponseBody other.catalog rootToo twin schemaToo).run right) := by
  cases alike with
  | none => exact .answered abreast
  | @some edge edgeToo both =>
      unfold addResponseBody
      dsimp only
      rw [StateT.run_bind, StateT.run_bind]
      refine (mates.compile abreast.together both.near).bind fun compiled compiledToo both => ?_
      obtain ⟨together, same, children⟩ := both
      have typeName := (mates.nodes _ _ same).same Node.typeName fun _ => rfl
      rw [show (one.catalog.graph.node edge.target).typeName = (other.catalog.graph.node edgeToo.target).typeName from
        typeName]
      refine .answered ⟨together.declare among children _ _, ?_⟩
      exact ⟨abreast.alike.slots, abreast.alike.coercions, abreast.alike.optionalBody, rfl⟩

theorem addResponseHeader_abreast {header headerToo : String × Edge} (name : header.1 = headerToo.1)
    (alike : header.2.Alike pairing.Near headerToo.2) {slot slotToo : Nat} {result resultToo : Assembly × Arena}
    (abreast : Abreast pairing one.catalog other.catalog frames result resultToo) (among : (slot, slotToo) ∈ frames) :
    Outcomes (Abreast pairing one.catalog other.catalog frames)
      ((addResponseHeader one.catalog slot result.1 header).run result.2)
      ((addResponseHeader other.catalog slotToo resultToo.1 headerToo).run resultToo.2) := by
  obtain ⟨_, edge⟩ := header
  obtain ⟨_, edgeToo⟩ := headerToo
  cases name
  unfold addResponseHeader
  dsimp only
  rw [StateT.run_bind, StateT.run_bind]
  refine (mates.compile abreast.together alike.near).bind fun compiled compiledToo both => ?_
  obtain ⟨together, same, children⟩ := both
  have typeName := (mates.nodes _ _ same).same Node.typeName fun _ => rfl
  rw [show (one.catalog.graph.node edge.target).typeName = (other.catalog.graph.node edgeToo.target).typeName from
    typeName]
  exact .answered ⟨together.declare among children _ _, abreast.alike.coerce _ _ _⟩

theorem addResponse_abreast {response responseToo : Response} (alike : response.Alike pairing.Near responseToo)
    (together : Together pairing frames left right one.catalog other.catalog) (among : (root, rootToo) ∈ frames)
    (source : SourceLocation) :
    Outcomes (fun result resultToo => ∃ frames, (root, rootToo) ∈ frames ∧
        Abreast pairing one.catalog other.catalog frames result resultToo)
      ((addResponse one.catalog response source root).run left)
        ((addResponse other.catalog responseToo source rootToo).run right) := by
  have empty : response.headers.isEmpty = responseToo.headers.isEmpty := by
    rw [Bool.eq_iff_iff, List.isEmpty_iff_length_eq_zero, List.isEmpty_iff_length_eq_zero, alike.headers.length_eq]
  have start : Abreast pairing one.catalog other.catalog frames ({}, left) ({}, right) :=
    ⟨together, .nil, rfl, rfl, rfl⟩
  unfold addResponse
  rw [StateT.run_bind, StateT.run_bind, empty]
  refine (addResponseBody_abreast mates alike.schema start among).bind fun result resultToo abreast => ?_
  by_cases none : responseToo.headers.isEmpty = true
  · rw [if_pos none, if_pos none]
    exact .answered ⟨frames, among, abreast⟩
  · rw [if_neg none, if_neg none]
    have declared := (abreast.together.push source).declare (List.mem_cons_of_mem _ among) (.frame List.mem_cons_self)
      "headers" false
    have slotted := abreast.alike.widen (List.subset_cons_self (result.2.clauses.size, resultToo.2.clauses.size) frames)
    have opened : Abreast pairing one.catalog other.catalog _ (result.1, _) (resultToo.1, _) := ⟨declared, slotted⟩
    refine Outcomes.imp (Outcomes.foldlM alike.headers ?_ opened) fun _ _ abreast =>
      ⟨_, List.mem_cons_of_mem _ among, abreast⟩
    exact fun header headerToo both result resultToo abreast =>
      addResponseHeader_abreast mates both.1 both.2 abreast List.mem_cons_self

end Assembly

/-! ## What the tables say -/

namespace Validator

open Schema (Catalog Pairing)

theorem Depicts.counterpart {pairing : Pairing} {slot slotToo rel : Nat → Nat → Prop} {node twin : Schema.Node}
    {clause clauseToo : Clause} (alike : node.Alike pairing twin) (depicts : Depicts slot node clause)
    (depictsToo : Depicts slotToo twin clauseToo)
    (joins : ∀ id twin place other, pairing.Near id twin → slot id place → slotToo twin other → rel place other) :
    Clause.Alike rel clause clauseToo where
  bare := by
    have same := alike.same bareOf fun _ => rfl
    exact Except.ok.inj (depicts.bare.symm.trans (same.trans depictsToo.bare))
  properties := alike.outline.properties.square (fun _ _ _ _ tables entries entriesToo =>
      tables.square (fun _ _ _ _ both entry entryToo =>
        ⟨entry.1.symm.trans (both.1.trans entryToo.1), joins _ _ _ _ both.2.near entry.2 entryToo.2⟩)
          entries entriesToo)
    depicts.properties depictsToo.properties
  undeclared := (Schema.additional_of_outline alike.outline.additional).square (fun _ _ _ _ both said saidToo => by
      cases both with
      | allowed flag =>
          cases said
          cases saidToo
          exact .allowed flag
      | schema edges =>
          rcases said with _ | ⟨placed⟩
          rcases saidToo with _ | ⟨placedToo⟩
          exact .clause (joins _ _ _ _ edges.near placed placedToo))
    depicts.undeclared depictsToo.undeclared
  items := alike.outline.items.square (fun _ _ _ _ edges => joins _ _ _ _ edges.near) depicts.items depictsToo.items
  allOf := alike.outline.allOf.getD_nil.square (fun _ _ _ _ edges => joins _ _ _ _ edges.near) depicts.allOf
    depictsToo.allOf
  anyOf := alike.outline.anyOf.getD_nil.square (fun _ _ _ _ edges => joins _ _ _ _ edges.near) depicts.anyOf
    depictsToo.anyOf
  oneOf := alike.outline.oneOf.getD_nil.square (fun _ _ _ _ edges => joins _ _ _ _ edges.near) depicts.oneOf
    depictsToo.oneOf
  dispatch := alike.routing?.square (fun _ _ _ _ maps routes routesToo =>
      ⟨routes.1.symm.trans (maps.1.trans routesToo.1), fun tag =>
        (maps.2.leads tag).square (fun _ _ _ _ targets leads leadsToo =>
            targets.square (fun id twin _ _ same => joins id twin _ _ (.inl same)) leads leadsToo)
          (find?_alike routes.2 tag) (find?_alike routesToo.2 tag)⟩)
    depicts.dispatch depictsToo.dispatch

theorem Renames.evaluateWithin {rel : Nat → Nat → Prop} {left right : Array Clause} (renames : Renames rel left right)
    {root rootToo : Nat} (related : rel root rootToo) (fuel : Nat) (direction : Direction) (value : Json.Value) :
    evaluateWithin { clauses := left, root } fuel direction value =
      evaluateWithin { clauses := right, root := rootToo } fuel direction value := by
  refine Option.ext fun failures => ?_
  rw [evaluateWithin_eq_some, evaluateWithin_eq_some]
  constructor
  · rintro ⟨after, ran⟩
    exact visit_start renames related ran
  · rintro ⟨after, ran⟩
    exact visit_start renames.flip related ran

namespace Together

variable {pairing : Pairing} {one other : Draft} {frames : List (Nat × Nat)} {left right : Arena}
  (together : Together pairing frames left right one.catalog other.catalog)

include together

theorem renames (mates : Draft.Mates pairing one other) :
    Renames (Counterpart pairing frames left right) left.clauses right.clauses where
  alike counterpart := by
    cases counterpart with
    | frame member => exact together.alike _ member
    | schema same placed placedToo =>
        refine (together.side.sound.depicts _ _ placed List.not_mem_nil).counterpart (mates.nodes _ _ same)
          (together.sideToo.sound.depicts _ _ placedToo List.not_mem_nil)
            fun id twin place other near slotted slottedToo => ?_
        exact .schema (mates.same_of_clean near (together.side.sound.clean slotted)) slotted slottedToo
  forward counterpart counterpartToo := by
    rcases counterpart with ⟨same, placed, placedToo⟩ | member
    · rcases counterpartToo with ⟨again, placedAgain, placedLast⟩ | member
      · cases together.side.sound.id_inj placed placedAgain
        cases mates.sound.forward _ _ _ same again
        exact together.sideToo.sound.place_inj placedToo placedLast
      · exact absurd placed ((together.frame_inside member).1.unplaced _)
    · rcases counterpartToo with ⟨_, placed, _⟩ | memberToo
      · exact absurd placed ((together.frame_inside member).1.unplaced _)
      · exact congrArg Prod.snd (List.inj_on_of_nodup_map together.side.distinct member memberToo rfl)
  backward counterpart counterpartToo := by
    rcases counterpart with ⟨same, placed, placedToo⟩ | member
    · rcases counterpartToo with ⟨again, placedAgain, placedLast⟩ | member
      · cases together.sideToo.sound.id_inj placedToo placedLast
        cases mates.sound.backward _ _ _ same again
        exact together.side.sound.place_inj placed placedAgain
      · exact absurd placedToo ((together.frame_inside member).2.unplaced _)
    · rcases counterpartToo with ⟨_, _, placed⟩ | memberToo
      · exact absurd placed ((together.frame_inside member).2.unplaced _)
      · exact congrArg Prod.fst (List.inj_on_of_nodup_map together.sideToo.distinct member memberToo rfl)

theorem size_eq (mates : Draft.Mates pairing one other) : left.clauses.size = right.clauses.size := by
  have renames := together.renames mates
  have total : ∀ place < left.clauses.size, ∃ twin < right.clauses.size,
      Counterpart pairing frames left right place twin := by
    intro place inside
    rcases together.side.total place inside with ⟨id, placed⟩ | member
    · obtain ⟨twin, placeToo, same, placedToo⟩ := together.twin id place placed
      exact ⟨placeToo, together.sideToo.sound.place_lt_size placedToo, .schema same placed placedToo⟩
    · obtain ⟨⟨_, placeToo⟩, among, rfl⟩ := List.mem_map.mp member
      exact ⟨placeToo, (together.frame_inside among).2.inside, .frame among⟩
  have totalToo : ∀ twin < right.clauses.size, ∃ place < left.clauses.size,
      Counterpart pairing frames left right place twin := by
    intro twin inside
    rcases together.sideToo.total twin inside with ⟨id, placed⟩ | member
    · obtain ⟨origin, place, same, placedBack⟩ := together.twinToo id twin placed
      exact ⟨place, together.side.sound.place_lt_size placedBack, .schema same placedBack placed⟩
    · obtain ⟨⟨place, _⟩, among, rfl⟩ := List.mem_map.mp member
      exact ⟨place, (together.frame_inside among).1.inside, .frame among⟩
  exact Nat.le_antisymm (le_of_counterparts total fun _ _ _ => renames.backward)
    (le_of_counterparts totalToo fun _ _ _ => renames.forward)

theorem evaluate (mates : Draft.Mates pairing one other) {root rootToo : Nat} (among : (root, rootToo) ∈ frames)
    (direction : Direction) (value : Json.Value) :
    Validator.evaluate { clauses := left.clauses, root } direction value =
      Validator.evaluate { clauses := right.clauses, root := rootToo } direction value := by
  unfold Validator.evaluate
  rw [(together.renames mates).evaluateWithin (.frame among)]
  unfold fuelFor Validator.size
  rw [together.size_eq mates]

end Together

end Validator

namespace MessageValidator

open Schema Validator

/-- Two validators of messages that say the same. -/
structure Agrees (message twin : MessageValidator) : Prop where
  key : message.key = twin.key
  mediaTypes : message.mediaTypes = twin.mediaTypes
  coercions : message.coercions = twin.coercions
  optionalBody : message.optionalBody = twin.optionalBody
  hasBodySchema : message.hasBodySchema = twin.hasBodySchema
  evaluate : message.validator.evaluate = twin.validator.evaluate

theorem finish_eq (key : String) (mediaTypes : List String) (assemble : SourceLocation → Nat → Compiling Assembly) :
    Assembly.finish key mediaTypes assemble =
      (assemble (Assembly.sourceOf key) 0).run { clauses := #[Clause.object (Assembly.sourceOf key)] } >>= fun result =>
        .ok (result.1.toMessage result.2 key mediaTypes) := by
  have pushed : (Arena.push (Clause.object (Assembly.sourceOf key))).run {} =
      .ok (0, { clauses := #[Clause.object (Assembly.sourceOf key)] }) := rfl
  unfold Assembly.finish
  dsimp only
  rw [StateT.run_bind, pushed]
  change (StateT.run (assemble _ 0 >>= fun assembly => pure (0, assembly)) _ >>= _) = _
  rw [StateT.run_bind]
  cases (assemble (Assembly.sourceOf key) 0).run { clauses := #[Clause.object (Assembly.sourceOf key)] } <;> rfl

variable {pairing : Pairing} {one other : Draft} (mates : Draft.Mates pairing one other)

include mates

theorem finish_agrees {assemble assembleToo : SourceLocation → Nat → Compiling Assembly} (key : String)
    (mediaTypes : List String)
    (outcomes : ∀ source left right, Together pairing [(0, 0)] left right one.catalog other.catalog →
      Outcomes (fun result resultToo => ∃ frames, (0, 0) ∈ frames ∧
          Assembly.Abreast pairing one.catalog other.catalog frames result resultToo)
        ((assemble source 0).run left) ((assembleToo source 0).run right)) :
    Outcomes Agrees (Assembly.finish key mediaTypes assemble) (Assembly.finish key mediaTypes assembleToo) := by
  have nothing (catalog : Catalog) : Side catalog [] {} :=
    ⟨.empty catalog [], fun _ none => absurd none List.not_mem_nil, .nil, fun _ inside =>
      absurd inside (Nat.not_lt_zero _)⟩
  have start : Together pairing [] {} {} one.catalog other.catalog :=
    ⟨nothing _, nothing _, fun _ _ none => absurd none List.not_mem_nil, fun _ _ none => absurd none List.not_mem_nil,
      fun _ none => absurd none List.not_mem_nil⟩
  rw [finish_eq, finish_eq]
  refine (outcomes _ _ _ (start.push (Assembly.sourceOf key))).bind fun result twin ⟨frames, among, abreast⟩ => ?_
  refine .answered ⟨rfl, rfl, abreast.alike.coercions, abreast.alike.optionalBody, abreast.alike.hasBodySchema, ?_⟩
  funext direction value
  exact abreast.together.evaluate mates among direction value

/-- From paired drafts the same validators of requests compile, and they say the same. -/
theorem ofOperation_agrees {operation twin : Operation} (alike : operation.Alike pairing.Near twin)
    (skipTrivial : Bool) :
    Outcomes Agrees (ofOperation one.catalog skipTrivial operation) (ofOperation other.catalog skipTrivial twin) := by
  unfold ofOperation
  rw [alike.same Operation.errors fun _ _ _ => rfl, alike.same Operation.key fun _ _ _ => rfl,
    alike.same Operation.consumes fun _ _ _ => rfl]
  rcases twin.errors with _ | ⟨error, _⟩
  · have checked : List.Forall₂ (Parameter.Alike pairing.Near)
        (operation.parameters.filter fun parameter => !(parameter.trivial && skipTrivial))
        (twin.parameters.filter fun parameter => !(parameter.trivial && skipTrivial)) := by
      refine List.rel_filter (fun parameter parameterToo both => ?_) alike.parameters
      dsimp only
      rw [both.same Parameter.trivial fun _ _ => rfl]
    refine finish_agrees mates _ _ fun source left right together => ?_
    have start : ∃ frames, (0, 0) ∈ frames ∧
        Assembly.Abreast pairing one.catalog other.catalog frames ({}, left) ({}, right) :=
      ⟨_, List.mem_cons_self, together, .nil, rfl, rfl, rfl⟩
    refine Outcomes.foldlM checked ?_ start
    rintro parameter parameterToo both result resultToo ⟨frames, among, abreast⟩
    exact Assembly.addParameter_abreast mates both abreast among source
  · exact .failed

/-- From paired drafts the same validators of responses compile, and they say the same. -/
theorem ofResponse_agrees {operation operationToo : Operation} {response twin : Response}
    (produces : operation.produces = operationToo.produces) (alike : response.Alike pairing.Near twin) :
    Outcomes Agrees (ofResponse one.catalog operation response) (ofResponse other.catalog operationToo twin) := by
  have key := alike.same Response.key fun _ _ _ => rfl
  unfold ofResponse
  rw [key, produces]
  exact finish_agrees mates _ _ fun source left right together =>
    Assembly.addResponse_abreast mates alike together List.mem_cons_self source

end MessageValidator

end ApiContract
