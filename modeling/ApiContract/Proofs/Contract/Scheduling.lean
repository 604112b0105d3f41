import Mathlib.Data.Fintype.EquivFin
import Mathlib.Data.List.Nodup
import Mathlib.Data.Set.Finite.Basic
import Mathlib.Logic.Relation
import ApiContract.Proofs.Pass.Stages

/-!
The order of passes is exact (`ofPasses_exact`): of all orders that respect the constraints it is the first one by
registration, and where there is none, the passes that are named are those that a cycle holds up.
-/

namespace ApiContract

open Relation

/-- Where every item of a list has another one before it, each is reached from a cycle. -/
theorem exists_cycle_before {α : Type} {edge : α → α → Prop} {items : List α}
    (fed : ∀ item ∈ items, ∃ before ∈ items, edge before item) {item : α} (member : item ∈ items) :
    ∃ start, TransGen edge start start ∧ ReflTransGen edge start item := by
  have fedInside (current : {item // item ∈ items}) : ∃ before : {item // item ∈ items}, edge before.1 current.1 := by
    obtain ⟨before, among, leads⟩ := fed current.1 current.2
    exact ⟨⟨before, among⟩, leads⟩
  choose step leads using fedInside
  have walks (current : {item // item ∈ items}) (count : Nat) :
      ReflTransGen edge (step^[count] current).1 current.1 := by
    induction count with
    | zero => exact .refl
    | succ count ih =>
        rw [Function.iterate_succ_apply']
        exact .head (leads _) ih
  have finite : Finite {item // item ∈ items} := (List.finite_toSet items).to_subtype
  -- going back for ever, some item is met twice
  obtain ⟨first, second, same, different⟩ :=
    Function.not_injective_iff.mp (not_injective_infinite_finite fun count => step^[count] ⟨item, member⟩)
  wlog earlier : first < second generalizing first second
  · exact this second first same.symm different.symm (by omega)
  obtain ⟨more, rfl⟩ := Nat.exists_eq_add_of_lt earlier
  generalize met : step^[first] ⟨item, member⟩ = current at same
  have around : step (step^[more] current) = current := by
    have split : more + 1 + first = first + more + 1 := by omega
    calc step (step^[more] current) = step^[more + 1] current := (Function.iterate_succ_apply' step more current).symm
      _ = step^[more + 1 + first] ⟨item, member⟩ := by rw [Function.iterate_add_apply (m := more + 1), met]
      _ = current := by rw [split, same]
  have cycle : TransGen edge current.1 current.1 := by
    have back := TransGen.head' (leads (step^[more] current)) (walks current more)
    rwa [around] at back
  have reached := walks ⟨item, member⟩ first
  rw [met] at reached
  exact ⟨current.1, cycle, reached⟩

namespace Schedule

/-! ## Constraints -/

/-- The passes of a scope, in the order of their registration. -/
def members (scope : Scope) (passes : List Pass) : List Pass := passes.filter (·.scope == scope)

/-- One pass of a list has to come before another one, as either of them asks. -/
def Constrains (members : List Pass) (first second : Pass) : Prop :=
  first ∈ members ∧ second ∈ members ∧ (second.name ∈ first.before ∨ first.name ∈ second.after)

def Cyclic (members : List Pass) : Prop := ∃ pass, TransGen (Constrains members) pass pass

/-- A pass lies on a cycle of constraints, or a cycle leads to it. -/
def Blocked (members : List Pass) (pass : Pass) : Prop :=
  ∃ start, TransGen (Constrains members) start start ∧ ReflTransGen (Constrains members) start pass

/-- An order of all passes of a list in which every constraint holds. -/
structure Respects (members order : List Pass) : Prop where
  perm : order.Perm members
  constraints : ∀ (first second : Nat) (insideFirst : first < order.length) (insideSecond : second < order.length),
    Constrains members order[first] order[second] → first < second

/-- The place of a pass in the order of registration. -/
def registration (passes : List Pass) (pass : Pass) : Nat := (passes.map (·.name)).idxOf pass.name

/-- Of all orders that respect the constraints, the first one by registration. -/
structure Least (passes members order : List Pass) : Prop where
  respects : Respects members order
  least : ∀ other, Respects members other → other = order ∨
    List.Lex (· < ·) (order.map (registration passes)) (other.map (registration passes))

/-- The passes of a scope, as they are scheduled. -/
def order (schedule : Schedule) : Scope → List Pass
  | .document => schedule.document
  | .global => schedule.global

def FirstRepeated (names : List String) (name : String) : Prop :=
  ∃ before after, names = before ++ name :: after ∧ before.Nodup ∧ name ∈ before

variable {passes members remaining order stuck : List Pass} {pass first second next : Pass} {scope : Scope}

theorem constrains_iff : Constrains members first second ↔
    first ∈ members ∧ second ∈ members ∧ first.precedes second = true := by
  simp [Constrains, Pass.precedes]

theorem waits_eq_true : waits remaining pass = true ↔ ∃ other ∈ remaining, other.precedes pass = true := by
  simp [waits]

theorem mem_of_blocked (blocked : Blocked members pass) : pass ∈ members := by
  obtain ⟨start, cycle, leads⟩ := blocked
  rcases ReflTransGen.cases_tail leads with rfl | ⟨_, _, constrains⟩
  · obtain ⟨_, _, constrains⟩ := TransGen.tail'_iff.mp cycle
    exact constrains.2.1
  · exact constrains.2.1

theorem members_sublist (scope : Scope) (passes : List Pass) : (Schedule.members scope passes).Sublist passes :=
  List.filter_sublist

/-! ## Taking passes that wait for no other -/

/-- How passes are taken one after the other, each the first that waits for none, until all that remain wait. -/
inductive Drains : List Pass → List Pass → List Pass → Prop
  | stuck {remaining : List Pass} : (∀ pass ∈ remaining, waits remaining pass = true) → Drains remaining [] remaining
  | take {earlier : List Pass} {next : Pass} {later order stuck : List Pass} :
      (∀ pass ∈ earlier, waits (earlier ++ next :: later) pass = true) →
      waits (earlier ++ next :: later) next = false → Drains (earlier ++ later) order stuck →
      Drains (earlier ++ next :: later) (next :: order) stuck

theorem drain_drains (fuel : Nat) (distinct : (remaining.map (·.name)).Nodup) (enough : remaining.length ≤ fuel) :
    Drains remaining (drain fuel remaining).1 (drain fuel remaining).2 := by
  induction fuel generalizing remaining with
  | zero =>
      obtain rfl := List.length_eq_zero_iff.mp (Nat.le_zero.mp enough)
      exact .stuck (by simp)
  | succ fuel ih =>
      rw [drain]
      cases found : remaining.find? fun pass => !waits remaining pass with
      | none => exact .stuck (by simpa using found)
      | some next =>
          obtain ⟨ready, earlier, later, rfl, waiting⟩ := List.find?_eq_some_iff_append.mp found
          have apart : ∀ pass ∈ earlier, pass.name ≠ next.name := by
            rw [List.map_append, List.map_cons, List.nodup_middle, List.nodup_cons, ← List.map_append] at distinct
            intro pass member same
            exact distinct.1 (same ▸ List.mem_map_of_mem (List.mem_append_left later member))
          have erased : (earlier ++ next :: later).eraseP (·.name == next.name) = earlier ++ later := by
            rw [List.eraseP_append_right _ (by simpa using apart), List.eraseP_cons_of_pos (by simp)]
          have shorter : (earlier ++ later).length ≤ fuel := by
            simp only [List.length_append, List.length_cons] at enough ⊢
            omega
          rw [List.map_append, List.map_cons, List.nodup_middle, List.nodup_cons, ← List.map_append] at distinct
          have rest := ih distinct.2 shorter
          simp only [erased]
          exact .take (by simpa using waiting) (by simpa using ready) rest

namespace Drains

theorem perm (drains : Drains remaining order stuck) : (order ++ stuck).Perm remaining := by
  induction drains with
  | stuck => exact .refl _
  | take _ _ _ ih => exact (ih.cons _).trans List.perm_middle.symm

theorem sublist (drains : Drains remaining order stuck) : stuck.Sublist remaining := by
  induction drains with
  | stuck => exact .refl _
  | take _ _ _ ih => exact ih.trans ((List.sublist_cons_self _ _).append_left _)

theorem waiting (drains : Drains remaining order stuck) : ∀ pass ∈ stuck, waits stuck pass = true := by
  induction drains with
  | stuck waiting => exact waiting
  | take _ _ _ ih => exact ih

/-- What has to come before a pass that was taken was taken before it. -/
theorem taken_before (drains : Drains remaining order stuck) {position : Nat} (inside : position < order.length)
    (member : first ∈ remaining) (precedes : first.precedes order[position] = true) :
    ∃ earlier, ∃ (_ : earlier < position), order[earlier] = first := by
  induction drains generalizing position with
  | stuck => cases inside
  | @take before next later order stuck _ ready _ ih =>
      cases position with
      | zero =>
          have waits : waits (before ++ next :: later) next = true := waits_eq_true.mpr ⟨first, member, precedes⟩
          cases ready.symm.trans waits
      | succ position =>
          rcases List.mem_cons.mp (List.perm_middle.mem_iff.mp member) with rfl | rest
          · exact ⟨0, Nat.succ_pos _, rfl⟩
          · obtain ⟨earlier, below, found⟩ := ih (Nat.lt_of_succ_lt_succ inside) rest precedes
            exact ⟨earlier + 1, Nat.succ_lt_succ below, found⟩

theorem not_blocked (drains : Drains remaining order stuck) (distinct : remaining.Nodup) {position : Nat}
    (inside : position < order.length) : ¬Blocked remaining order[position] := by
  have apart : order.Nodup := (List.nodup_append.mp (drains.perm.nodup_iff.mpr distinct)).1
  have back {start pass : Pass} (leads : ReflTransGen (Constrains remaining) start pass) :
      ∀ (position : Nat) (inside : position < order.length), order[position] = pass →
        ∃ earlier, ∃ (_ : earlier ≤ position), order[earlier] = start := by
    induction leads with
    | refl => exact fun position inside found => ⟨position, Nat.le_refl _, found⟩
    | tail _ constrains ih =>
        rintro position inside rfl
        obtain ⟨member, _, precedes⟩ := constrains_iff.mp constrains
        obtain ⟨middle, below, found⟩ := drains.taken_before inside member precedes
        obtain ⟨earlier, notAfter, start⟩ := ih middle (by omega) found
        exact ⟨earlier, by omega, start⟩
  rintro ⟨start, cycle, leads⟩
  obtain ⟨place, notAfter, found⟩ := back leads position inside rfl
  -- once around the cycle the same pass is found at an earlier place
  obtain ⟨last, around, constrains⟩ := TransGen.tail'_iff.mp cycle
  obtain ⟨member, _, precedes⟩ := constrains_iff.mp constrains
  rw [← found] at precedes
  obtain ⟨middle, below, foundLast⟩ := drains.taken_before (by omega) member precedes
  obtain ⟨earlier, notAfterMiddle, again⟩ := back around middle (by omega) foundLast
  have same := (List.Nodup.getElem_inj_iff apart).mp (again.trans found.symm)
  omega

theorem blocked (drains : Drains remaining order stuck) (member : pass ∈ stuck) : Blocked remaining pass := by
  have fed : ∀ pass ∈ stuck, ∃ before ∈ stuck, Constrains remaining before pass := by
    intro pass member
    obtain ⟨other, among, precedes⟩ := waits_eq_true.mp (drains.waiting pass member)
    exact ⟨other, among, constrains_iff.mpr ⟨drains.sublist.subset among, drains.sublist.subset member, precedes⟩⟩
  exact exists_cycle_before fed member

theorem mem_stuck_iff (drains : Drains remaining order stuck) (distinct : remaining.Nodup) :
    pass ∈ stuck ↔ Blocked remaining pass := by
  constructor
  · exact drains.blocked
  · intro blocked
    have member := drains.perm.mem_iff.mpr (mem_of_blocked blocked)
    refine (List.mem_append.mp member).resolve_left fun taken => ?_
    obtain ⟨position, inside, rfl⟩ := List.getElem_of_mem taken
    exact drains.not_blocked distinct inside blocked

theorem respects (drains : Drains remaining order []) (distinct : remaining.Nodup) : Respects remaining order := by
  have perm : order.Perm remaining := by simpa using drains.perm
  refine ⟨perm, ?_⟩
  intro first second insideFirst insideSecond constrains
  obtain ⟨member, _, precedes⟩ := constrains_iff.mp constrains
  obtain ⟨earlier, below, found⟩ := drains.taken_before insideSecond member precedes
  have same := (List.Nodup.getElem_inj_iff (perm.nodup_iff.mpr distinct)).mp found
  omega

/-- A pass that some order puts first does not wait. -/
theorem not_waits_of_respects {rest : List Pass} (respects : Respects remaining (first :: rest)) :
    waits remaining first = false := by
  rw [Bool.eq_false_iff]
  intro waits
  obtain ⟨other, member, precedes⟩ := waits_eq_true.mp waits
  obtain ⟨position, inside, rfl⟩ := List.getElem_of_mem (respects.perm.mem_iff.mpr member)
  have memberFirst := respects.perm.mem_iff.mp List.mem_cons_self
  have below := respects.constraints position 0 inside (Nat.succ_pos _)
    (constrains_iff.mpr ⟨member, memberFirst, precedes⟩)
  exact Nat.not_lt_zero _ below

theorem respects_rest {rest smaller : List Pass} (respects : Respects remaining (first :: rest))
    (perm : (first :: smaller).Perm remaining) : Respects smaller rest := by
  refine ⟨(respects.perm.trans perm.symm).cons_inv, ?_⟩
  intro before after insideBefore insideAfter constrains
  obtain ⟨member, memberToo, precedes⟩ := constrains_iff.mp constrains
  have among {pass : Pass} (member : pass ∈ smaller) : pass ∈ remaining :=
    perm.mem_iff.mp (List.mem_cons_of_mem _ member)
  have below := respects.constraints (before + 1) (after + 1) (Nat.succ_lt_succ insideBefore)
    (Nat.succ_lt_succ insideAfter) (constrains_iff.mpr ⟨among member, among memberToo, precedes⟩)
  exact Nat.lt_of_succ_lt_succ below

/-- Among passes in the order of some numbers, the one that is taken next has the least number that an order can
start with. -/
theorem least (drains : Drains remaining order []) (number : Pass → Nat)
    (ascending : remaining.Pairwise fun first second => number first < number second) {other : List Pass}
    (respects : Respects remaining other) :
    other = order ∨ List.Lex (· < ·) (order.map number) (other.map number) := by
  generalize nothing : ([] : List Pass) = stuck at drains
  induction drains generalizing other with
  | stuck =>
      subst nothing
      exact .inl respects.perm.eq_nil
  | @take earlier next later order stuck waiting ready _ ih =>
      have perm : (next :: (earlier ++ later)).Perm (earlier ++ next :: later) := List.perm_middle.symm
      cases other with
      | nil => cases (respects.perm.symm.eq_nil : earlier ++ next :: later = []) ▸ perm.length_eq
      | cons first rest =>
          have sorted := List.pairwise_append.mp ascending
          have sortedLater := List.pairwise_cons.mp sorted.2.1
          have started := not_waits_of_respects respects
          rcases List.mem_append.mp (respects.perm.mem_iff.mp List.mem_cons_self) with early | late
          · cases started.symm.trans (waiting first early)
          · rcases List.mem_cons.mp late with rfl | after
            · have smaller : (earlier ++ later).Pairwise fun first second => number first < number second :=
                ascending.sublist ((List.sublist_cons_self _ _).append_left _)
              rcases ih smaller (respects_rest respects perm) nothing with rfl | less
              · exact .inl rfl
              · exact .inr (.cons less)
            · exact .inr (.rel (sortedLater.1 first after))

end Drains

/-! ## Schedules -/

theorem registration_ascending (distinct : (passes.map (·.name)).Nodup) :
    passes.Pairwise fun first second => registration passes first < registration passes second := by
  refine List.pairwise_iff_getElem.mpr ?_
  intro first second insideFirst insideSecond below
  have place (position : Nat) (inside : position < passes.length) :
      registration passes passes[position] = position := by
    have insideNames : position < (passes.map (·.name)).length := by simpa using inside
    have named : (passes.map (·.name))[position] = passes[position].name := by simp
    rw [registration, ← named]
    exact distinct.idxOf_getElem _ _
  rw [place, place]
  exact below

/-- A scope is in order once nothing is left of it. -/
theorem orderOf_of_drain {scope : Scope} {order stuck : List Pass}
    (drained : drain (Schedule.members scope passes).length (Schedule.members scope passes) = (order, stuck)) :
    orderOf scope passes =
      if stuck = [] then .ok order else .error (.dependencyCycle scope.text (stuck.map (·.name))) := by
  rw [Schedule.members] at drained
  rw [orderOf, drained]
  cases stuck <;> rfl

/-- A scope has the first order by registration, or the passes that a cycle holds up are named. -/
theorem orderOf_outcome (distinct : (passes.map (·.name)).Nodup) (scope : Scope) :
    (¬Cyclic (Schedule.members scope passes) ∧ ∃ order : List Pass, orderOf scope passes = .ok order ∧
        Least passes (Schedule.members scope passes) order) ∨
      Cyclic (Schedule.members scope passes) ∧ ∃ stuck : List Pass, stuck.Sublist (Schedule.members scope passes) ∧
        (∀ pass, pass ∈ stuck ↔ Blocked (Schedule.members scope passes) pass) ∧
        orderOf scope passes = .error (.dependencyCycle scope.text (stuck.map (·.name))) := by
  have sublist := members_sublist scope passes
  have distinctNames := (sublist.map (·.name)).nodup distinct
  have distinctMembers := distinctNames.of_map
  have drains := drain_drains _ distinctNames (Nat.le_refl _)
  rcases drained : drain (Schedule.members scope passes).length (Schedule.members scope passes) with ⟨order, stuck⟩
  rw [drained] at drains
  rw [orderOf_of_drain drained]
  have blocked (pass : Pass) : pass ∈ stuck ↔ Blocked (Schedule.members scope passes) pass :=
    drains.mem_stuck_iff distinctMembers
  cases stuck with
  | nil =>
      refine .inl ⟨?_, order, rfl, drains.respects distinctMembers, fun other respects => ?_⟩
      · rintro ⟨pass, cycle⟩
        exact List.not_mem_nil ((blocked pass).mpr ⟨pass, cycle, .refl⟩)
      · exact drains.least _ ((registration_ascending distinct).sublist sublist) respects
  | cons first rest =>
      obtain ⟨start, cycle, _⟩ := (blocked first).mp List.mem_cons_self
      exact .inr ⟨⟨start, cycle⟩, first :: rest, drains.sublist, blocked, rfl⟩

theorem firstRepeated?_eq_some (seen names : List String) (distinct : seen.Nodup) (name : String) :
    firstRepeated? seen names = some name ↔
      ∃ before after, names = before ++ name :: after ∧ (seen ++ before).Nodup ∧ name ∈ seen ++ before := by
  induction names generalizing seen with
  | nil => simp [firstRepeated?]
  | cons first rest ih =>
      rw [firstRepeated?]
      by_cases known : first ∈ seen
      · rw [if_pos (List.contains_iff_mem.mpr known), Option.some.injEq]
        constructor
        · rintro rfl
          exact ⟨[], rest, rfl, by simpa using distinct, by simpa using known⟩
        · rintro ⟨before, after, split, distinctToo, _⟩
          cases before with
          | nil => exact (List.cons.inj split).1
          | cons other before =>
              obtain ⟨rfl, _⟩ := List.cons.inj split
              exact absurd (List.mem_append_left _ known) (List.nodup_cons.mp (List.nodup_middle.mp distinctToo)).1
      · rw [if_neg (by simpa using known), ih (first :: seen) (List.nodup_cons.mpr ⟨known, distinct⟩)]
        constructor
        · rintro ⟨before, after, rfl, distinctToo, member⟩
          refine ⟨first :: before, after, rfl, List.nodup_middle.mpr distinctToo, ?_⟩
          exact List.perm_middle.mem_iff.mpr member
        · rintro ⟨before, after, split, distinctToo, member⟩
          cases before with
          | nil =>
              obtain ⟨rfl, _⟩ := List.cons.inj split
              exact absurd (by simpa using member) known
          | cons other before =>
              obtain ⟨rfl, rfl⟩ := List.cons.inj split
              exact ⟨before, after, rfl, List.nodup_middle.mp distinctToo, List.perm_middle.mem_iff.mp member⟩

theorem firstRepeated?_iff (names : List String) (name : String) :
    firstRepeated? [] names = some name ↔ FirstRepeated names name := by
  have repeats := firstRepeated?_eq_some [] names List.nodup_nil name
  simp only [List.nil_append] at repeats
  exact repeats

theorem exists_firstRepeated_iff (names : List String) : (∃ name, FirstRepeated names name) ↔ ¬names.Nodup := by
  constructor
  · rintro ⟨name, before, after, rfl, _, member⟩ distinct
    exact (List.nodup_cons.mp (List.nodup_middle.mp distinct)).1 (List.mem_append_left after member)
  · intro repeats
    induction names using List.reverseRecOn with
    | nil => exact absurd List.nodup_nil repeats
    | append_singleton names last ih =>
        by_cases distinct : names.Nodup
        · refine ⟨last, names, [], rfl, distinct, ?_⟩
          by_contra fresh
          exact repeats (List.nodup_append_comm.mp (List.nodup_cons.mpr ⟨fresh, distinct⟩))
        · obtain ⟨name, before, after, rfl, distinctBefore, member⟩ := ih distinct
          exact ⟨name, before, after ++ [last], by simp, distinctBefore, member⟩

theorem ofPasses_of_distinct (distinct : (passes.map (·.name)).Nodup) :
    ofPasses passes = orderOf .document passes >>= fun document =>
      orderOf .global passes >>= fun global => .ok { document, global } := by
  have unrepeated : firstRepeated? [] (passes.map (·.name)) = none := by
    refine Option.eq_none_iff_forall_ne_some.mpr fun name repeats => ?_
    exact (exists_firstRepeated_iff _).mp ⟨name, (firstRepeated?_iff _ _).mp repeats⟩ distinct
  rw [ofPasses, unrepeated]
  rfl

theorem orderOf_ne_duplicate (scope : Scope) (passes : List Pass) (name : String) :
    orderOf scope passes ≠ .error (.duplicatePass name) := by
  unfold orderOf
  dsimp only
  split <;> exact nofun

theorem ofPasses_eq_duplicate_iff (passes : List Pass) (name : String) :
    ofPasses passes = .error (.duplicatePass name) ↔ FirstRepeated (passes.map (·.name)) name := by
  constructor
  · intro refused
    by_cases distinct : (passes.map (·.name)).Nodup
    · rw [ofPasses_of_distinct distinct] at refused
      cases document : orderOf .document passes with
      | error reason =>
          rw [document] at refused
          cases refused
          exact absurd document (orderOf_ne_duplicate _ _ _)
      | ok first =>
          cases global : orderOf .global passes with
          | error reason =>
              rw [document, global] at refused
              cases refused
              exact absurd global (orderOf_ne_duplicate _ _ _)
          | ok second =>
              rw [document, global] at refused
              cases refused
    · obtain ⟨first, repeats⟩ := (exists_firstRepeated_iff _).mpr distinct
      have found := (firstRepeated?_iff _ _).mpr repeats
      rw [ofPasses, found] at refused
      cases refused
      exact repeats
  · intro repeats
    rw [ofPasses, (firstRepeated?_iff _ _).mpr repeats]

theorem exists_orderOf_iff (distinct : (passes.map (·.name)).Nodup) (scope : Scope) :
    (∃ order, orderOf scope passes = .ok order) ↔ ¬Cyclic (Schedule.members scope passes) := by
  rcases orderOf_outcome distinct scope with ⟨acyclic, order, ordered, _⟩ | ⟨cyclic, stuck, _, _, refused⟩
  · exact ⟨fun _ => acyclic, fun _ => ⟨order, ordered⟩⟩
  · refine ⟨?_, fun acyclic => absurd cyclic acyclic⟩
    rintro ⟨order, ordered⟩
    cases ordered.symm.trans refused

theorem ofPasses_eq_ok_iff (distinct : (passes.map (·.name)).Nodup) (schedule : Schedule) :
    ofPasses passes = .ok schedule ↔ ∀ scope, orderOf scope passes = .ok (schedule.order scope) := by
  rw [ofPasses_of_distinct distinct]
  simp only [Except.bind_eq_ok]
  constructor
  · rintro ⟨document, orderedDocument, global, orderedGlobal, same⟩ (_ | _)
    all_goals cases same
    · exact orderedDocument
    · exact orderedGlobal
  · intro ordered
    exact ⟨_, ordered .document, _, ordered .global, rfl⟩

theorem least_of_orderOf (distinct : (passes.map (·.name)).Nodup) (ordered : orderOf scope passes = .ok order) :
    Least passes (Schedule.members scope passes) order := by
  rcases orderOf_outcome distinct scope with ⟨_, other, orderedToo, least⟩ | ⟨_, _, _, _, refused⟩
  · cases ordered.symm.trans orderedToo
    exact least
  · cases ordered.symm.trans refused

end Schedule

end ApiContract
