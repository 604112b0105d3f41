import Mathlib.Data.List.Nodup
import ApiContract.SingleFlight

/-!
However many callers arrive and in whatever order they take their steps, a key is built once at most, and everyone who
asked for it gets what this build gave (`Run.shares`).
-/

namespace ApiContract.SingleFlight

variable {κ ρ : Type}

/-- A flight with all callers that have arrived so far. -/
structure Traffic (κ ρ : Type) where
  flight : SingleFlight κ ρ := {}
  callers : List (Caller κ ρ) := []

def keys (flight : SingleFlight κ ρ) : List κ := flight.slots.map Prod.fst

def Started (states : List (Traffic κ ρ)) (index : Nat) : Prop :=
  ∃ state ∈ states, ∃ caller build, state.callers[index]? = some caller ∧ caller.phase = .building build

/-- The caller at a place has begun the build of a key. -/
def Builder (past : List (Traffic κ ρ)) (now : Traffic κ ρ) (key : κ) (index : Nat) (caller : Caller κ ρ) : Prop :=
  Started (now :: past) index ∧ now.callers[index]? = some caller ∧ caller.key = key

/-! ## What a slot tells of the callers -/

/-- The builder of a key is as far as its slot says. -/
def Holds (caller : Caller κ ρ) : Slot ρ → Prop
  | .building build => caller.phase = .building build
  | .finished shared => caller.phase = .returned shared ∧ shared.outcome = caller.build ()

def Follows (caller : Caller κ ρ) (slot : Option (Slot ρ)) : Prop :=
  caller.phase = .waiting ∨ ∃ shared, slot = some (.finished shared) ∧ caller.phase = .returned shared

/-- All callers of a key but its builder began no build. -/
def Followed (started : Nat → Prop) (callers : List (Caller κ ρ)) (key : κ) (slot : Option (Slot ρ))
    (builder : Option Nat) : Prop :=
  ∀ index caller, callers[index]? = some caller → caller.key = key → some index ≠ builder →
    ¬started index ∧ Follows caller slot

inductive Kept (started : Nat → Prop) (callers : List (Caller κ ρ)) (key : κ) : Option (Slot ρ) → Prop
  | free : Followed started callers key none none → Kept started callers key none
  | held {slot : Slot ρ} {index : Nat} {caller : Caller κ ρ} : callers[index]? = some caller → caller.key = key →
      started index → Holds caller slot → Followed started callers key (some slot) (some index) →
      Kept started callers key (some slot)

variable {past states : List (Traffic κ ρ)} {now next : Traffic κ ρ} {key : κ} {index : Nat}
  {caller other : Caller κ ρ} {slot : Option (Slot ρ)} {callers callersNext : List (Caller κ ρ)}
  {started startedNext : Nat → Prop} {builder : Option Nat}

theorem result?_eq_some {shared : Shared ρ} : caller.result? = some shared ↔ caller.phase = .returned shared := by
  unfold Caller.result?
  split
  next other phase => simp [phase]
  next other => simpa using other shared

theorem started_cons : Started (next :: states) index ↔
    (∃ caller build, next.callers[index]? = some caller ∧ caller.phase = .building build) ∨ Started states index := by
  simp [Started]

theorem started_of_same (member : now ∈ states) (same : next.callers[index]? = now.callers[index]?) :
    Started (next :: states) index ↔ Started states index := by
  rw [started_cons, same]
  exact or_iff_right_of_imp fun ⟨caller, build, present, phase⟩ => ⟨now, member, caller, build, present, phase⟩

/-- A caller in the midst of a build is the builder. -/
theorem Followed.not_building (followed : Followed started callers key slot builder)
    (present : callers[index]? = some caller) (keyed : caller.key = key) {build : Nat}
    (phase : caller.phase = .building build) : some index = builder := by
  by_contra apart
  obtain ⟨_, waiting | ⟨_, _, returned⟩⟩ := followed index caller present keyed apart
  · cases phase.symm.trans waiting
  · cases phase.symm.trans returned

/-- The slot of a key still tells of its callers when others only join those who follow it. -/
theorem Kept.transfer (kept : Kept started callers key slot)
    (stay : ∀ (index : Nat) (caller : Caller κ ρ), callers[index]? = some caller → caller.key = key → started index →
      callersNext[index]? = some caller ∧ startedNext index)
    (join : ∀ (index : Nat) (caller : Caller κ ρ), callersNext[index]? = some caller → caller.key = key →
      callers[index]? = some caller ∧ (startedNext index → started index) ∨
        ¬startedNext index ∧ Follows caller slot) :
    Kept startedNext callersNext key slot := by
  have follow {builder : Option Nat} (followed : Followed started callers key slot builder) :
      Followed startedNext callersNext key slot builder := by
    intro index caller present keyed apart
    rcases join index caller present keyed with ⟨before, back⟩ | follows
    · obtain ⟨idle, phase⟩ := followed index caller before keyed apart
      exact ⟨mt back idle, phase⟩
    · exact follows
  cases kept with
  | free followed => exact .free (follow followed)
  | held present keyed begun holds followed =>
      obtain ⟨presentToo, begunToo⟩ := stay _ _ present keyed begun
      exact .held presentToo keyed begunToo holds (follow followed)

/-- While nothing is finished all but the builder wait, whatever the builder then makes of the slot. -/
theorem Followed.advance {slotNext : Option (Slot ρ)} (followed : Followed started callers key slot builder)
    (unfinished : ∀ shared, slot ≠ some (.finished shared)) (own : ∀ other, builder = some other → other = index)
    (same : ∀ other, other ≠ index → callersNext[other]? = callers[other]? ∧ (startedNext other → started other)) :
    Followed startedNext callersNext key slotNext (some index) := by
  intro other caller present keyed apart
  have different : other ≠ index := fun equal => apart (congrArg some equal)
  obtain ⟨unchanged, back⟩ := same other different
  obtain ⟨idle, waiting | ⟨shared, finished, _⟩⟩ :=
    followed other caller (unchanged ▸ present) keyed fun equal => different (own other equal.symm)
  · exact ⟨mt back idle, .inl waiting⟩
  · exact absurd finished (unfinished shared)

/-- A caller that builds is the builder of its key, whose slot says so. -/
theorem Kept.building (kept : Kept started callers key slot) (present : callers[index]? = some caller)
    (keyed : caller.key = key) {build : Nat} (phase : caller.phase = .building build) :
    slot = some (.building build) ∧ started index ∧ Followed started callers key slot (some index) := by
  cases kept with
  | free followed => cases followed.not_building present keyed phase
  | @held slot builder holder found _ begun holds followed =>
      cases followed.not_building present keyed phase
      obtain rfl := Option.some.inj (present.symm.trans found)
      cases slot with
      | building other =>
          cases phase.symm.trans holds
          exact ⟨rfl, begun, followed⟩
      | finished => cases phase.symm.trans holds.1

/-- Whoever began a build is the only one of its key, whose slot tells how far it is. -/
theorem Kept.of_started (kept : Kept started callers key slot) (begun : started index)
    (present : callers[index]? = some caller) (keyed : caller.key = key) :
    ∃ held, slot = some held ∧ Holds caller held ∧ Followed started callers key slot (some index) := by
  cases kept with
  | free followed => exact absurd begun (followed index caller present keyed nofun).1
  | @held slot builder holder found _ _ holds followed =>
      by_cases own : index = builder
      · subst own
        obtain rfl := Option.some.inj (present.symm.trans found)
        exact ⟨slot, rfl, holds, followed⟩
      · exact absurd begun (followed index caller present keyed (by simpa using own)).1

/-- Whatever a caller got is what the slot of its key has. -/
theorem Kept.of_returned {shared : Shared ρ} (kept : Kept started callers key slot)
    (present : callers[index]? = some caller) (keyed : caller.key = key) (phase : caller.phase = .returned shared) :
    slot = some (.finished shared) := by
  have follower {slot : Option (Slot ρ)} (follows : Follows caller slot) : slot = some (.finished shared) := by
    rcases follows with waiting | ⟨other, found, returned⟩
    · cases phase.symm.trans waiting
    · cases phase.symm.trans returned
      exact found
  cases kept with
  | free followed => exact follower (followed index caller present keyed nofun).2
  | @held slot builder holder found _ begun holds followed =>
      by_cases own : index = builder
      · subst own
        obtain rfl := Option.some.inj (present.symm.trans found)
        cases slot with
        | building => cases phase.symm.trans holds
        | finished =>
            cases phase.symm.trans holds.1
            rfl
      · exact follower (followed index caller present keyed (by simpa using own)).2

theorem Kept.of_finished {shared : Shared ρ} (kept : Kept started callers key (some (.finished shared))) :
    ∃ index builder, started index ∧ callers[index]? = some builder ∧ builder.key = key ∧
      builder.phase = .returned shared ∧ shared.outcome = builder.build () := by
  cases kept with
  | held present keyed begun holds _ => exact ⟨_, _, begun, present, keyed, holds.1, holds.2⟩

/-! ## Slots -/

variable [DecidableEq κ] {flight : SingleFlight κ ρ}

theorem slot?_setSlot (flight : SingleFlight κ ρ) (key other : κ) (slot : Slot ρ) :
    (flight.setSlot key slot).slot? other = if key = other then some slot else flight.slot? other := by
  by_cases same : key = other
  · simp [slot?, setSlot, same]
  · have passed (entry : κ × Slot ρ) :
        decide (decide (entry.1 ≠ key) = true ∧ decide (entry.1 = other) = true) = decide (entry.1 = other) := by
      by_cases found : entry.1 = other
      · simp [found, Ne.symm same]
      · simp [found]
    rw [if_neg same, slot?, setSlot, List.find?_cons_of_neg (by simpa using same), List.find?_filter]
    simp only [passed, slot?]

theorem slot?_isSome_iff : (flight.slot? key).isSome ↔ key ∈ flight.keys := by
  simp [slot?, keys]

theorem keys_setSlot (flight : SingleFlight κ ρ) (key : κ) (slot : Slot ρ) :
    (flight.setSlot key slot).keys = key :: flight.keys.filter (· ≠ key) := by
  simp [keys, setSlot, List.filter_map, Function.comp_def]

theorem keys_setSlot_nodup (distinct : flight.keys.Nodup) (key : κ) (slot : Slot ρ) :
    (flight.setSlot key slot).keys.Nodup := by
  rw [keys_setSlot]
  exact List.nodup_cons.mpr ⟨by simp, distinct.filter _⟩

theorem length_keys_setSlot (distinct : flight.keys.Nodup) (key : κ) (slot : Slot ρ) :
    (flight.setSlot key slot).keys.length =
      if (flight.slot? key).isSome then flight.keys.length else flight.keys.length + 1 := by
  have erased : flight.keys.filter (· ≠ key) = flight.keys.erase key := by
    rw [distinct.erase_eq_filter]
    exact List.filter_congr fun other _ => decide_not
  rw [keys_setSlot, List.length_cons, erased]
  by_cases present : key ∈ flight.keys
  · rw [if_pos (slot?_isSome_iff.mpr present), List.length_erase_add_one present]
  · rw [if_neg (mt slot?_isSome_iff.mp present), List.erase_of_not_mem present]

theorem get?_eq_some {shared : Shared ρ} :
    flight.get? key = some shared ↔ flight.slot? key = some (.finished shared) := by
  unfold get?
  split
  next value found => simp [found]
  next other => simpa using other shared

/-- All that one step of a caller can do. -/
inductive Polled (flight : SingleFlight κ ρ) (caller : Caller κ ρ) : SingleFlight κ ρ × Caller κ ρ → Prop
  | idle : Polled flight caller (flight, caller)
  | finish {build : Nat} : caller.phase = .building build →
      Polled flight caller (flight.setSlot caller.key (.finished ⟨build, caller.build ()⟩),
        caller.enter (.returned ⟨build, caller.build ()⟩))
  | take {shared : Shared ρ} : caller.phase = .waiting → flight.slot? caller.key = some (.finished shared) →
      Polled flight caller (flight, caller.enter (.returned shared))
  | begin : caller.phase = .waiting → flight.slot? caller.key = none →
      Polled flight caller ({ flight with builds := flight.builds + 1 }.setSlot caller.key (.building flight.builds),
        caller.enter (.building flight.builds))

theorem polled (flight : SingleFlight κ ρ) (caller : Caller κ ρ) : Polled flight caller (flight.poll caller) := by
  unfold poll
  split
  next => exact .idle
  next build phase => exact .finish phase
  next phase =>
    split
    next shared found => exact .take phase found
    next => exact .idle
    next free => exact .begin phase free

/-! ## Runs -/

def Traffic.arrive (traffic : Traffic κ ρ) (key : κ) (build : Unit → ρ) : Traffic κ ρ :=
  { traffic with callers := traffic.callers ++ [{ key, build }] }

/-- A caller takes its step, which brings it to the next place where it can be interrupted. -/
def Traffic.poll (traffic : Traffic κ ρ) (index : Nat) (caller : Caller κ ρ) : Traffic κ ρ :=
  { flight := (traffic.flight.poll caller).1, callers := traffic.callers.set index (traffic.flight.poll caller).2 }

inductive Traffic.Step (traffic : Traffic κ ρ) : Traffic κ ρ → Prop
  | arrive (key : κ) (build : Unit → ρ) : traffic.Step (traffic.arrive key build)
  | poll {index : Nat} {caller : Caller κ ρ} : traffic.callers[index]? = some caller →
      traffic.Step (traffic.poll index caller)

/-- What has been, the latest first, and what there is now. -/
inductive Run : List (Traffic κ ρ) → Traffic κ ρ → Prop
  | start : Run [] {}
  | step {past : List (Traffic κ ρ)} {now next : Traffic κ ρ} : Run past now → now.Step next → Run (now :: past) next

structure Shares (past : List (Traffic κ ρ)) (now : Traffic κ ρ) : Prop where
  once : ∀ key first second caller other, Builder past now key first caller → Builder past now key second other →
    first = second
  returned : ∀ caller ∈ now.callers, ∀ shared, caller.result? = some shared →
    ∃ index builder, Builder past now caller.key index builder ∧ builder.result? = some shared ∧
      shared.outcome = builder.build ()
  finished : ∀ key shared, now.flight.get? key = some shared ↔
    ∃ index builder, Builder past now key index builder ∧ builder.result? = some shared
  lasts : ∀ earlier ∈ past, ∀ key shared, earlier.flight.get? key = some shared → now.flight.get? key = some shared
  counted : ∃ keys : List κ, keys.Nodup ∧ (∀ key, key ∈ keys ↔ ∃ index builder, Builder past now key index builder) ∧
    now.flight.builds = keys.length

/-- What holds of flight and callers at every moment of a run. -/
structure Tended (past : List (Traffic κ ρ)) (now : Traffic κ ρ) : Prop where
  distinct : now.flight.keys.Nodup
  counted : now.flight.builds = now.flight.keys.length
  arrived : ∀ index, Started (now :: past) index → index < now.callers.length
  kept : ∀ key, Kept (Started (now :: past)) now.callers key (now.flight.slot? key)

theorem Tended.start : Tended [] ({} : Traffic κ ρ) where
  distinct := List.nodup_nil
  counted := rfl
  arrived := by
    rintro index ⟨state, member, caller, build, present, _⟩
    obtain rfl := List.mem_singleton.mp member
    cases present
  kept := fun key => .free (by intro index caller present; cases present)

theorem Tended.arrive (tended : Tended past now) (key : κ) (build : Unit → ρ) :
    Tended (now :: past) (now.arrive key build) := by
  have old {index : Nat} (inside : index < now.callers.length) :
      (now.arrive key build).callers[index]? = now.callers[index]? := List.getElem?_append_left inside
  have joined {index : Nat} (outside : ¬index < now.callers.length) {caller : Caller κ ρ}
      (present : (now.arrive key build).callers[index]? = some caller) : caller.phase = .waiting := by
    rw [Traffic.arrive, List.getElem?_append_right (Nat.le_of_not_lt outside)] at present
    cases List.mem_singleton.mp (List.mem_of_getElem? present)
    rfl
  have started (index : Nat) : Started (now.arrive key build :: now :: past) index ↔ Started (now :: past) index := by
    by_cases inside : index < now.callers.length
    · exact started_of_same List.mem_cons_self (old inside)
    · rw [started_cons]
      refine or_iff_right ?_
      rintro ⟨caller, build, present, phase⟩
      cases phase.symm.trans (joined inside present)
  refine ⟨tended.distinct, tended.counted, fun index begun => ?_, fun other => (tended.kept other).transfer ?_ ?_⟩
  · have inside := tended.arrived index ((started index).mp begun)
    simp only [Traffic.arrive, List.length_append]
    omega
  · intro index caller present _ begun
    exact ⟨(old (tended.arrived index begun)).trans present, (started index).mpr begun⟩
  · intro index caller present _
    by_cases inside : index < now.callers.length
    · exact .inl ⟨(old inside).symm.trans present, (started index).mp⟩
    · exact .inr ⟨fun begun => inside (tended.arrived index ((started index).mp begun)), .inl (joined inside present)⟩

/-- A caller changes itself and the slot of its key. -/
theorem Tended.change (tended : Tended past now) (present : now.callers[index]? = some caller)
    (keyed : other.key = caller.key)
    (distinct : flight.keys.Nodup) (counted : flight.builds = flight.keys.length)
    (same : ∀ key, key ≠ caller.key → flight.slot? key = now.flight.slot? key)
    (kept : Kept (Started (⟨flight, now.callers.set index other⟩ :: now :: past)) (now.callers.set index other)
      caller.key (flight.slot? caller.key)) :
    Tended (now :: past) ⟨flight, now.callers.set index other⟩ := by
  obtain ⟨inside, _⟩ := List.getElem?_eq_some_iff.mp present
  have apart {place : Nat} (different : place ≠ index) :
      (now.callers.set index other)[place]? = now.callers[place]? := List.getElem?_set_ne (Ne.symm different)
  have started {place : Nat} (different : place ≠ index) :
      Started (⟨flight, now.callers.set index other⟩ :: now :: past) place ↔ Started (now :: past) place :=
    started_of_same List.mem_cons_self (apart different)
  refine ⟨distinct, counted, fun place begun => ?_, fun key => ?_⟩
  · rw [List.length_set]
    by_cases own : place = index
    · exact own ▸ inside
    · exact tended.arrived place ((started own).mp begun)
  · by_cases own : key = caller.key
    · exact own ▸ kept
    · rw [same key own]
      refine (tended.kept key).transfer ?_ ?_
      · intro place holder found keyedToo begun
        have different : place ≠ index := by
          rintro rfl
          obtain rfl := Option.some.inj (present.symm.trans found)
          exact own keyedToo.symm
        exact ⟨(apart different).trans found, (started different).mpr begun⟩
      · intro place holder found keyedToo
        have different : place ≠ index := by
          rintro rfl
          obtain rfl := Option.some.inj ((List.getElem?_set_self inside).symm.trans found)
          exact own (keyedToo.symm.trans keyed)
        exact .inl ⟨(apart different).symm.trans found, (started different).mp⟩

theorem Tended.again (tended : Tended past now) : Tended (now :: past) now := by
  have started : Started (now :: now :: past) = Started (now :: past) :=
    funext fun _ => propext (started_of_same List.mem_cons_self rfl)
  exact ⟨tended.distinct, tended.counted, started ▸ tended.arrived, started ▸ tended.kept⟩

theorem Tended.poll (tended : Tended past now) (present : now.callers[index]? = some caller) :
    Tended (now :: past) (now.poll index caller) := by
  obtain ⟨inside, rfl⟩ := List.getElem?_eq_some_iff.mp present
  have kept := tended.kept now.callers[index].key
  have polled := polled now.flight now.callers[index]
  have own (next : Caller κ ρ) : (now.callers.set index next)[index]? = some next := List.getElem?_set_self inside
  have same (flight : SingleFlight κ ρ) (next : Caller κ ρ) (place : Nat) (different : place ≠ index) :
      (now.callers.set index next)[place]? = now.callers[place]? ∧
        (Started (⟨flight, now.callers.set index next⟩ :: now :: past) place → Started (now :: past) place) := by
    have unchanged : (now.callers.set index next)[place]? = now.callers[place]? :=
      List.getElem?_set_ne (Ne.symm different)
    exact ⟨unchanged, (started_of_same List.mem_cons_self unchanged).mp⟩
  unfold Traffic.poll
  generalize now.flight.poll now.callers[index] = result at polled
  cases polled with
  | idle =>
      rw [List.set_getElem_self]
      exact tended.again
  | @finish build phase =>
      obtain ⟨slot, begun, followed⟩ := kept.building present rfl phase
      refine tended.change present rfl (keys_setSlot_nodup tended.distinct _ _) ?_ ?_ ?_
      · rw [length_keys_setSlot tended.distinct, slot]
        exact tended.counted
      · intro key different
        rw [slot?_setSlot, if_neg (Ne.symm different)]
      · rw [slot?_setSlot, if_pos rfl]
        exact .held (own _) rfl (started_cons.mpr (.inr begun)) ⟨rfl, rfl⟩
          (followed.advance (by simp [slot]) (by simp) (same _ _))
  | @take shared phase found =>
      have idle : ¬Started (now :: past) index := by
        intro begun
        obtain ⟨held, slot, holds, _⟩ := kept.of_started begun present rfl
        obtain rfl := Option.some.inj (found.symm.trans slot)
        cases phase.symm.trans holds.1
      refine tended.change present rfl tended.distinct tended.counted (fun _ _ => rfl) (kept.transfer ?_ ?_)
      · intro place holder foundToo keyed begun
        have different : place ≠ index := fun equal => idle (equal ▸ begun)
        exact ⟨(same now.flight _ place different).1.trans foundToo, started_cons.mpr (.inr begun)⟩
      · intro place holder foundToo keyed
        by_cases equal : place = index
        · subst equal
          obtain rfl := Option.some.inj ((own _).symm.trans foundToo)
          refine .inr ⟨?_, .inr ⟨shared, found, rfl⟩⟩
          rw [started_cons]
          rintro (⟨_, _, presentToo, building⟩ | begun)
          · obtain rfl := Option.some.inj ((own _).symm.trans presentToo)
            cases building
          · exact idle begun
        · exact .inl ⟨(same now.flight _ place equal).1.symm.trans foundToo, (same _ _ _ equal).2⟩
  | begin phase free =>
      rw [free] at kept
      cases kept with
      | free followed =>
          refine tended.change present rfl (keys_setSlot_nodup tended.distinct _ _) ?_ ?_ ?_
          · have counted := tended.counted
            have grown := length_keys_setSlot tended.distinct now.callers[index].key (.building now.flight.builds)
            rw [free] at grown
            exact (congrArg (· + 1) counted).trans grown.symm
          · intro key different
            rw [slot?_setSlot, if_neg (Ne.symm different)]
            rfl
          · rw [slot?_setSlot, if_pos rfl]
            refine .held (own _) rfl ?_ rfl (followed.advance nofun nofun (same _ _))
            exact started_cons.mpr (.inl ⟨_, _, own _, rfl⟩)

theorem Run.tended (run : Run past now) : Tended past now := by
  induction run with
  | start => exact .start
  | step _ step ih =>
      cases step with
      | arrive key build => exact ih.arrive key build
      | poll present => exact ih.poll present

theorem Tended.get?_of_step {shared : Shared ρ} (tended : Tended past now) (step : now.Step next)
    (finished : now.flight.get? key = some shared) : next.flight.get? key = some shared := by
  rw [get?_eq_some] at finished ⊢
  cases step with
  | arrive => exact finished
  | @poll index caller present =>
      have polled := polled now.flight caller
      have kept := tended.kept caller.key
      unfold Traffic.poll
      generalize now.flight.poll caller = result at polled
      cases polled with
      | idle => exact finished
      | finish phase =>
          obtain ⟨slot, _⟩ := kept.building present rfl phase
          have different : caller.key ≠ key := by
            rintro rfl
            cases finished.symm.trans slot
          rw [slot?_setSlot, if_neg different, finished]
      | take => exact finished
      | begin _ free =>
          have different : caller.key ≠ key := by
            rintro rfl
            cases finished.symm.trans free
          rw [slot?_setSlot, if_neg different]
          exact finished

theorem Run.get?_of_earlier (run : Run past now) {earlier : Traffic κ ρ} (member : earlier ∈ past) {shared : Shared ρ}
    (finished : earlier.flight.get? key = some shared) : now.flight.get? key = some shared := by
  induction run with
  | start => cases member
  | step run step ih =>
      rcases List.mem_cons.mp member with rfl | before
      · exact run.tended.get?_of_step step finished
      · exact run.tended.get?_of_step step (ih before)

/-- In any order of steps a key is built by one caller at most, whose outcome all others return, which is found once it
is there and not before, and the builds are counted. -/
theorem Run.shares (run : Run past now) : Shares past now := by
  have tended := run.tended
  refine ⟨?_, ?_, ?_, fun earlier member _ _ => run.get?_of_earlier member, ?_⟩
  · rintro key first second caller other ⟨begun, present, keyed⟩ ⟨begunToo, presentToo, keyedToo⟩
    obtain ⟨_, _, _, followed⟩ := (tended.kept key).of_started begun present keyed
    by_contra different
    exact (followed second other presentToo keyedToo (by simpa using Ne.symm different)).1 begunToo
  · intro caller member shared result
    obtain ⟨index, present⟩ := List.getElem?_of_mem member
    have kept := tended.kept caller.key
    rw [kept.of_returned present rfl (result?_eq_some.mp result)] at kept
    obtain ⟨place, builder, begun, found, keyed, returned, outcome⟩ := kept.of_finished
    exact ⟨place, builder, ⟨begun, found, keyed⟩, result?_eq_some.mpr returned, outcome⟩
  · intro key shared
    rw [get?_eq_some]
    have kept := tended.kept key
    constructor
    · intro finished
      rw [finished] at kept
      obtain ⟨place, builder, begun, found, keyed, returned, _⟩ := kept.of_finished
      exact ⟨place, builder, ⟨begun, found, keyed⟩, result?_eq_some.mpr returned⟩
    · rintro ⟨place, builder, ⟨_, found, keyed⟩, result⟩
      exact kept.of_returned found keyed (result?_eq_some.mp result)
  · refine ⟨now.flight.keys, tended.distinct, fun key => ?_, tended.counted⟩
    have kept := tended.kept key
    rw [← slot?_isSome_iff]
    constructor
    · intro present
      obtain ⟨slot, found⟩ := Option.isSome_iff_exists.mp present
      rw [found] at kept
      cases kept with
      | held present keyed begun => exact ⟨_, _, begun, present, keyed⟩
    · rintro ⟨place, builder, begun, found, keyed⟩
      obtain ⟨slot, held, _⟩ := kept.of_started begun found keyed
      exact Option.isSome_iff_exists.mpr ⟨slot, held⟩

theorem Run.arrive (run : Run past now) (key : κ) (build : Unit → ρ) : Run (now :: past) (now.arrive key build) :=
  run.step (.arrive key build)

theorem Run.poll (run : Run past now) (index : Nat) (inside : index < now.callers.length) :
    Run (now :: past) (now.poll index now.callers[index]) :=
  run.step (.poll (List.getElem?_eq_getElem inside))

/-- Of two calls for one key the first one builds, and the call for another key fails. -/
theorem Run.shares_of_failing_build : ∃ (past : List (Traffic String (Except String Nat)))
    (now : Traffic String (Except String Nat)), Run past now ∧ Shares past now ∧ now.flight.builds = 2 ∧
    now.callers.map (fun caller => caller.result?.map fun shared => (shared.build, shared.outcome.toOption)) =
      [some (0, some 1), some (0, some 1), some (1, none)] := by
  let succeed (result : Nat) : Unit → Except String Nat := fun _ => .ok result
  have arrived := ((Run.start.arrive "first" (succeed 1)).arrive "first" (succeed 2)).arrive "second"
    fun _ => .error "unknown"
  have begun := ((arrived.poll 0 (by decide)).poll 1 (by decide)).poll 2 (by decide)
  have ended := ((begun.poll 2 (by decide)).poll 0 (by decide)).poll 1 (by decide)
  exact ⟨_, _, ended, ended.shares, rfl, rfl⟩

/-! ## Settled callers -/

theorem Run.arrive_all {arrived : List (Caller κ ρ)} (run : Run past ⟨flight, callers⟩)
    (waiting : ∀ caller ∈ arrived, caller.phase = .waiting) : ∃ later, Run later ⟨flight, callers ++ arrived⟩ := by
  induction arrived generalizing past callers with
  | nil => exact ⟨past, by rwa [List.append_nil]⟩
  | cons caller rest ih =>
      obtain ⟨first, others⟩ := List.forall_mem_cons.mp waiting
      obtain ⟨key, build, phase⟩ := caller
      obtain rfl : phase = .waiting := first
      obtain ⟨later, ran⟩ := ih (run.step (.arrive key build)) others
      exact ⟨later, by simpa using ran⟩

theorem Run.round {before : List (Caller κ ρ)} (run : Run past ⟨flight, before ++ callers⟩) :
    ∃ later, Run later ⟨(flight.round callers).1, before ++ (flight.round callers).2⟩ := by
  induction callers generalizing past flight before with
  | nil => exact ⟨past, run⟩
  | cons caller rest ih =>
      have present : (before ++ caller :: rest)[before.length]? = some caller := by simp
      have polled := run.step (.poll present)
      simp only [Traffic.poll, List.set_append_right _ _ (Nat.le_refl _), Nat.sub_self, List.set_cons_zero] at polled
      rw [List.append_cons before (flight.poll caller).2 rest] at polled
      obtain ⟨later, ran⟩ := ih polled
      exact ⟨later, by simpa [SingleFlight.round] using ran⟩

/-- Callers that are settled together take such steps. -/
theorem Run.settle {before : List (Caller κ ρ)} (run : Run past ⟨flight, before⟩)
    (waiting : ∀ caller ∈ callers, caller.phase = .waiting) : ∃ later settled,
      Run later ⟨(flight.settle callers).1, before ++ settled⟩ ∧
      settled.map Caller.result? = (flight.settle callers).2 := by
  obtain ⟨_, arrived⟩ := run.arrive_all waiting
  obtain ⟨_, once⟩ := arrived.round
  obtain ⟨later, twice⟩ := once.round
  exact ⟨later, _, twice, rfl⟩

end ApiContract.SingleFlight
