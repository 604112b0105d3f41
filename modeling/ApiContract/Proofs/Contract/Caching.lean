import Mathlib.Data.List.Dedup
import ApiContract.Proofs.Contract.Sharing
import ApiContract.Proofs.Pass.Documents
import ApiContract.ValidatorStore

/-!
A store of validators changes no answer: whatever was asked for before, a call gets what would be assembled for it from
scratch, and exactly the calls that find the same share it (`ValidatorStore.store_transparent`).
-/

namespace ApiContract

open Json (Value)

open SingleFlight (get?_eq_some slot?_setSlot slot?_isSome_iff keys_setSlot_nodup length_keys_setSlot)

namespace Specification

variable {specification : Specification} {urls : List String} {operation : Operation} {found other : Found}

/-- What the specification declares, and queries can lead to. -/
inductive Declares (specification : Specification) : Found → Prop
  | request {operation : Operation} : operation ∈ specification.draft.operations →
      specification.Declares (.request operation)
  | response {operation : Operation} {status : String} {response : Response} :
      operation ∈ specification.draft.operations → (status, response) ∈ operation.responses →
      specification.Declares (.response operation response)

theorem mem_of_operation? {name : String} (found : specification.operation? name = some operation) :
    operation ∈ specification.draft.operations := by
  rcases (Option.orElse_eq_some _ _ _).mp found with keyed | ⟨_, identified⟩
  · exact List.mem_reverse.mp (List.mem_of_find?_eq_some keyed)
  · exact List.mem_of_find?_eq_some identified

theorem mem_of_response? {status : String} {response : Response} (found : operation.response? status = some response) :
    ∃ declared, (declared, response) ∈ operation.responses := by
  unfold Operation.response? at found
  split at found
  next same => 
    cases found
    exact ⟨status, Assoc.mem_of_find? same⟩
  · split at found
    · exact ⟨"default", Assoc.mem_of_find? found⟩
    · cases found

theorem declares_of_find {query : Query} (finds : specification.find query = .ok found) :
    specification.Declares found := by
  cases query with
  | request name =>
      rw [find] at finds
      split at finds
      next operation named =>
        cases finds
        exact .request (mem_of_operation? named)
      · cases finds
  | response name status =>
      rw [find] at finds
      split at finds
      · cases finds
      next operation named =>
        split at finds
        next response declared =>
          cases finds
          obtain ⟨_, member⟩ := mem_of_response? declared
          exact .response (mem_of_operation? named) member
        · cases finds

/-- Keys tell declared operations and responses apart. -/
structure Keyed (specification : Specification) : Prop where
  apart : ∀ found other, specification.Declares found → specification.Declares other → found.key = other.key →
    found = other
  statuses : ∀ operation ∈ specification.draft.operations, (Assoc.keys operation.responses).Nodup

theorem keyed_of_located (located : Located urls specification.draft.operations)
    (addresses : ∀ url ∈ urls, '#' ∉ url.toList) : specification.Keyed := by
  have plain {operation : Operation} (member : operation ∈ specification.draft.operations) :
      '#' ∉ operation.url.toList := addresses _ (located.placed operation member).2
  refine ⟨fun found other declared declaredToo same => ?_,
    fun operation member => (located.placed operation member).1.statuses⟩
  cases declared with
  | request member =>
      cases declaredToo with
      | request memberToo =>
          have places := (located.placed _ member).1.place_of_key (located.placed _ memberToo).1 (plain member)
            (plain memberToo) (congrArg Prod.snd same)
          rw [located.eq_of_place member memberToo places]
      | response => cases congrArg Prod.fst same
  | @response operation status response member listed =>
      cases declaredToo with
      | request => cases congrArg Prod.fst same
      | @response last statusToo responseToo memberToo listedToo =>
          obtain ⟨places, statuses⟩ := (located.placed _ member).1.place_of_response_key (located.placed _ memberToo).1
            (plain member) (plain memberToo) listed listedToo (congrArg Prod.snd same)
          obtain rfl := located.eq_of_place member memberToo places
          cases statuses
          have first := Assoc.find?_of_mem (located.placed _ member).1.statuses listed
          have second := Assoc.find?_of_mem (located.placed _ member).1.statuses listedToo
          rw [Option.some.inj (first.symm.trans second)]

namespace Keyed

variable (keyed : specification.Keyed)

include keyed

theorem operation?_key (member : operation ∈ specification.draft.operations) :
    specification.operation? operation.key = some operation := by
  have present : (specification.draft.operations.reverse.find? (·.key == operation.key)).isSome := by
    rw [List.find?_isSome]
    exact ⟨operation, List.mem_reverse.mpr member, beq_self_eq_true _⟩
  obtain ⟨last, found⟩ := Option.isSome_iff_exists.mp present
  have among := List.mem_reverse.mp (List.mem_of_find?_eq_some found)
  have same : last.key = operation.key := by simpa using List.find?_some found
  cases keyed.apart _ _ (.request among) (.request member) (congrArg (Prod.mk Direction.request) same)
  rw [operation?, found]
  rfl

theorem find_request (member : operation ∈ specification.draft.operations) :
    specification.find (.request operation.key) = .ok (.request operation) := by
  rw [find, keyed.operation?_key member]

theorem find_response (member : operation ∈ specification.draft.operations) {status : String} {response : Response}
    (listed : (status, response) ∈ operation.responses) :
    specification.find (.response operation.key status) = .ok (.response operation response) := by
  have declared : operation.response? status = some response := by
    rw [Operation.response?, Assoc.find?_of_mem (keyed.statuses operation member) listed]
  rw [find, keyed.operation?_key member]
  simp only [declared]

end Keyed

/-- What all validators of the specification come to, one after the other. -/
def report (specification : Specification) : ValidatorStore.Report :=
  specification.draft.operations.foldl (fun report operation =>
    operation.responses.foldl (fun report entry =>
      report.add entry.2.key (specification.assemble (.response operation entry.2)))
      (report.add operation.key (specification.assemble (.request operation)))) {}

def family (operation : Operation) : List Found :=
  .request operation :: operation.responses.map fun entry => .response operation entry.2

end Specification

namespace SingleFlight

variable {κ ρ : Type} [DecidableEq κ] {flight : SingleFlight κ ρ} {caller : Caller κ ρ}

theorem call_of_finished {shared : Shared ρ} (waiting : caller.phase = .waiting)
    (finished : flight.slot? caller.key = some (.finished shared)) : flight.call caller = (flight, some shared) := by
  have once : flight.poll caller = (flight, caller.enter (.returned shared)) := by
    simp only [poll, waiting, finished]
  have twice : flight.poll (caller.enter (.returned shared)) = (flight, caller.enter (.returned shared)) := rfl
  simp only [call, settle, round, once, twice]
  rfl

/-- A call for a key that nobody asked for builds it. -/
theorem call_of_free (waiting : caller.phase = .waiting) (free : flight.slot? caller.key = none)
    (distinct : flight.keys.Nodup) : ∃ after, flight.call caller = (after, some ⟨flight.builds, caller.build ()⟩) ∧
      after.builds = flight.builds + 1 ∧ after.keys.Nodup ∧ after.keys.length = flight.keys.length + 1 ∧
      ∀ key, after.slot? key = if caller.key = key then some (.finished ⟨flight.builds, caller.build ()⟩)
        else flight.slot? key := by
  let begun := { flight with builds := flight.builds + 1 }.setSlot caller.key (.building flight.builds)
  have once : flight.poll caller = (begun, caller.enter (.building flight.builds)) := by
    simp only [poll, waiting, free, begun]
  have twice : begun.poll (caller.enter (.building flight.builds)) =
      (begun.setSlot caller.key (.finished ⟨flight.builds, caller.build ()⟩),
        caller.enter (.returned ⟨flight.builds, caller.build ()⟩)) := rfl
  have distinctBegun : begun.keys.Nodup := keys_setSlot_nodup distinct _ _
  have grown : begun.keys.length = flight.keys.length + 1 := by
    have length := length_keys_setSlot distinct caller.key (.building flight.builds)
    rwa [free] at length
  have held : begun.slot? caller.key = some (.building flight.builds) := by
    rw [slot?_setSlot, if_pos rfl]
  refine ⟨begun.setSlot caller.key (.finished ⟨flight.builds, caller.build ()⟩), ?_, rfl,
    keys_setSlot_nodup distinctBegun _ _, ?_, fun key => ?_⟩
  · simp only [call, settle, round, once, twice]
    rfl
  · rw [length_keys_setSlot distinctBegun, held, ← grown]
    rfl
  · rw [slot?_setSlot]
    split
    · rfl
    next different =>
      rw [slot?_setSlot, if_neg different]
      rfl

/-- Whatever is finished in one flight is so in the other. -/
def Keeps (flight later : SingleFlight κ ρ) : Prop :=
  ∀ key shared, flight.get? key = some shared → later.get? key = some shared

end SingleFlight

namespace ValidatorStore

open Specification (Found Query)

variable {specification : Specification} {resolved founds : List Found} {store : ValidatorStore} {found : Found}

/-- Every validator in the store is what is assembled for something that was asked for. -/
structure Faithful (specification : Specification) (resolved : List Found) (store : ValidatorStore) : Prop where
  declared : ∀ found ∈ resolved, specification.Declares found
  distinct : store.keys.Nodup
  counted : store.builds = store.keys.length
  keys : ∀ key, key ∈ store.keys ↔ ∃ found ∈ resolved, found.key = key
  kept : ∀ found ∈ resolved, ∃ shared, store.get? found.key = some shared ∧
    shared.outcome = specification.assemble found
  apart : ∀ key other shared sharedToo, store.get? key = some shared → store.get? other = some sharedToo →
    shared.build = sharedToo.build → key = other
  below : ∀ key shared, store.get? key = some shared → shared.build < store.builds

theorem Faithful.empty (specification : Specification) : Faithful specification [] {} := by
  have nothing (key : Direction × String) (shared : Shared (Except Interruption MessageValidator)) :
      SingleFlight.get? {} key ≠ some shared := by
    simp [SingleFlight.get?, SingleFlight.slot?]
  refine ⟨by simp, List.nodup_nil, rfl, by simp [SingleFlight.keys], by simp, ?_, ?_⟩
  · exact fun key _ shared _ found => absurd found (nothing key shared)
  · exact fun key shared found => absurd found (nothing key shared)

theorem Faithful.again (faithful : Faithful specification resolved store) (member : found ∈ resolved) :
    Faithful specification (resolved ++ [found]) store := by
  have among (other : Found) : other ∈ resolved ++ [found] ↔ other ∈ resolved := by
    rw [List.mem_append, List.mem_singleton]
    exact or_iff_left_of_imp fun same => same ▸ member
  obtain ⟨declared, distinct, counted, keys, kept, apart, below⟩ := faithful
  simp only [← among] at declared keys kept
  exact ⟨declared, distinct, counted, keys, kept, apart, below⟩

/-- A call finds what was assembled before, or assembles what is new. -/
theorem Faithful.call (keyed : specification.Keyed) (faithful : Faithful specification resolved store)
    (declares : specification.Declares found) :
    ∃ shared after, store.call (caller specification found) = (after, some shared) ∧
      shared.outcome = specification.assemble found ∧ after.get? found.key = some shared ∧
      Faithful specification (resolved ++ [found]) after ∧ store.Keeps after := by
  by_cases present : found.key ∈ store.keys
  · obtain ⟨other, member, same⟩ := (faithful.keys _).mp present
    obtain rfl := keyed.apart _ _ (faithful.declared other member) declares same
    obtain ⟨shared, finished, outcome⟩ := faithful.kept other member
    exact ⟨shared, store, SingleFlight.call_of_finished rfl (get?_eq_some.mp finished), outcome, finished,
      faithful.again member, fun _ _ finished => finished⟩
  · have free : store.slot? found.key = none := by
      rw [← Option.not_isSome_iff_eq_none]
      exact mt slot?_isSome_iff.mp present
    have waiting : (caller specification found).phase = .waiting := rfl
    obtain ⟨after, called, builds, distinct, grown, slots⟩ := SingleFlight.call_of_free waiting free faithful.distinct
    have finished (key : Direction × String) (shared : Shared (Except Interruption MessageValidator)) :
        after.get? key = some shared ↔ found.key = key ∧ ⟨store.builds, specification.assemble found⟩ = shared ∨
          found.key ≠ key ∧ store.get? key = some shared := by
      rw [get?_eq_some, get?_eq_some, slots]
      change (if found.key = key then some (Slot.finished ⟨store.builds, specification.assemble found⟩) else _) = _ ↔ _
      split <;> simp [*]
    have keys (key : Direction × String) : key ∈ after.keys ↔ found.key = key ∨ key ∈ store.keys := by
      rw [← slot?_isSome_iff, ← slot?_isSome_iff, slots]
      change (if found.key = key then some (Slot.finished ⟨store.builds, specification.assemble found⟩)
        else _).isSome ↔ _
      split <;> simp [*]
    have old {other : Found} (member : other ∈ resolved) : found.key ≠ other.key := fun same =>
      present ((faithful.keys _).mpr ⟨other, member, same.symm⟩)
    refine ⟨_, after, called, rfl, (finished _ _).mpr (.inl ⟨rfl, rfl⟩), ?_, ?_⟩
    · refine ⟨?_, distinct, ?_, ?_, ?_, ?_, ?_⟩
      · intro other member
        rcases List.mem_append.mp member with before | new
        · exact faithful.declared other before
        · exact List.mem_singleton.mp new ▸ declares
      · rw [builds, grown, faithful.counted]
      · intro key
        rw [keys, faithful.keys]
        simp [or_comm]
      · intro other member
        rcases List.mem_append.mp member with before | new
        · obtain ⟨shared, kept, outcome⟩ := faithful.kept other before
          exact ⟨shared, (finished _ _).mpr (.inr ⟨old before, kept⟩), outcome⟩
        · obtain rfl := List.mem_singleton.mp new
          exact ⟨_, (finished _ _).mpr (.inl ⟨rfl, rfl⟩), rfl⟩
      · intro key other shared sharedToo first second same
        rcases (finished _ _).mp first with ⟨rfl, rfl⟩ | ⟨_, before⟩
        · rcases (finished _ _).mp second with ⟨rfl, rfl⟩ | ⟨_, beforeToo⟩
          · rfl
          · exact absurd same (Nat.ne_of_gt (faithful.below _ _ beforeToo))
        · rcases (finished _ _).mp second with ⟨rfl, rfl⟩ | ⟨_, beforeToo⟩
          · exact absurd same (Nat.ne_of_lt (faithful.below _ _ before))
          · exact faithful.apart _ _ _ _ before beforeToo same
      · intro key shared kept
        rw [builds]
        rcases (finished _ _).mp kept with ⟨_, rfl⟩ | ⟨_, before⟩
        · exact Nat.lt_succ_self _
        · exact Nat.lt_succ_of_lt (faithful.below _ _ before)
    · intro key shared kept
      refine (finished _ _).mpr (.inr ⟨?_, kept⟩)
      rintro rfl
      exact present (slot?_isSome_iff.mp (Option.isSome_iff_exists.mpr ⟨_, get?_eq_some.mp kept⟩))

/-! ## Calls -/

/-- A caller asks for one validator, or for all. -/
inductive Call where
  | ask (query : Query)
  | buildAll

inductive Reply where
  | answer (answer : Option Answer)
  | report (report : Report)

def perform (specification : Specification) : Call → Stored Reply
  | .ask query => return .answer ((← fetchTogether specification [query]).head?.join)
  | .buildAll => return .report (← buildAll specification)

def resolve (specification : Specification) : Call → List Found
  | .ask query => (specification.find query).toOption.toList
  | .buildAll => specification.draft.operations.flatMap Specification.family

/-- The reply to a call is the one that needs no store: what is found is assembled from scratch. -/
def FromScratch (specification : Specification) : Call → Reply → Prop
  | .ask query, .answer answer =>
      answer.map (·.map Shared.outcome) = some ((specification.find query).map specification.assemble)
  | .buildAll, .report report => report = specification.report
  | _, _ => False

/-- No reply depends on what the store held before, what is found is shared by the calls that find it and no others, and
each build is counted once. -/
structure Transparent (specification : Specification) (calls : List Call) (replies : List Reply)
    (store : ValidatorStore) :
    Prop where
  fromScratch : List.Forall₂ (FromScratch specification) calls replies
  shared : ∀ (first second : Nat) query other shared sharedToo,
    calls[first]? = some (.ask query) → calls[second]? = some (.ask other) →
    replies[first]? = some (.answer (some (.ok shared))) → replies[second]? = some (.answer (some (.ok sharedToo))) →
    (shared.build = sharedToo.build ↔ specification.find query = specification.find other)
  counted : store.builds = ((calls.flatMap (resolve specification)).map Found.key).dedup.length
  fetched : ∀ query, ((fetch specification query).run store).1 = match specification.find query with
    | .ok found => specification.assemble found
    | .error error => .error (.refused error)

theorem fetch_run {query : Query} (finds : specification.find query = .ok found) (store : ValidatorStore) :
    (fetch specification query).run store =
      let called := store.call (caller specification found)
      (called.2.elim (.error .outOfSteps) Shared.outcome, called.1) := by
  rw [fetch, finds]
  simp only [validator, modifyGet, MonadStateOf.modifyGet, StateT.run, StateT.modifyGet]
  cases store.call (caller specification found) with
  | mk after shared => cases shared <;> rfl

/-- A store that holds nothing yet assembles what is asked for. -/
theorem fetch_empty {query : Query} (finds : specification.find query = .ok found) :
    ((fetch specification query).run {}).1 = specification.assemble found := by
  obtain ⟨after, called, _⟩ :=
    @SingleFlight.call_of_free _ _ _ {} (caller specification found) rfl rfl List.nodup_nil
  rw [fetch_run finds, called]
  rfl

/-- Over a faithful store there is one result only, and the store stays faithful with what was found on the way. -/
def Serves {α : Type} (specification : Specification) (work : Stored α) (result : α) (founds : List Found) : Prop :=
  ∀ resolved store, Faithful specification resolved store → ∃ after, work.run store = (result, after) ∧
    Faithful specification (resolved ++ founds) after ∧ store.Keeps after

namespace Serves

variable {α β : Type}

theorem pure (result : α) : Serves specification (pure result) result [] := fun resolved store faithful =>
  ⟨store, rfl, (List.append_nil resolved).symm ▸ faithful, fun _ _ kept => kept⟩

theorem bind {work : Stored α} {next : α → Stored β} {result : α} {last : β} {more : List Found}
    (serves : Serves specification work result founds) (later : Serves specification (next result) last more) :
    Serves specification (work >>= next) last (founds ++ more) := by
  intro resolved store faithful
  obtain ⟨middle, ran, kept, keeps⟩ := serves resolved store faithful
  obtain ⟨after, ranLater, keptLater, keepsLater⟩ := later _ middle kept
  refine ⟨after, ?_, List.append_assoc .. ▸ keptLater, fun key shared finished => keepsLater _ _ (keeps _ _ finished)⟩
  rw [StateT.run_bind, ran]
  exact ranLater

theorem foldlM {items : List β} {visit : α → β → Stored α} {next : α → β → α} {finds : β → List Found}
    (each : ∀ item ∈ items, ∀ state, Serves specification (visit state item) (next state item) (finds item))
    (start : α) :
    Serves specification (items.foldlM visit start) (items.foldl next start) (items.flatMap finds) := by
  induction items generalizing start with
  | nil => exact .pure start
  | cons item rest ih =>
      rw [List.foldlM_cons, List.foldl_cons, List.flatMap_cons]
      exact (each item List.mem_cons_self start).bind
        (ih (fun other member => each other (List.mem_cons_of_mem _ member)) _)

theorem fetch (keyed : specification.Keyed) {query : Query} (finds : specification.find query = .ok found) :
    Serves specification (fetch specification query) (specification.assemble found) [found] := by
  intro resolved store faithful
  obtain ⟨shared, after, called, outcome, _, kept, keeps⟩ :=
    faithful.call keyed (Specification.declares_of_find finds)
  refine ⟨after, ?_, kept, keeps⟩
  rw [fetch_run finds, called, ← outcome]
  rfl

theorem fetch_error {query : Query} {error : CompileError} (fails : specification.find query = .error error) :
    Serves specification (ValidatorStore.fetch specification query) (.error (.refused error)) [] := by
  rw [ValidatorStore.fetch, fails]
  exact .pure _

theorem buildOperation (keyed : specification.Keyed) {operation : Operation}
    (member : operation ∈ specification.draft.operations) (report : Report) :
    Serves specification (buildOperation specification report operation)
      (operation.responses.foldl (fun report entry =>
        report.add entry.2.key (specification.assemble (.response operation entry.2)))
        (report.add operation.key (specification.assemble (.request operation))))
      (Specification.family operation) := by
  refine (fetch keyed (keyed.find_request member)).bind ?_
  rw [List.map_eq_flatMap]
  refine foldlM (fun entry listed report => ?_) _
  exact (fetch keyed (keyed.find_response member listed)).bind (.pure _)

theorem buildAll (keyed : specification.Keyed) :
    Serves specification (buildAll specification) specification.report
      (specification.draft.operations.flatMap Specification.family) := by
  unfold ValidatorStore.buildAll Specification.report
  exact foldlM (fun _ member report => buildOperation keyed member report) {}

end Serves

/-- The reply comes from scratch, and what it shares is in the store. -/
structure Answered (specification : Specification) (store : ValidatorStore) (call : Call) (reply : Reply) : Prop where
  fromScratch : FromScratch specification call reply
  stored : ∀ query found shared, call = .ask query → specification.find query = .ok found →
    reply = .answer (some (.ok shared)) → store.get? found.key = some shared

theorem perform_ask {query : Query} (finds : specification.find query = .ok found) :
    (perform specification (.ask query)).run store = match store.call (caller specification found) with
      | (store, shared) => (.answer (shared.map .ok), store) := by
  have together : (fetchTogether specification [query]).run store = match store.call (caller specification found) with
      | (store, shared) => ([shared.map .ok], store) := by
    simp only [fetchTogether, List.map_cons, List.map_nil, finds]
    rfl
  rw [perform, StateT.run_bind, together]
  rfl

theorem perform_ask_error {query : Query} {error : CompileError} (fails : specification.find query = .error error) :
    (perform specification (.ask query)).run store = (.answer (some (.error error)), store) := by
  have together : (fetchTogether specification [query]).run store = ([some (.error error)], store) := by
    simp only [fetchTogether, List.map_cons, List.map_nil, fails]
    rfl
  rw [perform, StateT.run_bind, together]
  rfl

theorem perform_answers (keyed : specification.Keyed) (faithful : Faithful specification resolved store) (call : Call) :
    ∃ reply after, (perform specification call).run store = (reply, after) ∧ Answered specification after call reply ∧
      Faithful specification (resolved ++ resolve specification call) after ∧ store.Keeps after := by
  cases call with
  | ask query =>
      cases finds : specification.find query with
      | error error =>
          refine ⟨_, store, perform_ask_error finds, ⟨?_, ?_⟩, ?_, fun _ _ kept => kept⟩
          · simp only [FromScratch, finds]
            rfl
          · rintro _ found shared ⟨⟩ found _
            cases finds.symm.trans found
          · simp only [resolve, finds]
            exact (List.append_nil resolved).symm ▸ faithful
      | ok found =>
          obtain ⟨shared, after, called, outcome, stored, kept, keeps⟩ :=
            faithful.call keyed (Specification.declares_of_find finds)
          refine ⟨.answer (some (.ok shared)), after, ?_, ⟨?_, ?_⟩, ?_, keeps⟩
          · rw [perform_ask finds, called]
            rfl
          · simp only [FromScratch, finds]
            exact congrArg (fun result => some (Except.ok result)) outcome
          · rintro _ other sharedToo ⟨⟩ found same
            cases finds.symm.trans found
            cases same
            exact stored
          · simp only [resolve, finds]
            exact kept
  | buildAll =>
      obtain ⟨after, ran, kept, keeps⟩ := Serves.buildAll keyed resolved store faithful
      refine ⟨.report specification.report, after, ?_, ⟨rfl, ?_⟩, kept, keeps⟩
      · rw [perform, StateT.run_bind, ran]
        rfl
      · rintro _ _ _ ⟨⟩

theorem calls_answered (keyed : specification.Keyed) (faithful : Faithful specification resolved store)
    (calls : List Call) : ∃ replies after, (calls.mapM (perform specification)).run store = (replies, after) ∧
      List.Forall₂ (Answered specification after) calls replies ∧
      Faithful specification (resolved ++ calls.flatMap (resolve specification)) after ∧ store.Keeps after := by
  induction calls generalizing resolved store with
  | nil => exact ⟨[], store, rfl, .nil, (List.append_nil resolved).symm ▸ faithful, fun _ _ kept => kept⟩
  | cons call rest ih =>
      obtain ⟨reply, middle, ran, answered, kept, keeps⟩ := perform_answers keyed faithful call
      obtain ⟨replies, after, ranRest, answeredRest, keptRest, keepsRest⟩ := ih kept
      refine ⟨reply :: replies, after, ?_,
        .cons ⟨answered.fromScratch, fun query found shared asked finds same => ?_⟩ answeredRest, ?_,
        fun key shared finished => keepsRest _ _ (keeps _ _ finished)⟩
      · rw [List.mapM_cons, StateT.run_bind, ran]
        change (StateT.run (rest.mapM (perform specification) >>=
          fun replies => Pure.pure (reply :: replies)) middle) = _
        rw [StateT.run_bind, ranRest]
        rfl
      · exact keepsRest _ _ (answered.stored query found shared asked finds same)
      · rw [List.flatMap_cons, ← List.append_assoc]
        exact keptRest

theorem Faithful.builds_eq (faithful : Faithful specification resolved store) :
    store.builds = (resolved.map Found.key).dedup.length := by
  rw [faithful.counted]
  refine ((List.perm_ext_iff_of_nodup faithful.distinct (List.nodup_dedup _)).mpr fun key => ?_).length_eq
  rw [faithful.keys, List.mem_dedup, List.mem_map]

/-- What two calls share is built once, exactly if they find the same. -/
theorem Faithful.build_eq_iff (keyed : specification.Keyed) (faithful : Faithful specification resolved store)
    {found other : Found} (declared : specification.Declares found) (declaredToo : specification.Declares other)
    {shared sharedToo : Shared (Except Interruption MessageValidator)} (first : store.get? found.key = some shared)
    (second : store.get? other.key = some sharedToo) : shared.build = sharedToo.build ↔ found = other := by
  constructor
  · intro same
    exact keyed.apart _ _ declared declaredToo (faithful.apart _ _ _ _ first second same)
  · rintro rfl
    rw [Option.some.inj (first.symm.trans second)]

theorem transparent_of_keyed (keyed : specification.Keyed) (calls : List Call) :
    ∃ replies store, (calls.mapM (perform specification)).run {} = (replies, store) ∧
      Transparent specification calls replies store := by
  obtain ⟨replies, store, ran, answered, faithful, _⟩ := calls_answered keyed (.empty specification) calls
  rw [List.nil_append] at faithful
  have stored {place : Nat} {query : Query} {shared : Shared (Except Interruption MessageValidator)}
      (asked : calls[place]? = some (.ask query)) (replied : replies[place]? = some (.answer (some (.ok shared)))) :
      ∃ found, specification.find query = .ok found ∧ store.get? found.key = some shared := by
    have answer := List.Forall₂.of_getElem? answered asked replied
    cases finds : specification.find query with
    | error error =>
        have scratch := answer.fromScratch
        simp only [FromScratch, finds] at scratch
        cases scratch
    | ok found => exact ⟨found, rfl, answer.stored query found shared rfl finds rfl⟩
  refine ⟨replies, store, ran, answered.imp fun _ _ answer => answer.fromScratch, ?_, faithful.builds_eq, ?_⟩
  · intro first second query other shared sharedToo asked askedToo replied repliedToo
    obtain ⟨found, finds, kept⟩ := stored asked replied
    obtain ⟨foundToo, findsToo, keptToo⟩ := stored askedToo repliedToo
    rw [finds, findsToo, Except.ok.injEq]
    exact faithful.build_eq_iff keyed (Specification.declares_of_find finds) (Specification.declares_of_find findsToo)
      kept keptToo
  · intro query
    cases finds : specification.find query with
    | error error =>
        obtain ⟨after, ran, _⟩ := Serves.fetch_error finds _ store faithful
        rw [ran]
    | ok found =>
        obtain ⟨after, ran, _⟩ := Serves.fetch keyed finds _ store faithful
        rw [ran]

/-- In a specification that was built from documents with plain addresses, any calls get what they would get without a
store. -/
theorem store_transparent {passes : List Pass} {settings : Settings} {documents : DocumentSet}
    (plain : ∀ pass ∈ passes, pass.Plain) (distinct : documents.urls.Nodup)
    (addresses : ∀ url ∈ documents.urls, '#' ∉ url.toList)
    (unique : ∀ entry ∈ documents.documents, entry.2.hasUniqueKeys = true)
    (built : (Specification.build passes settings documents).outcome = .ok specification) (calls : List Call) :
    ∃ replies store, (calls.mapM (perform specification)).run {} = (replies, store) ∧
      Transparent specification calls replies store := by
  have located := Specification.build_located plain distinct unique built
  exact transparent_of_keyed (Specification.keyed_of_located located addresses) calls

/-- An operation whose other statuses fall back to the default one, and one with a parameter that has no name. -/
def shelfDocuments : DocumentSet :=
  let described : Value := .object [("description", .string "A shelf.")]
  let list : Value := .object [("operationId", .string "list"),
    ("responses", .object [("200", described), ("default", described)])]
  let clear : Value := .object [("operationId", .string "clear"),
    ("parameters", .array [.object [("in", .string "query"), ("type", .string "string")]])]
  { documents := [("/shelf.json",
      .object [("paths", .object [("/shelf", .object [("get", list), ("delete", clear)])])])]
    roots := ["/shelf.json"] }

def shelf : Specification :=
  (Specification.build Pass.builtIn {} shelfDocuments).outcome.toOption.getD
    { draft := {}, suppressions := {}, skipTrivialParameters := true }

/-- Two statuses for which the default response is declared, all validators, and the first status again. -/
def shelfCalls : List Call :=
  [.ask (.response "list" "404"), .ask (.response "/shelf.json#/paths/~1shelf/get" "500"), .buildAll,
    .ask (.response "list" "404"), .ask (.request "borrow")]

/-- The two statuses share a validator, and four validators are built in all. -/
theorem store_transparent_shelf :
    (Specification.build Pass.builtIn {} shelfDocuments).outcome = .ok shelf ∧
      ∃ replies store, (shelfCalls.mapM (perform shelf)).run {} = (replies, store) ∧
        Transparent shelf shelfCalls replies store ∧ store.builds = 4 := by
  have built : (Specification.build Pass.builtIn {} shelfDocuments).outcome = .ok shelf :=
    Except.eq_ok_getD _ (by decide +kernel)
  have distinct : shelfDocuments.urls.Nodup := by decide
  have addresses : ∀ url ∈ shelfDocuments.urls, '#' ∉ url.toList := by decide
  have unique : ∀ entry ∈ shelfDocuments.documents, entry.2.hasUniqueKeys = true := by decide +kernel
  have count : ((shelfCalls.mapM (perform shelf)).run {}).2.builds = 4 := by decide +kernel
  obtain ⟨replies, store, ran, transparent⟩ :=
    store_transparent (fun _ member => .inl member) distinct addresses unique built shelfCalls
  rw [ran] at count
  exact ⟨built, replies, store, ran, transparent, count⟩

end ValidatorStore

end ApiContract
