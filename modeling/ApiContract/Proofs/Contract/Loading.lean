import Mathlib.Data.Finset.Dedup
import Mathlib.Data.Set.Finite.Basic
import ApiContract.DocumentSet
import ApiContract.Proofs.Json.Parts
import ApiContract.Proofs.Url

/-!
Loading what documents refer to (`loading_reaches_closure`). Loading always takes the first of the targets that are still
to be looked at and is wanted. A fetch that answers a document makes one target less to be asked for, one that answers none
leaves fewer targets to look at, so loading ends; and then nothing that a document refers to was left unasked.
-/

namespace ApiContract

open Json (Value)

namespace DocumentSet

variable {set : DocumentSet} {url target : String} {document : Value}

mutual

theorem mem_externalReferences : ∀ {value : Value} {reference : String}, reference ∈ externalReferences value ↔
    (Url.splitReference reference).1 ≠ "" ∧ ∃ part ∈ value.parts, part.stringAt? "$ref" = some reference
  | .object entries, reference => by
      rw [externalReferences, List.mem_append, mem_externalReferencesOfEntries, Value.parts]
      constructor
      · rintro (own | ⟨outside, part, inside, written⟩)
        · split at own
          next written found =>
            split at own
            next outside =>
              obtain rfl := List.mem_singleton.mp own
              exact ⟨outside, _, List.mem_cons_self, found⟩
            next => cases own
          next => cases own
        · exact ⟨outside, part, List.mem_cons_of_mem _ inside, written⟩
      · rintro ⟨outside, part, inside, written⟩
        rcases List.mem_cons.mp inside with rfl | later
        · have found : (Assoc.find? entries "$ref").bind Value.asString? = some reference := written
          left
          rw [found]
          simp [outside]
        · exact .inr ⟨outside, part, later, written⟩
  | .array items, reference => by
      rw [externalReferences, mem_externalReferencesOfItems, Value.parts]
      refine and_congr_right fun _ => ?_
      simp [Value.stringAt?, Value.find?]
  | .null, _ | .bool _, _ | .number _, _ | .string _, _ => by
      simp [externalReferences, Value.parts, Value.stringAt?, Value.find?]

theorem mem_externalReferencesOfItems : ∀ {items : List Value} {reference : String},
    reference ∈ externalReferencesOfItems items ↔ (Url.splitReference reference).1 ≠ "" ∧
      ∃ part ∈ Value.partsOfItems items, part.stringAt? "$ref" = some reference
  | [], _ => by simp [externalReferencesOfItems, Value.partsOfItems]
  | item :: rest, reference => by
      rw [externalReferencesOfItems, List.mem_append, mem_externalReferences, mem_externalReferencesOfItems,
        Value.partsOfItems, ← and_or_left]
      simp only [List.mem_append, or_and_right, exists_or]

theorem mem_externalReferencesOfEntries : ∀ {entries : List (String × Value)} {reference : String},
    reference ∈ externalReferencesOfEntries entries ↔ (Url.splitReference reference).1 ≠ "" ∧
      ∃ part ∈ Value.partsOfEntries entries, part.stringAt? "$ref" = some reference
  | [], _ => by simp [externalReferencesOfEntries, Value.partsOfEntries]
  | (_, value) :: rest, reference => by
      rw [externalReferencesOfEntries, List.mem_append, mem_externalReferences, mem_externalReferencesOfEntries,
        Value.partsOfEntries, ← and_or_left]
      simp only [List.mem_append, or_and_right, exists_or]

end

theorem normalize_of_mem_externalTargets (member : target ∈ externalTargets url document) :
    Url.normalize target = target := by
  obtain ⟨reference, listed, rfl⟩ := List.mem_map.mp member
  exact Url.normalize_join url (mem_externalReferences.mp listed).1

/-- The targets of a document that may be absent. -/
def targetsAt (set : DocumentSet) (url : String) : List String :=
  match set.get? url with
  | some document => externalTargets url document
  | none => []

theorem contains_iff : set.contains url = true ↔ ∃ document, set.get? url = some document :=
  Option.isSome_iff_exists

namespace Loading

variable {loading : Loading}

def pending (loading : Loading) : List String :=
  loading.targets ++ loading.queue.flatMap loading.documents.targetsAt

/-- A search through targets: it stops at the first that is wanted, or none is. -/
inductive Found (loading : Loading) (targets : List String) : Loading × Option String → Prop
  | target {passed target later} : later.documents = loading.documents → later.attempted = loading.attempted →
      (∀ url ∈ later.queue, url ∈ loading.queue) → targets = passed ++ target :: later.pending →
      (∀ other ∈ passed, loading.wanted other = false) → loading.wanted target = true →
      Found loading targets (later, some target)
  | none {last} : last.documents = loading.documents → last.attempted = loading.attempted →
      (∀ target ∈ targets, loading.wanted target = false) → Found loading targets (last, none)

theorem Found.skip {targets front : List String} {answer : Loading × Option String} (found : Found loading targets answer)
    (unwanted : ∀ other ∈ front, loading.wanted other = false) : Found loading (front ++ targets) answer := by
  cases found with
  | target documents attempted queued listed passed wanted =>
      refine .target documents attempted queued ?_ (List.forall_mem_append.mpr ⟨unwanted, passed⟩) wanted
      rw [listed, List.append_assoc]
  | none documents attempted others => exact .none documents attempted (List.forall_mem_append.mpr ⟨unwanted, others⟩)

theorem exists_dropWhile (loading : Loading) (targets : List String) :
    ∃ passed, targets = passed ++ targets.dropWhile (fun target => !loading.wanted target) ∧
      ∀ other ∈ passed, loading.wanted other = false := by
  refine ⟨targets.takeWhile fun target => !loading.wanted target, List.takeWhile_append_dropWhile.symm, ?_⟩
  intro target member
  simpa using List.mem_takeWhile_imp member

theorem wanted_of_dropWhile {targets others : List String}
    (left : targets.dropWhile (fun target => !loading.wanted target) = target :: others) :
    loading.wanted target = true := by
  have head := List.head?_dropWhile_not (fun target => !loading.wanted target) targets
  rw [left] at head
  simpa using head

theorem searchQueue_cons (loading : Loading) (url : String) (rest : List String) :
    loading.searchQueue (url :: rest) =
      match (loading.documents.targetsAt url).dropWhile (fun target => !loading.wanted target) with
      | [] => loading.searchQueue rest
      | target :: others => ({ loading with queue := rest, targets := others }, some target) := rfl

theorem searchQueue_found (queue : List String) (inside : ∀ url ∈ queue, url ∈ loading.queue) :
    Found loading (queue.flatMap loading.documents.targetsAt) (loading.searchQueue queue) := by
  induction queue with
  | nil => exact .none rfl rfl fun _ listed => absurd listed List.not_mem_nil
  | cons url rest ih =>
      have kept : ∀ other ∈ rest, other ∈ loading.queue := fun other member => inside other (List.mem_cons_of_mem _ member)
      obtain ⟨passed, listed, unwanted⟩ := loading.exists_dropWhile (loading.documents.targetsAt url)
      rw [searchQueue_cons, List.flatMap_cons]
      split
      next none =>
        rw [none, List.append_nil] at listed
        rw [listed]
        exact (ih kept).skip unwanted
      next target others left =>
        rw [left] at listed
        refine .target rfl rfl kept ?_ unwanted (wanted_of_dropWhile left)
        rw [listed, pending]
        simp

theorem next_found (loading : Loading) : Found loading loading.pending loading.next := by
  obtain ⟨passed, listed, unwanted⟩ := loading.exists_dropWhile loading.targets
  rw [next, pending]
  split
  next none =>
    rw [none, List.append_nil] at listed
    rw [listed]
    exact (searchQueue_found loading.queue fun _ => id).skip unwanted
  next target others left =>
    rw [left] at listed
    refine .target rfl rfl (fun _ => id) ?_ unwanted (wanted_of_dropWhile left)
    rw [listed, pending]
    simp

/-! ## Runs -/

/-- Asks for a target and keeps what was answered. -/
def recording {σ : Type} (fetch : String → StateM σ (Option Value)) (target : String) :
    StateM (σ × List (String × Option Value)) (Option Value) := fun (state, calls) =>
  let (fetched, later) := (fetch target).run state
  (fetched, later, calls ++ [(target, fetched)])

/-- A whole run of loading, with the calls of the fetcher. -/
inductive Runs {σ : Type} (fetch : String → StateM σ (Option Value)) :
    Loading → σ → List (String × Option Value) → Loading → σ → Prop
  | done {loading last state} : loading.next = (last, none) → Runs fetch loading state [] last state
  | ask {loading later target state middle fetched calls last final} : loading.next = (later, some target) →
      (fetch target).run state = (fetched, middle) → Runs fetch (later.supply target fetched) middle calls last final →
      Runs fetch loading state ((target, fetched) :: calls) last final

variable {σ : Type} {fetch : String → StateM σ (Option Value)} {state final : σ} {last : Loading}
  {calls : List (String × Option Value)}

theorem run_of_done {m : Type → Type} [Monad m] {ask : String → m (Option Value)} (ends : loading.next = (last, none))
    (limit : Nat) : run ask (limit + 1) loading = pure (some last) := by
  rw [run, ends]

theorem run_of_ask {m : Type → Type} [Monad m] {ask : String → m (Option Value)} {later : Loading}
    (asks : loading.next = (later, some target)) (limit : Nat) :
    run ask (limit + 1) loading = (ask target >>= fun fetched => run ask limit (later.supply target fetched)) := by
  rw [run, asks]

theorem run_bind_of_run {σ α β : Type} {first : StateM σ α} {next : α → StateM σ β} {before middle : σ} {answer : α}
    (ran : first.run before = (answer, middle)) : (first >>= next).run before = (next answer).run middle := by
  rw [StateT.run_bind, ran]
  rfl

/-- A recorded run makes the calls, and answers what it answers unrecorded. -/
theorem Runs.run_eq (runs : Runs fetch loading state calls last final) {limit : Nat} (enough : calls.length < limit) :
    (run fetch limit loading).run state = (some last, final) ∧
      ∀ before, (run (recording fetch) limit loading).run (state, before) = (some last, final, before ++ calls) := by
  obtain ⟨more, rfl⟩ : ∃ more, limit = more + 1 := ⟨limit - 1, by omega⟩
  induction runs generalizing more with
  | done ends =>
      rw [run_of_done ends, run_of_done ends]
      refine ⟨rfl, fun before => ?_⟩
      rw [List.append_nil]
      rfl
  | @ask loading later target state middle fetched calls last final asks answered _ ih =>
      obtain ⟨less, rfl⟩ : ∃ less, more = less + 1 := ⟨more - 1, by simp at enough; omega⟩
      obtain ⟨plain, recorded⟩ := ih less (by simpa using enough)
      constructor
      · rw [run_of_ask asks, run_bind_of_run answered]
        exact plain
      · intro before
        have kept : (recording fetch target).run (state, before) = (fetched, middle, before ++ [(target, fetched)]) := by
          rw [StateT.run, recording, answered]
        rw [run_of_ask asks, run_bind_of_run kept, recorded, List.append_assoc, List.singleton_append]

theorem run_of_le {limit enough : Nat} (ran : (run fetch limit loading).run state = (some last, final))
    (large : limit ≤ enough) : (run fetch enough loading).run state = (some last, final) := by
  induction limit generalizing enough loading state with
  | zero => cases ran
  | succ limit ih =>
      obtain ⟨more, rfl⟩ : ∃ more, enough = more + 1 := ⟨enough - 1, by omega⟩
      rcases asks : loading.next with ⟨later, _ | target⟩
      · rw [run_of_done asks] at ran ⊢
        exact ran
      · rcases answered : (fetch target).run state with ⟨fetched, middle⟩
        rw [run_of_ask asks, run_bind_of_run answered] at ran ⊢
        exact ih ran (Nat.le_of_succ_le_succ large)

/-! ## Termination -/

/-- How many addresses of the known ones were not asked for. -/
def unasked (known : Finset String) (loading : Loading) : Nat := (known \ loading.attempted.toFinset).card

theorem wanted_iff : loading.wanted target = true ↔
    loading.documents.contains target = false ∧ target ∉ loading.attempted := by
  simp [wanted]

theorem unasked_supply_le (known : Finset String) (loading : Loading) (target : String) (fetched : Option Value) :
    unasked known (loading.supply target fetched) ≤ unasked known loading := by
  apply Finset.card_le_card
  apply Finset.sdiff_subset_sdiff (Finset.Subset.refl known)
  intro url member
  cases fetched <;> simp_all [supply]

theorem unasked_supply_lt {known : Finset String} (listed : target ∈ known) (fresh : target ∉ loading.attempted)
    (fetched : Option Value) : unasked known (loading.supply target fetched) < unasked known loading := by
  apply Finset.card_lt_card
  refine Finset.ssubset_iff_of_subset ?_ |>.mpr ⟨target, ?_, ?_⟩
  · apply Finset.sdiff_subset_sdiff (Finset.Subset.refl known)
    intro url member
    cases fetched <;> simp_all [supply]
  · simp [listed, fresh]
  · cases fetched <;> simp [supply]

theorem pending_supply_none (loading : Loading) (target : String) :
    (loading.supply target none).pending = loading.pending := rfl

theorem unasked_congr (known : Finset String) {other : Loading} (same : other.attempted = loading.attempted) :
    unasked known other = unasked known loading := by
  rw [unasked, same, unasked]

/-- Loading ends where only some addresses have documents. -/
theorem exists_runs (known : Finset String)
    (finite : ∀ url state, ((fetch url).run state).1.isSome = true → url ∈ known) (loading : Loading) (state : σ) :
    ∃ calls last final, Runs fetch loading state calls last final := by
  -- A document takes an address off the known ones; without one the targets left are fewer.
  induction most : unasked known loading using Nat.strongRecOn generalizing loading state with
  | _ addresses outer =>
    induction size : loading.pending.length using Nat.strongRecOn generalizing loading state with
    | _ targets inner =>
      have found := loading.next_found
      rcases asks : loading.next with ⟨later, _ | target⟩
      · exact ⟨[], later, state, .done asks⟩
      · rw [asks] at found
        cases found with
        | @target passed _ _ documents attempted queued listed unwanted wanted =>
            rcases answered : (fetch target).run state with ⟨fetched, middle⟩
            have same := unasked_congr known attempted
            have onward : ∃ calls last final, Runs fetch (later.supply target fetched) middle calls last final := by
              cases fetched with
              | none =>
                  have kept : unasked known (later.supply target none) ≤ addresses := by
                    have bound := unasked_supply_le known later target none
                    omega
                  have fewer : (later.supply target none).pending.length < targets := by
                    rw [pending_supply_none, ← size, listed]
                    simp
                    omega
                  rcases Nat.lt_or_eq_of_le kept with less | equal
                  · exact outer _ less _ _ rfl
                  · exact inner _ fewer _ _ equal rfl
              | some document =>
                  have known : target ∈ known := finite target state (by rw [answered]; rfl)
                  have fresh : target ∉ later.attempted := attempted ▸ (wanted_iff.mp wanted).2
                  have less := unasked_supply_lt known fresh (some document)
                  exact outer _ (by omega) _ _ rfl
            obtain ⟨calls, last, final, runs⟩ := onward
            exact ⟨_, last, final, .ask asks answered runs⟩

/-! ## What is loaded -/

def answers (calls : List (String × Option Value)) : Assoc Value :=
  calls.filterMap fun call => call.2.map fun document => (call.1, document)

theorem answers_append (calls more : List (String × Option Value)) :
    answers (calls ++ more) = answers calls ++ answers more := List.filterMap_append

/-- No call asks for what an earlier call asked for or what is present. -/
def Fresh (set : DocumentSet) (calls : List (String × Option Value)) : Prop :=
  ∀ earlier target fetched later, calls = earlier ++ (target, fetched) :: later →
    target ∉ earlier.map Prod.fst ∧ Assoc.contains (set.documents ++ answers earlier) target = false

theorem Fresh.append {fetched : Option Value} (fresh : Fresh set calls) (new : target ∉ calls.map Prod.fst)
    (absent : Assoc.contains (set.documents ++ answers calls) target = false) :
    Fresh set (calls ++ [(target, fetched)]) := by
  intro earlier other answer rest split
  rcases rest.eq_nil_or_concat with rfl | ⟨rest, final, rfl⟩
  · obtain ⟨rfl, same⟩ := List.append_inj' split rfl
    cases same
    exact ⟨new, absent⟩
  · rw [List.concat_eq_append, ← List.cons_append, ← List.append_assoc] at split
    obtain ⟨rfl, -⟩ := List.append_inj' split rfl
    exact fresh earlier other answer rest rfl

theorem Fresh.of_prefix {later : List (String × Option Value)} (fresh : Fresh set (calls ++ later)) : Fresh set calls := by
  rintro earlier target fetched rest rfl
  exact fresh earlier target fetched (rest ++ later) (by simp)

theorem Fresh.nodup (fresh : Fresh set calls) : (calls.map Prod.fst).Nodup := by
  induction calls using List.reverseRecOn with
  | nil => exact List.nodup_nil
  | append_singleton earlier call ih =>
      rw [List.map_append, List.nodup_append]
      refine ⟨ih fresh.of_prefix, List.nodup_singleton _, ?_⟩
      rintro url asked other member rfl
      exact (fresh earlier call.1 call.2 [] rfl).1 (List.mem_singleton.mp member ▸ asked)

/-- What is so after some calls. -/
structure Sound (set : DocumentSet) (calls : List (String × Option Value)) (loading : Loading) : Prop where
  documents : loading.documents = { set with documents := set.documents ++ answers calls }
  attempted : loading.attempted = calls.map Prod.fst
  fresh : Fresh set calls
  queued : ∀ url ∈ loading.queue, loading.documents.contains url = true
  canonical : ∀ target ∈ loading.pending, Url.normalize target = target
  covered : ∀ url document, loading.documents.get? url = some document → ∀ target ∈ externalTargets url document,
    target ∈ loading.pending ∨ loading.wanted target = false

theorem targetsAt_of_get? {documents : DocumentSet} (found : documents.get? url = some document) :
    documents.targetsAt url = externalTargets url document := by
  rw [targetsAt, found]

theorem mem_urls_of_contains {documents : DocumentSet} (present : documents.contains url = true) : url ∈ documents.urls :=
  (Assoc.contains_iff_mem_keys _ _).mp present

theorem sound_start (set : DocumentSet) : Sound set [] (start set) where
  documents := by simp [start, answers]
  attempted := rfl
  fresh := by simp [Fresh]
  queued url member := (Assoc.contains_iff_mem_keys _ _).mpr member
  canonical := by
    intro target member
    simp only [pending, start, List.nil_append, List.mem_flatMap] at member
    obtain ⟨url, _, listed⟩ := member
    rw [targetsAt] at listed
    split at listed
    next => exact normalize_of_mem_externalTargets listed
    next => cases listed
  covered := by
    intro url document found target member
    left
    rw [pending, start, List.nil_append, List.mem_flatMap]
    refine ⟨url, mem_urls_of_contains (contains_iff.mpr ⟨document, found⟩), ?_⟩
    exact (targetsAt_of_get? found).symm ▸ member

section

variable {later : Loading} {passed : List String} {fetched : Option Value}

theorem wanted_eq_false_iff : loading.wanted target = false ↔
    loading.documents.contains target = true ∨ target ∈ loading.attempted := by
  cases present : loading.documents.contains target <;> simp [wanted, present]

theorem documents_supply (canonical : Url.normalize target = target) (absent : later.documents.contains target = false) :
    (later.supply target fetched).documents =
      { later.documents with documents := later.documents.documents ++ answers [(target, fetched)] } := by
  have missing : Assoc.contains later.documents.documents target = false := absent
  cases fetched with
  | none => simp [supply, answers]
  | some document => simp [supply, insertReferenced, Assoc.insertNew, canonical, missing, answers]

theorem attempted_supply (later : Loading) (target : String) (fetched : Option Value) :
    (later.supply target fetched).attempted = later.attempted ++ [target] := by
  cases fetched <;> rfl

theorem get?_supply (canonical : Url.normalize target = target) (absent : later.documents.contains target = false)
    (url : String) : (later.supply target fetched).documents.get? url =
      (later.documents.get? url).or (if url = target then fetched else none) := by
  rw [documents_supply canonical absent, get?, get?, Assoc.find?_append]
  cases fetched with
  | none => simp [answers]
  | some document =>
      by_cases same : target = url
      · simp [answers, Assoc.find?, same]
      · simp [answers, Assoc.find?, same, Ne.symm same]

theorem get?_supply_of_contains (canonical : Url.normalize target = target)
    (absent : later.documents.contains target = false) (present : later.documents.contains url = true) :
    (later.supply target fetched).documents.get? url = later.documents.get? url := by
  obtain ⟨document, found⟩ := contains_iff.mp present
  rw [get?_supply canonical absent, found, Option.some_or]

theorem get?_supply_self (canonical : Url.normalize target = target) (absent : later.documents.contains target = false) :
    (later.supply target fetched).documents.get? target = fetched := by
  have missing : later.documents.get? target = none := by
    rw [contains, Assoc.contains, Option.isSome_eq_false_iff, Option.isNone_iff_eq_none] at absent
    exact absent
  rw [get?_supply canonical absent, missing, if_pos rfl, Option.none_or]

theorem wanted_supply {other : String} (canonical : Url.normalize target = target)
    (absent : later.documents.contains target = false) (unwanted : later.wanted other = false ∨ other = target) :
    (later.supply target fetched).wanted other = false := by
  rw [wanted_eq_false_iff, attempted_supply, List.mem_append, List.mem_singleton]
  rcases unwanted with unwanted | asked
  · rcases wanted_eq_false_iff.mp unwanted with present | attempted
    · left
      rw [contains_iff, get?_supply_of_contains canonical absent present]
      exact contains_iff.mp present
    · exact .inr (.inl attempted)
  · exact .inr (.inr asked)

theorem pending_supply (fetched : Option Value) (canonical : Url.normalize target = target)
    (absent : later.documents.contains target = false)
    (queued : ∀ url ∈ later.queue, later.documents.contains url = true) :
    (later.supply target fetched).pending =
      later.pending ++ (fetched.map (externalTargets target)).getD [] := by
  have unmoved : ∀ url ∈ later.queue,
      (later.supply target fetched).documents.targetsAt url = later.documents.targetsAt url := by
    intro url member
    rw [targetsAt, get?_supply_of_contains canonical absent (queued url member), targetsAt]
  cases fetched with
  | none => rw [pending_supply_none, Option.map_none, Option.getD_none, List.append_nil]
  | some document =>
      have brought : (later.supply target (some document)).documents.targetsAt target = externalTargets target document :=
        targetsAt_of_get? (get?_supply_self canonical absent)
      have queue : (later.supply target (some document)).queue = later.queue ++ [target] := rfl
      have targets : (later.supply target (some document)).targets = later.targets := rfl
      rw [pending, queue, targets, List.flatMap_append, List.flatMap_congr unmoved, List.flatMap_singleton, brought, pending,
        List.append_assoc, Option.map_some, Option.getD_some]

theorem Sound.supply (sound : Sound set calls loading) (asks : loading.next = (later, some target))
    (fetched : Option Value) : Sound set (calls ++ [(target, fetched)]) (later.supply target fetched) := by
  have found := loading.next_found
  rw [asks] at found
  cases found with
  | @target passed _ _ documents attempted within listed unwanted wanted =>
      have canonical : Url.normalize target = target := sound.canonical target (by rw [listed]; simp)
      have missing := (wanted_iff.mp wanted).1
      have absent : later.documents.contains target = false := documents ▸ missing
      have unmoved : ∀ other, later.wanted other = loading.wanted other := by
        intro other
        rw [Loading.wanted, Loading.wanted, documents, attempted]
      have queued : ∀ url ∈ later.queue, later.documents.contains url = true :=
        fun url member => documents ▸ sound.queued url (within url member)
      have pending := pending_supply fetched canonical absent queued
      exact {
        documents := by
          rw [documents_supply canonical absent, documents, sound.documents, answers_append, List.append_assoc]
        attempted := by
          rw [attempted_supply, attempted, sound.attempted, List.map_append]
          rfl
        fresh := by
          apply sound.fresh.append
          · rw [← sound.attempted]
            exact (wanted_iff.mp wanted).2
          · rw [sound.documents] at missing
            exact missing
        queued := by
          intro url member
          rw [contains_iff, get?_supply canonical absent]
          cases fetched with
          | none =>
              obtain ⟨document, present⟩ := contains_iff.mp (queued url member)
              exact ⟨document, by rw [present, Option.some_or]⟩
          | some document =>
              rcases List.mem_append.mp member with older | newer
              · obtain ⟨document, present⟩ := contains_iff.mp (queued url older)
                exact ⟨document, by rw [present, Option.some_or]⟩
              · rw [List.mem_singleton.mp newer, ← get?_supply canonical absent, get?_supply_self canonical absent]
                exact ⟨document, rfl⟩
        canonical := by
          intro other member
          rw [pending, List.mem_append] at member
          rcases member with older | newer
          · exact sound.canonical other (by rw [listed]; simp [older])
          · cases fetched with
            | none => cases newer
            | some document => exact normalize_of_mem_externalTargets newer
        covered := by
          intro url document present other member
          rw [pending, List.mem_append]
          rw [get?_supply canonical absent, Option.or_eq_some_iff] at present
          rcases present with old | ⟨_, new⟩
          · -- what stood before the target that was asked for was not wanted, and stays so
            rcases sound.covered url document (documents ▸ old) other member with waiting | settled
            · rw [listed, List.mem_append, List.mem_cons] at waiting
              rcases waiting with skipped | rfl | left
              · exact .inr (wanted_supply canonical absent (.inl (unmoved other ▸ unwanted other skipped)))
              · exact .inr (wanted_supply canonical absent (.inr rfl))
              · exact .inl (.inl left)
            · exact .inr (wanted_supply canonical absent (.inl (unmoved other ▸ settled)))
          · split at new
            next same =>
              subst same new
              exact .inl (.inr member)
            next => cases new }

/-- What is so at the end. -/
structure Loaded (set : DocumentSet) (calls : List (String × Option Value)) (full : DocumentSet) : Prop where
  documents : full = { set with documents := set.documents ++ answers calls }
  fresh : Fresh set calls
  covered : ∀ url document, full.get? url = some document → ∀ target ∈ externalTargets url document,
    full.contains target = true ∨ target ∈ calls.map Prod.fst

theorem Sound.loaded (sound : Sound set calls loading) (ends : loading.next = (last, none)) :
    Loaded set calls last.documents := by
  have found := loading.next_found
  rw [ends] at found
  cases found with
  | none documents attempted unwanted =>
      rw [documents]
      refine ⟨sound.documents, sound.fresh, fun url document present target member => ?_⟩
      rw [← sound.attempted, ← wanted_eq_false_iff]
      rcases sound.covered url document present target member with waiting | settled
      · exact unwanted target waiting
      · exact settled

theorem Runs.loaded (runs : Runs fetch loading state calls last final) {before : List (String × Option Value)}
    (sound : Sound set before loading) : Loaded set (before ++ calls) last.documents := by
  induction runs generalizing before with
  | done ends =>
      rw [List.append_nil]
      exact sound.loaded ends
  | @ask _ _ target _ _ fetched _ _ _ asks _ _ ih =>
      have rest := ih (sound.supply asks fetched)
      rwa [List.append_assoc, List.singleton_append] at rest

theorem Loaded.settled {full : DocumentSet} (loaded : Loaded set calls full)
    (asked : target ∈ calls.map Prod.fst) : full.contains target = true ∨ (target, none) ∈ calls := by
  obtain ⟨⟨url, fetched⟩, called, rfl⟩ := List.mem_map.mp asked
  cases fetched with
  | none => exact .inr called
  | some document =>
      left
      rw [loaded.documents]
      apply (Assoc.contains_iff_mem_keys _ _).mpr
      rw [Assoc.keys, List.map_append, List.mem_append]
      exact .inr (List.mem_map.mpr ⟨(url, document), List.mem_filterMap.mpr ⟨_, called, rfl⟩, rfl⟩)

end

/-- Loading with a fetcher that knows finitely many documents ends; it asks once for what is not there and leaves nothing
that is referred to unasked. -/
theorem loading_reaches_closure {σ : Type} (set : DocumentSet) (fetch : String → StateM σ (Option Value)) (state : σ)
    (finite : {url | ∃ state, ((fetch url).run state).1.isSome = true}.Finite) :
    ∃ limit last final calls,
      (∀ enough, limit ≤ enough → (run fetch enough (start set)).run state = (some last, final) ∧
        (run (recording fetch) enough (start set)).run (state, []) = (some last, final, calls)) ∧
      (calls.map Prod.fst).Nodup ∧
      (∀ earlier target fetched later, calls = earlier ++ (target, fetched) :: later →
        Assoc.contains (set.documents ++ answers earlier) target = false) ∧
      last.documents.roots = set.roots ∧ last.documents.documents = set.documents ++ answers calls ∧
      (∀ url document, set.get? url = some document → last.documents.get? url = some document) ∧
      ∀ url document, last.documents.get? url = some document → ∀ part ∈ document.parts, ∀ reference,
        part.stringAt? "$ref" = some reference → (Url.splitReference reference).1 ≠ "" →
          last.documents.contains (Url.join url (Url.splitReference reference).1) = true ∨
            (Url.join url (Url.splitReference reference).1, none) ∈ calls := by
  obtain ⟨calls, last, final, runs⟩ := exists_runs finite.toFinset
    (fun url state found => finite.mem_toFinset.mpr ⟨state, found⟩) (start set) state
  have loaded := runs.loaded (sound_start set)
  rw [List.nil_append] at loaded
  refine ⟨calls.length + 1, last, final, calls, ?_, loaded.fresh.nodup, ?_, ?_, ?_, ?_, ?_⟩
  · intro enough large
    obtain ⟨plain, recorded⟩ := runs.run_eq (Nat.lt_of_succ_le large)
    exact ⟨plain, recorded []⟩
  · intro earlier target fetched later split
    exact (loaded.fresh earlier target fetched later split).2
  · rw [loaded.documents]
  · rw [loaded.documents]
  · intro url document present
    have found : Assoc.find? set.documents url = some document := present
    rw [loaded.documents, get?, Assoc.find?_append, found, Option.some_or]
  · intro url document present part inside reference written outside
    have listed : Url.join url (Url.splitReference reference).1 ∈ externalTargets url document :=
      List.mem_map.mpr ⟨reference, mem_externalReferences.mpr ⟨outside, part, inside, written⟩, rfl⟩
    rcases loaded.covered url document present _ listed with there | asked
    · exact .inl there
    · exact loaded.settled asked

/-- Refers to a document that refers to another, which refers back and to a missing one. -/
def chain : DocumentSet :=
  ⟨[("/specs/main.json", .object [("A", .object [("$ref", .string "a.json#/A")])])], ["/specs/main.json"]⟩

def shelf (target : String) : StateM (List String) (Option Value) := fun asked =>
  let found := match target with
    | "/specs/a.json" => some (.object [("A", .object [("$ref", .string "b.json#/B")])])
    | "/specs/b.json" => some (.object [("$ref", .string "a.json"), ("lost", .object [("$ref", .string "../c.json")])])
    | _ => none
  (found, asked ++ [target])

theorem shelf_finite : {url | ∃ state, ((shelf url).run state).1.isSome = true}.Finite := by
  apply (Set.toFinite {"/specs/a.json", "/specs/b.json"}).subset
  rintro url ⟨state, found⟩
  simp only [StateT.run, shelf.eq_def] at found
  split at found
  · exact .inl rfl
  · exact .inr rfl
  · cases found

theorem chain_reaches_closure : {url | ∃ state, ((shelf url).run state).1.isSome = true}.Finite ∧
    ∃ last calls, (run (recording shelf) 4 (start chain)).run ([], []) = (some last, calls.map Prod.fst, calls) ∧
      calls.map (fun call => (call.1, call.2.isSome)) =
        [("/specs/a.json", true), ("/specs/b.json", true), ("/c.json", false)] ∧
      ∀ url document, last.documents.get? url = some document → ∀ part ∈ document.parts, ∀ reference,
        part.stringAt? "$ref" = some reference → (Url.splitReference reference).1 ≠ "" →
          last.documents.contains (Url.join url (Url.splitReference reference).1) = true ∨
            Url.join url (Url.splitReference reference).1 = "/c.json" := by
  refine ⟨shelf_finite, ?_⟩
  obtain ⟨limit, last, final, calls, ends, _, _, _, _, _, closed⟩ := loading_reaches_closure chain shelf [] shelf_finite
  have ended : ((run (recording shelf) 4 (start chain)).run ([], [])).1.isSome = true := by decide +kernel
  have asked : ((run (recording shelf) 4 (start chain)).run ([], [])).2.1 =
      ((run (recording shelf) 4 (start chain)).run ([], [])).2.2.map Prod.fst := by decide +kernel
  have known : ((run (recording shelf) 4 (start chain)).run ([], [])).2.2.map (fun call => (call.1, call.2.isSome)) =
      [("/specs/a.json", true), ("/specs/b.json", true), ("/c.json", false)] := by decide +kernel
  rcases ran : (run (recording shelf) 4 (start chain)).run ([], []) with ⟨reached, log, record⟩
  rw [ran] at ended asked known
  obtain ⟨loaded, rfl⟩ := Option.isSome_iff_exists.mp ended
  have same := (run_of_le ran (Nat.le_max_right limit 4)).symm.trans (ends _ (Nat.le_max_left limit 4)).2
  cases same
  refine ⟨last, calls, congrArg (fun log => (some last, log, calls)) asked, known, ?_⟩
  intro url document found part inside reference written outside
  refine (closed url document found part inside reference written outside).imp_right fun missing => ?_
  have listed := List.mem_map_of_mem (f := fun call : String × Option Value => (call.1, call.2.isSome)) missing
  rw [known] at listed
  simpa using listed

end Loading

end DocumentSet

end ApiContract
