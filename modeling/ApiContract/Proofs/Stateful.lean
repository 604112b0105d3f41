/-!
Runs of computations with a state that may have no answer. `Threaded` records what a step gave for
every item of a list and the states in between; runs of `mapM` are exactly these. `Answers` says that
there is an answer.
-/

namespace ApiContract

variable {α β σ ε : Type}

theorem Except.bind_eq_ok (first : Except ε α) (next : α → Except ε β) (answer : β) :
    (first >>= next) = .ok answer ↔ ∃ value, first = .ok value ∧ next value = .ok answer := by
  cases first with
  | error reason => simp [bind, Except.bind]
  | ok value => simp [bind, Except.bind]

theorem Except.bind_eq_error (first : Except ε α) (next : α → Except ε β) (reason : ε) :
    (first >>= next) = .error reason ↔
      first = .error reason ∨ ∃ value, first = .ok value ∧ next value = .error reason := by
  cases first with
  | error other => simp [bind, Except.bind]
  | ok value => simp [bind, Except.bind]

theorem Except.eq_ok_of_toOption {answer : Except ε α} {result : α} (ends : answer.toOption = some result) :
    answer = .ok result := by
  cases answer with
  | error reason => cases ends
  | ok _ => rw [Option.some.inj ends]

theorem Except.eq_ok_getD {answer : Except ε α} (default : α) (ends : answer.toOption.isSome = true) :
    answer = .ok (answer.toOption.getD default) := by
  cases answer with
  | error reason => cases ends
  | ok value => rfl

theorem Except.exists_of_mem_mapM {items : List α} {make : α → Except ε β} {results : List β} {result : β}
    (made : items.mapM make = .ok results) (member : result ∈ results) : ∃ item ∈ items, make item = .ok result := by
  induction items generalizing results with
  | nil =>
      cases made
      cases member
  | cons item rest ih =>
      rw [List.mapM_cons] at made
      obtain ⟨first, madeFirst, others⟩ := (bind_eq_ok _ _ _).mp made
      obtain ⟨later, madeRest, made⟩ := (bind_eq_ok _ _ _).mp others
      cases made
      rcases List.mem_cons.mp member with rfl | among
      · exact ⟨item, List.mem_cons_self, madeFirst⟩
      · obtain ⟨other, amongRest, madeOther⟩ := ih madeRest among
        exact ⟨other, List.mem_cons_of_mem _ amongRest, madeOther⟩

theorem Except.exists_mapM_iff {items : List α} {make : α → Except ε β} :
    (∃ results, items.mapM make = .ok results) ↔ ∀ item ∈ items, ∃ result, make item = .ok result := by
  induction items with
  | nil => exact ⟨fun _ => nofun, fun _ => ⟨[], rfl⟩⟩
  | cons item rest ih =>
      rw [List.mapM_cons, List.forall_mem_cons, ← ih]
      constructor
      · rintro ⟨results, made⟩
        obtain ⟨first, madeFirst, others⟩ := (bind_eq_ok _ _ _).mp made
        obtain ⟨later, madeRest, _⟩ := (bind_eq_ok _ _ _).mp others
        exact ⟨⟨first, madeFirst⟩, later, madeRest⟩
      · rintro ⟨⟨first, madeFirst⟩, later, madeRest⟩
        exact ⟨first :: later, (bind_eq_ok _ _ _).mpr ⟨first, madeFirst, (bind_eq_ok _ _ _).mpr ⟨later, madeRest, rfl⟩⟩⟩

theorem StateT.run_bind_eq_some (first : StateT σ Option α) (next : α → StateT σ Option β)
    (before : σ) (answer : β × σ) :
    (first >>= next).run before = some answer ↔
      ∃ value middle, first.run before = some (value, middle) ∧
        (next value).run middle = some answer := by
  simp [StateT.run_bind, Option.bind_eq_some_iff]

theorem StateT.run_bind_eq_ok (first : StateT σ (Except ε) α) (next : α → StateT σ (Except ε) β)
    (before : σ) (answer : β × σ) :
    (first >>= next).run before = .ok answer ↔
      ∃ value middle, first.run before = .ok (value, middle) ∧
        (next value).run middle = .ok answer := by
  rw [StateT.run_bind]
  cases ran : first.run before with
  | error reason => simp [bind, Except.bind]
  | ok pair =>
      obtain ⟨value, middle⟩ := pair
      constructor
      · intro later
        exact ⟨value, middle, rfl, later⟩
      · rintro ⟨_, _, ⟨⟩, later⟩
        exact later

theorem StateT.run_bind_eq_error (first : StateT σ (Except ε) α) (next : α → StateT σ (Except ε) β)
    (before : σ) (reason : ε) :
    (first >>= next).run before = .error reason ↔
      first.run before = .error reason ∨
        ∃ value middle, first.run before = .ok (value, middle) ∧ (next value).run middle = .error reason := by
  rw [StateT.run_bind, Except.bind_eq_error, Prod.exists]

theorem StateT.run_pure_eq_some (value : α) (before : σ) (answer : α × σ) :
    (pure value : StateT σ Option α).run before = some answer ↔ (value, before) = answer := by
  simp

/-- A step is taken for each item in order, from the state that the one before left. -/
inductive Threaded (step : α → σ → β → σ → Prop) : List α → σ → List β → σ → Prop
  | nil {state} : Threaded step [] state [] state
  | cons {item rest result results before middle after} :
      step item before result middle → Threaded step rest middle results after →
      Threaded step (item :: rest) before (result :: results) after

namespace Threaded

variable {step : α → σ → β → σ → Prop}

theorem of_mapM (visit : α → StateT σ Option β) (items : List α) (before : σ) (results : List β)
    (after : σ) :
    (items.mapM visit).run before = some (results, after) ↔
      Threaded (fun item before result after => (visit item).run before = some (result, after))
        items before results after := by
  induction items generalizing before results after with
  | nil =>
      rw [List.mapM_nil, StateT.run_pure_eq_some]
      constructor
      · rintro ⟨⟩
        exact .nil
      · rintro ⟨⟩
        rfl
  | cons item rest ih =>
      simp only [List.mapM_cons, StateT.run_bind_eq_some, StateT.run_pure_eq_some, ih,
        Prod.mk.injEq]
      constructor
      · rintro ⟨result, middle, first, later, last, ran, rfl, rfl⟩
        exact .cons first ran
      · rintro (_ | ⟨first, ran⟩)
        exact ⟨_, _, first, _, _, ran, rfl, rfl⟩

theorem keeps {holds : σ → Prop} {items : List α} {before after : σ} {results : List β}
    (run : Threaded step items before results after)
    (kept : ∀ item ∈ items, ∀ before result after,
      step item before result after → holds before → holds after)
    (start : holds before) : holds after := by
  induction run with
  | nil => exact start
  | cons first _ ih =>
      exact ih (fun item member => kept item (List.mem_cons_of_mem _ member))
        (kept _ List.mem_cons_self _ _ _ first start)

theorem exists_step {items : List α} {before after : σ} {results : List β}
    (run : Threaded step items before results after) {result : β} (member : result ∈ results) :
    ∃ item ∈ items, ∃ before after, step item before result after := by
  induction run with
  | nil => cases member
  | cons first _ ih =>
      rcases List.mem_cons.mp member with rfl | later
      · exact ⟨_, List.mem_cons_self, _, _, first⟩
      · obtain ⟨item, among, before, after, taken⟩ := ih later
        exact ⟨item, List.mem_cons_of_mem _ among, before, after, taken⟩

theorem exists_result {items : List α} {before after : σ} {results : List β}
    (run : Threaded step items before results after) {item : α} (member : item ∈ items) :
    ∃ result ∈ results, ∃ before after, step item before result after := by
  induction run with
  | nil => cases member
  | cons first _ ih =>
      rcases List.mem_cons.mp member with rfl | later
      · exact ⟨_, List.mem_cons_self, _, _, first⟩
      · obtain ⟨result, among, before, after, taken⟩ := ih later
        exact ⟨result, List.mem_cons_of_mem _ among, before, after, taken⟩

theorem results {good : β → Prop} {items : List α} {before after : σ} {answers : List β}
    (run : Threaded step items before answers after)
    (each : ∀ item ∈ items, ∀ before result after, step item before result after → good result) :
    ∀ result ∈ answers, good result := by
  induction run with
  | nil => simp
  | cons first _ ih =>
      rw [List.forall_mem_cons]
      exact ⟨each _ List.mem_cons_self _ _ _ first,
        ih fun item member => each item (List.mem_cons_of_mem _ member)⟩

end Threaded

/-- From every state with a property there is an answer, in a state that has it too. -/
def Answers (holds : σ → Prop) (computation : StateT σ Option α) : Prop :=
  ∀ before, holds before → ∃ result after, computation.run before = some (result, after) ∧ holds after

namespace Answers

variable {holds : σ → Prop}

theorem pure (result : α) : Answers holds (pure result) :=
  fun before start => ⟨result, before, rfl, start⟩

theorem get : Answers holds (get : StateT σ Option σ) :=
  fun before start => ⟨before, before, rfl, start⟩

theorem modify {change : σ → σ} (kept : ∀ before, holds before → holds (change before)) :
    Answers holds (modify change : StateT σ Option PUnit) :=
  fun before start => ⟨⟨⟩, change before, rfl, kept before start⟩

theorem bind {first : StateT σ Option α} {next : α → StateT σ Option β} (answers : Answers holds first)
    (answersNext : ∀ result, Answers holds (next result)) : Answers holds (first >>= next) := by
  intro before start
  obtain ⟨result, middle, ran, kept⟩ := answers before start
  obtain ⟨last, after, ranNext, keptNext⟩ := answersNext result middle kept
  exact ⟨last, after, (StateT.run_bind_eq_some _ _ _ _).mpr ⟨result, middle, ran, ranNext⟩, keptNext⟩

theorem mapM {items : List α} {visit : α → StateT σ Option β}
    (each : ∀ item ∈ items, Answers holds (visit item)) : Answers holds (items.mapM visit) := by
  induction items with
  | nil =>
      rw [List.mapM_nil]
      exact .pure _
  | cons item rest ih =>
      rw [List.mapM_cons]
      refine .bind (each item List.mem_cons_self) fun _ => ?_
      exact .bind (ih fun item member => each item (List.mem_cons_of_mem _ member)) fun _ => .pure _

theorem forM {items : List β} {visit : β → StateT σ Option PUnit} (each : ∀ item ∈ items, Answers holds (visit item)) :
    Answers holds (items.forM visit) := by
  induction items with
  | nil => exact .pure _
  | cons item rest ih =>
      rw [List.forM]
      exact .bind (each item List.mem_cons_self) fun _ => ih fun item member => each item (List.mem_cons_of_mem _ member)

theorem foldlM {items : List β} {visit : α → β → StateT σ Option α}
    (each : ∀ item ∈ items, ∀ state, Answers holds (visit state item)) (start : α) :
    Answers holds (items.foldlM visit start) := by
  induction items generalizing start with
  | nil => exact .pure start
  | cons item rest ih =>
      rw [List.foldlM_cons]
      refine .bind (each item List.mem_cons_self start) fun _ => ?_
      exact ih (fun item member => each item (List.mem_cons_of_mem _ member)) _

end Answers

end ApiContract
