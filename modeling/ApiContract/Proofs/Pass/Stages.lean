import ApiContract.Pass.Pipeline
import ApiContract.Proofs.Schema.Given
import ApiContract.Proofs.Schema.Written

/-!
The stages of the built-in passes: what was read from the documents, what is merged, and what is finished.
-/

namespace ApiContract

open Schema.Reading (Built Ensures Grounded Moves)

namespace Pipeline

theorem perform_append_outcome (first second : List Step) (draft : Draft) :
    (perform (first ++ second) draft).outcome =
      (perform first draft).outcome >>= fun middle => (perform second middle).outcome := by
  induction first generalizing draft with
  | nil => rfl
  | cons step rest ih =>
      simp only [List.cons_append, perform]
      cases step.perform draft with
      | error error => rfl
      | ok middle => exact ih middle

theorem perform_global_cons (pass : Pass) (run : Draft → Except Interruption Draft)
    (action : pass.action = .global run) (rest : List Step) (draft : Draft) :
    (perform (⟨pass, none⟩ :: rest) draft).outcome = run draft >>= fun next => (perform rest next).outcome := by
  simp only [perform, Step.perform, action]
  cases run draft <;> rfl

theorem exists_outcome {steps : List Step} (each : ∀ step ∈ steps, ∀ draft, ∃ next, step.perform draft = .ok next)
    (draft : Draft) : ∃ final, (perform steps draft).outcome = .ok final := by
  induction steps generalizing draft with
  | nil => exact ⟨draft, rfl⟩
  | cons step rest ih =>
      obtain ⟨middle, performed⟩ := each step List.mem_cons_self draft
      obtain ⟨final, outcome⟩ := ih (fun later member => each later (List.mem_cons_of_mem _ member)) middle
      refine ⟨final, ?_⟩
      rw [perform, performed]
      exact outcome

theorem perform_keeps {holds : Draft → Prop} {steps : List Step}
    (keeps : ∀ step ∈ steps, ∀ before after, step.perform before = .ok after → holds before → holds after)
    {draft final : Draft} (outcome : (perform steps draft).outcome = .ok final) (start : holds draft) :
    holds final := by
  induction steps generalizing draft with
  | nil =>
      cases outcome
      exact start
  | cons step rest ih =>
      rw [perform] at outcome
      cases performed : step.perform draft with
      | error error => simp [performed] at outcome
      | ok middle =>
          simp only [performed] at outcome
          exact ih (fun later member => keeps later (List.mem_cons_of_mem _ member)) outcome
            (keeps step List.mem_cons_self draft middle performed start)

end Pipeline

namespace Pass

/-- The passes over single documents, in the order in which they run. -/
def readers : List Pass := [joinPaths, spreadMediaTypes, readDocuments]

theorem builtIn_schedule :
    Schedule.ofPasses builtIn = .ok
      ⟨readers, [discoverVariants, buildTagMaps, mergeBranches, closeObjects, admitNull, loosenObjects]⟩ := by
  rfl

end Pass

namespace Draft

variable {documents : DocumentSet} {written merged final : Draft}

/-- What was read from documents before any variant was searched for. -/
def IsVisited (documents : DocumentSet) (draft : Draft) : Prop :=
  (Pipeline.run ⟨Pass.readers, []⟩ { documents }).outcome = .ok draft

/-- What was read from documents, with all variants. -/
def IsRead (documents : DocumentSet) (draft : Draft) : Prop :=
  (Pipeline.run ⟨Pass.readers, [Pass.discoverVariants]⟩ { documents }).outcome = .ok draft

/-- What was read, with tags and after inheritance. -/
def IsMerged (documents : DocumentSet) (draft : Draft) : Prop :=
  (Pipeline.run ⟨Pass.readers, [Pass.discoverVariants, Pass.buildTagMaps, Pass.mergeBranches]⟩
    { documents }).outcome = .ok draft

def IsFinished (documents : DocumentSet) (draft : Draft) : Prop :=
  ∃ schedule, Schedule.ofPasses Pass.builtIn = .ok schedule ∧
    (Pipeline.run schedule { documents }).outcome = .ok draft

/-- The stages that documents go through on the way to what is finished. -/
structure Stages (documents : DocumentSet) (written tagged merged final : Draft) : Prop where
  read : IsRead documents written
  tags : written.buildTagMaps = .ok tagged
  branches : tagged.mergeBranches = .ok merged
  merge : IsMerged documents merged
  finish : final = merged.closeObjects.admitNull.loosenObjects

theorem IsFinished.stages (finished : IsFinished documents final) :
    ∃ written tagged merged, Stages documents written tagged merged final := by
  obtain ⟨schedule, scheduled, outcome⟩ := finished
  cases Pass.builtIn_schedule.symm.trans scheduled
  simp only [Pipeline.run, Pipeline.steps, Pipeline.perform_append_outcome, Except.bind_eq_ok, List.map_cons,
    List.map_nil, Pipeline.perform_global_cons Pass.discoverVariants Draft.discoverVariants rfl,
    Pipeline.perform_global_cons Pass.buildTagMaps Draft.buildTagMaps rfl,
    Pipeline.perform_global_cons Pass.mergeBranches Draft.mergeBranches rfl] at outcome
  obtain ⟨parsed, documentsRead, written, discovered, tagged, tags, merged, branches, rest⟩ := outcome
  refine ⟨written, tagged, merged, ?_, tags, branches, ?_, ?_⟩
  · simp only [IsRead, Pipeline.run, Pipeline.steps, Pipeline.perform_append_outcome, Except.bind_eq_ok,
      List.map_cons, List.map_nil,
      Pipeline.perform_global_cons Pass.discoverVariants Draft.discoverVariants rfl]
    exact ⟨parsed, documentsRead, written, discovered, rfl⟩
  · simp only [IsMerged, Pipeline.run, Pipeline.steps, Pipeline.perform_append_outcome, Except.bind_eq_ok,
      List.map_cons, List.map_nil,
      Pipeline.perform_global_cons Pass.discoverVariants Draft.discoverVariants rfl,
      Pipeline.perform_global_cons Pass.buildTagMaps Draft.buildTagMaps rfl,
      Pipeline.perform_global_cons Pass.mergeBranches Draft.mergeBranches rfl]
    exact ⟨parsed, documentsRead, written, discovered, tagged, tags, merged, branches, rfl⟩
  · cases rest
    rfl

theorem IsRead.unique {other : Draft} (read : IsRead documents written) (readToo : IsRead documents other) :
    written = other :=
  Except.ok.inj (read.symm.trans readToo)

theorem IsMerged.unique {other : Draft} (merge : IsMerged documents merged) (mergeToo : IsMerged documents other) :
    merged = other :=
  Except.ok.inj (merge.symm.trans mergeToo)

/-- Only steps of reading were taken so far. -/
structure Fresh (draft : Draft) : Prop where
  built : Built draft.catalog
  baseSchemas : draft.baseSchemas = []

theorem reading_ensures {α : Type} {draft next : Draft} {read : Schema.Reading α} {good : Schema.Catalog → α → Prop}
    {result : α} (ensures : Ensures documents (fun _ => True) read good) (built : Built draft.catalog)
    (ran : draft.reading read = .ok (result, next)) :
    ∃ catalog, next = { draft with catalog } ∧ Moves documents draft.catalog catalog ∧ good catalog result := by
  unfold Draft.reading at ran
  split at ran
  next value catalog answered =>
    cases ran
    exact ⟨catalog, rfl, ensures _ _ _ built trivial answered⟩
  · cases ran

theorem Fresh.readDocument {url : String} {draft next : Draft} (fresh : Fresh draft)
    (ran : draft.readDocument url = .ok next) :
    Fresh next ∧ Moves draft.documents draft.catalog next.catalog := by
  unfold Draft.readDocument at ran
  split at ran
  · obtain ⟨⟨operations, middle⟩, read, answered⟩ := (Except.bind_eq_ok _ _ _).mp ran
    obtain ⟨catalog, rfl, moves, _⟩ := reading_ensures Schema.Reading.document_steps fresh.built read
    cases answered
    exact ⟨⟨fresh.built.trans moves.grows, fresh.baseSchemas⟩, moves⟩
  · cases ran
    exact ⟨fresh, .refl⟩

theorem Fresh.discoverVariants {draft next : Draft} (fresh : Fresh draft)
    (ran : draft.discoverVariants = .ok next) :
    Fresh next ∧ Moves draft.documents draft.catalog next.catalog := by
  obtain ⟨⟨added, middle⟩, read, answered⟩ := (Except.bind_eq_ok _ _ _).mp ran
  obtain ⟨catalog, rfl, moves, _⟩ := reading_ensures Schema.Reading.discover_steps fresh.built read
  cases answered
  exact ⟨⟨fresh.built.trans moves.grows, fresh.baseSchemas⟩, moves⟩

/-- The passes over single documents keep what does not depend on documents, if reading one does. -/
theorem IsVisited.keeps (holds : Draft → Prop) {visited : Draft} (isVisited : IsVisited documents visited)
    (start : holds { documents }) (edited : ∀ draft documents, holds draft → holds { draft with documents })
    (read : ∀ url before after, holds before → before.readDocument url = .ok after → holds after) : holds visited := by
  refine Pipeline.perform_keeps ?_ isVisited start
  intro step member before after performed kept
  obtain ⟨url, _, listed⟩ := List.mem_flatMap.mp ((List.mem_append.mp member).resolve_right List.not_mem_nil)
  obtain ⟨pass, among, rfl⟩ := List.mem_map.mp listed
  simp only [Pass.readers, List.mem_cons, List.not_mem_nil, or_false] at among
  rcases among with rfl | rfl | rfl
  · cases performed
    exact edited before _ kept
  · cases performed
    exact edited before _ kept
  · exact read url before after kept performed

theorem IsVisited.fresh {visited : Draft} (isVisited : IsVisited documents visited) : Fresh visited :=
  isVisited.keeps Fresh ⟨.refl, rfl⟩ (fun _ _ fresh => ⟨fresh.built, fresh.baseSchemas⟩)
    fun _ _ _ fresh ran => (fresh.readDocument ran).1

/-- The operations of a draft give schemas that are in its graph. -/
def IsGrounded (draft : Draft) : Prop :=
  ∀ operation ∈ draft.operations, Grounded draft.catalog operation

theorem IsGrounded.readDocument {url : String} {draft next : Draft} (fresh : Fresh draft) (grounded : draft.IsGrounded)
    (ran : draft.readDocument url = .ok next) : next.IsGrounded := by
  unfold Draft.readDocument at ran
  split at ran
  · obtain ⟨⟨operations, middle⟩, read, answered⟩ := (Except.bind_eq_ok _ _ _).mp ran
    obtain ⟨catalog, rfl, moves, all⟩ :=
      reading_ensures (Schema.Reading.document_grounded _ _ url) fresh.built read
    cases answered
    intro operation member
    rcases List.mem_append.mp member with old | new
    · exact Schema.Reading.grounded_lasts operation _ _ moves.grows (grounded operation old)
    · exact all operation new
  · cases ran
    exact grounded

theorem IsVisited.grounded {visited : Draft} (isVisited : IsVisited documents visited) : visited.IsGrounded := by
  refine (isVisited.keeps (fun draft => Fresh draft ∧ draft.IsGrounded) ⟨⟨.refl, rfl⟩, ?_⟩ ?_ ?_).2
  · exact fun _ listed => absurd listed List.not_mem_nil
  · exact fun _ _ both => ⟨⟨both.1.built, both.1.baseSchemas⟩, both.2⟩
  · exact fun _ _ _ both ran => ⟨(both.1.readDocument ran).1, both.2.readDocument both.1 ran⟩

theorem IsVisited.read {visited read : Draft} (isVisited : IsVisited documents visited)
    (discovered : visited.discoverVariants = .ok read) : IsRead documents read := by
  rw [IsVisited, Pipeline.run, Pipeline.steps, List.map_nil, List.append_nil] at isVisited
  simp only [IsRead, Pipeline.run, Pipeline.steps, Pipeline.perform_append_outcome, Except.bind_eq_ok, List.map_cons,
    List.map_nil, Pipeline.perform_global_cons Pass.discoverVariants Draft.discoverVariants rfl]
  exact ⟨visited, isVisited, read, discovered, rfl⟩

theorem IsRead.exists_visited (read : IsRead documents written) :
    ∃ visited, IsVisited documents visited ∧ visited.discoverVariants = .ok written := by
  simp only [IsRead, Pipeline.run, Pipeline.steps, Pipeline.perform_append_outcome, Except.bind_eq_ok, List.map_cons,
    List.map_nil, Pipeline.perform_global_cons Pass.discoverVariants Draft.discoverVariants rfl] at read
  obtain ⟨visited, documentsRead, last, discovered, same⟩ := read
  cases same
  refine ⟨visited, ?_, discovered⟩
  rwa [IsVisited, Pipeline.run, Pipeline.steps, List.map_nil, List.append_nil]

/-- What was read is finished by the passes over the whole, unless one of them fails. -/
theorem IsRead.stages {tagged : Draft} (read : IsRead documents written) (tags : written.buildTagMaps = .ok tagged)
    (branches : tagged.mergeBranches = .ok merged) :
    Stages documents written tagged merged merged.closeObjects.admitNull.loosenObjects ∧
      IsFinished documents merged.closeObjects.admitNull.loosenObjects := by
  obtain ⟨visited, isVisited, discovered⟩ := read.exists_visited
  rw [IsVisited, Pipeline.run, Pipeline.steps, List.map_nil, List.append_nil] at isVisited
  refine ⟨⟨read, tags, branches, ?_, rfl⟩, _, Pass.builtIn_schedule, ?_⟩
  · simp only [IsMerged, Pipeline.run, Pipeline.steps, Pipeline.perform_append_outcome, Except.bind_eq_ok, List.map_cons,
      List.map_nil, Pipeline.perform_global_cons Pass.discoverVariants Draft.discoverVariants rfl,
      Pipeline.perform_global_cons Pass.buildTagMaps Draft.buildTagMaps rfl,
      Pipeline.perform_global_cons Pass.mergeBranches Draft.mergeBranches rfl]
    exact ⟨visited, isVisited, written, discovered, tagged, tags, merged, branches, rfl⟩
  · simp only [Pipeline.run, Pipeline.steps, Pipeline.perform_append_outcome, Except.bind_eq_ok, List.map_cons,
      List.map_nil, Pipeline.perform_global_cons Pass.discoverVariants Draft.discoverVariants rfl,
      Pipeline.perform_global_cons Pass.buildTagMaps Draft.buildTagMaps rfl,
      Pipeline.perform_global_cons Pass.mergeBranches Draft.mergeBranches rfl]
    exact ⟨visited, isVisited, written, discovered, tagged, tags, merged, branches, rfl⟩

theorem IsRead.fresh (read : IsRead documents written) : Fresh written := by
  obtain ⟨visited, isVisited, discovered⟩ := read.exists_visited
  exact (isVisited.fresh.discoverVariants discovered).1

theorem IsRead.grounded (read : IsRead documents written) : written.IsGrounded := by
  obtain ⟨visited, isVisited, discovered⟩ := read.exists_visited
  obtain ⟨⟨_, middle⟩, ran, answered⟩ := (Except.bind_eq_ok _ _ _).mp discovered
  obtain ⟨catalog, rfl, moves, _⟩ := reading_ensures Schema.Reading.discover_steps isVisited.fresh.built ran
  cases answered
  exact fun operation member =>
    Schema.Reading.grounded_lasts operation _ _ moves.grows (isVisited.grounded operation member)

/-- What the moves of reading keep, whatever the documents are, holds of everything that is read. -/
theorem IsRead.keeps (holds : Schema.Catalog → Prop) (read : IsRead documents written) (start : holds {})
    (kept : ∀ documents before after, Moves documents before after → holds before → holds after) :
    holds written.catalog := by
  obtain ⟨visited, isVisited, discovered⟩ := read.exists_visited
  have visitedHolds : Fresh visited ∧ holds visited.catalog := by
    refine isVisited.keeps (fun draft => Fresh draft ∧ holds draft.catalog) ⟨⟨.refl, rfl⟩, start⟩ ?_ ?_
    · exact fun _ _ both => ⟨⟨both.1.built, both.1.baseSchemas⟩, both.2⟩
    · intro url before after both ran
      obtain ⟨fresh, moves⟩ := both.1.readDocument ran
      exact ⟨fresh, kept _ _ _ moves both.2⟩
  exact kept _ _ _ (visitedHolds.1.discoverVariants discovered).2 visitedHolds.2

/-- Each schema that was read is found at its place alone, and is known by no other location. -/
theorem IsRead.signed (read : IsRead documents written) : Schema.Reading.Signed written.graph :=
  read.keeps (fun catalog => Schema.Reading.Signed catalog.graph) .empty fun _ _ _ moves => moves.signed

end Draft

end ApiContract
