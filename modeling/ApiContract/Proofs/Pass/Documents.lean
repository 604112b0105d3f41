import ApiContract.Proofs.Contract.Scheduling
import ApiContract.Proofs.Pass.Heritage
import ApiContract.Proofs.Schema.Operations
import ApiContract.Specification

/-!
The passes over documents repeat no key and read every root document once, so that no two operations of a specification
come from one place (`Specification.build_located`). Plain passes add operations only by reading documents, and what is
read never takes a body for trivial (`Specification.build_checksBody`).
-/

namespace ApiContract

open Json (Value)

namespace Json.Value

variable {entries : Assoc Value} {value : Value}

theorem hasUniqueKeys_insert (unique : (Value.object entries).hasUniqueKeys = true)
    (uniqueValue : value.hasUniqueKeys = true) (key : String) :
    (Value.object (Assoc.insert entries key value)).hasUniqueKeys = true := by
  rw [hasUniqueKeys_object_iff] at unique ⊢
  refine ⟨Assoc.nodup_keys_insert value unique.1, fun entry member => ?_⟩
  rcases Assoc.mem_insert member with old | rfl
  · exact unique.2 entry old
  · exact uniqueValue

theorem hasUniqueKeys_insertNew (unique : (Value.object entries).hasUniqueKeys = true)
    (uniqueValue : value.hasUniqueKeys = true) (key : String) :
    (Value.object (Assoc.insertNew entries key value)).hasUniqueKeys = true := by
  rw [hasUniqueKeys_object_iff] at unique ⊢
  refine ⟨Assoc.nodup_keys_insertNew key value unique.1, fun entry member => ?_⟩
  rcases Assoc.mem_insertNew member with old | rfl
  · exact unique.2 entry old
  · exact uniqueValue

theorem hasUniqueKeys_modify {change : Value → Value} (unique : (Value.object entries).hasUniqueKeys = true)
    (kept : ∀ value : Value, value.hasUniqueKeys = true → (change value).hasUniqueKeys = true) (key : String) :
    (Value.object (Assoc.modify entries key change)).hasUniqueKeys = true := by
  rw [hasUniqueKeys_object_iff] at unique ⊢
  refine ⟨(Assoc.keys_modify entries key change).symm ▸ unique.1, fun entry member => ?_⟩
  obtain ⟨old, among, rfl | rfl⟩ := Assoc.mem_modify member
  · exact unique.2 _ among
  · exact kept _ (unique.2 _ among)

theorem hasUniqueKeys_swapRemove (unique : (Value.object entries).hasUniqueKeys = true) (key : String) :
    (Value.object (Assoc.swapRemove entries key)).hasUniqueKeys = true := by
  rw [hasUniqueKeys_object_iff] at unique ⊢
  exact ⟨Assoc.nodup_keys_swapRemove key unique.1, fun entry member => unique.2 entry (Assoc.mem_swapRemove member)⟩

/-- Each entry of an object is changed under its key. -/
theorem hasUniqueKeys_map {change : String × Value → Value} (unique : (Value.object entries).hasUniqueKeys = true)
    (kept : ∀ entry : String × Value, entry.2.hasUniqueKeys = true → (change entry).hasUniqueKeys = true) :
    (Value.object (entries.map fun entry => (entry.1, change entry))).hasUniqueKeys = true := by
  rw [hasUniqueKeys_object_iff] at unique ⊢
  have keys : Assoc.keys (entries.map fun entry => (entry.1, change entry)) = Assoc.keys entries := by
    simp [Assoc.keys]
  refine ⟨keys.symm ▸ unique.1, fun entry member => ?_⟩
  obtain ⟨old, among, rfl⟩ := List.mem_map.mp member
  exact kept old (unique.2 old among)

end Json.Value

namespace DocumentEdit

variable {document consumes produces : Value}

theorem joinPaths_hasUniqueKeys (unique : document.hasUniqueKeys = true) :
    (joinPaths document).hasUniqueKeys = true := by
  unfold joinPaths
  split
  next entries =>
    split
    · exact unique
    next extra found =>
      have rest := Value.hasUniqueKeys_swapRemove unique extensionPaths
      dsimp only
      split
      next added =>
        have uniqueAdded := (Value.hasUniqueKeys_object_iff.mp unique).2 _ (Assoc.mem_of_find? found)
        refine Value.hasUniqueKeys_modify (Value.hasUniqueKeys_insertNew rest rfl "paths")
          (fun value uniqueValue => ?_) _
        cases value with
        | object paths =>
            have each := (Value.hasUniqueKeys_object_iff.mp uniqueAdded).2
            clear uniqueAdded found
            dsimp only
            induction added generalizing paths with
            | nil => exact uniqueValue
            | cons entry added ih =>
                obtain ⟨first, others⟩ := List.forall_mem_cons.mp each
                exact ih _ (Value.hasUniqueKeys_insert uniqueValue first entry.1) others
        | null | bool flag | number n | string text | array items => exact uniqueValue
      · exact rest
  · exact unique

theorem withMediaTypes_hasUniqueKeys (unique : document.hasUniqueKeys = true)
    (uniqueConsumes : consumes.hasUniqueKeys = true) (uniqueProduces : produces.hasUniqueKeys = true) :
    (withMediaTypes consumes produces document).hasUniqueKeys = true := by
  unfold withMediaTypes
  split
  · exact Value.hasUniqueKeys_insertNew (Value.hasUniqueKeys_insertNew unique uniqueConsumes _) uniqueProduces _
  · exact unique

theorem itemMediaTypes_hasUniqueKeys (unique : document.hasUniqueKeys = true)
    (uniqueConsumes : consumes.hasUniqueKeys = true) (uniqueProduces : produces.hasUniqueKeys = true) :
    (itemMediaTypes consumes produces document).hasUniqueKeys = true := by
  unfold itemMediaTypes
  split
  next entries =>
    have changed (entry : String × Value) : (if Schema.Reading.methods.contains entry.1 then
          (entry.1, withMediaTypes consumes produces entry.2) else entry) =
        (entry.1, if Schema.Reading.methods.contains entry.1 then withMediaTypes consumes produces entry.2
          else entry.2) := by
      split <;> rfl
    simp only [changed]
    refine Value.hasUniqueKeys_map unique fun entry uniqueEntry => ?_
    split
    · exact withMediaTypes_hasUniqueKeys uniqueEntry uniqueConsumes uniqueProduces
    · exact uniqueEntry
  · exact unique

theorem spreadMediaTypes_hasUniqueKeys (unique : document.hasUniqueKeys = true) :
    (spreadMediaTypes document).hasUniqueKeys = true := by
  have defaults : defaultMediaTypes.hasUniqueKeys = true := rfl
  have whole := withMediaTypes_hasUniqueKeys unique defaults defaults
  unfold spreadMediaTypes
  split
  next entries same =>
    rw [same] at whole
    have found (key : String) : ((Assoc.find? entries key).getD .null).hasUniqueKeys = true := by
      cases present : Assoc.find? entries key with
      | none => rfl
      | some value => exact (Value.hasUniqueKeys_object_iff.mp whole).2 _ (Assoc.mem_of_find? present)
    refine Value.hasUniqueKeys_modify whole (fun value uniqueValue => ?_) "paths"
    cases value with
    | object paths =>
        exact Value.hasUniqueKeys_map uniqueValue fun entry uniqueEntry =>
          itemMediaTypes_hasUniqueKeys uniqueEntry (found _) (found _)
    | null | bool flag | number n | string text | array items => exact uniqueValue
  · exact whole

end DocumentEdit

theorem Pipeline.perform_cons_eq_ok {step : Step} {rest : List Step} {draft final : Draft} :
    (perform (step :: rest) draft).outcome = .ok final ↔
      ∃ middle, step.perform draft = .ok middle ∧ (perform rest middle).outcome = .ok final := by
  rw [perform]
  cases step.perform draft <;> simp

namespace Schedule

variable {passes : List Pass} {schedule : Schedule}

theorem distinct_of_ofPasses (scheduled : ofPasses passes = .ok schedule) : (passes.map (·.name)).Nodup := by
  by_contra repeats
  obtain ⟨name, first⟩ := (exists_firstRepeated_iff _).mpr repeats
  cases scheduled.symm.trans ((ofPasses_eq_duplicate_iff _ _).mpr first)

theorem perm_of_ofPasses (scheduled : ofPasses passes = .ok schedule) (scope : Scope) :
    (schedule.order scope).Perm (Schedule.members scope passes) := by
  have distinct := distinct_of_ofPasses scheduled
  exact (least_of_orderOf distinct ((ofPasses_eq_ok_iff distinct schedule).mp scheduled scope)).respects.perm

end Schedule

/-- A pass of one's own leaves the operations as they are, and no document is different after it when others are still
to be read. -/
def Pass.Spares (pass : Pass) : Prop :=
  ∀ url before after, (Pipeline.Step.mk pass url).perform before = .ok after →
    after.operations = before.operations ∧ (pass.scope = .document → after.documents = before.documents)

/-- A built-in pass, or one that leaves the operations alone. -/
def Pass.Plain (pass : Pass) : Prop := pass ∈ Pass.builtIn ∨ pass.Spares

/-- Operations that come from documents at some addresses, no two from one place. -/
structure Located (urls : List String) (operations : List Operation) : Prop where
  placed : ∀ operation ∈ operations, operation.Placed ∧ operation.url ∈ urls
  apart : (operations.map Operation.place).Nodup

namespace Located

variable {urls : List String} {operations : List Operation} {operation other : Operation}

theorem eq_of_place (located : Located urls operations) (member : operation ∈ operations)
    (memberToo : other ∈ operations)
    (same : operation.place = other.place) : operation = other :=
  List.inj_on_of_nodup_map located.apart member memberToo same

theorem append {url : String} {paths : List String} {found : List Operation} (located : Located urls operations)
    (fresh : url ∉ urls) (apart : Schema.Reading.Apart url paths found) :
    Located (url :: urls) (operations ++ found) := by
  refine ⟨fun operation member => ?_, ?_⟩
  · rcases List.mem_append.mp member with old | new
    · obtain ⟨placed, home⟩ := located.placed operation old
      exact ⟨placed, List.mem_cons_of_mem _ home⟩
    · obtain ⟨placed, rfl, _⟩ := apart.2 operation new
      exact ⟨placed, List.mem_cons_self⟩
  · rw [List.map_append, List.nodup_append]
    refine ⟨located.apart, apart.1, fun place member other memberToo same => ?_⟩
    obtain ⟨operation, old, rfl⟩ := List.mem_map.mp member
    obtain ⟨last, new, rfl⟩ := List.mem_map.mp memberToo
    have home : operation.url = last.url := congrArg Prod.fst same
    exact fresh ((apart.2 last new).2.1 ▸ home ▸ (located.placed operation old).2)

end Located

namespace Draft

/-- Some documents were read, and none repeats a key. -/
structure Harvested (urls : List String) (draft : Draft) : Prop where
  unique : ∀ entry ∈ draft.documents.documents, entry.2.hasUniqueKeys = true
  located : Located urls draft.operations

namespace Harvested

variable {urls : List String} {draft after : Draft} {url : String}

theorem widen {more : List String} (harvested : Harvested urls draft) (among : urls ⊆ more) : Harvested more draft where
  unique := harvested.unique
  located := ⟨fun operation member => ⟨(harvested.located.placed operation member).1,
    among (harvested.located.placed operation member).2⟩, harvested.located.apart⟩

theorem edit {change : Value → Value} (harvested : Harvested urls draft)
    (kept : ∀ document : Value, document.hasUniqueKeys = true → (change document).hasUniqueKeys = true)
    (ran : draft.editDocument change url = .ok after) : Harvested urls after := by
  cases ran
  refine ⟨fun entry member => ?_, harvested.located⟩
  obtain ⟨old, among, rfl | rfl⟩ := Assoc.mem_modify member
  · exact harvested.unique _ among
  · exact kept _ (harvested.unique _ among)

theorem spare {pass : Pass} {url : Option String} (harvested : Harvested urls draft) (spares : pass.Spares)
    (scope : pass.scope = .document) (ran : (Pipeline.Step.mk pass url).perform draft = .ok after) :
    Harvested urls after := by
  obtain ⟨operations, documents⟩ := spares url draft after ran
  exact ⟨documents scope ▸ harvested.unique, operations ▸ harvested.located⟩

theorem read (harvested : Harvested urls draft) (fresh : url ∉ urls) (ran : draft.readDocument url = .ok after) :
    Harvested (url :: urls) after := by
  unfold Draft.readDocument at ran
  split at ran
  · obtain ⟨⟨operations, middle⟩, answered, same⟩ := (Except.bind_eq_ok _ _ _).mp ran
    unfold Draft.reading at answered
    split at answered
    next found catalog answer =>
      cases answered
      cases same
      refine ⟨harvested.unique, ?_⟩
      cases present : draft.documents.get? url with
      | none =>
          rw [Schema.Reading.document, present] at answer
          cases answer
          rw [List.append_nil]
          exact (harvested.widen (List.subset_cons_self _ _)).located
      | some value =>
          have unique := harvested.unique _ (Assoc.mem_of_find? present)
          obtain ⟨paths, apart⟩ := Schema.Reading.document_returns present unique _ _ _ answer
          exact harvested.located.append fresh apart
    · cases answered
  · cases ran
    exact harvested.widen (List.subset_cons_self _ _)

/-- A pass that reads no document edits one, or spares them all. -/
theorem perform {pass : Pass} (harvested : Harvested urls draft) (plain : pass.Plain) (scope : pass.scope = .document)
    (different : pass ≠ Pass.readDocuments) (ran : (Pipeline.Step.mk pass (some url)).perform draft = .ok after) :
    Harvested urls after := by
  rcases plain with builtIn | spares
  · simp only [Pass.builtIn, List.mem_cons, List.not_mem_nil, or_false] at builtIn
    rcases builtIn with rfl | rfl | rfl | rfl | rfl | rfl | rfl | rfl | rfl
    · exact harvested.edit (fun _ => DocumentEdit.joinPaths_hasUniqueKeys) ran
    · exact harvested.edit (fun _ => DocumentEdit.spreadMediaTypes_hasUniqueKeys) ran
    · exact absurd rfl different
    all_goals cases scope
  · exact harvested.spare spares scope ran

/-- The passes over one document read it once at most. -/
theorem passes {order : List Pass} {final : Draft} (plain : ∀ pass ∈ order, pass.Plain ∧ pass.scope = .document)
    (once : order.Nodup) (fresh : url ∉ urls) (harvested : Harvested (url :: urls) draft)
    (unread : Pass.readDocuments ∈ order → Harvested urls draft)
    (ran : (Pipeline.perform (order.map fun pass => ⟨pass, some url⟩) draft).outcome = .ok final) :
    Harvested (url :: urls) final := by
  induction order generalizing draft with
  | nil =>
      cases ran
      exact harvested
  | cons pass rest ih =>
      obtain ⟨⟨plainPass, scope⟩, plainRest⟩ := List.forall_mem_cons.mp plain
      obtain ⟨absent, onceRest⟩ := List.nodup_cons.mp once
      obtain ⟨middle, performed, later⟩ := Pipeline.perform_cons_eq_ok.mp ran
      by_cases reads : pass = Pass.readDocuments
      · subst reads
        have read := (unread List.mem_cons_self).read fresh performed
        exact ih plainRest onceRest read (fun member => absurd member absent) later
      · refine ih plainRest onceRest (harvested.perform plainPass scope reads performed) (fun member => ?_) later
        exact (unread (List.mem_cons_of_mem _ member)).perform plainPass scope reads performed

theorem documents {order : List Pass} {final : Draft} {unread : List String}
    (plain : ∀ pass ∈ order, pass.Plain ∧ pass.scope = .document) (once : order.Nodup) (distinct : unread.Nodup)
    (fresh : ∀ url ∈ unread, url ∉ urls) (harvested : Harvested urls draft)
    (ran : (Pipeline.perform (unread.flatMap fun url => order.map fun pass => ⟨pass, some url⟩) draft).outcome =
      .ok final) : Harvested (unread.reverse ++ urls) final := by
  induction unread generalizing urls draft with
  | nil =>
      cases ran
      exact harvested
  | cons url rest ih =>
      obtain ⟨absent, distinctRest⟩ := List.nodup_cons.mp distinct
      obtain ⟨freshUrl, freshRest⟩ := List.forall_mem_cons.mp fresh
      rw [List.flatMap_cons, Pipeline.perform_append_outcome, Except.bind_eq_ok] at ran
      obtain ⟨middle, first, later⟩ := ran
      have read := (harvested.widen (List.subset_cons_self url urls)).passes plain once freshUrl
        (fun _ => harvested) first
      rw [List.reverse_cons, List.append_assoc]
      refine ih distinctRest (fun other member => ?_) read later
      exact List.not_mem_cons_of_ne_of_not_mem (fun same => absent (same ▸ member)) (freshRest other member)

end Harvested

theorem plain_operations {pass : Pass} {draft after : Draft} (plain : pass.Plain) (scope : pass.scope = .global)
    (ran : (Pipeline.Step.mk pass none).perform draft = .ok after) : after.operations = draft.operations := by
  rcases plain with builtIn | spares
  · simp only [Pass.builtIn, List.mem_cons, List.not_mem_nil, or_false] at builtIn
    rcases builtIn with rfl | rfl | rfl | rfl | rfl | rfl | rfl | rfl | rfl
    iterate 3 cases scope
    · obtain ⟨⟨_, middle⟩, answered, same⟩ := (Except.bind_eq_ok _ _ _).mp ran
      unfold Draft.reading at answered
      split at answered
      · cases answered
        cases same
        rfl
      · cases answered
    · exact (buildTagMaps_retags ran).2
    · exact (mergeBranches_outcome ran).2.2.2.1
    · cases ran
      exact (closeObjects_sameBut draft).operations
    · cases ran
      rfl
    · cases ran
      exact (loosenObjects_sameBut draft).operations
  · exact (spares none draft after ran).1

end Draft

namespace Specification

variable {passes : List Pass} {settings : Settings} {documents : DocumentSet} {specification : Specification}

theorem exists_schedule (built : (build passes settings documents).outcome = .ok specification) :
    ∃ schedule, Schedule.ofPasses passes = .ok schedule ∧
      (Pipeline.run schedule { documents }).outcome = .ok specification.draft := by
  unfold build at built
  cases planned : Plan.of passes settings with
  | error reason =>
      rw [planned] at built
      cases built
  | ok plan =>
      rw [planned] at built
      refine ⟨plan.schedule, ?_, ?_⟩
      · obtain ⟨schedule, scheduled, later⟩ := (Except.bind_eq_ok _ _ _).mp planned
        obtain ⟨suppressions, _, same⟩ := (Except.bind_eq_ok _ _ _).mp later
        cases same
        cases ordered : Schedule.ofPasses passes with
        | error reason =>
            rw [ordered] at scheduled
            cases scheduled
        | ok found =>
            rw [ordered] at scheduled
            cases scheduled
            rfl
      · dsimp only [Plan.build] at built
        cases ran : (Pipeline.run plan.schedule { documents }).outcome with
        | error reason =>
            rw [ran] at built
            cases built
        | ok draft =>
            rw [ran] at built
            cases built
            rfl

/-- The operations of a specification come from its documents, no two from one place. -/
theorem build_located (plain : ∀ pass ∈ passes, pass.Plain) (distinct : documents.urls.Nodup)
    (unique : ∀ entry ∈ documents.documents, entry.2.hasUniqueKeys = true)
    (built : (build passes settings documents).outcome = .ok specification) :
    Located documents.urls specification.draft.operations := by
  obtain ⟨schedule, scheduled, ran⟩ := exists_schedule built
  have perm := Schedule.perm_of_ofPasses scheduled
  have member {scope : Scope} {pass : Pass} (among : pass ∈ schedule.order scope) :
      pass.Plain ∧ pass.scope = scope := by
    obtain ⟨listed, same⟩ := List.mem_filter.mp ((perm scope).mem_iff.mp among)
    exact ⟨plain pass listed, eq_of_beq same⟩
  have once : schedule.document.Nodup := by
    have distinctMembers := ((Schedule.members_sublist .document passes).map (·.name)).nodup
      (Schedule.distinct_of_ofPasses scheduled)
    exact (perm .document).nodup_iff.mpr distinctMembers.of_map
  rw [Pipeline.run, Pipeline.steps, Pipeline.perform_append_outcome, Except.bind_eq_ok] at ran
  obtain ⟨read, documentsRead, rest⟩ := ran
  have start : Draft.Harvested [] { documents } := ⟨unique, fun _ member => (List.not_mem_nil member).elim, List.nodup_nil⟩
  have harvested := start.documents (fun pass => member) once distinct (fun _ _ => List.not_mem_nil) documentsRead
  have keeps : ∀ step ∈ schedule.global.map fun pass => Pipeline.Step.mk pass none, ∀ before after,
      step.perform before = .ok after → before.operations = read.operations → after.operations = read.operations := by
    intro step listed before after performed same
    obtain ⟨pass, among, rfl⟩ := List.mem_map.mp listed
    obtain ⟨plainPass, scope⟩ := @member .global pass among
    exact (Draft.plain_operations plainPass scope performed).trans same
  rw [Pipeline.perform_keeps keeps rest rfl]
  exact (harvested.widen (by simp)).located

end Specification

/-- The body counts for what it is, however plain. -/
def Parameter.Checked (parameter : Parameter) : Prop := parameter.place = .body → parameter.trivial = false

def Operation.ChecksBody (operation : Operation) : Prop := ∀ parameter ∈ operation.parameters, parameter.Checked

namespace Schema.Reading

variable {documents : DocumentSet} {fuel : Nat} {url : String}

theorem parameter_returns (pointer : String) (raw : Value) :
    Returns (parameter documents fuel url pointer raw) fun outcome =>
      ∀ parameter, outcome = .ok parameter → parameter.Checked := by
  unfold parameter
  split
  · exact .pure nofun
  · split
    · exact .pure nofun
    · dsimp only
      split
      · exact .pure nofun
      next place _ =>
        refine .bind (.any _) fun _ _ => .pure ?_
        rintro parameter ⟨⟩ (body : place = .body)
        subst body
        rfl

theorem addParameters_returns (pointer : String) (owner : Value) {list : ParameterList}
    (before : ∀ parameter ∈ list.parameters, parameter.Checked) :
    Returns (addParameters documents fuel url pointer owner list) fun list =>
      ∀ parameter ∈ list.parameters, parameter.Checked := by
  refine .bind (.mapM fun item _ => parameter_returns _ item.1) fun outcomes alike => .pure ?_
  intro parameter member
  rcases mem_foldl_add member with earlier | read
  · exact before parameter earlier
  · obtain ⟨_, _, checked⟩ := alike.exists_left read
    exact checked parameter rfl

theorem operation_checksBody (document : Value) (path : String) (item : Value) (method : String) (raw : Value) :
    Returns (operation documents fuel url document path item method raw) Operation.ChecksBody := by
  refine .bind (addParameters_returns _ item fun _ none => absurd none List.not_mem_nil) fun _ ofPath => ?_
  refine .bind (addParameters_returns _ raw ofPath) fun _ all => .bind (.any _) fun _ _ => .pure ?_
  exact all

theorem document_checksBody (documents : DocumentSet) (fuel : Nat) (url : String) :
    Returns (document documents fuel url) fun operations => ∀ operation ∈ operations, operation.ChecksBody := by
  unfold document
  split
  · exact .pure nofun
  next value _ =>
    have ofPath (entry : String × Value) : Returns (pathOperations documents fuel url value entry.1 entry.2)
        fun operations => ∀ operation ∈ operations, operation.ChecksBody := by
      refine .weaken (.mapM fun found _ => operation_checksBody value entry.1 entry.2 found.1 found.2) ?_
      intro operations alike operation member
      obtain ⟨_, _, checks⟩ := alike.exists_left member
      exact checks
    refine .bind (.mapM fun entry _ => ofPath entry) fun lists alike => .bind (.any _) fun _ _ => .pure ?_
    intro operation member
    obtain ⟨operations, among, inside⟩ := List.mem_flatten.mp member
    obtain ⟨_, _, checks⟩ := alike.exists_left among
    exact checks operation inside

end Schema.Reading

namespace Draft

variable {draft after : Draft} {url : String}

theorem readDocument_checksBody (ran : draft.readDocument url = .ok after)
    (checks : ∀ operation ∈ draft.operations, operation.ChecksBody) :
    ∀ operation ∈ after.operations, operation.ChecksBody := by
  unfold readDocument at ran
  split at ran
  · obtain ⟨⟨operations, middle⟩, answered, same⟩ := (Except.bind_eq_ok _ _ _).mp ran
    unfold Draft.reading at answered
    split at answered
    next found catalog answer =>
      cases answered
      cases same
      exact List.forall_mem_append.mpr ⟨checks, Schema.Reading.document_checksBody _ _ _ _ _ _ answer⟩
    · cases answered
  · cases ran
    exact checks

/-- A plain pass over documents leaves the operations as they are, or reads a document. -/
theorem plain_checksBody {pass : Pass} (plain : pass.Plain) (scope : pass.scope = .document)
    (ran : (Pipeline.Step.mk pass (some url)).perform draft = .ok after)
    (checks : ∀ operation ∈ draft.operations, operation.ChecksBody) :
    ∀ operation ∈ after.operations, operation.ChecksBody := by
  rcases plain with builtIn | spares
  · simp only [Pass.builtIn, List.mem_cons, List.not_mem_nil, or_false] at builtIn
    rcases builtIn with rfl | rfl | rfl | rfl | rfl | rfl | rfl | rfl | rfl
    iterate 2
      cases ran
      exact checks
    · exact readDocument_checksBody ran checks
    all_goals cases scope
  · rw [(spares _ draft after ran).1]
    exact checks

end Draft

/-- No operation of a specification leaves its body unchecked. -/
theorem Specification.build_checksBody {passes : List Pass} {settings : Settings} {documents : DocumentSet}
    {specification : Specification} (plain : ∀ pass ∈ passes, pass.Plain)
    (built : (build passes settings documents).outcome = .ok specification) :
    ∀ operation ∈ specification.draft.operations, operation.ChecksBody := by
  obtain ⟨schedule, scheduled, ran⟩ := exists_schedule built
  have perm := Schedule.perm_of_ofPasses scheduled
  have member {scope : Scope} {pass : Pass} (among : pass ∈ schedule.order scope) :
      pass.Plain ∧ pass.scope = scope := by
    obtain ⟨listed, same⟩ := List.mem_filter.mp ((perm scope).mem_iff.mp among)
    exact ⟨plain pass listed, eq_of_beq same⟩
  suffices keeps : ∀ step ∈ Pipeline.steps schedule documents.urls, ∀ before after, step.perform before = .ok after →
      (∀ operation ∈ before.operations, operation.ChecksBody) → ∀ operation ∈ after.operations, operation.ChecksBody by
    exact Pipeline.perform_keeps keeps ran fun _ none => absurd none List.not_mem_nil
  intro step listed before after performed checks
  rcases List.mem_append.mp listed with document | global
  · obtain ⟨url, _, listed⟩ := List.mem_flatMap.mp document
    obtain ⟨pass, among, rfl⟩ := List.mem_map.mp listed
    obtain ⟨plainPass, scope⟩ := @member .document pass among
    exact Draft.plain_checksBody plainPass scope performed checks
  · obtain ⟨pass, among, rfl⟩ := List.mem_map.mp global
    obtain ⟨plainPass, scope⟩ := @member .global pass among
    rw [Draft.plain_operations plainPass scope performed]
    exact checks

end ApiContract
