import ApiContract.Json.Writer
import ApiContract.Proofs.Contract.Discovery
import ApiContract.Proofs.Pass.Computed
import ApiContract.Proofs.Pass.Documents
import ApiContract.Proofs.Pass.Places
import ApiContract.Proofs.Pass.Wrapping

/-!
Which definitions can be shown by their names. A definition is found at its own place, where every schema is that is
written out, and the placeholder of every reference that leads nowhere. Only a reference to another schema is not: that
schema is in the graph at a place of its own (`Specification.definitions_shown`).

Writing ends for every schema of a specification, and its references lead to the schemas whose place they take
(`schemas_exported`).
-/

namespace ApiContract

open Json (Value)

namespace Schema.Reading

variable {documents : DocumentSet} {catalog : Catalog} {fuel : Nat} {url name : String} {value whole : Value}

/-- A reference comes to a place, perhaps by way of other references. -/
inductive Reaches (documents : DocumentSet) : String → String → DocumentSet.Target → Prop
  | here {base reference target} : documents.resolve? base reference = some target →
      Reaches documents base reference target
  | onward {base reference middle next target} : documents.resolve? base reference = some middle →
      reference? middle.value = some next → Reaches documents (Url.splitReference middle.location).1 next target →
      Reaches documents base reference target

/-- The definition is a reference that comes to another place where a schema of the graph is. -/
def Elsewhere (documents : DocumentSet) (graph : Graph) (url name : String) (value : Value) : Prop :=
  ∃ reference target, reference? value = some reference ∧ Reaches documents url reference target ∧
    target.location ≠ locationOf url (Pointer.child "/definitions" name) ∧ (graph.lookup target.location).isSome = true

/-- The definition is found by its name, or it is one of those that are found elsewhere. -/
def Named (documents : DocumentSet) (catalog : Catalog) (url name : String) (value : Value) : Prop :=
  (catalog.graph.definition url name).isSome = true ∨ Elsewhere documents catalog.graph url name value

theorem named_lasts (documents : DocumentSet) (url name : String) (value : Value) :
    Lasts fun catalog => Named documents catalog url name value := by
  have lasting {before after : Catalog} (grows : Grows before after) {location : String}
      (bound : (before.graph.lookup location).isSome = true) : (after.graph.lookup location).isSome = true := by
    obtain ⟨id, found⟩ := Option.isSome_iff_exists.mp bound
    exact Option.isSome_iff_exists.mpr ⟨id, grows.lookup found⟩
  rintro before after grows (own | ⟨reference, target, written, reaches, apart, bound⟩)
  · rw [definition_eq_lookup] at own
    exact .inl (definition_eq_lookup _ _ _ ▸ lasting grows own)
  · exact .inr ⟨reference, target, written, reaches, apart, lasting grows bound⟩

/-- What a reference comes to is found where it was written, or at a place that it reaches. -/
theorem Follows.reaches {own base current : String} {passed : List String} {id : Nat}
    (follows : Follows documents catalog own base current passed id) :
    catalog.graph.lookup own = some id ∨
      ∃ target, Reaches documents base current target ∧ catalog.graph.lookup target.location = some id := by
  induction follows with
  | missing _ bound => exact .inl bound
  | found resolved bound => exact .inr ⟨_, .here resolved, bound⟩
  | circular _ _ bound => exact .inl bound
  | onward resolved _ written _ ih =>
      exact ih.imp_right fun ⟨target, reaches, bound⟩ => ⟨target, .onward resolved written reaches, bound⟩

theorem definition_named (standing : Standing documents url (Pointer.child "/definitions" name) value) :
    Ensures documents (fun _ => True) (definition documents fuel url name value)
      fun catalog _ => Named documents catalog url name value := by
  have own {catalog : Catalog} {id : Nat}
      (bound : catalog.graph.lookup (locationOf url (Pointer.child "/definitions" name)) = some id) :
      Named documents catalog url name value := by
    refine .inl ?_
    rw [definition_eq_lookup, bound]
    rfl
  unfold definition
  dsimp only
  split
  next reference written =>
    have followed := (sound documents fuel).follow ⟨url, Pointer.child "/definitions" name, reference⟩ url reference []
      ⟨_, _, standing, written⟩ fun lost => ⟨⟨value, standing, written⟩, lost⟩
    refine followed.weaken (fun _ start => start) fun catalog id follows => ?_
    rcases follows.reaches with bound | ⟨target, reaches, bound⟩
    · exact own bound
    · by_cases same : target.location = locationOf url (Pointer.child "/definitions" name)
      · exact own (same ▸ bound)
      · exact .inr ⟨reference, target, written, reaches, same, by rw [bound]; rfl⟩
  next plain =>
    refine ((sound documents fuel).build url _ value _ (.standing standing) ?_).weaken (fun _ start => start)
      fun _ _ bound => own bound
    rintro location ⟨⟩
    rfl

theorem document_names (present : documents.get? url = some whole) :
    Ensures documents (fun _ => True) (document documents fuel url) fun catalog _ =>
      ∀ entry ∈ (whole.objectAt? "definitions").getD [], Named documents catalog url entry.1 entry.2 := by
  have standing : Standing documents url "" whole := .document (Assoc.mem_of_find? present)
  rw [document, present]
  dsimp only
  have each : Ensures documents (fun _ => True)
      (((whole.objectAt? "definitions").getD []).forM fun entry => do
        let _ ← definition documents fuel url entry.1 entry.2)
      fun catalog _ => ∀ entry ∈ (whole.objectAt? "definitions").getD [],
        Named documents catalog url entry.1 entry.2 := by
    refine .forM_each trivial_lasts (fun entry => named_lasts documents url entry.1 entry.2) fun entry member => ?_
    have stands := standing.entry "definitions" (by decide) (keywords_plain _ (by decide)).2 member
    exact .bind trivial_lasts (definition_named stands) fun _ => .pure fun _ both => both.2
  refine .bind trivial_lasts (paths_retraces standing).steps.1 fun operations => ?_
  exact .bind (trivial_lasts.and trivial_lasts) each.anywhere fun _ => .pure fun _ both => both.2

end Schema.Reading

namespace Draft

open Schema.Reading (Grows Named)

variable {documents : DocumentSet} {draft next final written : Draft} {url name : String} {value : Value}

theorem documents_of_reading {α : Type} {read : Schema.Reading α} {result : α}
    (ran : draft.reading read = .ok (result, next)) : next.documents = draft.documents := by
  unfold Draft.reading at ran
  split at ran
  · cases ran
    rfl
  · cases ran

theorem readDocument_documents (ran : draft.readDocument url = .ok next) : next.documents = draft.documents := by
  unfold Draft.readDocument at ran
  split at ran
  · obtain ⟨⟨_, middle⟩, read, answered⟩ := (Except.bind_eq_ok _ _ _).mp ran
    have kept := documents_of_reading read
    cases answered
    exact kept
  · cases ran
    rfl

theorem discoverVariants_documents (ran : draft.discoverVariants = .ok next) : next.documents = draft.documents := by
  obtain ⟨⟨_, middle⟩, read, answered⟩ := (Except.bind_eq_ok _ _ _).mp ran
  cases answered
  exact documents_of_reading read

/-- A root document is read with all its definitions. -/
theorem Fresh.readDocument_names {whole : Value} (fresh : Fresh draft) (root : draft.documents.isRoot url = true)
    (present : draft.documents.get? url = some whole) (ran : draft.readDocument url = .ok next) :
    ∀ entry ∈ (whole.objectAt? "definitions").getD [], Named draft.documents next.catalog url entry.1 entry.2 := by
  rw [Draft.readDocument, if_pos root] at ran
  obtain ⟨⟨operations, middle⟩, read, answered⟩ := (Except.bind_eq_ok _ _ _).mp ran
  obtain ⟨catalog, rfl, _, names⟩ := reading_ensures (Schema.Reading.document_names present) fresh.built read
  cases answered
  exact names

/-- The passes over a document make it uniform, then read it. -/
theorem readDocument_of_readers
    (ran : (Pipeline.perform (Pass.readers.map fun pass => ⟨pass, some url⟩) draft).outcome = .ok next) :
    ({ draft with documents := draft.documents.prepare url } : Draft).readDocument url = .ok next := by
  obtain ⟨_, joined, rest⟩ := Pipeline.perform_cons_eq_ok.mp ran
  obtain ⟨_, spread, last⟩ := Pipeline.perform_cons_eq_ok.mp rest
  obtain ⟨_, read, done⟩ := Pipeline.perform_cons_eq_ok.mp last
  cases joined
  cases spread
  cases done
  exact read

/-- The passes over single documents go on from a draft to another one. -/
structure Goes (urls : List String) (draft next : Draft) : Prop where
  fresh : Fresh next
  documents : next.documents = urls.foldl DocumentSet.prepare draft.documents
  grows : Grows draft.catalog next.catalog

theorem Fresh.goes {urls : List String} (fresh : Fresh draft)
    (ran : (Pipeline.perform (urls.flatMap fun url => Pass.readers.map fun pass => ⟨pass, some url⟩) draft).outcome =
      .ok final) : Goes urls draft final := by
  induction urls generalizing draft with
  | nil =>
      cases ran
      exact ⟨fresh, rfl, .refl⟩
  | cons url rest ih =>
      rw [List.flatMap_cons, Pipeline.perform_append_outcome, Except.bind_eq_ok] at ran
      obtain ⟨middle, first, later⟩ := ran
      have read := readDocument_of_readers first
      have prepared : Fresh { draft with documents := draft.documents.prepare url } := ⟨fresh.built, fresh.baseSchemas⟩
      obtain ⟨freshMiddle, moves⟩ := prepared.readDocument read
      have goes := ih freshMiddle later
      refine ⟨goes.fresh, ?_, moves.grows.trans goes.grows⟩
      rw [goes.documents, readDocument_documents read]
      rfl

theorem IsVisited.goes {visited : Draft} (isVisited : IsVisited documents visited) :
    Goes documents.urls { documents } visited := by
  rw [IsVisited, Pipeline.run, Pipeline.steps, List.map_nil, List.append_nil] at isVisited
  exact Fresh.goes ⟨.refl, rfl⟩ isVisited

/-- Each document is read when those up to it are uniform. -/
theorem IsVisited.exists_read {visited : Draft} (isVisited : IsVisited documents visited)
    (listed : url ∈ documents.urls) :
    ∃ draft next, Fresh draft ∧ draft.documents = documents.preparedFor url ∧ draft.readDocument url = .ok next ∧
      Grows next.catalog visited.catalog := by
  obtain ⟨before, after, split, apart⟩ := List.eq_append_cons_of_mem listed
  rw [IsVisited, Pipeline.run, Pipeline.steps, List.map_nil, List.append_nil, split, List.flatMap_append,
    List.flatMap_cons, Pipeline.perform_append_outcome, Except.bind_eq_ok] at isVisited
  obtain ⟨earlier, readBefore, rest⟩ := isVisited
  rw [Pipeline.perform_append_outcome, Except.bind_eq_ok] at rest
  obtain ⟨next, first, later⟩ := rest
  have start : Fresh { documents } := ⟨.refl, rfl⟩
  have goes := start.goes readBefore
  have prepared : Fresh { earlier with documents := earlier.documents.prepare url } :=
    ⟨goes.fresh.built, goes.fresh.baseSchemas⟩
  have read := readDocument_of_readers first
  refine ⟨_, next, prepared, ?_, read, ((prepared.readDocument read).1.goes later).grows⟩
  rw [DocumentSet.preparedFor_eq split apart, goes.documents]

/-- What was read from documents names the definitions of every root document. -/
theorem IsVisited.names {visited : Draft} {whole : Value} {entries : Assoc Value}
    (isVisited : IsVisited documents visited) (root : documents.isRoot url = true)
    (present : documents.get? url = some whole) (unique : whole.hasUniqueKeys = true)
    (listed : whole.objectAt? "definitions" = some entries) (member : (name, value) ∈ entries) :
    Named (documents.preparedFor url) visited.catalog url name value := by
  obtain ⟨draft, next, fresh, uniform, read, grows⟩ := isVisited.exists_read (DocumentSet.mem_urls present)
  obtain ⟨table, held, same⟩ := Option.bind_eq_some_iff.mp listed
  obtain ⟨changed, found, kept⟩ := DocumentSet.exists_preparedFor present unique (by decide) (by decide) held
  have listedToo : changed.objectAt? "definitions" = some entries := Option.bind_eq_some_iff.mpr ⟨table, kept, same⟩
  rw [← documents.isRoot_preparedFor url] at root
  rw [← uniform] at root found ⊢
  have names := fresh.readDocument_names root found read (name, value) (by rw [listedToo]; exact member)
  exact Schema.Reading.named_lasts _ _ _ _ _ _ grows names

end Draft

namespace Specification

variable {settings : Settings} {documents : DocumentSet} {specification : Specification} {url name : String}
  {whole value : Value} {entries : Assoc Value}

/-- A definition that is in the graph by its name in a root document is shown. -/
theorem definition?_isSome (root : specification.draft.documents.isRoot url = true)
    (listed : url ∈ specification.draft.documents.urls)
    (found : (specification.draft.graph.definition url name).isSome = true) :
    (specification.definition? name).isSome = true := by
  rw [definition?, Option.isSome_map, List.findSome?_isSome_iff]
  exact ⟨url, List.mem_filter.mpr ⟨listed, root⟩, found⟩

/-- Each definition of a root document can be shown by its name, unless it is a reference that comes to another place:
then a schema is found there. -/
theorem definitions_shown (built : (build Pass.builtIn settings documents).outcome = .ok specification)
    (root : documents.isRoot url = true) (present : documents.get? url = some whole)
    (unique : whole.hasUniqueKeys = true) (listed : whole.objectAt? "definitions" = some entries)
    (member : (name, value) ∈ entries) :
    (specification.definition? name).isSome = true ∨
      Schema.Reading.Elsewhere (documents.preparedFor url) specification.draft.graph url name value := by
  obtain ⟨schedule, scheduled, ran⟩ := exists_schedule built
  obtain ⟨written, tagged, merged, stages⟩ := Draft.IsFinished.stages ⟨schedule, scheduled, ran⟩
  obtain ⟨visited, isVisited, discovered⟩ := stages.read.exists_visited
  have grows := (isVisited.fresh.discoverVariants discovered).2.grows
  have named := Schema.Reading.named_lasts _ _ _ _ _ _ grows (isVisited.names root present unique listed member)
  have unmoved := stages.unmoved
  have kept : specification.draft.documents = documents.urls.foldl DocumentSet.prepare documents := by
    rw [unmoved.documents, Draft.discoverVariants_documents discovered, isVisited.goes.documents]
  obtain ⟨urls, roots⟩ := documents.foldl_prepare_kept documents.urls
  have sameLookup := Schema.Reading.lookup_congr unmoved.locations
  rcases named with own | ⟨reference, target, spelled, reaches, apart, bound⟩
  · have isRoot : specification.draft.documents.isRoot url = true := by
      rw [kept, DocumentSet.isRoot, roots]
      exact root
    have found : (specification.draft.graph.definition url name).isSome = true := by
      rw [Schema.Reading.definition_eq_lookup] at own ⊢
      rw [sameLookup]
      exact own
    exact .inl (definition?_isSome isRoot (kept ▸ urls.symm ▸ DocumentSet.mem_urls present) found)
  · refine .inr ⟨reference, target, spelled, reaches, apart, ?_⟩
    rw [sameLookup]
    exact bound

/-! ## A nickname -/

/-- A name, another name for the same, and a reference to what is not there. -/
def nicknameDefinitions : Assoc Value :=
  [("Name", .ofType "string"), ("Nickname", .toDefinition "Name"), ("Lost", .toDefinition "Gone")]

def nicknameBuild : Except BuildError Specification :=
  (build Pass.builtIn {} (.ofDefinitions nicknameDefinitions)).outcome

def nicknames : Specification :=
  nicknameBuild.toOption.getD { draft := {}, suppressions := {}, skipTrivialParameters := true }

theorem nicknames_read : nicknameBuild.toOption.isSome = true ∧ (nicknames.definition? "Name").isSome = true ∧
    nicknames.definition? "Nickname" = none := by
  decide +kernel

/-- What cannot be followed is shown. -/
theorem definitions_shown_lost : nicknameBuild = .ok nicknames ∧
    (DocumentSet.ofDefinitions nicknameDefinitions).isRoot "/api.json" = true ∧
    (∃ whole, (DocumentSet.ofDefinitions nicknameDefinitions).get? "/api.json" = some whole ∧
      whole.hasUniqueKeys = true ∧ whole.objectAt? "definitions" = some nicknameDefinitions) ∧
    ("Lost", Value.toDefinition "Gone") ∈ nicknameDefinitions ∧ (nicknames.definition? "Lost").isSome = true := by
  have built : nicknameBuild = .ok nicknames := Except.eq_ok_getD _ nicknames_read.1
  have member : ("Lost", Value.toDefinition "Gone") ∈ nicknameDefinitions :=
    List.mem_cons_of_mem _ (List.mem_cons_of_mem _ List.mem_cons_self)
  refine ⟨built, by decide, ⟨_, rfl, by decide +kernel, rfl⟩, member, ?_⟩
  have shown := @definitions_shown {} (.ofDefinitions nicknameDefinitions) nicknames "/api.json" "Lost" _ _ _ built
    (by decide) rfl (by decide +kernel) rfl member
  refine shown.resolve_right ?_
  rintro ⟨reference, target, written, reaches, _⟩
  cases written
  have lost : ((DocumentSet.ofDefinitions nicknameDefinitions).preparedFor "/api.json").resolve? "/api.json"
      "#/definitions/Gone" = none := by
    decide +kernel
  cases reaches with
  | here resolved => cases lost.symm.trans resolved
  | onward resolved => cases lost.symm.trans resolved

/-- What only refers to another definition is not shown, though the other one is. -/
theorem nickname_unshown : nicknameBuild = .ok nicknames ∧
    (DocumentSet.ofDefinitions nicknameDefinitions).isRoot "/api.json" = true ∧
    (∃ whole, (DocumentSet.ofDefinitions nicknameDefinitions).get? "/api.json" = some whole ∧
      whole.hasUniqueKeys = true ∧ whole.objectAt? "definitions" = some nicknameDefinitions) ∧
    "Nickname" ∈ Assoc.keys nicknameDefinitions ∧ (nicknames.definition? "Name").isSome = true ∧
    nicknames.definition? "Nickname" = none :=
  ⟨Except.eq_ok_getD _ nicknames_read.1, by decide, ⟨_, rfl, by decide +kernel, rfl⟩, by decide, nicknames_read.2⟩

end Specification

end ApiContract

namespace ApiContract.Specification

open Json (Value)
open Schema (Graph)

variable {settings : Settings} {documents : DocumentSet} {specification : Specification} {id : Nat}

/-- What is written of a schema does not depend on the fuel, as long as there is more of it than there are schemas. In the
place of each edge stands what is written of its target, or a reference that the target is found by. -/
theorem schemas_exported (built : (build Pass.builtIn settings documents).outcome = .ok specification)
    (inside : id < specification.draft.graph.size) :
    (∀ fuel, specification.draft.graph.size < fuel →
      specification.draft.graph.render fuel [] id = specification.draft.graph.toValue id) ∧
      specification.draft.graph.Exports [] id (specification.draft.graph.toValue id) := by
  obtain ⟨schedule, scheduled, ran⟩ := exists_schedule built
  obtain ⟨written, tagged, merged, stages⟩ := Draft.IsFinished.stages ⟨schedule, scheduled, ran⟩
  have exportable := stages.exportable
  exact ⟨fun fuel enough => exportable.render_eq_toValue inside enough, exportable.toValue_exports inside⟩

/-! ## A box in a box -/

/-- A box whose inner box inherits from it, and so has itself as its inner box, with a label that may be null. -/
def nestedDocuments : DocumentSet := .ofDefinitions [
  ("Label", .ofType "string"),
  ("Box", .object [
    ("required", .array [.string "inner"]),
    ("properties", .object [
      ("inner", .object [("allOf", .array [.toDefinition "Box"])]),
      ("label", .toDefinition "Label")])])]

def nestedBuild : Except BuildError Specification := (build Pass.builtIn {} nestedDocuments).outcome

def nested : Specification :=
  nestedBuild.toOption.getD { draft := {}, suppressions := {}, skipTrivialParameters := true }

theorem nested_built : nestedBuild.toOption.isSome = true ∧ nested.draft.graph.size = 7 ∧
    (nested.draft.graph.toValue 2).compact = "\x7b\"properties\":\x7b" ++
      "\"inner\":\x7b\"$ref\":\"/api.json#/definitions/Box/properties/inner\"\x7d," ++
      "\"label\":\x7b\"anyOf\":[\x7b\"$ref\":\"/api.json#/definitions/Label\"\x7d,\x7b\"type\":\"null\"\x7d]\x7d\x7d," ++
      "\"required\":[\"inner\"],\"additionalProperties\":false\x7d" ∧
    nested.draft.graph.lookup "/api.json#/definitions/Box/properties/inner" = some 2 := by
  decide +kernel

/-- The inner box is written once, with a reference back to it in the place of its own inner box. -/
theorem schemas_exported_box : nestedBuild = .ok nested ∧ 2 < nested.draft.graph.size ∧
    nested.draft.graph.render 8 [] 2 = nested.draft.graph.toValue 2 ∧
    nested.draft.graph.Exports [] 2 (nested.draft.graph.toValue 2) ∧
    (nested.draft.graph.toValue 2).compact = "\x7b\"properties\":\x7b" ++
      "\"inner\":\x7b\"$ref\":\"/api.json#/definitions/Box/properties/inner\"\x7d," ++
      "\"label\":\x7b\"anyOf\":[\x7b\"$ref\":\"/api.json#/definitions/Label\"\x7d,\x7b\"type\":\"null\"\x7d]\x7d\x7d," ++
      "\"required\":[\"inner\"],\"additionalProperties\":false\x7d" ∧
    nested.draft.graph.lookup "/api.json#/definitions/Box/properties/inner" = some 2 := by
  obtain ⟨reads, size, written, found⟩ := nested_built
  have built : nestedBuild = .ok nested := Except.eq_ok_getD _ reads
  have inside : 2 < nested.draft.graph.size := by omega
  obtain ⟨stable, exported⟩ := schemas_exported built inside
  exact ⟨built, inside, stable 8 (by omega), exported, written, found⟩

end ApiContract.Specification
