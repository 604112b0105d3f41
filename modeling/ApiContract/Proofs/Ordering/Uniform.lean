import ApiContract.Proofs.Contract.Showing
import ApiContract.Proofs.Schema.Visits

/-!
What a reading answers depends on the documents only through the references that it follows: more fuel, or documents
that answer these references alike, give the same (`Upholds`). So root documents that are read one by one, each made
uniform just before, give the same operations and schemas as documents that were made uniform beforehand
(`IsVisited.reads`).
-/

namespace ApiContract.Schema.Reading

open Json (Value)

variable {α β : Type} {early documents : DocumentSet} {fuel more : Nat} {url pointer : String} {value raw : Value}

/-- Whatever the first reading answers, the second one answers as well. -/
def Upholds (first second : Reading α) : Prop :=
  ∀ before answer, first.run before = some answer → second.run before = some answer

namespace Upholds

theorem refl (read : Reading α) : Upholds read read := fun _ _ ran => ran

theorem of_failure (read : Reading α) : Upholds failure read := fun _ _ ran => nomatch ran

theorem bind {first second : Reading α} {next nextToo : α → Reading β} (upholds : Upholds first second)
    (later : ∀ result, Upholds (next result) (nextToo result)) : Upholds (first >>= next) (second >>= nextToo) := by
  intro before answer ran
  obtain ⟨result, middle, firstRan, nextRan⟩ := (StateT.run_bind_eq_some _ _ _ _).mp ran
  exact (StateT.run_bind_eq_some _ _ _ _).mpr ⟨result, middle, upholds _ _ firstRan, later _ _ _ nextRan⟩

theorem mapM {items : List α} {visit visitToo : α → Reading β}
    (each : ∀ item ∈ items, Upholds (visit item) (visitToo item)) :
    Upholds (items.mapM visit) (items.mapM visitToo) := by
  induction items with
  | nil => exact .refl _
  | cons item rest ih =>
      rw [List.mapM_cons, List.mapM_cons]
      refine .bind (each item List.mem_cons_self) fun _ => ?_
      exact .bind (ih fun item member => each item (List.mem_cons_of_mem _ member)) fun _ => .refl _

theorem forM {items : List α} {visit visitToo : α → Reading PUnit}
    (each : ∀ item ∈ items, Upholds (visit item) (visitToo item)) :
    Upholds (items.forM visit) (items.forM visitToo) := by
  induction items with
  | nil => exact .refl _
  | cons item rest ih =>
      exact .bind (each item List.mem_cons_self) fun _ => ih fun item member =>
        each item (List.mem_cons_of_mem _ member)

end Upholds

/-! ## Subschemas -/

section

variable {read readToo : ReadEdge} {entries : Assoc Value}
  (reads : ∀ place value, Standing documents url place value → Upholds (read place value) (readToo place value))
  (standing : Standing documents url pointer (.object entries)) (id : Nat)

include reads standing

theorem attachBranches_upholds {keyword : String} (named : keyword ≠ "") (plain : Pointer.escape keyword = keyword)
    (attach : List Edge → Node → Node) :
    Upholds (attachBranches read pointer entries keyword attach id)
      (attachBranches readToo pointer entries keyword attach id) := by
  unfold attachBranches
  split
  next items found =>
    have list := standing.under named plain found
    rw [← String.append_assoc] at list
    refine .bind (.mapM fun item member => reads _ _ ?_) fun _ => .refl _
    exact list.item (List.mem_zipIdx_iff_getElem?.mp member)
  · exact .refl _

theorem attachAll_upholds : Upholds (attachAll read pointer entries id) (attachAll readToo pointer entries id) := by
  have branches {keyword : String} (among : keyword ∈ keywords) (attach : List Edge → Node → Node) :=
    attachBranches_upholds reads standing id (keywords_plain keyword among).1 (keywords_plain keyword among).2 attach
  unfold attachAll
  refine .bind ?_ fun _ => .bind ?_ fun _ => .bind ?_ fun _ => .bind (branches (by decide) _) fun _ =>
    .bind (branches (by decide) _) fun _ => branches (by decide) _
  · unfold attachProperties
    split
    next properties found =>
      have spelled : Pointer.child pointer "properties" = pointer ++ "/properties" :=
        Pointer.child_of_plain (keywords_plain _ (by decide)).2 pointer
      refine .bind (.mapM fun entry member => .bind (reads _ _ ?_) fun _ => .refl _) fun _ => .refl _
      rw [← spelled]
      exact (standing.keyword (by decide) found).nested member
    · exact .refl _
  · unfold attachItems
    split
    next found =>
      exact .bind (reads _ _ (standing.under (by decide) (keywords_plain _ (by decide)).2 found)) fun _ => .refl _
    · exact .refl _
  · unfold attachAdditional
    split
    · exact .refl _
    next found =>
      exact .bind (reads _ _ (standing.under (by decide) (keywords_plain _ (by decide)).2 found)) fun _ => .refl _
    · exact .refl _

end

/-! ## Readings that lead on to each other -/

/-- The documents answer the references of the second ones alike. -/
def Answering (early documents : DocumentSet) : Prop :=
  ∀ base reference, Cited documents base reference → early.resolve? base reference = documents.resolve? base reference

/-- The three kinds of readings that lead on to each other, with less fuel and with more. -/
structure UpholdsWithin (early documents : DocumentSet) (fuel more : Nat) : Prop where
  edge : ∀ url pointer value, Standing documents url pointer value →
    Upholds (edge early fuel url pointer value) (edge documents more url pointer value)
  follow : ∀ origin base current passed, Cited documents base current →
    Upholds (follow early fuel origin base current passed) (follow documents more origin base current passed)
  build : ∀ url pointer value identity, Builds documents url pointer value →
    Upholds (build early fuel url pointer value identity) (build documents more url pointer value identity)

theorem upholdsWithin (answering : Answering early documents) (enough : fuel ≤ more) :
    UpholdsWithin early documents fuel more := by
  induction fuel generalizing more with
  | zero =>
      constructor <;> (intros; exact .of_failure _)
  | succ fuel ih =>
      obtain ⟨more, rfl⟩ := Nat.exists_eq_add_one.mpr (Nat.lt_of_lt_of_le (Nat.succ_pos _) enough)
      have within := ih (Nat.le_of_succ_le_succ enough)
      constructor
      · intro url pointer value standing
        rw [Reading.edge, Reading.edge]
        split
        next reference written =>
          exact .bind (within.follow _ _ _ _ ⟨_, _, standing, written⟩) fun _ => .refl _
        · exact .bind (within.build _ _ _ _ (.standing standing)) fun _ => .refl _
      · intro origin base current passed cited
        rw [Reading.follow, Reading.follow, answering base current cited]
        split
        · exact .refl _
        next target resolved =>
          refine .bind (.refl _) fun found => ?_
          cases found with
          | some id => exact .refl _
          | none =>
              dsimp only
              split
              · exact .refl _
              · split
                next next written => exact within.follow _ _ _ _ (cited.onward resolved written)
                · exact within.build _ _ _ _ (.standing (cited.landed resolved))
      · intro url pointer value identity builds
        rw [Reading.build, Reading.build]
        refine .bind (.refl _) fun found => ?_
        cases found with
        | some id => exact .refl _
        | none =>
            cases value with
            | object raw =>
                refine .bind (.refl _) fun id => .bind (.refl _) fun _ => .bind ?_ fun _ => .refl _
                exact attachAll_upholds (within.edge url) builds.object id
            | null | bool flag | number n | string text | array items => exact .refl _

/-! ## Operations -/

section

variable (answering : Answering early documents) (enough : fuel ≤ more)

include answering

theorem place?_eq (standing : Standing documents url pointer raw) :
    place? early url pointer raw = place? documents url pointer raw := by
  unfold place?
  split
  next reference written => rw [answering url reference ⟨_, _, standing, written⟩]
  · rfl

include enough

theorem parameterSchema_upholds {place : ParameterPlace} {parameter : Place}
    (standing : Standing documents parameter.url parameter.pointer parameter.value) :
    Upholds (parameterSchema early fuel place parameter) (parameterSchema documents more place parameter) := by
  have within := upholdsWithin answering enough
  have spelled : Pointer.child parameter.pointer "schema" = parameter.pointer ++ "/schema" :=
    Pointer.child_of_plain (keywords_plain _ (by decide)).2 _
  unfold parameterSchema
  split
  · dsimp only
    split
    next schema found =>
      rw [← spelled]
      exact within.edge _ _ _ (standing.find? (by decide) found)
    next missing => exact .bind (within.build _ _ _ _ (.lacking standing missing)) fun _ => .refl _
  · exact .bind (within.build _ _ _ _ (.standing standing)) fun _ => .refl _

theorem parameter_upholds (standing : Standing documents url pointer raw) :
    Upholds (parameter early fuel url pointer raw) (parameter documents more url pointer raw) := by
  rw [parameter, parameter, place?_eq answering standing]
  split
  · exact .refl _
  next place found =>
    split
    · exact .refl _
    · dsimp only
      split
      · exact .refl _
      · exact .bind (parameterSchema_upholds answering enough (standing.place? found)) fun _ => .refl _

theorem addParameters_upholds {owner : Value} (standing : Standing documents url pointer owner) (list : ParameterList) :
    Upholds (addParameters early fuel url pointer owner list)
      (addParameters documents more url pointer owner list) := by
  refine .bind (.mapM fun item member => ?_) fun _ => .refl _
  exact parameter_upholds answering enough
    (standing.listed "parameters" (by decide) (keywords_plain _ (by decide)).2 member)

theorem responseHeaders_upholds {place : Place} (standing : Standing documents place.url place.pointer place.value) :
    Upholds (responseHeaders early fuel place) (responseHeaders documents more place) := by
  refine .bind (.mapM fun header member => ?_) fun _ => .refl _
  have stands := standing.entry "headers" (by decide) (keywords_plain _ (by decide)).2 member
  exact .bind ((upholdsWithin answering enough).edge _ _ _ stands) fun _ => .refl _

theorem response_upholds {operationKey status : String} (standing : Standing documents url pointer raw) :
    Upholds (response early fuel url pointer operationKey status raw)
      (response documents more url pointer operationKey status raw) := by
  rw [response, response, place?_eq answering standing]
  dsimp only
  split
  · exact .refl _
  next place found =>
    have stands := standing.place? found
    have spelled : Pointer.child place.pointer "schema" = place.pointer ++ "/schema" :=
      Pointer.child_of_plain (keywords_plain _ (by decide)).2 _
    split
    next schema held =>
      have inner := stands.find? (by decide) held
      rw [spelled] at inner
      refine .bind ((upholdsWithin answering enough).edge _ _ _ inner) fun _ => ?_
      exact .bind (.refl _) fun _ => .bind (responseHeaders_upholds answering enough stands) fun _ => .refl _
    · exact .bind (.refl _) fun _ => .bind (responseHeaders_upholds answering enough stands) fun _ => .refl _

theorem operation_upholds {document item : Value} {path method : String}
    (standingItem : Standing documents url (Pointer.child "/paths" path) item)
    (standing : Standing documents url (Pointer.child "/paths" path ++ "/" ++ method) raw) :
    Upholds (operation early fuel url document path item method raw)
      (operation documents more url document path item method raw) := by
  refine .bind (addParameters_upholds answering enough standingItem _) fun _ => ?_
  refine .bind (addParameters_upholds answering enough standing _) fun _ => ?_
  refine .bind (.mapM fun entry member => ?_) fun _ => .refl _
  have stands := standing.entry "responses" (by decide) (keywords_plain _ (by decide)).2 member
  exact .bind (response_upholds answering enough stands) fun _ => .refl _

theorem definition_upholds {name : String} (standing : Standing documents url (Pointer.child "/definitions" name) raw) :
    Upholds (definition early fuel url name raw) (definition documents more url name raw) := by
  have within := upholdsWithin answering enough
  unfold definition
  dsimp only
  split
  next reference written => exact within.follow _ _ _ _ ⟨_, _, standing, written⟩
  · exact within.build _ _ _ _ (.standing standing)

theorem document_upholds (same : early.get? url = documents.get? url) :
    Upholds (document early fuel url) (document documents more url) := by
  rw [document, document, same]
  split
  · exact .refl _
  next whole found =>
    have standing : Standing documents url "" whole := .document (Assoc.mem_of_find? found)
    refine .bind (.mapM fun path member => .mapM fun entry among => ?_) fun _ => .bind (.forM fun entry member => ?_)
      fun _ => .refl _
    · have stands := standing.entry "paths" (by decide) (keywords_plain _ (by decide)).2 member
      exact operation_upholds answering enough stands (stands.method among)
    · have stands := standing.entry "definitions" (by decide) (keywords_plain _ (by decide)).2 member
      exact .bind (definition_upholds answering enough stands) fun _ => .refl _

end

end ApiContract.Schema.Reading

namespace ApiContract

open Json (Value)

namespace DocumentSet

variable {documents other : DocumentSet} {url : String}

/-- What becomes of a document before it is read. -/
def uniformed (whole : Value) : Value := DocumentEdit.spreadMediaTypes (DocumentEdit.joinPaths whole)

/-- The documents with their paths joined and media types spread. -/
def uniform (documents : DocumentSet) : DocumentSet :=
  { documents with documents := documents.documents.map fun entry => (entry.1, uniformed entry.2) }

theorem urls_uniform (documents : DocumentSet) : documents.uniform.urls = documents.urls :=
  List.map_map

theorem get?_uniform (documents : DocumentSet) (url : String) :
    documents.uniform.get? url = (documents.get? url).map uniformed := by
  unfold get? uniform
  induction documents.documents with
  | nil => rfl
  | cons entry rest ih =>
      rw [List.map_cons, Assoc.find?, Assoc.find?]
      split
      · rfl
      · exact ih

theorem documents_foldl_prepare (documents : DocumentSet) {urls : List String} (distinct : urls.Nodup) :
    (urls.foldl prepare documents).documents =
      documents.documents.map fun entry => if entry.1 ∈ urls then (entry.1, uniformed entry.2) else entry := by
  induction urls generalizing documents with
  | nil => simp
  | cons url rest ih =>
      obtain ⟨apart, distinctRest⟩ := List.nodup_cons.mp distinct
      rw [List.foldl_cons, ih _ distinctRest]
      simp only [prepare, modify, Assoc.modify, List.map_map]
      refine List.map_congr_left fun entry _ => ?_
      obtain ⟨key, whole⟩ := entry
      by_cases same : key = url
      · subst same
        simp [apart, uniformed]
      · simp [same]

theorem foldl_prepare_urls (distinct : documents.urls.Nodup) :
    documents.urls.foldl prepare documents = documents.uniform := by
  refine congrArg₂ DocumentSet.mk ?_ (documents.foldl_prepare_kept documents.urls).2
  rw [documents_foldl_prepare documents distinct]
  exact List.map_congr_left fun entry listed => if_pos (List.mem_map_of_mem listed)

theorem get?_foldl_prepare_of_mem (documents : DocumentSet) {urls : List String} (distinct : urls.Nodup)
    (among : url ∈ urls) :
    (urls.foldl prepare documents).get? url = documents.uniform.get? url := by
  rw [get?_uniform, get?, documents_foldl_prepare documents distinct, get?]
  induction documents.documents with
  | nil => rfl
  | cons entry rest ih =>
      have key : (if entry.1 ∈ urls then (entry.1, uniformed entry.2) else entry).1 = entry.1 := by split <;> rfl
      rw [List.map_cons, Assoc.find?, Assoc.find?, key]
      by_cases same : entry.1 = url
      · rw [if_pos same, if_pos same, if_pos (same ▸ among)]
        rfl
      · rw [if_neg same, if_neg same]
        exact ih

/-- A reference is answered by the document that it names. -/
theorem resolve?_congr {base reference : String}
    (same : documents.get? (Url.join base (Url.splitReference reference).1) =
      other.get? (Url.join base (Url.splitReference reference).1)) :
    documents.resolve? base reference = other.resolve? base reference := by
  simp only [resolve?, same]

end DocumentSet

namespace Draft

open Schema.Reading

variable {documents target : DocumentSet} {draft final visited : Draft}

/-- What is read is made uniform just before, or answers the references to it as if it had been. -/
theorem reads_onward (distinct : documents.urls.Nodup) (answering : Answering documents target)
    (same : ∀ url, target.get? url = documents.uniform.get? url) {done rest : List String}
    (split : documents.urls = done ++ rest) (prepared : draft.documents = done.foldl DocumentSet.prepare documents)
    (ran : (Pipeline.perform (rest.flatMap fun url => Pass.readers.map fun pass => ⟨pass, some url⟩) draft).outcome =
      .ok final) :
    final.documents = documents.urls.foldl DocumentSet.prepare documents ∧ final.baseSchemas = draft.baseSchemas ∧
      ∃ bound, ∀ fuel, bound ≤ fuel → ∃ operations,
        ((rest.filter documents.isRoot).mapM (document target fuel)).run draft.catalog =
          some (operations, final.catalog) ∧
          final.operations = draft.operations ++ operations.flatten := by
  induction rest generalizing done draft with
  | nil =>
      cases ran
      rw [List.append_nil] at split
      exact ⟨split ▸ prepared, rfl, 0, fun fuel _ => ⟨[], rfl, (List.append_nil _).symm⟩⟩
  | cons url rest ih =>
      rw [List.flatMap_cons, Pipeline.perform_append_outcome, Except.bind_eq_ok] at ran
      obtain ⟨middle, first, later⟩ := ran
      have read := readDocument_of_readers first
      have splitOn : documents.urls = (done ++ [url]) ++ rest := by rw [split, List.append_assoc]; rfl
      have preparedOn : draft.documents.prepare url = (done ++ [url]).foldl DocumentSet.prepare documents := by
        rw [List.foldl_append, prepared]
        rfl
      have kept : middle.documents = (done ++ [url]).foldl DocumentSet.prepare documents :=
        (readDocument_documents read).trans preparedOn
      obtain ⟨ended, bases, bound, reads⟩ := ih splitOn kept later
      have distinctDone : (done ++ [url]).Nodup := (List.nodup_append.mp (splitOn ▸ distinct)).1
      have early : Answering (draft.documents.prepare url) target := by
        intro base reference cited
        rw [preparedOn]
        by_cases passed : Url.join base (Url.splitReference reference).1 ∈ done ++ [url]
        · refine DocumentSet.resolve?_congr ?_
          rw [DocumentSet.get?_foldl_prepare_of_mem documents distinctDone passed, same]
        · rw [← answering base reference cited]
          exact DocumentSet.resolve?_congr (DocumentSet.get?_foldl_prepare documents passed)
      have own : (draft.documents.prepare url).get? url = target.get? url := by
        rw [preparedOn, DocumentSet.get?_foldl_prepare_of_mem documents distinctDone (by simp), same]
      have root : (draft.documents.prepare url).isRoot url = documents.isRoot url := by
        rw [preparedOn, DocumentSet.isRoot, (documents.foldl_prepare_kept _).2, DocumentSet.isRoot]
      unfold Draft.readDocument at read
      dsimp only at read
      rw [root] at read
      cases asked : documents.isRoot url with
      | false =>
          rw [asked] at read
          cases read
          rw [List.filter_cons_of_neg (by rw [asked]; exact Bool.false_ne_true)]
          exact ⟨ended, bases, bound, reads⟩
      | true =>
          rw [asked, if_pos rfl] at read
          obtain ⟨⟨operations, between⟩, answered, finished⟩ := (Except.bind_eq_ok _ _ _).mp read
          unfold Draft.reading at answered
          split at answered
          next result catalog answers =>
            cases answered
            cases finished
            rw [List.filter_cons_of_pos asked]
            refine ⟨ended, bases, max bound (fuelFor (draft.documents.prepare url)), fun fuel enough => ?_⟩
            obtain ⟨others, readsOthers, all⟩ := reads fuel (Nat.le_trans (Nat.le_max_left _ _) enough)
            have upheld := document_upholds early (Nat.le_trans (Nat.le_max_right _ _) enough) own _ _ answers
            refine ⟨operations :: others, ?_, ?_⟩
            · rw [List.mapM_cons]
              refine (StateT.run_bind_eq_some _ _ _ _).mpr ⟨_, _, upheld, ?_⟩
              exact (StateT.run_bind_eq_some _ _ _ _).mpr ⟨_, _, readsOthers, rfl⟩
            · rw [all, List.flatten_cons, List.append_assoc]
          · cases answered

/-- Root documents are read as if all documents had been uniform from the start. -/
theorem IsVisited.reads (isVisited : IsVisited documents visited) (distinct : documents.urls.Nodup)
    (answering : Answering documents target) (same : ∀ url, target.get? url = documents.uniform.get? url) :
    visited.documents = documents.uniform ∧ visited.baseSchemas = [] ∧
      ∃ bound, ∀ fuel, bound ≤ fuel → ∃ operations,
        ((documents.urls.filter documents.isRoot).mapM (document target fuel)).run {} =
          some (operations, visited.catalog) ∧
          visited.operations = operations.flatten := by
  rw [IsVisited, Pipeline.run, Pipeline.steps, List.map_nil, List.append_nil] at isVisited
  have nothing : documents.urls = [] ++ documents.urls := rfl
  obtain ⟨ended, bases, reads⟩ := reads_onward distinct answering same nothing rfl isVisited
  exact ⟨ended.trans (DocumentSet.foldl_prepare_urls distinct), bases, reads⟩

end Draft

end ApiContract
