import Mathlib.Data.List.TakeWhile
import ApiContract.Proofs.Pass.Documents
import ApiContract.Proofs.Pass.Flattening

/-!
Where schemas are found. The passes over the whole draft leave documents and places as they are (`Stages.unmoved`), and
those over single documents change no entry of a document but the few that they are about.
-/

namespace ApiContract

open Json (Value)

namespace Schema.Graph

variable {α : Type} (graph : Graph) (owner : Nat)

theorem locations_foldl {step : Graph → α → Graph}
    (keeps : ∀ graph item, (step graph item).locations = graph.locations) (items : List α) :
    (items.foldl step graph).locations = graph.locations := by
  induction items generalizing graph with
  | nil => rfl
  | cons item rest ih => rw [List.foldl_cons, ih, keeps]

theorem locations_nullProperty (required : List String) (property : String × Edge) :
    (nullProperty owner required graph property).locations = graph.locations := by
  unfold nullProperty
  dsimp only
  split
  · rfl
  · split <;> rfl

theorem locations_nullAdditional : (graph.nullAdditional owner).locations = graph.locations := by
  unfold nullAdditional
  split
  · split
    · rfl
    · split <;> rfl
  · rfl

theorem locations_nullObject : (graph.nullObject owner).locations = graph.locations := by
  rw [nullObject, locations_nullAdditional, locations_foldl]
  exact fun graph property => graph.locations_nullProperty owner _ property

theorem locations_nullItems : (graph.nullItems owner).locations = graph.locations := by
  unfold nullItems
  split
  · split <;> rfl
  · rfl

theorem locations_nullParameter (parameter : Parameter) :
    (graph.nullParameter parameter).locations = graph.locations := by
  unfold nullParameter
  split <;> rfl

end Schema.Graph

namespace Draft

/-- The documents are the same, and schemas are found at the same places. -/
structure Unmoved (draft other : Draft) : Prop where
  documents : other.documents = draft.documents
  locations : other.graph.locations = draft.graph.locations

variable {documents : DocumentSet} {draft middle written tagged merged final : Draft}

theorem Unmoved.trans (first : draft.Unmoved middle) (second : middle.Unmoved final) : draft.Unmoved final :=
  ⟨second.documents.trans first.documents, second.locations.trans first.locations⟩

theorem unmoved_foldl (change : Nat → Schema.Node → Schema.Node) (owners : List Nat) (draft : Draft) :
    draft.Unmoved (owners.foldl (fun draft id => draft.modifyNode id (change id)) draft) := by
  induction owners generalizing draft with
  | nil => exact ⟨rfl, rfl⟩
  | cons owner rest ih =>
      have first : draft.Unmoved (draft.modifyNode owner (change owner)) := ⟨rfl, rfl⟩
      exact first.trans (ih _)

theorem admitNull_unmoved (draft : Draft) : draft.Unmoved draft.admitNull := by
  refine ⟨rfl, ?_⟩
  change (List.foldl _ (List.foldl _ (List.foldl _ draft.graph _) _) _).locations = _
  rw [Schema.Graph.locations_foldl _ Schema.Graph.locations_nullParameter,
    Schema.Graph.locations_foldl _ Schema.Graph.locations_nullItems,
    Schema.Graph.locations_foldl _ Schema.Graph.locations_nullObject]

theorem mergeBranches_unmoved (merge : tagged.mergeBranches = .ok merged) : tagged.Unmoved merged := by
  obtain ⟨graph, answered, kept⟩ :=
    Schema.Merging.mergeAll_answers tagged.baseSchemas tagged.catalog.collections.objects tagged.graph
  rw [mergeBranches, answered] at merge
  cases merge
  exact ⟨rfl, kept⟩

theorem Stages.unmoved (stages : Stages documents written tagged merged final) : written.Unmoved final := by
  have tags : written.Unmoved tagged := by
    refine ⟨?_, stages.retagged.locations⟩
    obtain ⟨catalog, search, _, rfl⟩ := buildTagMaps_eq_ok stages.tags
    rfl
  refine (tags.trans (mergeBranches_unmoved stages.branches)).trans ?_
  rw [stages.finish]
  exact ((unmoved_foldl _ _ merged).trans (admitNull_unmoved _)).trans (unmoved_foldl _ _ _)

end Draft

/-! ## Documents that are made uniform -/

namespace DocumentEdit

variable {document value : Value} {key : String}

/-- Only the paths are different after the extension paths were joined to them. -/
theorem find?_joinPaths (unique : document.hasUniqueKeys = true) (extension : key ≠ extensionPaths)
    (other : key ≠ "paths") (found : document.find? key = some value) : (joinPaths document).find? key = some value := by
  unfold joinPaths
  split
  next entries =>
    split
    · exact found
    next extra _ =>
      have distinct := (Value.hasUniqueKeys_object_iff.mp unique).1
      have kept := Assoc.find?_swapRemove_of_ne distinct extension found
      dsimp only
      split
      · change Assoc.find? _ key = _
        rw [Assoc.find?_modify_of_ne _ _ other, Assoc.find?_insertNew, kept]
        rfl
      · exact kept
  · exact found

theorem find?_withMediaTypes (consumes produces : Value) (found : document.find? key = some value) :
    (withMediaTypes consumes produces document).find? key = some value := by
  unfold withMediaTypes
  split
  next entries =>
    change Assoc.find? entries key = some value at found
    change Assoc.find? _ key = _
    rw [Assoc.find?_insertNew, Assoc.find?_insertNew, found]
    rfl
  · exact found

/-- Media types are added and spread over the paths, and nothing else is different. -/
theorem find?_spreadMediaTypes (other : key ≠ "paths") (found : document.find? key = some value) :
    (spreadMediaTypes document).find? key = some value := by
  have kept := find?_withMediaTypes defaultMediaTypes defaultMediaTypes found
  unfold spreadMediaTypes
  split
  next entries same =>
    rw [same] at kept
    exact (Assoc.find?_modify_of_ne _ _ other).trans kept
  · exact kept

end DocumentEdit

namespace DocumentSet

variable {documents : DocumentSet} {url other key : String} {whole value : Value}

def prepare (documents : DocumentSet) (url : String) : DocumentSet :=
  (documents.modify url DocumentEdit.joinPaths).modify url DocumentEdit.spreadMediaTypes

/-- The documents as they are when one is read: those up to it were made uniform. -/
def preparedFor (documents : DocumentSet) (url : String) : DocumentSet :=
  (documents.urls.takeWhile (· ≠ url) ++ [url]).foldl prepare documents

theorem mem_urls (present : documents.get? url = some whole) : url ∈ documents.urls :=
  List.mem_map.mpr ⟨_, Assoc.mem_of_find? present, rfl⟩

theorem preparedFor_eq {before after : List String} (split : documents.urls = before ++ url :: after)
    (apart : url ∉ before) : documents.preparedFor url = (before.foldl prepare documents).prepare url := by
  have taken : documents.urls.takeWhile (· ≠ url) = before := by
    rw [split, List.takeWhile_append_of_pos]
    · simp
    · exact fun other among => decide_eq_true fun same => apart (same ▸ among)
  rw [preparedFor, taken, List.foldl_append]
  rfl

theorem urls_prepare (documents : DocumentSet) (url : String) : (documents.prepare url).urls = documents.urls :=
  (Assoc.keys_modify _ _ _).trans (Assoc.keys_modify _ _ _)

theorem get?_modify_of_ne (documents : DocumentSet) (change : Value → Value) (different : other ≠ url) :
    (documents.modify url change).get? other = documents.get? other :=
  Assoc.find?_modify_of_ne _ _ different

theorem get?_modify_self (documents : DocumentSet) (url : String) (change : Value → Value) :
    (documents.modify url change).get? url = (documents.get? url).map change :=
  Assoc.find?_modify_self _ _ _

theorem get?_prepare_of_ne (documents : DocumentSet) (different : other ≠ url) :
    (documents.prepare url).get? other = documents.get? other := by
  rw [prepare, get?_modify_of_ne _ _ different, get?_modify_of_ne _ _ different]

theorem get?_prepare_self (documents : DocumentSet) (url : String) :
    (documents.prepare url).get? url =
      (documents.get? url).map fun whole => DocumentEdit.spreadMediaTypes (DocumentEdit.joinPaths whole) := by
  rw [prepare, get?_modify_self, get?_modify_self, Option.map_map]
  rfl

/-- Making documents uniform leaves alone which there are, and which of them are roots. -/
theorem foldl_prepare_kept (documents : DocumentSet) (urls : List String) :
    (urls.foldl prepare documents).urls = documents.urls ∧
      (urls.foldl prepare documents).roots = documents.roots := by
  induction urls generalizing documents with
  | nil => exact ⟨rfl, rfl⟩
  | cons url rest ih =>
      obtain ⟨urls, roots⟩ := ih (documents.prepare url)
      exact ⟨urls.trans (documents.urls_prepare url), roots⟩

theorem isRoot_preparedFor (documents : DocumentSet) (url : String) :
    (documents.preparedFor url).isRoot = documents.isRoot := by
  funext other
  rw [isRoot, preparedFor, (documents.foldl_prepare_kept _).2, isRoot]

theorem get?_foldl_prepare (documents : DocumentSet) {urls : List String} (apart : url ∉ urls) :
    (urls.foldl prepare documents).get? url = documents.get? url := by
  induction urls generalizing documents with
  | nil => rfl
  | cons first rest ih =>
      obtain ⟨different, apartRest⟩ := List.ne_and_not_mem_of_not_mem_cons apart
      rw [List.foldl_cons, ih _ apartRest, documents.get?_prepare_of_ne different]

/-- A document is read with the entries that it had from the start, but for its paths and media types. -/
theorem exists_preparedFor (present : documents.get? url = some whole) (unique : whole.hasUniqueKeys = true)
    (extension : key ≠ DocumentEdit.extensionPaths) (other : key ≠ "paths") (found : whole.find? key = some value) :
    ∃ uniform, (documents.preparedFor url).get? url = some uniform ∧ uniform.find? key = some value := by
  have apart : url ∉ documents.urls.takeWhile (· ≠ url) := fun member => by simpa using List.mem_takeWhile_imp member
  refine ⟨_, ?_, DocumentEdit.find?_spreadMediaTypes other (DocumentEdit.find?_joinPaths unique extension other found)⟩
  rw [preparedFor, List.foldl_append, List.foldl_cons, List.foldl_nil, get?_prepare_self,
    get?_foldl_prepare _ apart, present]
  rfl

end DocumentSet

end ApiContract
