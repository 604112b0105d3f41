import ApiContract.Pointer
import ApiContract.Url

/-!
The documents of a specification, by normalized address in load order. Root documents are those
that were asked for; the others came in because a document refers to them.
-/

namespace ApiContract

open Json (Value)

structure DocumentSet where
  documents : Assoc Value := []
  roots : List String := []

namespace DocumentSet

/-- Adds or replaces a requested document; a replaced one keeps its place. -/
def insertRoot (set : DocumentSet) (url : String) (document : Value) : DocumentSet :=
  let url := Url.normalize url
  { documents := Assoc.insert set.documents url document
    roots := if url ∈ set.roots then set.roots else set.roots ++ [url] }

/-- Adds a document that is only referred to; one that is present stays as it is. -/
def insertReferenced (set : DocumentSet) (url : String) (document : Value) : DocumentSet :=
  { set with documents := Assoc.insertNew set.documents (Url.normalize url) document }

def get? (set : DocumentSet) (url : String) : Option Value := Assoc.find? set.documents url

def contains (set : DocumentSet) (url : String) : Bool := Assoc.contains set.documents url

def isRoot (set : DocumentSet) (url : String) : Bool := set.roots.contains url

def urls (set : DocumentSet) : List String := Assoc.keys set.documents

/-- Changes a document in place. -/
def modify (set : DocumentSet) (url : String) (change : Value → Value) : DocumentSet :=
  { set with documents := Assoc.modify set.documents url change }

/-- A place in a document, as spelled by the reference that leads there, and the value found. -/
structure Target where
  url : String
  pointer : String
  value : Value

def Target.location (target : Target) : String := target.url ++ "#" ++ target.pointer

/-- Resolves a reference as written inside the document at `base`. -/
def resolve? (set : DocumentSet) (base reference : String) : Option Target := do
  let (file, pointer) := Url.splitReference reference
  let url := Url.join base file
  let document ← set.get? url
  let value ← document.at? pointer
  return ⟨url, pointer, value⟩

mutual

/-- The references to other documents: those of an object itself before those of its entries. -/
def externalReferences : Value → List String
  | .object entries =>
      let own := match (Assoc.find? entries "$ref").bind Value.asString? with
        | some reference => if (Url.splitReference reference).1 ≠ "" then [reference] else []
        | none => []
      own ++ externalReferencesOfEntries entries
  | .array items => externalReferencesOfItems items
  | _ => []

def externalReferencesOfItems : List Value → List String
  | [] => []
  | item :: rest => externalReferences item ++ externalReferencesOfItems rest

def externalReferencesOfEntries : List (String × Value) → List String
  | [] => []
  | (_, value) :: rest => externalReferences value ++ externalReferencesOfEntries rest

end

/-- The documents that the document at `url` refers to. -/
def externalTargets (url : String) (document : Value) : List String :=
  (externalReferences document).map fun reference =>
    Url.join url (Url.splitReference reference).1

/-- Loading of referenced documents, part way: documents not yet searched for references, targets
of the current document not yet looked at, and every target that was asked for. -/
structure Loading where
  documents : DocumentSet
  queue : List String
  targets : List String
  attempted : List String

namespace Loading

def start (set : DocumentSet) : Loading := ⟨set, set.urls, [], []⟩

/-- A target is fetched unless it is present or was asked for before. -/
def wanted (loading : Loading) (target : String) : Bool :=
  !loading.documents.contains target && !loading.attempted.contains target

/-- Takes documents from the queue until one has a wanted target; answers it with the rest. -/
def searchQueue (loading : Loading) : List String → Loading × Option String
  | [] => ({ loading with queue := [], targets := [] }, none)
  | url :: rest =>
      let targets := match loading.documents.get? url with
        | some document => externalTargets url document
        | none => []
      match targets.dropWhile (fun target => !loading.wanted target) with
      | [] => searchQueue loading rest
      | target :: others => ({ loading with queue := rest, targets := others }, some target)

/-- The next document to fetch, if any is left. -/
def next (loading : Loading) : Loading × Option String :=
  match loading.targets.dropWhile (fun target => !loading.wanted target) with
  | [] => searchQueue loading loading.queue
  | target :: others => ({ loading with targets := others }, some target)

/-- Takes in the answer of a fetch; a document that cannot be loaded is left out. -/
def supply (loading : Loading) (target : String) (fetched : Option Value) : Loading :=
  let asked := { loading with attempted := loading.attempted ++ [target] }
  match fetched with
  | some document =>
      { asked with
        documents := asked.documents.insertReferenced target document
        queue := asked.queue ++ [target] }
  | none => asked

/-- Fetches until nothing is missing, at most `limit` documents; none when the limit is reached. -/
def run {m : Type → Type} [Monad m] (fetch : String → m (Option Value)) :
    Nat → Loading → m (Option Loading)
  | 0, _ => pure none
  | limit + 1, loading => do
      match loading.next with
      | (loading, none) => return some loading
      | (loading, some target) =>
          let fetched ← fetch target
          run fetch limit (loading.supply target fetched)

end Loading

end DocumentSet

end ApiContract
