import ApiContract.Proofs.Schema.Operations
import ApiContract.Proofs.Schema.Parameters

/-!
Each operation that a document declares is read with its parameters (`Reads`). Operations give schemas for their
parameters and for their responses, and all of these are in the graph (`Grounded`).
-/

namespace ApiContract

open Json (Value)

/-- The schemas that an operation gives for its parameters. -/
def Operation.Gives (operation : Operation) (id : Nat) : Prop :=
  ∃ parameter ∈ operation.parameters, parameter.schema.target = id

/-- The schemas that a response gives for its body and headers. -/
inductive Response.Gives (response : Response) (id : Nat) : Prop
  | body {edge} : response.schema = some edge → edge.target = id → Gives response id
  | header {header} : header ∈ response.headers → header.2.target = id → Gives response id

namespace Schema.Reading

/-- All schemas that an operation gives are in the graph. -/
structure Grounded (catalog : Catalog) (operation : Operation) : Prop where
  parameters : ∀ id, operation.Gives id → Known catalog id
  responses : ∀ entry ∈ operation.responses, ∀ id, entry.2.Gives id → Known catalog id

theorem grounded_lasts (operation : Operation) : Lasts fun catalog => Grounded catalog operation :=
  fun _ _ grows grounded =>
    ⟨fun id gives => known_lasts id _ _ grows (grounded.parameters id gives),
      fun entry member id gives => known_lasts id _ _ grows (grounded.responses entry member id gives)⟩

theorem leading_lasts (edge : Edge) : Lasts fun catalog => Leading catalog edge := known_lasts edge.target

/-! ## Operations -/

/-- An operation as a document writes it: under a method of a path, which has an item. -/
structure Declaration where
  path : String
  item : Value
  method : String
  raw : Value

namespace Declaration

/-- The operations that an item declares, in the order of the methods. -/
def ofItem (path : String) (item : Value) : List Declaration :=
  let present := methods.filterMap fun method => (item.find? method).map (method, ·)
  present.map fun entry => ⟨path, item, entry.1, entry.2⟩

/-- The operations that a document declares, in the order of its paths. -/
def ofDocument (whole : Value) : List Declaration :=
  ((whole.objectAt? "paths").getD []).flatMap fun path => ofItem path.1 path.2

def pathPointer (declaration : Declaration) : String := Pointer.child "/paths" declaration.path

def pointer (declaration : Declaration) : String := declaration.pathPointer ++ "/" ++ declaration.method

/-- The entries for parameters that count for an operation: those of its path, then its own. -/
def entries (declaration : Declaration) : List (String × Value) :=
  Reading.entries declaration.pathPointer declaration.item ++ Reading.entries declaration.pointer declaration.raw

end Declaration

section

variable {documents : DocumentSet} {fuel : Nat} {url pointer : String} {raw : Value}

theorem edge_leading {value : Value} (standing : Standing documents url pointer value) :
    Ensures documents (fun _ => True) (edge documents fuel url pointer value) Leading :=
  ((sound documents fuel).edge _ _ _ standing).leading

theorem responseHeaders_leading {place : Place} (standing : Standing documents place.url place.pointer place.value) :
    Ensures documents (fun _ => True) (responseHeaders documents fuel place) fun catalog headers =>
      ∀ header ∈ headers, Leading catalog header.2 := by
  have each : Ensures documents (fun _ => True)
      (((place.value.objectAt? "headers").getD []).mapM fun header => do
        let target ← edge documents fuel place.url (Pointer.child (place.pointer ++ "/headers") header.1) header.2
        return (Unicode.lower header.1, target))
      fun catalog headers => ∀ header ∈ headers, Leading catalog header.2 := by
    refine .mapM_mem trivial_lasts (fun header => leading_lasts header.2) fun header member => ?_
    have stands := standing.entry "headers" (by decide) (keywords_plain _ (by decide)).2 member
    exact .bind trivial_lasts (edge_leading stands) fun _ => .pure fun _ both => both.2
  refine .bind trivial_lasts each fun headers => .pure fun catalog both header member => ?_
  exact both.2 header (Assoc.mem_of_mem_ofList member)

/-- Once its body is read, a response is left with its headers. -/
theorem headed_known {place : Place} (standing : Standing documents place.url place.pointer place.value)
    (key status : String) (body : Option Edge) :
    Ensures documents (fun catalog => ∀ edge, body = some edge → Leading catalog edge)
      (do
        let headers ← responseHeaders documents fuel place
        return ⟨key, status, body, headers⟩ : Reading Response)
      fun catalog response => ∀ id, response.Gives id → Known catalog id := by
  have lasts : Lasts fun catalog => ∀ edge, body = some edge → Leading catalog edge :=
    fun _ _ grows leads edge declared => leading_lasts _ _ _ grows (leads edge declared)
  refine .bind lasts (responseHeaders_leading standing).anywhere fun headers => .pure fun catalog both id gives => ?_
  cases gives with
  | body declared leads => exact leads ▸ both.1 _ declared
  | header member leads => exact leads ▸ both.2 _ member

/-- The body and the headers of a response lead to schemas of the graph, also where the response itself is missing. -/
theorem response_known {operationKey status : String} (standing : Standing documents url pointer raw) :
    Ensures documents (fun _ => True) (response documents fuel url pointer operationKey status raw)
      fun catalog response => ∀ id, response.Gives id → Known catalog id := by
  unfold response
  dsimp only
  split
  next reference lost =>
    obtain ⟨written, missing⟩ := place?_eq_error lost
    have dangling : Dangling documents url pointer reference := ⟨⟨raw, standing, written⟩, .missing missing⟩
    refine .bind trivial_lasts (unresolved_ensures dangling).known fun target => .pure fun catalog both id gives => ?_
    cases gives with
    | body declared leads =>
        cases declared
        exact leads ▸ both.2
    | header member => cases member
  next place found =>
    have stands := standing.place? found
    split
    next schema held =>
      have inner := stands.find? (by decide) held
      rw [Pointer.child_of_plain (keywords_plain _ (by decide)).2] at inner
      have declared (target : Edge) : Ensures documents (fun catalog => True ∧ Leading catalog target)
          (pure (some target)) fun catalog body => ∀ edge, body = some edge → Leading catalog edge := by
        refine .pure fun _ both edge same => ?_
        cases same
        exact both.2
      refine .bind trivial_lasts (edge_leading inner) fun target => ?_
      refine .bind (trivial_lasts.and (leading_lasts target)) (declared target) fun body => ?_
      exact (headed_known stands _ _ body).strengthen fun _ both => both.2
    · have nothing : Ensures documents (fun _ => True) (pure none)
          fun catalog body => ∀ edge, body = some edge → Leading catalog edge :=
        .pure fun _ _ _ absurd => by cases absurd
      refine .bind trivial_lasts nothing fun body => ?_
      exact (headed_known stands _ _ body).strengthen fun _ both => both.2

/-- All responses of an operation lead to schemas of the graph. -/
theorem responses_known (standing : Standing documents url pointer raw) (key : String) :
    Ensures documents (fun _ => True)
      (((raw.objectAt? "responses").getD []).mapM fun entry => do
        let found ← response documents fuel url (Pointer.child (pointer ++ "/responses") entry.1) key entry.1 entry.2
        return (entry.1, found))
      fun catalog responses => ∀ entry ∈ responses, ∀ id, entry.2.Gives id → Known catalog id := by
  refine .mapM_mem trivial_lasts (fun _ _ _ grows all id gives => ?_) fun entry member => ?_
  · exact known_lasts id _ _ grows (all id gives)
  · have stands := standing.entry "responses" (by decide) (keywords_plain _ (by decide)).2 member
    exact .bind trivial_lasts (response_known stands) fun _ => .pure fun _ both => both.2

/-- An operation that was read where it is declared. -/
structure Reads (documents : DocumentSet) (url : String) (catalog : Catalog) (declaration : Declaration)
    (operation : Operation) : Prop where
  place : operation.place = (url, declaration.path, declaration.method)
  parameters : Adds documents catalog url declaration.entries {} ⟨operation.parameters, operation.errors⟩
  responses : ∀ entry ∈ operation.responses, ∀ id, entry.2.Gives id → Known catalog id

theorem Reads.lasts {declaration : Declaration} {operation : Operation} :
    Lasts fun catalog => Reads documents url catalog declaration operation := by
  intro before after grows reads
  refine ⟨reads.place, reads.parameters.lasts _ _ grows, fun entry member id gives => ?_⟩
  exact known_lasts id _ _ grows (reads.responses entry member id gives)

theorem Reads.grounded {catalog : Catalog} {declaration : Declaration} {operation : Operation}
    (reads : Reads documents url catalog declaration operation) (built : Built catalog) :
    Grounded catalog operation := by
  refine ⟨?_, reads.responses⟩
  rintro id ⟨parameter, member, rfl⟩
  obtain ⟨outcomes, yielded, added⟩ := reads.parameters
  have listed : parameter ∈ (outcomes.foldl ParameterList.add {}).parameters := added ▸ member
  obtain ⟨_, _, yields⟩ := yielded.exists_left ((mem_foldl_add listed).resolve_left List.not_mem_nil)
  exact yields.leading built

theorem operation_reads {document : Value} (declaration : Declaration)
    (standingItem : Standing documents url declaration.pathPointer declaration.item)
    (standing : Standing documents url declaration.pointer declaration.raw) :
    Ensures documents (fun _ => True)
      (operation documents fuel url document declaration.path declaration.item declaration.method declaration.raw)
      fun catalog operation => Reads documents url catalog declaration operation := by
  unfold operation
  dsimp only
  refine .bind trivial_lasts (addParameters_adds standingItem {}) fun ofPath => ?_
  refine .bind (trivial_lasts.and Adds.lasts) (addParameters_adds standing ofPath).anywhere fun list => ?_
  refine .bind ((trivial_lasts.and Adds.lasts).and Adds.lasts) (responses_known standing _).anywhere fun responses => ?_
  exact .pure fun _ both => ⟨rfl, both.1.1.2.append both.1.2, both.2⟩

theorem pathOperations_reads {document item : Value} {path : String}
    (standing : Standing documents url (Pointer.child "/paths" path) item) :
    Ensures documents (fun _ => True) (pathOperations documents fuel url document path item) fun catalog operations =>
      List.Forall₂ (Reads documents url catalog) (Declaration.ofItem path item) operations := by
  refine (Ensures.mapM trivial_lasts (fun _ _ => Reads.lasts) fun entry among => ?_).weaken
    (fun _ start => start) fun _ _ all => List.forall₂_map_left_iff.mpr all
  exact operation_reads ⟨path, item, entry.1, entry.2⟩ standing (standing.method among)

/-- A document is read as the operations that it declares. -/
theorem document_reads {whole : Value} (found : documents.get? url = some whole) :
    Ensures documents (fun _ => True) (document documents fuel url) fun catalog operations =>
      List.Forall₂ (Reads documents url catalog) (Declaration.ofDocument whole) operations := by
  have standing : Standing documents url "" whole := .document (Assoc.mem_of_find? found)
  have paths : Ensures documents (fun _ => True)
      (((whole.objectAt? "paths").getD []).mapM fun path => pathOperations documents fuel url whole path.1 path.2)
      fun catalog operations => List.Forall₂
        (fun path operations => List.Forall₂ (Reads documents url catalog) (Declaration.ofItem path.1 path.2) operations)
        ((whole.objectAt? "paths").getD []) operations := by
    refine .mapM trivial_lasts (fun _ _ => .forall₂ fun _ _ => Reads.lasts) fun path member => ?_
    have stands := standing.entry "paths" (by decide) (keywords_plain _ (by decide)).2 member
    exact pathOperations_reads stands
  rw [document, found]
  refine .bind trivial_lasts paths fun lists => ?_
  have lasts : Lasts fun catalog =>
      List.Forall₂ (Reads documents url catalog) (Declaration.ofDocument whole) lists.flatten :=
    .forall₂ fun _ _ => Reads.lasts
  have keeps : Ensures documents
      (fun catalog => List.Forall₂ (Reads documents url catalog) (Declaration.ofDocument whole) lists.flatten)
      (((whole.objectAt? "definitions").getD []).forM fun entry => do
        let _ ← definition documents fuel url entry.1 entry.2)
      fun _ _ => True := by
    refine .forM lasts fun entry member => ?_
    have stands := standing.entry "definitions" (by decide) (keywords_plain _ (by decide)).2 member
    exact (Retraces.bind (definition_retraces stands) fun _ _ => .pure () ()).steps.1.anywhere
  refine (Ensures.bind lasts keeps fun _ => .pure fun _ both => both.1).strengthen fun catalog both => ?_
  rw [Declaration.ofDocument, List.flatMap_def]
  exact List.rel_flatten (List.forall₂_map_left_iff.mpr both.2)

/-- The operations that a document is read as are grounded in the graph that reading it leaves. -/
theorem document_grounded (documents : DocumentSet) (fuel : Nat) (url : String) :
    Ensures documents (fun _ => True) (document documents fuel url) fun catalog operations =>
      ∀ operation ∈ operations, Grounded catalog operation := by
  cases found : documents.get? url with
  | none =>
      rw [document, found]
      exact .pure fun _ _ _ listed => absurd listed List.not_mem_nil
  | some whole =>
      intro before operations after built start ran
      obtain ⟨moves, reads⟩ := document_reads found before operations after built start ran
      refine ⟨moves, fun operation member => ?_⟩
      obtain ⟨_, _, read⟩ := reads.exists_left member
      exact read.grounded (built.trans moves.grows)

end

end Schema.Reading

end ApiContract
