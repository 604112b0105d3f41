import Mathlib.Data.List.TakeWhile
import ApiContract.Proofs.Json.Route
import ApiContract.Proofs.Pass.Computed
import ApiContract.Proofs.Schema.Visits

/-!
The graph represents the documents (`reached_consistent`). Documents are visited and variants discovered in any order and
any number of times; whatever is reached, each node is known by the place that it was made from, and a document that was
visited adds nothing when it is visited again.

The sources of schemas are true (`sources_lead_back`): where references point to document roots or below named keys, every
node that is read from a schema object has a source under which that very object is found again.
-/

namespace ApiContract

open Json (Value)

namespace Schema.Reading

variable {documents : DocumentSet} {visited : List String} {catalog : Catalog}

/-- What visits of documents and searches for variants lead to, with the documents that were visited. -/
inductive Reached (documents : DocumentSet) : List String → Catalog → Prop
  | start : Reached documents [] {}
  | visit {visited before url operations after} : Reached documents visited before →
      (document documents (fuelFor documents) url).run before = some (operations, after) →
      Reached documents (url :: visited) after
  | discover {visited before rounds added after} : Reached documents visited before →
      (discover documents (fuelFor documents) rounds).run before = some (added, after) →
      Reached documents visited after

theorem Reached.moves (reached : Reached documents visited catalog) : Moves documents {} catalog := by
  induction reached with
  | start => exact .refl
  | visit _ ran ih => exact ih.trans (document_steps _ _ _ (Moves.grows ih) trivial ran).1
  | discover _ ran ih => exact ih.trans (discover_steps _ _ _ (Moves.grows ih) trivial ran).1

/-- A document that was visited was visited in some catalog on the way. -/
theorem Reached.exists_visit (reached : Reached documents visited catalog) {url : String} (member : url ∈ visited) :
    ∃ before operations after, Built before ∧
      (document documents (fuelFor documents) url).run before = some (operations, after) ∧
      Moves documents after catalog := by
  induction reached with
  | start => cases member
  | @visit visited earlier _ operations after onTheWay ran ih =>
      have built : Built earlier := onTheWay.moves.grows
      rcases List.mem_cons.mp member with rfl | among
      · exact ⟨earlier, operations, after, built, ran, .refl⟩
      · obtain ⟨before, others, middle, start, first, moves⟩ := ih among
        exact ⟨before, others, middle, start, first, moves.trans (document_steps _ _ _ built trivial ran).1⟩
  | @discover visited earlier _ _ _ onTheWay ran ih =>
      have built : Built earlier := onTheWay.moves.grows
      obtain ⟨before, others, middle, start, first, moves⟩ := ih member
      exact ⟨before, others, middle, start, first, moves.trans (discover_steps _ _ _ built trivial ran).1⟩

/-- The graph, its collections and the deferred errors fit each other and the documents. -/
structure Consistent (documents : DocumentSet) (catalog : Catalog) : Prop where
  found : ∀ id < catalog.graph.size, catalog.graph.lookup (catalog.graph.node id).source.location = some id
  distinct : ∀ id < catalog.graph.size, ∀ other < catalog.graph.size,
    (catalog.graph.node id).source.location = (catalog.graph.node other).source.location → id = other
  leads : ∀ id target, (catalog.graph.node id).LeadsTo target → target < catalog.graph.size
  named : ∀ id, (catalog.graph.node id).identity = none ∨
    (catalog.graph.node id).identity = some (catalog.graph.node id).source.location
  once : catalog.collections.listing.Nodup
  sorted : ∀ kind, ∀ id ∈ catalog.collections.ofKind kind,
    id < catalog.graph.size ∧ (catalog.graph.node id).kind = kind
  /-- Collected nodes were made from schema objects, all others are placeholders: of schemas that are no objects, or of
  references that are unresolvable. -/
  made : ∀ id < catalog.graph.size, Made documents catalog id
  childless : ∀ id ∉ catalog.collections.listing, ∀ target, ¬(catalog.graph.node id).LeadsTo target
  spoiled : ∀ id error, (id, error) ∈ catalog.deferred.errors → id < catalog.graph.size ∧
    id ∉ catalog.collections.listing ∧ ∃ url pointer reference, Dangling documents url pointer reference ∧
      catalog.graph.node id = .placeholder url pointer (catalog.graph.node id).identity ∧
      error = .unresolvableReference reference (locationOf url pointer)

theorem not_leadsTo_placeholder {url pointer : String} {identity : Option String} {target : Nat} :
    ¬(Node.placeholder url pointer identity).LeadsTo target :=
  Node.Childless.not_leadsTo ⟨rfl, rfl, rfl, rfl, rfl, rfl⟩ rfl

/-- Nothing is made from a node outside the collections but a placeholder. -/
theorem Made.childless {id target : Nat} (made : Made documents catalog id) (outside : id ∉ catalog.collections.listing) :
    ¬(catalog.graph.node id).LeadsTo target := by
  cases made with
  | schema _ _ member => exact absurd member outside
  | hollow _ _ shape =>
      rw [shape]
      exact not_leadsTo_placeholder
  | dangling _ shape =>
      rw [shape]
      exact not_leadsTo_placeholder

theorem Represents.consistent (represents : Represents documents catalog) (built : Built catalog) :
    Consistent documents catalog where
  found id inside := (represents.located _ id).mpr ⟨inside, rfl⟩
  distinct id inside other insideToo same := by
    have found := (represents.located _ id).mpr ⟨inside, same⟩
    exact Option.some.inj (found.symm.trans ((represents.located _ other).mpr ⟨insideToo, rfl⟩))
  leads _ _ leads := built.leadsTo_lt leads
  named id := by
    cases identity : (catalog.graph.node id).identity with
    | none => exact .inl rfl
    | some location => exact .inr (congrArg some (represents.named id location identity))
  once := represents.once
  sorted _ _ member := built.ofKind member
  made := represents.made
  childless id outside target := by
    by_cases inside : id < catalog.graph.size
    · exact (represents.made id inside).childless outside
    · rw [Graph.node_of_size_le (Nat.le_of_not_lt inside)]
      exact Node.Childless.not_leadsTo ⟨rfl, rfl, rfl, rfl, rfl, rfl⟩ rfl
  spoiled id error member := by
    obtain ⟨inside, kept⟩ := represents.spoiled id error member
    refine ⟨inside, ?_⟩
    cases represents.made id inside with
    | schema _ _ _ sound => cases sound.symm.trans kept
    | hollow _ _ _ _ sound => cases sound.symm.trans kept
    | dangling dangling shape outside recorded =>
        exact ⟨outside, _, _, _, dangling, shape, Option.some.inj (kept.symm.trans recorded)⟩

/-- Whatever is reached is consistent, can be read on from, and has all that its documents have to give. -/
theorem reached_consistent (reached : Reached documents visited catalog) :
    Consistent documents catalog ∧
      (∀ url, ∃ operations after,
        (document documents (fuelFor documents) url).run catalog = some (operations, after)) ∧
      ∀ url ∈ visited, ∀ operations after,
        (document documents (fuelFor documents) url).run catalog = some (operations, after) → Quiet catalog after := by
  have moves := reached.moves
  refine ⟨moves.represents.consistent moves.grows, fun url => ?_, fun url member operations after ran => ?_⟩
  · obtain ⟨operations, after, ran, _⟩ := document_answers documents url catalog trivial
    exact ⟨operations, after, ran⟩
  · obtain ⟨before, _, _, built, first, movesOn⟩ := reached.exists_visit member
    exact (document_retraces documents _ url).quiet built first movesOn ran

/-- A list of notes: some are plain, one is missing, and one is no schema at all. -/
def notebook : DocumentSet := .ofDefinitions [
  ("Note", .object [("properties", .object [("text", .ofType "string"), ("next", .toDefinition "Note"),
    ("lost", .toDefinition "Page"), ("blank", .null)])]),
  ("Notes", .object [("type", .string "array"), ("items", .toDefinition "Note")])]

/-- The notebook is read into five nodes, of which the missing page and the blank are placeholders. -/
theorem notebook_consistent :
    ∃ operations catalog, (document notebook (fuelFor notebook) "/api.json").run {} = some (operations, catalog) ∧
      catalog.graph.size = 5 ∧ catalog.collections.listing.length = 3 ∧ catalog.deferred.errors.length = 1 ∧
      Consistent notebook catalog ∧
      ∃ again after, (document notebook (fuelFor notebook) "/api.json").run catalog = some (again, after) ∧
        Quiet catalog after := by
  have ends : (((document notebook (fuelFor notebook) "/api.json").run {}).map fun answer =>
      (answer.2.graph.size, answer.2.collections.listing.length, answer.2.deferred.errors.length)) =
      some (5, 3, 1) := by
    decide +kernel
  obtain ⟨⟨operations, catalog⟩, ran, counts⟩ := Option.map_eq_some_iff.mp ends
  simp only [Prod.mk.injEq] at counts
  obtain ⟨size, collected, errors⟩ := counts
  obtain ⟨consistent, answers, repeated⟩ := reached_consistent (.visit .start ran)
  obtain ⟨again, after, ranAgain⟩ := answers "/api.json"
  exact ⟨operations, catalog, ran, size, collected, errors, consistent, again, after, ranAgain,
    repeated _ List.mem_cons_self _ _ ranAgain⟩

end Schema.Reading

namespace Pointer

variable {pointer segment : String}

/-- The pointer leads to a whole document, or its first segment is not empty. -/
def Named (pointer : String) : Prop :=
  pointer = "" ∨ ∃ c rest, pointer.toList = '/' :: c :: rest ∧ c ≠ '/'

theorem segments_of_spelled {c : Char} {rest : List Char} (spelled : pointer.toList = '/' :: c :: rest) (other : c ≠ '/') :
    segments pointer = (Text.split '/' (c :: rest)).map fun segment => String.ofList (unescapeChars segment) := by
  rw [segments, spelled]
  simp [other]

theorem Named.append (named : Named pointer) (plain : '/' ∉ segment.toList) (filled : pointer ≠ "" ∨ segment ≠ "") :
    Named (pointer ++ "/" ++ segment) ∧ segments (pointer ++ "/" ++ segment) = segments pointer ++ [unescape segment] := by
  rcases named with rfl | ⟨c, rest, spelled, other⟩
  · obtain ⟨c, rest, chars⟩ : ∃ c rest, segment.toList = c :: rest := by
      refine List.exists_cons_of_ne_nil fun empty => ?_
      exact filled.elim (fun long => long rfl) fun long => long (String.toList_eq_nil_iff.mp empty)
    have spelled : ("" ++ "/" ++ segment).toList = '/' :: c :: rest := by simp [chars]
    have other : c ≠ '/' := fun same => plain (chars ▸ same ▸ List.mem_cons_self)
    refine ⟨.inr ⟨c, rest, spelled, other⟩, ?_⟩
    rw [segments_of_spelled spelled other, ← chars, Text.split_of_notMem plain]
    rfl
  · have longer : (pointer ++ "/" ++ segment).toList = '/' :: c :: (rest ++ '/' :: segment.toList) := by simp [spelled]
    refine ⟨.inr ⟨c, _, longer, other⟩, ?_⟩
    rw [segments_of_spelled longer other, segments_of_spelled spelled other, ← List.cons_append, Text.split_append,
      Text.split_of_notMem plain, List.map_append]
    rfl

end Pointer

namespace Json.Value

theorem follow?_concat (value : Value) (segments : List String) (segment : String) :
    value.follow? (segments ++ [segment]) = (value.follow? segments).bind (step? · segment) := by
  induction segments generalizing value with
  | nil =>
      rw [List.nil_append, follow?, follow?, Option.bind_some]
      cases value.step? segment <;> rfl
  | cons first rest ih =>
      rw [List.cons_append, follow?, follow?]
      cases value.step? first with
      | none => rfl
      | some inner => exact ih inner

theorem hasUniqueKeys_of_mem_parts {value part : Value} (unique : value.hasUniqueKeys = true)
    (member : part ∈ value.parts) : part.hasUniqueKeys = true := by
  have reaches := mem_parts_iff.mp member
  clear member
  induction reaches with
  | refl => exact unique
  | tail _ holds ih =>
      cases holds with
      | item member =>
          rw [hasUniqueKeys] at ih
          exact hasUniqueKeys_of_mem_items ih member
      | entry member =>
          rw [hasUniqueKeys, Bool.and_eq_true] at ih
          exact hasUniqueKeys_of_mem_entries ih.2 member

end Json.Value

namespace Schema.Reading

variable {documents : DocumentSet} {visited : List String} {catalog : Catalog} {url pointer : String} {value : Value}

/-- What is so of documents in memory: there is one under an address and one value under a key, and positions of arrays are
machine words. -/
structure Stored (documents : DocumentSet) : Prop where
  addresses : documents.urls.Nodup
  keys : ∀ entry ∈ documents.documents, entry.2.hasUniqueKeys = true
  positions : ∀ entry ∈ documents.documents, ∀ items, .array items ∈ entry.2.parts → items.length ≤ Nat.pow 2 64

/-- Addresses are no locations, and references lead to whole documents or below a named key. -/
structure Navigable (documents : DocumentSet) : Prop where
  addresses : ∀ url ∈ documents.urls, '#' ∉ url.toList
  references : ∀ entry ∈ documents.documents, ∀ part ∈ entry.2.parts, ∀ reference, reference? part = some reference →
    Pointer.Named (Url.splitReference reference).2

/-- The value is found in its document under the pointer. -/
structure Found (documents : DocumentSet) (url pointer : String) (value : Value) : Prop where
  named : Pointer.Named pointer
  leads : ∃ whole, documents.get? url = some whole ∧ whole.at? pointer = some value

theorem Found.part (found : Found documents url pointer value) :
    ∃ entry ∈ documents.documents, value ∈ entry.2.parts := by
  obtain ⟨whole, held, followed⟩ := found.leads
  exact ⟨_, Assoc.mem_of_find? held, Value.follow?_mem_parts followed⟩

theorem Found.append {inner : Value} {segment : String} (found : Found documents url pointer value)
    (plain : '/' ∉ segment.toList) (filled : pointer ≠ "" ∨ segment ≠ "")
    (stepped : value.step? (Pointer.unescape segment) = some inner) :
    Found documents url (pointer ++ "/" ++ segment) inner := by
  obtain ⟨named, whole, held, followed⟩ := found
  obtain ⟨longer, segments⟩ := named.append plain filled
  refine ⟨longer, whole, held, ?_⟩
  rw [Value.at?, segments, Value.follow?_concat, ← Value.at?, followed]
  exact stepped

theorem splitReference_of_plain (plain : '#' ∉ url.toList) (pointer : String) :
    Url.splitReference (url ++ "#" ++ pointer) = (url, pointer) := by
  obtain ⟨rest, split, whole⟩ := splitReference_location url pointer
  have same : home url = url := by
    rw [home, List.takeWhile_eq_self_iff.mpr, String.ofList_toList]
    intro c member
    simpa using fun same : c = '#' => plain (same ▸ member)
  rw [same, locationOf] at whole
  rw [split, same]
  have tails := congrArg String.toList whole
  simp only [String.toList_append, List.append_assoc, List.append_cancel_left_eq] at tails
  rw [String.toList_injective tails]

/-- Wherever reading comes to, it finds what stands there under its pointer. -/
theorem Navigable.found (navigable : Navigable documents) (stored : Stored documents)
    (standing : Standing documents url pointer value) : Found documents url pointer value := by
  -- A member or an item adds one segment to the pointer; a reference starts over in the document that it names.
  induction standing with
  | @document url whole among => exact ⟨.inl rfl, whole, Assoc.find?_of_mem stored.addresses among, rfl⟩
  | @member url pointer entries key value _ member filled ih =>
      obtain ⟨entry, among, inside⟩ := ih.part
      have unique := Value.hasUniqueKeys_of_mem_parts (stored.keys entry among) inside
      rw [Value.hasUniqueKeys, Bool.and_eq_true, decide_eq_true_eq] at unique
      have stepped : (Value.object entries).step? key = some value := Assoc.find?_of_mem unique.1 member
      rw [← Pointer.unescape_escape key] at filled stepped
      refine ih.append (Pointer.slash_notMem_escape key) (filled.imp_right fun filled => ?_) stepped
      intro empty
      rw [empty] at filled
      exact filled rfl
  | @item url pointer items position value _ found ih =>
      obtain ⟨entry, among, inside⟩ := ih.part
      have bound := stored.positions entry among items inside
      have below : position < Nat.pow 2 64 := Nat.lt_of_lt_of_le (List.getElem?_eq_some_iff.mp found).1 bound
      refine ih.append (Pointer.slash_notMem_repr position) (.inr fun empty => ?_) ?_
      · exact Nat.repr_ne_empty empty
      · rw [Pointer.unescape, Pointer.unescapeChars_of_notMem (Pointer.tilde_notMem_repr position), String.ofList_toList,
          Value.step?, Pointer.position?_repr, if_pos below]
        exact found
  | @target base pointer value reference target _ written resolved ih =>
      obtain ⟨entry, among, inside⟩ := ih.part
      have named := navigable.references entry among value inside reference written
      obtain ⟨whole, held, resolved⟩ := Option.bind_eq_some_iff.mp resolved
      obtain ⟨inner, followed, resolved⟩ := Option.bind_eq_some_iff.mp resolved
      cases resolved
      have plain := navigable.addresses _ (Assoc.contains_iff_mem_keys _ _ |>.mp (Option.isSome_of_eq_some held))
      rw [DocumentSet.Target.location, splitReference_of_plain plain]
      exact ⟨named, whole, held, followed⟩

/-- A node that is read from a schema object has the source under which that object is found; the other nodes have no
keywords. -/
theorem sources_lead_back (stored : Stored documents) (navigable : Navigable documents)
    (reached : Reached documents visited catalog) :
    (∀ id ∈ catalog.collections.listing, ∃ url pointer whole raw,
      (catalog.graph.node id).source = .within url pointer ∧ documents.get? url = some whole ∧
        whole.at? pointer = some (.object raw) ∧
        (catalog.graph.node id).bare = nodeOf (.within url pointer) (catalog.graph.node id).identity raw) ∧
      ∀ id < catalog.graph.size, id ∉ catalog.collections.listing → ∃ url pointer,
        catalog.graph.node id = .placeholder url pointer (catalog.graph.node id).identity := by
  have represents := reached.moves.represents
  have built : Built catalog := reached.moves.grows
  constructor
  · intro id member
    obtain ⟨kind, listed⟩ := Collections.mem_listing.mp member
    cases represents.made id (built.ofKind listed).1 with
    | @schema url pointer raw standing keywords =>
        obtain ⟨_, whole, held, followed⟩ := navigable.found stored standing
        exact ⟨url, pointer, whole, raw, congrArg Node.source keywords, held, followed, keywords⟩
    | hollow _ _ _ outside => exact absurd member outside
    | dangling _ _ outside => exact absurd member outside
  · intro id inside outside
    cases represents.made id inside with
    | schema _ _ member => exact absurd member outside
    | hollow _ _ shape => exact ⟨_, _, shape⟩
    | dangling _ shape => exact ⟨_, _, shape⟩

/-- Parcels have a part from another document; two keys need escapes. -/
def parcels : DocumentSet where
  documents := [
    ("/api.json", .object [("definitions", .object [
      ("Parcel", .object [("allOf", .array [.object [("$ref", .string "parts.json#/definitions/in~1out")],
        .object [("properties", .object [("kg~", .ofType "number")])]])])])]),
    ("/parts.json", .object [("definitions", .object [("in/out", .ofType "string")])])]
  roots := ["/api.json"]

theorem parcels_stored : Stored parcels where
  addresses := by decide
  keys := by decide +kernel
  positions := by
    have lengths : ∀ entry ∈ parcels.documents, ∀ part ∈ entry.2.parts, (part.asArray?.getD []).length ≤ 2 := by
      decide +kernel
    intro entry among items inside
    exact Nat.le_trans (lengths entry among _ inside) (by decide)

theorem parcels_navigable : Navigable parcels where
  addresses := by decide
  references := by
    have written : ∀ entry ∈ parcels.documents, ∀ part ∈ entry.2.parts, ∀ reference ∈ reference? part,
        reference = "parts.json#/definitions/in~1out" := by
      decide +kernel
    intro entry among part inside reference cited
    obtain rfl := written entry among part inside reference cited
    exact .inr ⟨'d', "efinitions/in~1out".toList, by decide +kernel, by decide⟩

theorem sources_lead_back_parcels : Stored parcels ∧ Navigable parcels ∧ ∃ operations catalog,
    (document parcels (fuelFor parcels) "/api.json").run {} = some (operations, catalog) ∧
      catalog.collections.listing.map (fun id => (catalog.graph.node id).source.location) =
        ["/api.json#/definitions/Parcel", "/api.json#/definitions/Parcel/allOf/1", "/parts.json#/definitions/in~1out",
          "/api.json#/definitions/Parcel/allOf/1/properties/kg~0"] ∧
      ∀ id ∈ catalog.collections.listing, ∃ url pointer whole raw,
        (catalog.graph.node id).source = .within url pointer ∧ parcels.get? url = some whole ∧
          whole.at? pointer = some (.object raw) ∧
          (catalog.graph.node id).bare = nodeOf (.within url pointer) (catalog.graph.node id).identity raw := by
  have ends : (((document parcels (fuelFor parcels) "/api.json").run {}).map fun answer =>
      answer.2.collections.listing.map fun id => (answer.2.graph.node id).source.location) =
      some ["/api.json#/definitions/Parcel", "/api.json#/definitions/Parcel/allOf/1", "/parts.json#/definitions/in~1out",
        "/api.json#/definitions/Parcel/allOf/1/properties/kg~0"] := by
    decide +kernel
  obtain ⟨⟨operations, catalog⟩, ran, sources⟩ := Option.map_eq_some_iff.mp ends
  refine ⟨parcels_stored, parcels_navigable, operations, catalog, ran, sources, ?_⟩
  exact (sources_lead_back parcels_stored parcels_navigable (.visit .start ran)).1

end Schema.Reading

end ApiContract
