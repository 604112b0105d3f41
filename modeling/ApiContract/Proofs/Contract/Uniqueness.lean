import ApiContract.Proofs.Contract.Representation
import ApiContract.Proofs.Json.Route

/-!
Schemas are built once where references spell the places that they lead to canonically (`schemas_built_once`): then every
place that reading comes to has its only spelling. A reference that is spelled otherwise is followed all the same, and the
schema that it leads to is built a second time (`misspelled_schema_built_twice`).
-/

namespace ApiContract

open Json (Value)

/-- The route that a pointer takes in a document, and where it leads. -/
def DocumentSet.route? (documents : DocumentSet) (url pointer : String) : Option (Route × Value) :=
  (documents.get? url).bind fun whole => whole.route? (Pointer.segments pointer)

/-- The document and the route in it that a source names, however it is spelled. -/
def DocumentSet.place? (documents : DocumentSet) (source : SourceLocation) : Option (String × Route) :=
  source.pointer.bind fun pointer => (documents.route? source.url pointer).map fun found => (source.url, found.1)

namespace Schema.Reading

variable {documents : DocumentSet} {visited : List String} {catalog : Catalog} {url pointer : String} {value : Value}

/-- The pointer leads to the value, and it is the spelling of the route that it takes. -/
def Spelled (documents : DocumentSet) (url pointer : String) (value : Value) : Prop :=
  ∃ route, documents.route? url pointer = some (route, value) ∧ pointer = route.spell

/-- Every reference that is followed gives its target a place that is spelled canonically. -/
structure Canonical (documents : DocumentSet) : Prop where
  addresses : documents.urls.Nodup
  keys : ∀ entry ∈ documents.documents, entry.2.hasUniqueKeys = true
  references : ∀ base reference target, Cited documents base reference →
    documents.resolve? base reference = some target →
    Spelled documents (Url.splitReference target.location).1 (Url.splitReference target.location).2 target.value

/-- The value is found in its document step by step, and the pointer spells the steps. -/
def Located (documents : DocumentSet) (url pointer : String) (value : Value) : Prop :=
  ∃ whole route, documents.get? url = some whole ∧ Route.walk? route whole = some value ∧ pointer = Route.spell route ∧
    Route.IsProper route

theorem Spelled.located (spelled : Spelled documents url pointer value) : Located documents url pointer value := by
  obtain ⟨route, found, rfl⟩ := spelled
  obtain ⟨whole, held, followed⟩ := Option.bind_eq_some_iff.mp found
  exact ⟨whole, route, held, Value.walk?_of_route? followed, rfl, Route.isProper_of_route? followed⟩

/-- One step further from a place that is spelled canonically. -/
theorem Located.onto (located : Located documents url pointer value) {turn : Turn} {inner : Value}
    (taken : turn.take? value = some inner) (named : pointer ≠ "" ∨ turn ≠ .key "") :
    Located documents url (turn.onto pointer) inner := by
  obtain ⟨whole, route, held, walked, rfl, proper⟩ := located
  refine ⟨whole, route ++ [turn], held, ?_, (route.spell_concat turn).symm, Route.isProper_concat proper named⟩
  rw [Route.walk?_concat, walked]
  exact taken

theorem Located.hasUniqueKeys (located : Located documents url pointer value) (canonical : Canonical documents) :
    value.hasUniqueKeys = true := by
  obtain ⟨whole, route, held, walked, _⟩ := located
  exact Route.hasUniqueKeys_of_walk? walked (canonical.keys _ (Assoc.mem_of_find? held))

/-- Every place that reading comes to is spelled canonically. -/
theorem Canonical.located (canonical : Canonical documents) (standing : Standing documents url pointer value) :
    Located documents url pointer value := by
  induction standing with
  | @document url whole among =>
      exact ⟨whole, [], Assoc.find?_of_mem canonical.addresses among, rfl, rfl, fun absurd => by cases absurd⟩
  | @member url pointer entries key value _ member named ih =>
      have unique := ih.hasUniqueKeys canonical
      rw [Value.hasUniqueKeys, Bool.and_eq_true, decide_eq_true_eq] at unique
      have taken : (Turn.key key).take? (.object entries) = some value := Assoc.find?_of_mem unique.1 member
      exact ih.onto taken (named.imp_right fun filled same => filled (Turn.key.inj same))
  | @item url pointer items position value _ found ih =>
      have taken : (Turn.position position).take? (.array items) = some value := found
      exact ih.onto taken (.inr fun absurd => by cases absurd)
  | target standing written resolved => exact (canonical.references _ _ _ ⟨_, _, standing, written⟩ resolved).located

/-- A pointer that is spelled canonically takes the route that it spells. -/
theorem Located.route_eq (located : Located documents url pointer value) {route : Route} {last : Value}
    (found : documents.route? url pointer = some (route, last)) : pointer = route.spell ∧ last = value := by
  obtain ⟨whole, own, held, walked, rfl, proper⟩ := located
  rw [DocumentSet.route?, held, Option.bind_some, Route.segments_spell proper] at found
  obtain ⟨rfl, rfl⟩ := Value.route?_text walked found
  exact ⟨rfl, rfl⟩

/-- Nothing stands where a body parameter lacks its schema. -/
theorem Located.route?_eq_none {parameter : Value} (located : Located documents url pointer parameter)
    (missing : parameter.find? "schema" = none) : documents.route? url (pointer ++ "/schema") = none := by
  obtain ⟨whole, route, held, walked, rfl, proper⟩ := located
  have spelled : route.spell ++ "/schema" = Route.spell (route ++ [.key "schema"]) := by
    rw [Route.spell_concat]
    exact (Pointer.child_of_plain (Schema.Reading.keywords_plain "schema" (by decide)).2 _).symm
  have last : parameter.turn? "schema" = none := by
    cases parameter with
    | object entries =>
        rw [Value.find?] at missing
        rw [Value.turn?, missing, Option.map_none]
    | array items => rfl
    | null | bool flag | number n | string text => rfl
  rw [DocumentSet.route?, held, Option.bind_some, spelled,
    Route.segments_spell (Route.isProper_concat proper (.inr (by decide))), List.map_append, List.map_singleton, Turn.text,
    Value.route?_concat]
  cases found : whole.route? (route.map Turn.text) with
  | none => rfl
  | some answer =>
      obtain ⟨rfl, same⟩ := Value.route?_text walked found
      rw [Option.bind_some, same, last, Option.map_none]

/-- What is built at a place is built under the only spelling of its route. -/
theorem Canonical.spell_eq (canonical : Canonical documents) (builds : Builds documents url pointer value)
    {route : Route} {last : Value} (found : documents.route? url pointer = some (route, last)) : pointer = route.spell := by
  cases builds with
  | standing standing => exact ((canonical.located standing).route_eq found).1
  | lacking standing missing => cases ((canonical.located standing).route?_eq_none missing).symm.trans found

/-- What is built at a place is built from what a pointer leads to there. -/
theorem Canonical.value_eq (canonical : Canonical documents) (builds : Builds documents url pointer value)
    {route : Route} {last : Value} (found : documents.route? url pointer = some (route, last)) : last = value := by
  cases builds with
  | standing standing => exact ((canonical.located standing).route_eq found).2
  | lacking standing missing => cases ((canonical.located standing).route?_eq_none missing).symm.trans found

/-- A node that no error is deferred for was built from a schema at its place. -/
theorem Made.builds {id : Nat} (made : Made documents catalog id) (sound : catalog.deferred.find? id = none) :
    ∃ url pointer value, Builds documents url pointer value ∧ (catalog.graph.node id).source = .within url pointer := by
  cases made with
  | @schema url pointer raw standing keywords =>
      exact ⟨url, pointer, _, .standing standing, congrArg Node.source keywords⟩
  | @hollow url pointer value builds _ shape => exact ⟨url, pointer, value, builds, congrArg Node.source shape⟩
  | dangling _ _ _ spoiled => cases sound.symm.trans spoiled

/-- No two nodes that were built from schemas stand for one place of one document. -/
theorem schemas_built_once (canonical : Canonical documents) (reached : Reached documents visited catalog) :
    ∀ id < catalog.graph.size, ∀ other < catalog.graph.size,
      catalog.deferred.find? id = none → catalog.deferred.find? other = none →
      ∀ place, documents.place? (catalog.graph.node id).source = some place →
        documents.place? (catalog.graph.node other).source = some place → id = other := by
  intro id inside other insideToo sound soundToo place leads leadsToo
  have represents := reached.moves.represents
  obtain ⟨url, pointer, _, builds, source⟩ := (represents.made id inside).builds sound
  obtain ⟨urlToo, pointerToo, _, buildsToo, sourceToo⟩ := (represents.made other insideToo).builds soundToo
  rw [source] at leads
  rw [sourceToo] at leadsToo
  obtain ⟨⟨route, _⟩, found, rfl⟩ := Option.map_eq_some_iff.mp leads
  obtain ⟨⟨routeToo, _⟩, foundToo, same⟩ := Option.map_eq_some_iff.mp leadsToo
  cases same
  have spelled := canonical.spell_eq builds found
  have spelledToo := canonical.spell_eq buildsToo foundToo
  have known := (represents.located _ id).mpr ⟨inside, congrArg SourceLocation.location source⟩
  have knownToo := (represents.located _ other).mpr ⟨insideToo, congrArg SourceLocation.location sourceToo⟩
  rw [spelled] at known
  rw [spelledToo] at knownToo
  exact Option.some.inj (known.symm.trans knownToo)

/-! ## Canonical documents -/

/-- A route is how the pointer of a target was followed. -/
theorem route?_of_resolve? {base reference : String} {target : DocumentSet.Target}
    (resolved : documents.resolve? base reference = some target) :
    (documents.route? target.url target.pointer).map Prod.snd = some target.value := by
  obtain ⟨whole, held, resolved⟩ := Option.bind_eq_some_iff.mp resolved
  obtain ⟨value, followed, same⟩ := Option.bind_eq_some_iff.mp resolved
  cases same
  rw [DocumentSet.route?, held, Option.bind_some, Value.route?_snd]
  exact followed

/-- The reference spells its target as the route there, in a document whose address has no number sign. -/
def SpellsOut (documents : DocumentSet) (base reference : String) : Prop :=
  ∀ target ∈ documents.resolve? base reference, home target.url = target.url ∧
    (documents.route? target.url target.pointer).map (fun found => found.1.spell) = some target.pointer

instance (documents : DocumentSet) (base reference : String) : Decidable (SpellsOut documents base reference) :=
  inferInstanceAs (Decidable (∀ _ ∈ _, _))

theorem SpellsOut.spelled {base reference : String} (spells : SpellsOut documents base reference)
    {target : DocumentSet.Target} (resolved : documents.resolve? base reference = some target) :
    Spelled documents (Url.splitReference target.location).1 (Url.splitReference target.location).2 target.value := by
  obtain ⟨plain, spelled⟩ := spells target resolved
  obtain ⟨rest, cut, location⟩ := splitReference_location target.url target.pointer
  have same : rest = target.pointer := by
    rw [plain, locationOf] at location
    exact String.append_right_inj _ |>.mp location
  rw [DocumentSet.Target.location, cut, plain, same]
  obtain ⟨⟨route, value⟩, found, own⟩ := Option.map_eq_some_iff.mp spelled
  have leads := route?_of_resolve? resolved
  rw [found] at leads
  cases leads
  exact ⟨route, found, own.symm⟩

/-- All references in the documents spell their targets. -/
theorem Canonical.of_sites (addresses : documents.urls.Nodup)
    (keys : ∀ entry ∈ documents.documents, entry.2.hasUniqueKeys = true)
    (spells : ∀ site ∈ sites documents, ∀ reference ∈ reference? site.2, SpellsOut documents site.1 reference) :
    Canonical documents := by
  refine ⟨addresses, keys, ?_⟩
  rintro base reference target ⟨pointer, value, standing, written⟩ resolved
  exact (spells _ standing.mem_sites reference written).spelled resolved

theorem notebook_canonical : Canonical notebook := by
  apply Canonical.of_sites <;> decide +kernel

/-- The schemas of the notebook are built once: it has as many places as nodes. -/
theorem notebook_built_once :
    ∃ operations catalog, (document notebook (fuelFor notebook) "/api.json").run {} = some (operations, catalog) ∧
      Canonical notebook ∧ 1 < catalog.graph.size ∧
      ∀ id < catalog.graph.size, ∀ other < catalog.graph.size,
        catalog.deferred.find? id = none → catalog.deferred.find? other = none →
        ∀ place, notebook.place? (catalog.graph.node id).source = some place →
          notebook.place? (catalog.graph.node other).source = some place → id = other := by
  have ends : ((document notebook (fuelFor notebook) "/api.json").run {}).map (fun answer => answer.2.graph.size) =
      some 5 := by
    decide +kernel
  obtain ⟨⟨operations, catalog⟩, ran, size⟩ := Option.map_eq_some_iff.mp ends
  refine ⟨operations, catalog, ran, notebook_canonical, ?_, schemas_built_once notebook_canonical (.visit .start ran)⟩
  rw [size]
  decide

/-! ## Other spellings -/

/-- A property refers to a definition without the slash after the number sign. -/
def misspelled : DocumentSet := .ofDefinitions [
  ("A", .ofType "string"),
  ("B", .object [("properties", .object [("x", .object [("$ref", .string "#definitions/A")])])])]

/-- The definition has a node for each spelling. -/
theorem misspelled_schema_built_twice :
    ∃ operations catalog, (document misspelled (fuelFor misspelled) "/api.json").run {} = some (operations, catalog) ∧
      ∃ id < catalog.graph.size, ∃ other < catalog.graph.size, id ≠ other ∧
        catalog.deferred.find? id = none ∧ catalog.deferred.find? other = none ∧
        ∃ place, misspelled.place? (catalog.graph.node id).source = some place ∧
          misspelled.place? (catalog.graph.node other).source = some place := by
  have twice : ((document misspelled (fuelFor misspelled) "/api.json").run {}).any (fun answer =>
      decide (2 < answer.2.graph.size ∧ answer.2.deferred.find? 0 = none ∧ answer.2.deferred.find? 2 = none ∧
        misspelled.place? (answer.2.graph.node 0).source = some ("/api.json", [.key "definitions", .key "A"]) ∧
        misspelled.place? (answer.2.graph.node 2).source = some ("/api.json", [.key "definitions", .key "A"]))) = true := by
    decide +kernel
  obtain ⟨⟨operations, catalog⟩, ran, facts⟩ := (Option.any_eq_true _ _).mp twice
  obtain ⟨size, sound, soundToo, first, second⟩ := of_decide_eq_true facts
  exact ⟨operations, catalog, ran, 0, Nat.lt_trans (by decide) size, 2, size, by decide, sound, soundToo, _, first, second⟩

end Schema.Reading

end ApiContract
