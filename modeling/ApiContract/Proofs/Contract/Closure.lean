import ApiContract.Proofs.Compilation.Reports
import ApiContract.Proofs.Pass.Computed
import ApiContract.Proofs.Pass.Heritage

/-!
Keys that are reported as undeclared. In a hierarchy the keys of an object are held against the variant that its
tag names, or against the root where the tag names none.
-/

namespace ApiContract

open Json (Value)
open Schema Schema.Graph
open Validator (ofSchema validatorOf)

/-! ## Where undeclared keys are reported -/

namespace Schema

/-- A schema refuses a key: it is closed and does not declare it, or it is a root, and the schema that governs the
object does not declare it. -/
inductive RefusesKey (graph : Graph) (entries : Assoc Value) (id : Nat) (key : String) : Prop
  | closed : (graph.node id).additional = some (.allowed false) → key ∉ Assoc.keys (graph.node id).propertyList →
      RefusesKey graph entries id key
  | governed {routing} : (graph.node id).routing? = some routing →
      key ∉ Assoc.keys (graph.node (graph.governing id entries)).propertyList → RefusesKey graph entries id key

end Schema

namespace Validator

variable {catalog : Catalog} {slot : Nat → Nat → Prop} {validator : Validator} {id target place : Nat}
  {direction : Direction} {fuel : Nat} {value : Value} {entries : Assoc Value} {path key : String}
  {before after : Guard} {failures : List Failure} {failure : Failure}

/-- A key of an object that is reported as undeclared is refused by a schema that applies to the object. -/
theorem Mirror.refusesKey (mirror : Mirror catalog slot validator id) (placed : slot target place)
    (ran : (visit validator.clauses direction fuel place (.object entries) path).run before = some (failures, after))
    (member : failure ∈ failures) (code : failure.code = .objectAdditionalProperties)
    (here : failure.path = Pointer.child path key) :
    ∃ schema, Schema.Beside catalog.graph (.object entries) target schema ∧
      RefusesKey catalog.graph entries schema key := by
  obtain ⟨index, beside, blamed⟩ := visit_blame_at fuel ran member here
  obtain ⟨schema, placedSchema, besideSchema⟩ := mirror.beside placed beside
  have depicts := mirror.depicts placedSchema
  refine ⟨schema, besideSchema, ?_⟩
  cases blamed with
  | missing codeToo => cases code.symm.trans codeToo
  | undeclared _ forbidden _ =>
      obtain ⟨shut, undeclared⟩ := depicts.forbids_iff.mp forbidden
      exact .closed shut undeclared
  | @closed dispatch declared routes listed undeclared _ =>
      obtain ⟨routing, routed, same, alike⟩ := depicts.dispatch_eq_some routes
      refine .governed routed ?_
      have named := named?_alike same alike entries
      have chosen : slot (catalog.graph.governing schema entries)
          ((Clause.variant? dispatch entries).getD index) := by
        change (catalog.graph.node schema).routing? = some routing at routed
        rw [Schema.Graph.governing, routed]
        generalize Clause.variant? dispatch entries = other at named
        change Option.Rel slot ((some routing).bind (Schema.named? · entries)) other at named
        generalize (some routing).bind (Schema.named? · entries) = variant at named
        cases named with
        | none => exact placedSchema
        | some placedVariant => exact placedVariant
      have listedChosen : (validator.clauses.getD ((Clause.variant? dispatch entries).getD index) {}).properties =
          some declared := by
        rw [← listed]
        unfold Clause.chosen
        cases Clause.variant? dispatch entries <;> rfl
      have keys := (mirror.depicts chosen).keys listedChosen
      change Assoc.keys (catalog.graph.node (catalog.graph.governing schema entries)).propertyList = _ at keys
      rw [keys]
      exact undeclared
  | member _ looked ranMember inside =>
      obtain ⟨_, placedChild, _⟩ := depicts.clauseFor? looked
      exact absurd here (mirror.additional_below placedChild ranMember inside code)

end Validator

/-! ## Hierarchies -/

namespace Schema

theorem Graph.governing_cases (graph : Graph) (root : Nat) (entries : Assoc Value) :
    graph.governing root entries = root ∨ ∃ property tags tag,
      (graph.node root).routing? = some (property, tags) ∧ (tag, some (graph.governing root entries)) ∈ tags := by
  unfold governing
  rcases routes : (graph.node root).routing? with _ | ⟨property, tags⟩
  · exact .inl rfl
  · rcases named : named? (property, tags) entries with _ | variant
    · exact .inl (by simp [named])
    · obtain ⟨tag, among⟩ := mem_of_named? named
      exact .inr ⟨property, tags, tag, rfl, by simpa [named] using among⟩

end Schema

namespace Draft

variable {documents : DocumentSet} {written tagged merged final : Draft} {root entered id other : Nat}
  {value : Value} {entries : Assoc Value} {key : String}

/-- The schemas that a hierarchy holds an object against: its root, the schema that governs the object, and base
schemas that lead on to the root. -/
def InHierarchy (merged : Draft) (root : Nat) (entries : Assoc Value) (id : Nat) : Prop :=
  id = root ∨ id = merged.graph.governing root entries ∨
    merged.isBaseSchema id = true ∧ (merged.graph.node id).discriminator = none ∧ Lineage merged.graph id root

/-- The schemas of a hierarchy lead to nothing else that applies to an object. -/
structure SelfContained (merged : Draft) (root : Nat) (entries : Assoc Value) : Prop where
  branches : ∀ id, merged.InHierarchy root entries id → ∀ edge ∈ (merged.graph.node id).allOf.getD [],
    merged.InHierarchy root entries edge.target
  anyOf : ∀ id, merged.InHierarchy root entries id → (merged.graph.node id).anyOf = none
  oneOf : ∀ id, merged.InHierarchy root entries id → (merged.graph.node id).oneOf = none

namespace Stages

theorem final_governing (stages : Stages documents written tagged merged final) (inside : id < merged.graph.size) :
    final.graph.governing id entries = merged.graph.governing id entries := by
  unfold governing
  rw [stages.final_routing? inside]

theorem governing_lt (stages : Stages documents written tagged merged final) (inside : root < merged.graph.size) :
    merged.graph.governing root entries < merged.graph.size := by
  rcases merged.graph.governing_cases root entries with same | ⟨_, _, _, routes, among⟩
  · rwa [same]
  · exact (stages.variants routes among).1

theorem joins_lt (stages : Stages documents written tagged merged final) (inside : id < merged.graph.size)
    (joins : Schema.Joins final.graph value id other) : other < merged.graph.size := by
  have kept := (stages.last.ends id inside).apart
  cases joins with
  | allOf member =>
      rw [kept] at member
      exact stages.leadsTo_lt (.allOf member)
  | anyOf member =>
      rw [kept] at member
      exact stages.leadsTo_lt (.anyOf member)
  | oneOf member =>
      rw [kept] at member
      exact stages.leadsTo_lt (.oneOf member)
  | chosen routes _ named =>
      obtain ⟨tag, among⟩ := mem_of_named? named
      rw [stages.final_routing? inside] at routes
      exact (stages.variants routes among).1

theorem beside_lt (stages : Stages documents written tagged merged final) (inside : id < merged.graph.size)
    (beside : Schema.Beside final.graph value id other) : other < merged.graph.size := by
  induction beside with
  | refl => exact inside
  | tail _ joins ih => exact stages.joins_lt ih joins

theorem eq_root_of_routes (stages : Stages documents written tagged merged final)
    (among : merged.InHierarchy root entries id) {routing : String × Assoc (Option Nat)}
    (routes : (merged.graph.node id).routing? = some routing) : id = root := by
  have discriminated : (merged.graph.node id).discriminator ≠ none := by
    intro plain
    simp [Node.routing?, plain] at routes
  rcases among with same | governs | ⟨_, plain, _⟩
  · exact same
  · rcases merged.graph.governing_cases root entries with same | ⟨_, _, _, routesRoot, leads⟩
    · exact governs.trans same
    · exact absurd (governs ▸ (stages.variants routesRoot leads).2) discriminated
  · exact absurd plain discriminated

/-- In a hierarchy that says nothing of undeclared keys, what a schema refuses the governing schema does not
declare. -/
theorem refuses_undeclared (stages : Stages documents written tagged merged final) {routing : String × Assoc (Option Nat)}
    (routes : (merged.graph.node root).routing? = some routing) (inside : id < merged.graph.size)
    (among : merged.InHierarchy root entries id) (silent : (merged.graph.node id).additional = none)
    (refuses : RefusesKey final.graph entries id key) :
    key ∉ Assoc.keys (merged.graph.node (merged.graph.governing root entries)).propertyList := by
  have ends := stages.last.ends id inside
  cases refuses with
  | closed shut undeclared =>
      rw [ends.keys] at undeclared
      rcases ends.additional with same | ⟨_, _, untagged, notBase, _⟩ | ⟨_, _, said, _⟩
      · cases silent.symm.trans (same.symm.trans shut)
      · -- closed by strictness, it is neither the root nor a base schema
        rcases among with rfl | rfl | ⟨base, _, _⟩
        · simp [Node.routing?, untagged] at routes
        · exact undeclared
        · cases base.symm.trans notBase
      · cases silent.symm.trans said
  | @governed routingToo routed undeclared =>
      rw [stages.final_routing? inside] at routed
      rw [stages.final_governing inside, (stages.last.ends _ (stages.governing_lt inside)).keys] at undeclared
      obtain rfl := stages.eq_root_of_routes among routed
      exact undeclared

/-- What an object in a self-contained hierarchy meets belongs to the hierarchy. -/
theorem inHierarchy_of_beside (stages : Stages documents written tagged merged final)
    (contained : merged.SelfContained root entries) (inside : id < merged.graph.size)
    (among : merged.InHierarchy root entries id) (beside : Beside final.graph (.object entries) id other) :
    merged.InHierarchy root entries other := by
  induction beside with
  | refl => exact among
  | @tail schema next before joins ih =>
      have insideSchema := stages.beside_lt inside before
      have kept := (stages.last.ends schema insideSchema).apart
      cases joins with
      | allOf member =>
          rw [kept] at member
          exact contained.branches schema ih _ member
      | anyOf member =>
          rw [kept, contained.anyOf schema ih] at member
          cases member
      | oneOf member =>
          rw [kept, contained.oneOf schema ih] at member
          cases member
      | chosen routes object named =>
          cases object
          rw [stages.final_routing? insideSchema] at routes
          have governs : merged.graph.governing schema entries = next := by simp [governing, routes, named]
          obtain rfl := stages.eq_root_of_routes ih routes
          exact .inr (.inl governs.symm)

end Stages

/-- In a hierarchy that says nothing of undeclared keys, declared keys are not reported as undeclared. A key that is
reported so at the object itself is not declared by the variant that the tag of the object names, or by the root
where it names none; or a schema from outside of the hierarchy that applies to the object refuses the key. -/
theorem declared_keys_accepted (merge : IsMerged documents merged) (finished : IsFinished documents final)
    {routing : String × Assoc (Option Nat)} (routes : (merged.graph.node root).routing? = some routing)
    (silent : ∀ id, merged.InHierarchy root entries id → (merged.graph.node id).additional = none)
    (inside : entered < merged.graph.size) {validator : Validator}
    (compiled : ofSchema final.catalog entered = .ok validator) {direction : Direction} {fuel : Nat}
    {failures : List Failure} (answered : validator.evaluateWithin fuel direction (.object entries) = some failures)
    {failure : Failure} (reported : failure ∈ failures) (code : failure.code = .objectAdditionalProperties)
    (place : failure.path = Pointer.child "" key) :
    (key ∉ Assoc.keys (merged.graph.node (merged.graph.governing root entries)).propertyList ∨
      ∃ outsider, ¬merged.InHierarchy root entries outsider ∧
        Beside final.graph (.object entries) entered outsider ∧ RefusesKey final.graph entries outsider key) ∧
    (merged.SelfContained root entries → merged.InHierarchy root entries entered →
      key ∉ Assoc.keys (merged.graph.node (merged.graph.governing root entries)).propertyList) := by
  obtain ⟨written, tagged, mergedToo, stages⟩ := finished.stages
  obtain rfl := merge.unique stages.merge
  obtain ⟨slot, mirror⟩ := Validator.ofSchema_mirror compiled
  obtain ⟨after, ran⟩ := Validator.evaluateWithin_eq_some.mp answered
  obtain ⟨schema, beside, refuses⟩ := mirror.refusesKey mirror.root ran reported code place
  have undeclared (among : merged.InHierarchy root entries schema) :=
    stages.refuses_undeclared routes (stages.beside_lt inside beside) among (silent schema among) refuses
  refine ⟨?_, ?_⟩
  · by_cases among : merged.InHierarchy root entries schema
    · exact .inl (undeclared among)
    · exact .inr ⟨schema, among, beside, refuses⟩
  · intro contained among
    exact undeclared (stages.inHierarchy_of_beside contained inside among beside)

/-- Cats are pets, of a kind of their own; there are Siamese cats. A toy is of some kind, and has a size. -/
def petDocuments : DocumentSet := .ofDefinitions [
  ("Pet", .object [("type", .string "object"), ("discriminator", .string "species"),
    ("properties", .object [("species", .ofType "string")])]),
  ("Cat", .object [("type", .string "object"), ("allOf", .array [.toDefinition "Pet"]),
    ("properties", .object [("meows", .ofType "boolean")])]),
  ("Siamese", .object [("type", .string "object"), ("allOf", .array [.toDefinition "Cat"]),
    ("properties", .object [("voice", .ofType "string")])]),
  ("Toy", .object [("type", .string "object"), ("discriminator", .string "kind"),
    ("properties", .object [("kind", .ofType "string")]),
    ("anyOf", .array [.object [("type", .string "object"), ("properties", .object [("size", .ofType "integer")])]])])]

instance : Finishing petDocuments :=
  ⟨by decide +kernel⟩

theorem pets_merged :
    let graph := (mergedOf petDocuments).graph
    (mergedOf petDocuments).baseSchemas = [0, 2] ∧
      (∀ id ∈ [0, 2, 4], ∀ edge ∈ (graph.node id).allOf.getD [], edge.target = 0) ∧
      (∀ id ∈ [0, 2, 4], (graph.node id).anyOf = none) ∧ (∀ id ∈ [0, 2, 4], (graph.node id).oneOf = none) ∧
      (∀ id ∈ [0, 2, 4], (graph.node id).additional = none) ∧
      (graph.node 0).routing? = some ("species", [("Pet", none), ("Cat", some 2), ("Siamese", some 4)]) ∧
      2 < graph.size ∧ (graph.node 2).inherits = true ∧ (graph.node 2).allOf = some [.reference 0] ∧
      (graph.node 2).discriminator = none := by
  decide +kernel

theorem siamese_inHierarchy {entries : Assoc Value}
    (governs : (mergedOf petDocuments).graph.governing 0 entries = 4) {id : Nat}
    (among : (mergedOf petDocuments).InHierarchy 0 entries id) : id ∈ [0, 2, 4] := by
  obtain ⟨bases, _⟩ := pets_merged
  unfold InHierarchy isBaseSchema at among
  rw [governs, bases] at among
  rcases among with root | variant | ⟨base, _, _⟩
  · rw [root]
    exact List.mem_cons_self
  · rw [variant]
    simp only [List.mem_cons, true_or, or_true]
  · exact List.mem_append_left [4] (List.contains_iff_mem.mp base)

theorem siamese_selfContained {entries : Assoc Value}
    (governs : (mergedOf petDocuments).graph.governing 0 entries = 4) :
    (mergedOf petDocuments).SelfContained 0 entries := by
  obtain ⟨_, branches, anyOf, oneOf, _⟩ := pets_merged
  refine ⟨?_, ?_, ?_⟩
  · intro id among edge member
    exact .inl (branches id (siamese_inHierarchy governs among) edge member)
  · exact fun id among => anyOf id (siamese_inHierarchy governs among)
  · exact fun id among => oneOf id (siamese_inHierarchy governs among)

/-- Of a Siamese cat among the cats, only keys that Siamese cats do not have are reported as undeclared. -/
theorem declared_keys_accepted_siamese :
    let siamese := [("species", .string "Siamese"), ("meows", .bool true), ("bark", .bool true)]
    ∃ failures, (validatorOf (finalOf petDocuments).catalog 2).evaluate .request (.object siamese) = some failures ∧
      failures.map (·.code) = [.objectAdditionalProperties] ∧
      ∀ failure ∈ failures, failure.code = .objectAdditionalProperties → ∀ key, failure.path = Pointer.child "" key →
        key ∉ Assoc.keys ((mergedOf petDocuments).graph.node 4).propertyList := by
  intro siamese
  obtain ⟨_, merge, finished⟩ := Finishing.stages petDocuments
  obtain ⟨_, _, _, _, silent, routes, inside, inherits, branches, plain⟩ := pets_merged
  have computed : (ofSchema (finalOf petDocuments).catalog 2).toOption.isSome = true ∧
      (mergedOf petDocuments).graph.governing 0 siamese = 4 ∧ (mergedOf petDocuments).isBaseSchema 2 = true ∧
      ((validatorOf (finalOf petDocuments).catalog 2).evaluate .request (.object siamese)).map (·.map (·.code)) =
        some [.objectAdditionalProperties] := by
    decide +kernel
  obtain ⟨compiles, governs, base, answers⟩ := computed
  obtain ⟨failures, answered, codes⟩ := Option.map_eq_some_iff.mp answers
  have lineage : Schema.Lineage (mergedOf petDocuments).graph 2 0 :=
    .single ⟨inherits, [.reference 0], branches, .reference 0, List.mem_cons_self, rfl⟩
  refine ⟨failures, answered, codes, ?_⟩
  intro failure reported code key place
  have accepted := declared_keys_accepted merge finished routes
    (fun id among => silent id (siamese_inHierarchy governs among)) inside
    (Validator.ofSchema_eq_validatorOf compiles) answered reported code place
  rw [← governs]
  exact accepted.2 (siamese_selfContained governs) (.inr (.inr ⟨base, plain, lineage⟩))

/-- Without a tag an object is held against the root alone, also where a base schema declares more; and branches of
other kinds are closed on their own. -/
theorem declared_keys_refused :
    IsMerged petDocuments (mergedOf petDocuments) ∧ IsFinished petDocuments (finalOf petDocuments) ∧
      ofSchema (finalOf petDocuments).catalog 2 = .ok (validatorOf (finalOf petDocuments).catalog 2) ∧
      ofSchema (finalOf petDocuments).catalog 6 = .ok (validatorOf (finalOf petDocuments).catalog 6) ∧
      (∀ id < (mergedOf petDocuments).graph.size, ((mergedOf petDocuments).graph.node id).additional = none) ∧
      (mergedOf petDocuments).isBaseSchema 2 = true ∧
      "meows" ∈ Assoc.keys ((mergedOf petDocuments).graph.node 2).propertyList ∧
      ((validatorOf (finalOf petDocuments).catalog 2).evaluate .request (.object [("meows", .bool true)])).map
          (·.map fun failure => (failure.code, failure.path)) =
        some [(.objectAdditionalProperties, Pointer.child "" "meows")] ∧
      ((mergedOf petDocuments).graph.node 6).routing? = some ("kind", [("Toy", none)]) ∧
      "kind" ∈ Assoc.keys ((mergedOf petDocuments).graph.node 6).propertyList ∧
      ((validatorOf (finalOf petDocuments).catalog 6).evaluate .request (.object [("kind", .string "Toy")])).map
          (·.map fun failure => (failure.code, failure.path)) =
        some [(.objectAdditionalProperties, Pointer.child "" "kind"), (.anyOfMissing, "")] := by
  obtain ⟨_, merge, finished⟩ := Finishing.stages petDocuments
  have compiles : (ofSchema (finalOf petDocuments).catalog 2).toOption.isSome = true ∧
      (ofSchema (finalOf petDocuments).catalog 6).toOption.isSome = true := by
    decide +kernel
  exact ⟨merge, finished, Validator.ofSchema_eq_validatorOf compiles.1, Validator.ofSchema_eq_validatorOf compiles.2,
    by decide +kernel⟩

end Draft

end ApiContract
