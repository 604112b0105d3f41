import ApiContract.Proofs.Compilation.Transfer
import ApiContract.Proofs.Compilation.Wrapper
import ApiContract.Proofs.Contract.Inheritance
import ApiContract.Proofs.Evaluation.Members

/-!
Null under the key of a property is refused where the owner requires the key, and admitted by the owner where
it does not.
-/

namespace ApiContract

open Json (Value)
open Schema Schema.Graph
open Validator (Admits ofSchema validatorOf)

/-- A type that null does not have, and that validation goes on to ask for. An object of which nothing else is
said is not asked to be one. -/
def Schema.Node.Concrete (node : Node) : Prop :=
  ∃ name, node.typeName = some name ∧
    name ∈ ["object", "array", "string", "boolean", "number", "integer"] ∧
    (name = "object" → node.hasProperties = true ∨ node.additional ≠ none)

namespace Validator

variable {clauses : Array Clause} {direction : Direction} {fuel index child : Nat} {entries : Assoc Value}
  {path key : String} {before after : Guard} {failures : List Failure} {member : Value}

theorem Clause.admitsType_null {clause : Clause} {name : String} (typed : clause.typeName = some name)
    (concrete : name ∈ ["object", "array", "string", "boolean", "number", "integer"]) :
    clause.admitsType .null = false := by
  simp only [List.mem_cons, List.not_mem_nil, or_false] at concrete
  rcases concrete with rfl | rfl | rfl | rfl | rfl | rfl <;>
    simp [admitsType, typed, Value.typeName, Value.instanceTypeName, plainTypes]

theorem member_reported
    (typed : (clauses.getD index {}).typeName = none ∨ (clauses.getD index {}).typeName = some "object")
    (ran : (visit clauses direction (fuel + 1) index (.object entries) path).run before = some (failures, after))
    (among : (key, member) ∈ entries) (looked : (clauses.getD index {}).clauseFor? key = some child) :
    ∃ guard found later,
      (visit clauses direction fuel child member (Pointer.child path key)).run guard = some (found, later) ∧
        found ⊆ failures := by
  cases (visit_run_iff _ _ _ _ _ _ _ _ _).mp ran with
  | null null => cases null
  | mistyped _ mistyped => cases mistyped.symm.trans (Clause.admitsType_object typed)
  | @examined visited branches any one routed inside all anyOf oneOf _ _ _ entered ranAll ranAny ranOne route =>
      cases entered with
      | @object _ _ results _ run =>
          obtain ⟨found, amongResults, guard, later, ranMember⟩ := run.exists_result among
          rw [Clause.visitMember_run_iff, looked] at ranMember
          refine ⟨guard, found, later, ranMember, ?_⟩
          intro failure reported
          have flat : failure ∈ results.flatten := List.mem_flatten.mpr ⟨found, amongResults, reported⟩
          simp [Clause.insideFailures, flat]
      | unlooked scalar => cases scalar

theorem refuses_null {name : String} (typed : (clauses.getD index {}).typeName = some name)
    (concrete : name ∈ ["object", "array", "string", "boolean", "number", "integer"])
    (unmarked : (clauses.getD index {}).nullable = false)
    (ran : (visit clauses .request fuel index .null path).run before = some (failures, after)) :
    failures = (clauses.getD index {}).typeFailures .null path := by
  have mistypes := Clause.admitsType_null typed concrete
  cases fuel with
  | zero => cases ran
  | succ fuel =>
      cases (visit_run_iff _ _ _ _ _ _ _ _ _).mp ran with
      | null null =>
          rw [Clause.admitsNull, unmarked, Bool.and_false] at null
          cases null
      | mistyped _ _ => rfl
      | examined _ typed => cases mistypes.symm.trans typed

theorem admits_null (nullable : (clauses.getD index {}).nullable = true)
    (ran : (visit clauses direction fuel index .null path).run before = some (failures, after)) : failures = [] := by
  have admitted : (clauses.getD index {}).admitsNull .null = true := by
    rw [Clause.admitsNull, nullable]
    rfl
  cases fuel with
  | zero => cases ran
  | succ fuel =>
      cases (visit_run_iff _ _ _ _ _ _ _ _ _).mp ran with
      | null => rfl
      | mistyped notNull => cases notNull.symm.trans admitted
      | examined notNull => cases notNull.symm.trans admitted

end Validator

namespace Schema

/-- A schema refuses null under a key, by what it declares for it or says of undeclared keys. -/
def RefusesNull (catalog : Catalog) (direction : Direction) (id : Nat) (key : String) : Prop :=
  ∃ edge, (Assoc.find? (catalog.graph.node id).propertyList key = some edge ∨
      Assoc.find? (catalog.graph.node id).propertyList key = none ∧
        (catalog.graph.node id).additional = some (.schema edge)) ∧
    ¬Admits catalog direction edge.target .null

end Schema

namespace Validator

variable {catalog : Catalog} {slot : Nat → Nat → Prop} {validator : Validator} {id owner place child : Nat}
  {key path : String} {direction : Direction} {fuel : Nat} {before after : Guard} {failures : List Failure}

theorem Mirror.not_admits_null (mirror : Mirror catalog slot validator id) (placed : slot owner place)
    (ran : (visit validator.clauses direction fuel place .null path).run before = some (failures, after))
    (refused : failures ≠ []) : ¬Admits catalog direction owner .null := by
  rintro ⟨other, more, compiled, admits⟩
  obtain ⟨_, anywhere⟩ := idle_visit_null fuel place path _ _ _ ran
  obtain ⟨alone, found, compiledAlone, answered, moved⟩ := mirror.visit_alone placed (unmarked_empty path) (anywhere {})
  cases compiled.symm.trans compiledAlone
  have one := evaluateWithin_mono (Nat.le_max_left fuel more) answered
  have two := evaluateWithin_mono (Nat.le_max_right fuel more) admits
  cases one.symm.trans two
  exact refused (moved.eq_nil_iff.mpr rfl)

end Validator

namespace Draft

variable {documents : DocumentSet} {written tagged merged final : Draft} {owner : Nat} {key : String} {edge : Edge}
  {validator : Validator} {direction : Direction} {fuel : Nat} {entries : Assoc Value}
  {failures : List Failure}

namespace Stages

/-- A schema that an owner leads to under a key refuses null with its type. -/
theorem reached_refuses_null (stages : Stages documents written tagged merged final)
    (collected : owner ∈ merged.catalog.collections.objects) {target child : Nat}
    (insideTarget : target < merged.graph.size) (concrete : (merged.graph.node target).Concrete)
    (unmarked : ¬merged.Marks target) {slot : Nat → Nat → Prop}
    (mirror : Validator.Mirror final.catalog slot validator owner)
    (looked : (validator.clauses.getD validator.root {}).clauseFor? key = some child) (placed : slot target child)
    (answered : validator.evaluateWithin fuel .request (.object entries) = some failures)
    (null : (key, Value.null) ∈ entries) :
    ∃ failure ∈ failures, failure.code = .invalidType ∧ failure.path = Pointer.child "" key ∧
      failure.source = (merged.graph.node target).source ∧ failure.skip = false := by
  have typed : (validator.clauses.getD validator.root {}).typeName = none ∨
      (validator.clauses.getD validator.root {}).typeName = some "object" := by
    rw [(mirror.depicts mirror.root).typeName]
    exact stages.admits_objects collected
  obtain ⟨after, ran⟩ := Validator.evaluateWithin_eq_some.mp answered
  cases fuel with
  | zero => cases ran
  | succ fuel =>
      obtain ⟨guard, reported, later, ranMember, among⟩ := Validator.member_reported typed ran null looked
      have depicts : Validator.Depicts slot (final.graph.node target) _ := mirror.depicts placed
      have ends := stages.last.ends target insideTarget
      obtain ⟨name, named, concreteName, substantial⟩ := concrete
      have typedTarget : (validator.clauses.getD child {}).typeName = some name := by
        rw [depicts.typeName]
        rcases ends.typeName with same | ⟨_, object, bare, silent⟩
        · exact same.trans named
        · cases named.symm.trans object
          rcases substantial rfl with listed | said
          · rw [bare] at listed
            cases listed
          · exact absurd silent said
      have refuses : (validator.clauses.getD child {}).nullable = false := by
        rw [depicts.nullable]
        by_contra nullable
        rcases ends.nullable (by simpa using nullable) with before | marks
        · rw [stages.merged_nullable] at before
          cases before
        · exact unmarked marks
      obtain rfl := Validator.refuses_null typedTarget concreteName refuses ranMember
      refine ⟨_, among List.mem_cons_self, rfl, rfl, ?_, ?_⟩
      · rw [Validator.Clause.fail_source, depicts.source]
        exact stages.final_source insideTarget
      · rw [Validator.Clause.fail_skip, depicts.skip]
        exact stages.final_skipErrors insideTarget

theorem required_refuses_null (stages : Stages documents written tagged merged final)
    (collected : owner ∈ merged.catalog.collections.objects)
    (declared : Assoc.find? (merged.graph.node owner).propertyList key = some edge)
    (required : key ∈ (merged.graph.node owner).required)
    (concrete : (merged.graph.node edge.target).Concrete) (unmarked : ¬merged.Marks edge.target)
    (compiled : ofSchema final.catalog owner = .ok validator)
    (answered : validator.evaluateWithin fuel .request (.object entries) = some failures)
    (null : (key, Value.null) ∈ entries) :
    ∃ failure ∈ failures, failure.code = .invalidType ∧ failure.path = Pointer.child "" key ∧
      failure.source = (merged.graph.node edge.target).source ∧ failure.skip = false := by
  have kept : Assoc.find? (final.graph.node owner).propertyList key = some edge := by
    rcases (stages.last.ends owner (stages.inside collected)).found key with same | ⟨optional, _⟩
    · rw [same, declared]
    · exact absurd required optional
  obtain ⟨slot, mirror⟩ := Validator.ofSchema_mirror compiled
  obtain ⟨child, looked, placed⟩ := (mirror.depicts mirror.root).clauseFor?_declared kept
  have inside := stages.leadsTo_lt (.property (Assoc.mem_of_find? declared))
  exact stages.reached_refuses_null collected inside concrete unmarked mirror looked placed answered null

end Stages

/-- Where an owner grants null to a key, only schemas that apply beside the owner find null mistyped under it. -/
theorem granted_admits_null (start : Graph)
    (granted : ∀ led, (Assoc.find? (final.graph.node owner).propertyList key = some led ∨
        Assoc.find? (final.graph.node owner).propertyList key = none ∧
          (final.graph.node owner).additional = some (.schema led)) →
      (final.graph.node led.target).nullable = true ∨ ∃ wrapped, Wraps start final.graph wrapped led)
    (compiled : ofSchema final.catalog owner = .ok validator) (distinct : (Assoc.keys entries).Nodup)
    (answered : validator.evaluateWithin fuel direction (.object entries) = some failures)
    (null : (key, Value.null) ∈ entries) {failure : Failure} (reported : failure ∈ failures)
    (mistyped : failure.code = .invalidType) (place : failure.path = Pointer.child "" key) :
    ∃ other, other ≠ owner ∧ Beside final.graph (.object entries) owner other ∧
      RefusesNull final.catalog direction other key := by
  obtain ⟨slot, mirror⟩ := Validator.ofSchema_mirror compiled
  obtain ⟨after, ran⟩ := Validator.evaluateWithin_eq_some.mp answered
  obtain ⟨index, beside, blamed⟩ := Validator.visit_blame_at fuel ran reported place
  obtain ⟨other, placed, besideOwner⟩ := mirror.beside mirror.root beside
  cases blamed with
  | missing code => cases mistyped.symm.trans code
  | undeclared _ _ code => cases mistyped.symm.trans code
  | closed _ _ _ code => cases mistyped.symm.trans code
  | @member member child fewer guard found later among looked ranMember inside =>
      have same : (key, member) = (key, Value.null) := List.inj_on_of_nodup_map distinct among null rfl
      cases same
      obtain ⟨led, placedChild, asked⟩ := (mirror.depicts placed).clauseFor? looked
      have refused : found ≠ [] := List.ne_nil_of_mem inside
      refine ⟨other, ?_, besideOwner, led, asked, mirror.not_admits_null placedChild ranMember refused⟩
      rintro rfl
      rcases granted led asked with nullable | ⟨wrapped, wraps⟩
      · exact refused (Validator.admits_null ((mirror.depicts placedChild).nullable.trans nullable) ranMember)
      · exact refused (mirror.wrapper_null wraps placedChild ranMember)

namespace Stages

/-- The owner of an optional property does not find null under its key mistyped; only schemas that apply beside
the owner may. -/
theorem optional_admits_null (stages : Stages documents written tagged merged final)
    (collected : owner ∈ merged.catalog.collections.objects)
    (declared : Assoc.find? (merged.graph.node owner).propertyList key = some edge)
    (optional : key ∉ (merged.graph.node owner).required)
    (unsaid : (merged.graph.node edge.target).xNullable = none)
    (compiled : ofSchema final.catalog owner = .ok validator) (distinct : (Assoc.keys entries).Nodup)
    (answered : validator.evaluateWithin fuel direction (.object entries) = some failures)
    (null : (key, Value.null) ∈ entries) {failure : Failure} (reported : failure ∈ failures)
    (mistyped : failure.code = .invalidType) (place : failure.path = Pointer.child "" key) :
    ∃ other, other ≠ owner ∧ Beside final.graph (.object entries) owner other ∧
      RefusesNull final.catalog direction other key := by
  obtain ⟨wrapper, leads, grants⟩ := stages.last.lenient owner collected key edge
    ⟨stages.inside collected, stages.leadsTo_lt (.property (Assoc.mem_of_find? declared)), declared, optional, unsaid⟩
  refine granted_admits_null merged.graph (fun led asked => ?_) compiled distinct answered null reported mistyped place
  obtain rfl : led = wrapper := by
    rcases asked with own | ⟨undeclared, _⟩
    · exact Option.some.inj (own.symm.trans leads)
    · cases undeclared.symm.trans leads
  exact grants

end Stages

/-- Nullability is decided by owners. Null under a key that an owner requires is refused with the type of the
property, and under a key that it does not require the owner itself does not find null mistyped, whoever else
leads to the schema of the property. -/
theorem nullability_of_owner (merge : IsMerged documents merged) (finished : IsFinished documents final)
    (collected : owner ∈ merged.catalog.collections.objects)
    (declared : Assoc.find? (merged.graph.node owner).propertyList key = some edge)
    (unsaid : (merged.graph.node edge.target).xNullable = none)
    (compiled : ofSchema final.catalog owner = .ok validator) :
    (key ∈ (merged.graph.node owner).required → (merged.graph.node edge.target).Concrete →
      ¬merged.Marks edge.target → ∀ fuel entries failures,
        validator.evaluateWithin fuel .request (.object entries) = some failures → (key, Value.null) ∈ entries →
        ∃ failure ∈ failures, failure.code = .invalidType ∧ failure.path = Pointer.child "" key ∧
          failure.source = (merged.graph.node edge.target).source ∧ failure.skip = false) ∧
    (key ∉ (merged.graph.node owner).required → ∀ direction fuel entries failures, (Assoc.keys entries).Nodup →
      validator.evaluateWithin fuel direction (.object entries) = some failures → (key, Value.null) ∈ entries →
      ∀ failure ∈ failures, failure.code = .invalidType → failure.path = Pointer.child "" key →
        ∃ other, other ≠ owner ∧ Beside final.graph (.object entries) owner other ∧
          RefusesNull final.catalog direction other key) ∧
    (Validator.Acyclic validator.clauses → ∀ direction value, (validator.evaluate direction value).isSome = true) := by
  obtain ⟨written, tagged, mergedToo, stages⟩ := finished.stages
  obtain rfl := merge.unique stages.merge
  refine ⟨?_, ?_, ?_⟩
  · intro required concrete unmarked fuel entries failures answered null
    exact stages.required_refuses_null collected declared required concrete unmarked compiled answered null
  · intro optional direction fuel entries failures distinct answered null failure reported mistyped place
    exact stages.optional_admits_null collected declared optional unsaid compiled distinct answered null reported
      mistyped place
  · intro acyclic direction value
    exact Validator.evaluate_isSome acyclic direction value

def cardDocuments : DocumentSet := .ofDefinitions [
  ("Card", .object [("type", .string "object"), ("required", .array [.string "title"]),
    ("properties", .object [("title", .ofType "string"), ("note", .ofType "string")])])]

instance : Finishing cardDocuments :=
  ⟨by decide +kernel⟩

theorem cards_merged :
    let graph := (mergedOf cardDocuments).graph
    (mergedOf cardDocuments).catalog.collections.objects = [0] ∧ (mergedOf cardDocuments).operations = [] ∧
      (graph.node 0).propertyList = [("title", .inline 1), ("note", .inline 2)] ∧
      (graph.node 0).required = ["title"] ∧ (graph.node 0).additional = none ∧
      (graph.node 1).typeName = some "string" ∧ (graph.node 1).xNullable = none ∧
      (graph.node 2).xNullable = none := by
  decide +kernel

theorem title_unmarked : ¬(mergedOf cardDocuments).Marks 1 := by
  obtain ⟨objects, operations, properties, required, additional, _, unsaid, _⟩ := cards_merged
  intro marks
  cases marks with
  | asked said => cases unsaid.symm.trans said
  | property collected declared inline _ optional =>
      rw [objects, List.mem_singleton] at collected
      subst collected
      subst inline
      rw [properties] at declared
      rw [required] at optional
      rcases List.mem_cons.mp declared with title | later
      · cases title
        exact optional List.mem_cons_self
      · simp [Edge.inline] at later
  | additional collected led =>
      rw [objects, List.mem_singleton] at collected
      subst collected
      cases additional.symm.trans led
  | parameter among =>
      rw [operations] at among
      cases among

theorem card_beside {value : Value} {other : Nat} (beside : Beside (finalOf cardDocuments).graph value 0 other) :
    other = 0 :=
  beside.eq_of_alone (by decide +kernel)

/-- Of two members that are null, the title is refused and the note is not. -/
theorem nullability_of_owner_card :
    let card := [("title", Value.null), ("note", .null)]
    ∃ failures, (validatorOf (finalOf cardDocuments).catalog 0).evaluate .request (.object card) = some failures ∧
      (∃ failure ∈ failures, failure.code = .invalidType ∧ failure.path = Pointer.child "" "title") ∧
      ∀ failure ∈ failures, failure.code = .invalidType → failure.path ≠ Pointer.child "" "note" := by
  intro card
  obtain ⟨_, merge, finished⟩ := Finishing.stages cardDocuments
  obtain ⟨objects, _, properties, required, _, typed, unsaidTitle, unsaidNote⟩ := cards_merged
  have computed : (ofSchema (finalOf cardDocuments).catalog 0).toOption.isSome = true ∧
      ((validatorOf (finalOf cardDocuments).catalog 0).evaluate .request (.object card)).isSome = true := by
    decide +kernel
  obtain ⟨compiles, answers⟩ := computed
  have compiled := Validator.ofSchema_eq_validatorOf compiles
  obtain ⟨failures, answered⟩ := Option.isSome_iff_exists.mp answers
  have collected : 0 ∈ (mergedOf cardDocuments).catalog.collections.objects := objects ▸ List.mem_cons_self
  have title : Assoc.find? ((mergedOf cardDocuments).graph.node 0).propertyList "title" = some (.inline 1) := by
    rw [properties]
    rfl
  have note : Assoc.find? ((mergedOf cardDocuments).graph.node 0).propertyList "note" = some (.inline 2) := by
    rw [properties]
    rfl
  have concrete : ((mergedOf cardDocuments).graph.node 1).Concrete := ⟨"string", typed, by decide, by decide⟩
  obtain ⟨refuses, _, _⟩ := nullability_of_owner merge finished collected title unsaidTitle compiled
  obtain ⟨_, admits, _⟩ := nullability_of_owner merge finished collected note unsaidNote compiled
  rw [required] at refuses admits
  refine ⟨failures, answered, ?_, ?_⟩
  · obtain ⟨failure, reported, mistyped, place, _⟩ :=
      refuses List.mem_cons_self concrete title_unmarked _ _ _ answered List.mem_cons_self
    exact ⟨failure, reported, mistyped, place⟩
  · intro failure reported mistyped place
    obtain ⟨other, different, beside, _⟩ :=
      admits (by decide) _ _ _ _ (by decide) answered (by simp [card]) failure reported mistyped place
    exact different (card_beside beside)

/-- A box has some content, and it may have a label, without which it is not a parcel. -/
def boxDocuments : DocumentSet := .ofDefinitions [
  ("Label", .ofType "string"),
  ("Box", .object [("type", .string "object"), ("required", .array [.string "content"]),
    ("properties", .object [("content", .ofType "object"), ("label", .toDefinition "Label")])]),
  ("Parcel", .object [("type", .string "object"), ("properties", .object [("label", .toDefinition "Label")]),
    ("anyOf", .array [.object [("type", .string "object"), ("required", .array [.string "label"]),
      ("properties", .object [("label", .toDefinition "Label")])]])])]

instance : Finishing boxDocuments :=
  ⟨by decide +kernel⟩

/-- An object of which nothing else is said is not asked to be one, so a required one may be null; and what an
owner does not require, a branch of it may. -/
theorem nullability_beyond_owner :
    let graph := (mergedOf boxDocuments).graph
    IsMerged boxDocuments (mergedOf boxDocuments) ∧ IsFinished boxDocuments (finalOf boxDocuments) ∧
      ofSchema (finalOf boxDocuments).catalog 1 = .ok (validatorOf (finalOf boxDocuments).catalog 1) ∧
      ofSchema (finalOf boxDocuments).catalog 3 = .ok (validatorOf (finalOf boxDocuments).catalog 3) ∧
      (mergedOf boxDocuments).catalog.collections.objects = [1, 2, 3, 4] ∧
      (Assoc.find? (graph.node 1).propertyList "content" = some (.inline 2) ∧ "content" ∈ (graph.node 1).required ∧
        (graph.node 2).typeName = some "object" ∧ (graph.node 2).xNullable = none ∧
        (validatorOf (finalOf boxDocuments).catalog 1).evaluate .request (.object [("content", .null)]) = some []) ∧
      (Assoc.find? (graph.node 3).propertyList "label" = some (.reference 0) ∧ "label" ∉ (graph.node 3).required ∧
        (graph.node 0).typeName = some "string" ∧ (graph.node 0).xNullable = none ∧
        ((validatorOf (finalOf boxDocuments).catalog 3).evaluate .request (.object [("label", .null)])).map
            (·.map fun failure => (failure.code, failure.path, failure.source, failure.skip)) =
          some [(.invalidType, Pointer.child "" "label", (graph.node 0).source, false),
            (.anyOfMissing, "", (graph.node 3).source, false)]) := by
  obtain ⟨_, merge, finished⟩ := Finishing.stages boxDocuments
  have compiles : (ofSchema (finalOf boxDocuments).catalog 1).toOption.isSome = true ∧
      (ofSchema (finalOf boxDocuments).catalog 3).toOption.isSome = true := by
    decide +kernel
  exact ⟨merge, finished, Validator.ofSchema_eq_validatorOf compiles.1, Validator.ofSchema_eq_validatorOf compiles.2,
    by decide +kernel⟩

end Draft

end ApiContract
