import ApiContract.Proofs.Contract.Nullability

/-!
Null under keys that an object does not declare (`null_under_undeclared_keys`). A schema for their values that is
written in place refuses null where it says so. One that is referred to is led through a wrapper whatever it says
(`refusal_overruled`).
-/

namespace ApiContract.Draft

open Json (Value)
open Schema Schema.Graph
open Validator (ofSchema validatorOf)

variable {documents : DocumentSet} {written tagged merged final : Draft} {owner : Nat} {key : String} {edge : Edge}
  {validator : Validator} {direction : Direction} {fuel : Nat} {entries : Assoc Value} {failures : List Failure}

namespace Stages

theorem final_undeclared (stages : Stages documents written tagged merged final)
    (collected : owner ∈ merged.catalog.collections.objects)
    (undeclared : Assoc.find? (merged.graph.node owner).propertyList key = none) :
    Assoc.find? (final.graph.node owner).propertyList key = none := by
  rcases (stages.last.ends owner (stages.inside collected)).found key with same | ⟨_, led, _, declared, _⟩
  · exact same.trans undeclared
  · have known : key ∈ Assoc.keys (merged.graph.node owner).propertyList := List.mem_map_of_mem declared
    have found := (Assoc.contains_iff_mem_keys _ _).mpr known
    rw [Assoc.contains, undeclared] at found
    cases found

/-- A schema that says it refuses null is marked for nobody but a parameter. -/
theorem unmarked_of_refused {id : Nat} (refuses : (merged.graph.node id).xNullable = some false)
    (unsent : ∀ parameter ∈ merged.operations.flatMap (·.parameters), parameter.place = .query →
      parameter.allowEmptyValue = true → parameter.schema.target ≠ id) : ¬merged.Marks id := by
  intro marks
  cases marks with
  | asked said => cases refuses.symm.trans said
  | property _ _ _ unsaid => cases refuses.symm.trans unsaid
  | additional _ _ unrefused => exact unrefused refuses
  | parameter member query empty leads => exact unsent _ member query empty leads

theorem undeclared_refuses_null (stages : Stages documents written tagged merged final)
    (collected : owner ∈ merged.catalog.collections.objects)
    (additional : (merged.graph.node owner).additional = some (.schema edge)) (inline : edge.viaRef = false)
    (undeclared : Assoc.find? (merged.graph.node owner).propertyList key = none)
    (concrete : (merged.graph.node edge.target).Concrete) (unmarked : ¬merged.Marks edge.target)
    (compiled : ofSchema final.catalog owner = .ok validator)
    (answered : validator.evaluateWithin fuel .request (.object entries) = some failures)
    (null : (key, Value.null) ∈ entries) :
    ∃ failure ∈ failures, failure.code = .invalidType ∧ failure.path = Pointer.child "" key ∧
      failure.source = (merged.graph.node edge.target).source ∧ failure.skip = false := by
  have kept : (final.graph.node owner).additional = some (.schema edge) := by
    rcases (stages.last.ends owner (stages.inside collected)).additional with
      same | ⟨_, silent, _⟩ | ⟨led, _, said, _, _, reference⟩
    · exact same.trans additional
    · cases silent.symm.trans additional
    · cases said.symm.trans additional
      cases inline.symm.trans reference
  obtain ⟨slot, mirror⟩ := Validator.ofSchema_mirror compiled
  obtain ⟨child, looked, placed⟩ :=
    (mirror.depicts mirror.root).clauseFor?_undeclared (stages.final_undeclared collected undeclared) kept
  have inside := stages.leadsTo_lt (.additional additional)
  exact stages.reached_refuses_null collected inside concrete unmarked mirror looked placed answered null

theorem undeclared_admits_null (stages : Stages documents written tagged merged final)
    (collected : owner ∈ merged.catalog.collections.objects)
    (additional : (merged.graph.node owner).additional = some (.schema edge))
    (unrefused : edge.viaRef = true ∨ (merged.graph.node edge.target).xNullable ≠ some false)
    (undeclared : Assoc.find? (merged.graph.node owner).propertyList key = none)
    (compiled : ofSchema final.catalog owner = .ok validator) (distinct : (Assoc.keys entries).Nodup)
    (answered : validator.evaluateWithin fuel direction (.object entries) = some failures)
    (null : (key, Value.null) ∈ entries) {failure : Failure} (reported : failure ∈ failures)
    (mistyped : failure.code = .invalidType) (place : failure.path = Pointer.child "" key) :
    ∃ other, other ≠ owner ∧ Beside final.graph (.object entries) owner other ∧
      RefusesNull final.catalog direction other key := by
  obtain ⟨wrapper, leads, grants⟩ := stages.last.beyond owner collected edge
    ⟨stages.inside collected, stages.leadsTo_lt (.additional additional), additional, unrefused⟩
  refine granted_admits_null merged.graph (fun led asked => ?_) compiled distinct answered null reported mistyped place
  obtain rfl : led = wrapper := by
    rcases asked with declared | ⟨_, said⟩
    · cases (stages.final_undeclared collected undeclared).symm.trans declared
    · cases said.symm.trans leads
      rfl
  exact grants

end Stages

/-- Null under a key that an owner does not declare, where the owner has a schema for the values of such keys. Written in
place and refusing null, that schema refuses it in every request, unless it is also the schema of a query parameter that
may be empty. Referred to, or not refusing null, it is not the owner that finds null mistyped; only schemas that apply
beside the owner may, whoever else leads to the schema. -/
theorem null_under_undeclared_keys (merge : IsMerged documents merged) (finished : IsFinished documents final)
    (collected : owner ∈ merged.catalog.collections.objects)
    (additional : (merged.graph.node owner).additional = some (.schema edge))
    (undeclared : Assoc.find? (merged.graph.node owner).propertyList key = none)
    (compiled : ofSchema final.catalog owner = .ok validator) :
    (edge.viaRef = false → (merged.graph.node edge.target).xNullable = some false →
      (merged.graph.node edge.target).Concrete →
      (∀ parameter ∈ merged.operations.flatMap (·.parameters), parameter.place = .query →
        parameter.allowEmptyValue = true → parameter.schema.target ≠ edge.target) →
      ∀ fuel entries failures, validator.evaluateWithin fuel .request (.object entries) = some failures →
        (key, Value.null) ∈ entries →
        ∃ failure ∈ failures, failure.code = .invalidType ∧ failure.path = Pointer.child "" key ∧
          failure.source = (merged.graph.node edge.target).source ∧ failure.skip = false) ∧
    (edge.viaRef = true ∨ (merged.graph.node edge.target).xNullable ≠ some false →
      ∀ direction fuel entries failures, (Assoc.keys entries).Nodup →
        validator.evaluateWithin fuel direction (.object entries) = some failures → (key, Value.null) ∈ entries →
        ∀ failure ∈ failures, failure.code = .invalidType → failure.path = Pointer.child "" key →
          ∃ other, other ≠ owner ∧ Beside final.graph (.object entries) owner other ∧
            RefusesNull final.catalog direction other key) ∧
    (Validator.Acyclic validator.clauses → ∀ direction value, (validator.evaluate direction value).isSome = true) := by
  obtain ⟨written, tagged, mergedToo, stages⟩ := finished.stages
  obtain rfl := merge.unique stages.merge
  refine ⟨?_, ?_, ?_⟩
  · intro inline refuses concrete unsent fuel entries failures answered null
    exact stages.undeclared_refuses_null collected additional inline undeclared concrete
      (Stages.unmarked_of_refused refuses unsent) compiled answered null
  · intro unrefused direction fuel entries failures distinct answered null failure reported mistyped place
    exact stages.undeclared_admits_null collected additional unrefused undeclared compiled distinct answered null
      reported mistyped place
  · intro acyclic direction value
    exact Validator.evaluate_isSome acyclic direction value

/-- Shelves and crates have labels under any key; those of crates may not be null. -/
def shelfDocuments : DocumentSet := .ofDefinitions [
  ("Label", .ofType "string"),
  ("Shelf", .object [("type", .string "object"), ("additionalProperties", .toDefinition "Label")]),
  ("Crate", .object [("type", .string "object"),
    ("additionalProperties", .object [("type", .string "string"), ("x-nullable", .bool false)])])]

instance : Finishing shelfDocuments :=
  ⟨by decide +kernel⟩

theorem shelves_merged :
    let graph := (mergedOf shelfDocuments).graph
    (mergedOf shelfDocuments).catalog.collections.objects = [1, 2] ∧ (mergedOf shelfDocuments).operations = [] ∧
      (graph.node 1).additional = some (.schema (.reference 0)) ∧ (graph.node 1).propertyList = [] ∧
      (graph.node 2).additional = some (.schema (.inline 3)) ∧ (graph.node 2).propertyList = [] ∧
      (graph.node 3).typeName = some "string" ∧ (graph.node 3).xNullable = some false := by
  decide +kernel

theorem shelf_beside {value : Value} {other : Nat}
    (beside : Beside (finalOf shelfDocuments).graph value 1 other) : other = 1 :=
  beside.eq_of_alone (by decide +kernel)

/-- On a shelf a label may be null, in a crate it may not. -/
theorem null_under_undeclared_keys_shelf :
    (∃ failures, (validatorOf (finalOf shelfDocuments).catalog 2).evaluate .request (.object [("top", .null)]) =
        some failures ∧
      ∃ failure ∈ failures, failure.code = .invalidType ∧ failure.path = Pointer.child "" "top") ∧
    ∃ failures, (validatorOf (finalOf shelfDocuments).catalog 1).evaluate .request (.object [("top", .null)]) =
        some failures ∧
      ∀ failure ∈ failures, failure.code = .invalidType → failure.path ≠ Pointer.child "" "top" := by
  obtain ⟨_, merge, finished⟩ := Finishing.stages shelfDocuments
  obtain ⟨objects, operations, shelf, shelfDeclares, crate, crateDeclares, typed, refuses⟩ := shelves_merged
  have computed : (ofSchema (finalOf shelfDocuments).catalog 2).toOption.isSome = true ∧
      (ofSchema (finalOf shelfDocuments).catalog 1).toOption.isSome = true ∧
      ((validatorOf (finalOf shelfDocuments).catalog 2).evaluate .request (.object [("top", .null)])).isSome = true ∧
      ((validatorOf (finalOf shelfDocuments).catalog 1).evaluate .request (.object [("top", .null)])).isSome = true := by
    decide +kernel
  obtain ⟨compilesCrate, compilesShelf, answersCrate, answersShelf⟩ := computed
  obtain ⟨found, answeredCrate⟩ := Option.isSome_iff_exists.mp answersCrate
  obtain ⟨foundToo, answeredShelf⟩ := Option.isSome_iff_exists.mp answersShelf
  have undeclared {id : Nat} (declares : ((mergedOf shelfDocuments).graph.node id).propertyList = []) :
      Assoc.find? ((mergedOf shelfDocuments).graph.node id).propertyList "top" = none := by
    rw [declares]
    rfl
  obtain ⟨refusesNull, _, _⟩ := null_under_undeclared_keys merge finished (objects ▸ by simp) crate
    (undeclared crateDeclares) (Validator.ofSchema_eq_validatorOf compilesCrate)
  obtain ⟨_, admitsNull, _⟩ := null_under_undeclared_keys merge finished (objects ▸ by simp) shelf
    (undeclared shelfDeclares) (Validator.ofSchema_eq_validatorOf compilesShelf)
  refine ⟨⟨found, answeredCrate, ?_⟩, foundToo, answeredShelf, ?_⟩
  · have concrete : ((mergedOf shelfDocuments).graph.node 3).Concrete := ⟨"string", typed, by decide, by decide⟩
    rw [operations] at refusesNull
    obtain ⟨failure, reported, mistyped, place, _⟩ :=
      refusesNull rfl refuses concrete (fun _ none => nomatch none) _ _ _ answeredCrate List.mem_cons_self
    exact ⟨failure, reported, mistyped, place⟩
  · intro failure reported mistyped place
    obtain ⟨other, different, beside, _⟩ := admitsNull (.inl rfl) _ _ _ _ (by decide) answeredShelf List.mem_cons_self
      failure reported mistyped place
    exact different (shelf_beside beside)

/-- Boxes have labels under any key, and labels refuse null. -/
def sealedDocuments : DocumentSet := .ofDefinitions [
  ("Label", .object [("type", .string "string"), ("x-nullable", .bool false)]),
  ("Box", .object [("type", .string "object"), ("additionalProperties", .toDefinition "Label")])]

instance : Finishing sealedDocuments :=
  ⟨by decide +kernel⟩

/-- A label that is referred to may be null under an undeclared key although it says that it refuses null. -/
theorem refusal_overruled :
    let graph := (mergedOf sealedDocuments).graph
    IsMerged sealedDocuments (mergedOf sealedDocuments) ∧ IsFinished sealedDocuments (finalOf sealedDocuments) ∧
      ofSchema (finalOf sealedDocuments).catalog 1 = .ok (validatorOf (finalOf sealedDocuments).catalog 1) ∧
      (mergedOf sealedDocuments).catalog.collections.objects = [1] ∧
      (graph.node 1).additional = some (.schema (.reference 0)) ∧ (graph.node 1).propertyList = [] ∧
      (graph.node 0).typeName = some "string" ∧ (graph.node 0).xNullable = some false ∧
      (validatorOf (finalOf sealedDocuments).catalog 1).evaluate .request (.object [("content", .null)]) = some [] := by
  obtain ⟨_, merge, finished⟩ := Finishing.stages sealedDocuments
  have compiles : (ofSchema (finalOf sealedDocuments).catalog 1).toOption.isSome = true := by decide +kernel
  exact ⟨merge, finished, Validator.ofSchema_eq_validatorOf compiles, by decide +kernel⟩

end ApiContract.Draft
