import ApiContract.Proofs.Compilation.Wrapper
import ApiContract.Proofs.Pass.Computed
import ApiContract.Proofs.Pass.Flattening
import ApiContract.Proofs.Pass.Heritage

/-!
What a schema with branches hands on to its validator: everything that the branches declare and require,
and where the branches are kept everything that they ask. Merging branches gives every schema what it declares
(`mergeBranches_flattens`), as long as no schema inherits from itself.
-/

namespace ApiContract

open Json (Value)
open Schema Schema.Graph
open Validator (Admits AdmitsAmid ofSchema validatorOf)

namespace Schema

/-- The schemas whose declarations and required names a schema takes over: its branches, and where no `allOf`
leads back to itself also those that the branches inherit from. -/
inductive HandsDown (graph : Graph) (id : Nat) : Nat → Prop
  | branch {parent} : InheritsFrom graph id parent → HandsDown graph id parent
  | ancestor {ancestor} : Founded graph id → Relation.TransGen (InheritsFrom graph) id ancestor →
      HandsDown graph id ancestor

/-- Whoever declares the key for a schema declares it with the same edge. -/
def Sole (graph : Graph) (id : Nat) (key : String) (edge : Edge) : Prop :=
  ∀ ancestor other, Lineage graph id ancestor → (key, other) ∈ (graph.node ancestor).propertyList → other = edge

/-- A response may lack the key, since a schema that it is declared with cannot be read back. -/
def MayLack (graph : Graph) (id : Nat) (direction : Direction) (key : String) : Prop :=
  direction = .response ∧ ∃ ancestor edge names, Lineage graph id ancestor ∧
    (key, edge) ∈ (graph.node ancestor).propertyList ∧
    (graph.node edge.target).mutability = some names ∧ "read" ∉ names

theorem HandsDown.inheritsFrom {graph : Graph} {id parent : Nat} (hands : HandsDown graph id parent) :
    ∃ branch, InheritsFrom graph id branch := by
  cases hands with
  | branch inherits => exact ⟨parent, inherits⟩
  | ancestor _ leads =>
      obtain ⟨branch, inherits, _⟩ := Relation.TransGen.head'_iff.mp leads
      exact ⟨branch, inherits⟩

end Schema

namespace Draft

variable {documents : DocumentSet} {written tagged merged final : Draft}

/-- The schema does not inherit, or it is a base schema that leads on to its root. -/
def KeepsBranches (written merged : Draft) (id : Nat) : Prop :=
  (written.graph.node id).inherits = false ∨
    merged.isBaseSchema id = true ∧ (written.graph.node id).discriminator = none

namespace Stages

variable {id parent : Nat} {key : String} {edge : Edge}

theorem takesOver (stages : Stages documents written tagged merged final) (hands : HandsDown written.graph id parent) :
    Merging.TakesOver (merged.graph.node id) (written.graph.node parent) := by
  obtain ⟨branch, inherits⟩ := hands.inheritsFrom
  have complete := stages.complete inherits
  have same : InheritsFrom tagged.graph = InheritsFrom written.graph := stages.retagged.inheritsFrom
  have overTagged : Merging.TakesOver (merged.graph.node id) (tagged.graph.node parent) := by
    cases hands with
    | branch direct => exact complete.takesOver (same ▸ direct)
    | ancestor founded leads =>
        refine (complete.inherited (stages.retagged.founded founded)).takesOver ?_
        unfold Lineage
        rw [same]
        exact leads.to_reflTransGen
  unfold Merging.TakesOver at *
  rwa [stages.tagged_required, stages.tagged_propertyList] at overTagged

theorem found_of_sole (stages : Stages documents written tagged merged final) (hands : HandsDown written.graph id parent)
    (declared : (key, edge) ∈ (written.graph.node parent).propertyList) (sole : Sole written.graph id key edge) :
    Assoc.find? (merged.graph.node id).propertyList key = some edge := by
  have present : (Assoc.find? (written.graph.node parent).propertyList key).isSome = true :=
    (Assoc.contains_iff_mem_keys _ _).mpr (List.mem_map_of_mem declared)
  obtain ⟨other, found⟩ := Option.isSome_iff_exists.mp ((stages.takesOver hands).2 key present)
  obtain ⟨ancestor, lineage, source⟩ := stages.source (Assoc.mem_of_find? found)
  rw [found, sole ancestor other lineage source]

theorem ends_of_sole (stages : Stages documents written tagged merged final) (hands : HandsDown written.graph id parent)
    (declared : (key, edge) ∈ (written.graph.node parent).propertyList) (sole : Sole written.graph id key edge) :
    Assoc.find? (final.graph.node id).propertyList key = some edge ∨
      key ∉ (merged.graph.node id).required ∧ ∃ wrapper,
        Assoc.find? (final.graph.node id).propertyList key = some wrapper ∧
          Wraps merged.graph final.graph edge wrapper := by
  obtain ⟨branch, inherits⟩ := hands.inheritsFrom
  rcases (stages.last.ends id (stages.inside_of_inheritsFrom inherits)).found key with
    same | ⟨optional, other, wrapper, member, found, wraps⟩
  · exact .inl (same.trans (stages.found_of_sole hands declared sole))
  · obtain ⟨ancestor, lineage, source⟩ := stages.source member
    rw [sole ancestor other lineage source] at wraps
    exact .inr ⟨optional, wrapper, found, wraps⟩

theorem mutability (stages : Stages documents written tagged merged final) (inside : id < merged.graph.size) :
    (final.graph.node id).mutability = (written.graph.node id).mutability := by
  rw [(stages.last.ends id inside).apart, stages.merged_node id]

theorem final_required (stages : Stages documents written tagged merged final) (inside : id < merged.graph.size) :
    (final.graph.node id).required = (merged.graph.node id).required := by
  rw [(stages.last.ends id inside).apart]

variable {validator : Validator} {direction : Direction} {fuel : Nat} {entries : Assoc Value}

theorem passing_required (stages : Stages documents written tagged merged final)
    (hands : HandsDown written.graph id parent) (compiled : ofSchema final.catalog id = .ok validator)
    (passes : validator.evaluateWithin fuel direction (.object entries) = some [])
    (required : key ∈ (written.graph.node parent).required) :
    key ∈ Assoc.keys entries ∨ MayLack written.graph id direction key := by
  obtain ⟨branch, inherits⟩ := hands.inheritsFrom
  have inside := stages.inside_of_inheritsFrom inherits
  obtain ⟨slot, mirror⟩ := Validator.ofSchema_mirror compiled
  have depicts := mirror.depicts mirror.root
  obtain ⟨after, ran⟩ := Validator.evaluateWithin_eq_some.mp passes
  cases fuel with
  | zero => cases ran
  | succ fuel =>
      have asked : key ∈ (validator.clauses.getD validator.root {}).required := by
        rw [depicts.required]
        change key ∈ (final.graph.node id).required
        rw [stages.final_required inside]
        exact (stages.takesOver hands).1 required
      rcases (Validator.passing_keyed ran).required key asked with present | ⟨response, child, found, unreadable⟩
      · exact .inl present
      · right
        obtain ⟨edge, declared, placed⟩ := Option.Rel.exists_left (found ▸ depicts.property? key)
        obtain ⟨names, listed, unread⟩ := (mirror.depicts placed).unreadable_iff.mp unreadable
        change (final.graph.node edge.target).mutability = some names at listed
        change Assoc.find? (final.graph.node id).propertyList key = some edge at declared
        rcases (stages.last.ends id inside).found key with same | ⟨_, other, wrapper, _, foundToo, wraps⟩
        · have merging := Assoc.mem_of_find? (same.symm.trans declared)
          obtain ⟨ancestor, lineage, source⟩ := stages.source merging
          rw [stages.mutability (stages.leadsTo_lt (.property merging))] at listed
          exact ⟨response, ancestor, edge, names, lineage, source, listed, unread⟩
        · cases declared.symm.trans foundToo
          obtain ⟨_, _, _, shape, _⟩ := wraps.shape
          rw [shape] at listed
          cases listed

/-- What an inherited schema declares for a key, and no other one declares otherwise, is asked of the member. -/
theorem passing_declared (stages : Stages documents written tagged merged final)
    (hands : HandsDown written.graph id parent) (compiled : ofSchema final.catalog id = .ok validator)
    (distinct : (Assoc.keys entries).Nodup)
    (passes : validator.evaluateWithin fuel direction (.object entries) = some [])
    (declared : (key, edge) ∈ (written.graph.node parent).propertyList) (sole : Sole written.graph id key edge)
    {member : Value} (among : (key, member) ∈ entries) :
    Admits final.catalog direction edge.target member ∨
      member = .null ∧ key ∉ (merged.graph.node id).required := by
  obtain ⟨slot, mirror⟩ := Validator.ofSchema_mirror compiled
  have depicts := mirror.depicts mirror.root
  obtain ⟨after, ran⟩ := Validator.evaluateWithin_eq_some.mp passes
  cases fuel with
  | zero => cases ran
  | succ fuel =>
      have asked (led : Edge) (found : Assoc.find? (final.graph.node id).propertyList key = some led) :
          ∃ child guard later, slot led.target child ∧ Validator.Unmarked (Pointer.child "" key) guard ∧
            (Validator.visit validator.clauses direction fuel child member (Pointer.child "" key)).run guard =
              some ([], later) := by
        have related := depicts.property? key
        change Option.Rel _ (Assoc.find? (final.graph.node id).propertyList key) _ at related
        rw [found] at related
        obtain ⟨child, foundClause, placed⟩ := related.exists_right
        have looked : (validator.clauses.getD validator.root {}).clauseFor? key = some child := by
          simp only [Validator.Clause.clauseFor?, foundClause]
        obtain ⟨guard, later, fresh, ranMember⟩ :=
          Validator.passing_member distinct (Validator.unmarked_empty "") ran among looked
        exact ⟨child, guard, later, placed, fresh, ranMember⟩
      rcases stages.ends_of_sole hands declared sole with found | ⟨optional, wrapper, found, wraps⟩
      · obtain ⟨child, guard, later, placed, fresh, ranMember⟩ := asked edge found
        exact .inl (mirror.admits placed fresh ranMember)
      · obtain ⟨child, guard, later, placed, fresh, ranMember⟩ := asked wrapper found
        rcases mirror.wrapper_admits wraps placed fresh ranMember with null | admits
        · exact .inr ⟨null, optional⟩
        · exact .inl admits

theorem merged_allOf (stages : Stages documents written tagged merged final) (keeps : KeepsBranches written merged id) :
    (merged.graph.node id).allOf = (written.graph.node id).allOf := by
  have taggedAllOf : (tagged.graph.node id).allOf = (written.graph.node id).allOf := by
    rw [stages.retagged.node id]
  have taggedInherits : (tagged.graph.node id).inherits = (written.graph.node id).inherits := by
    rw [stages.retagged.node id]
    rfl
  by_cases mergeable : Mergeable tagged.graph id
  · obtain ⟨typed, branched⟩ := mergeable
    rcases keeps with refuses | ⟨base, undiscriminated⟩
    · rw [taggedInherits, refuses] at typed
      cases typed
    · rw [taggedAllOf] at branched
      obtain ⟨branches, listed⟩ := Option.ne_none_iff_exists'.mp branched
      have collected : id ∈ written.catalog.collections.objects := by
        refine stages.built.mem_objects (fun childless => ?_) (taggedInherits.symm.trans typed)
        cases childless.allOf.symm.trans listed
      obtain ⟨_, parents, _, _, _, merging⟩ := stages.outcome.complete id collected ⟨typed, by rwa [taggedAllOf]⟩
      have sameBases : merged.baseSchemas = tagged.baseSchemas := (mergeBranches_outcome stages.branches).2.2.2.2
      unfold isBaseSchema at base
      rw [sameBases] at base
      have plain : (tagged.graph.node id).discriminator = none := by
        rw [stages.retagged.node id]
        exact undiscriminated
      rw [merging, Node.settled_of_base base (by rw [Node.discriminator_foldl_absorb]; exact plain),
        Node.allOf_foldl_absorb]
      exact taggedAllOf
  · rw [stages.outcome.untouched id mergeable, taggedAllOf]

theorem passing_kept (stages : Stages documents written tagged merged final) (keeps : KeepsBranches written merged id)
    (compiled : ofSchema final.catalog id = .ok validator) {value : Value} (notNull : value.isNull = false)
    (passes : validator.evaluateWithin fuel direction value = some [])
    {branch : Edge} (member : branch ∈ (written.graph.node id).allOf.getD []) :
    AdmitsAmid final.catalog direction branch.target value := by
  have inside : id < merged.graph.size := by
    rw [stages.size]
    refine Nat.lt_of_not_le fun outside => ?_
    rw [node_of_size_le outside] at member
    cases member
  obtain ⟨slot, mirror⟩ := Validator.ofSchema_mirror compiled
  have branches := (mirror.depicts mirror.root).allOf
  change List.Forall₂ _ ((final.graph.node id).allOf.getD []) _ at branches
  rw [stages.final_allOf inside, stages.merged_allOf keeps] at branches
  obtain ⟨place, among, placed⟩ := branches.exists_right member
  obtain ⟨after, ran⟩ := Validator.evaluateWithin_eq_some.mp passes
  cases fuel with
  | zero => cases ran
  | succ fuel =>
      obtain ⟨guard, later, ranBranch⟩ := Validator.passing_branch notNull ran among
      exact mirror.admitsAmid placed ranBranch

end Stages

/-- Flattening never loses what branches declare and require. A value in which the validator of a schema finds
nothing wrong has, if it is an object, every key that an inherited schema requires, and what an inherited schema
declares for a key is asked of the member; and the branches that a schema keeps find nothing wrong with it. -/
theorem flattening_hands_down (read : IsRead documents written) (merge : IsMerged documents merged)
    (finished : IsFinished documents final) {id : Nat} {validator : Validator} {direction : Direction} {fuel : Nat}
    {value : Value} (compiled : ofSchema final.catalog id = .ok validator) (keys : value.hasUniqueKeys = true)
    (passes : validator.evaluateWithin fuel direction value = some []) :
    (∀ entries parent, value = .object entries → HandsDown written.graph id parent →
      (∀ key ∈ (written.graph.node parent).required,
        key ∈ Assoc.keys entries ∨ MayLack written.graph id direction key) ∧
      ∀ key edge member, (key, edge) ∈ (written.graph.node parent).propertyList → Sole written.graph id key edge →
        (key, member) ∈ entries →
        Admits final.catalog direction edge.target member ∨
          member = .null ∧ key ∉ (merged.graph.node id).required) ∧
    (KeepsBranches written merged id → value.isNull = false → ∀ branch ∈ (written.graph.node id).allOf.getD [],
      AdmitsAmid final.catalog direction branch.target value) := by
  obtain ⟨readToo, tagged, mergedToo, stages⟩ := finished.stages
  obtain rfl := read.unique stages.read
  obtain rfl := merge.unique stages.merge
  constructor
  · rintro entries parent rfl hands
    rw [Value.hasUniqueKeys, Bool.and_eq_true, decide_eq_true_iff] at keys
    refine ⟨fun key required => stages.passing_required hands compiled passes required, ?_⟩
    intro key edge member declared sole among
    exact stages.passing_declared hands compiled keys.1 passes declared sole among
  · intro keeps notNull branch member
    exact stages.passing_kept keeps compiled notNull passes member

/-- A dog is a pet; a pet has a name, and at least two members. -/
def dogDocuments : DocumentSet := .ofDefinitions [
  ("Pet", .object [("type", .string "object"), ("minProperties", .number (.int 2)),
    ("required", .array [.string "name"]), ("properties", .object [("name", .ofType "string")])]),
  ("Dog", .object [("type", .string "object"), ("allOf", .array [.toDefinition "Pet"]),
    ("properties", .object [("bark", .ofType "string")])])]

instance : Finishing dogDocuments :=
  ⟨by decide +kernel⟩

theorem dogs_read :
    let graph := (readOf dogDocuments).graph
    (graph.node 2).inherits = true ∧ (graph.node 2).allOf = some [.reference 0] ∧ (graph.node 0).allOf = none ∧
      (graph.node 2).propertyList = [("bark", .inline 3)] ∧ (graph.node 0).propertyList = [("name", .inline 1)] := by
  decide +kernel

theorem dog_inheritsFrom (parent : Nat) : InheritsFrom (readOf dogDocuments).graph 2 parent ↔ parent = 0 := by
  obtain ⟨typed, branches, _⟩ := dogs_read
  simp [InheritsFrom, branches, typed, Edge.reference, eq_comm]

theorem not_pet_inheritsFrom (parent : Nat) : ¬InheritsFrom (readOf dogDocuments).graph 0 parent := by
  obtain ⟨_, _, branches, _⟩ := dogs_read
  simp [InheritsFrom, branches]

theorem dog_name_sole : Sole (readOf dogDocuments).graph 2 "name" (.inline 1) := by
  obtain ⟨_, _, _, own, petOwn⟩ := dogs_read
  intro ancestor other lineage declared
  rcases Relation.ReflTransGen.cases_head lineage with rfl | ⟨parent, inherits, further⟩
  · simp [own] at declared
  · obtain rfl := (dog_inheritsFrom parent).mp inherits
    rcases Relation.ReflTransGen.cases_head further with rfl | ⟨_, inherits, _⟩
    · simpa [petOwn] using declared
    · exact absurd inherits (not_pet_inheritsFrom _)

/-- The name of a dog is asked to be one of a pet. -/
theorem flattening_hands_down_dog :
    let dog := Value.object [("bark", .string "loud"), ("name", .string "Rex")]
    HandsDown (readOf dogDocuments).graph 2 0 ∧
      (validatorOf (finalOf dogDocuments).catalog 2).evaluateWithin 20 .request dog = some [] ∧
      Admits (finalOf dogDocuments).catalog .request 1 (.string "Rex") := by
  intro dog
  obtain ⟨read, merge, finished⟩ := Finishing.stages dogDocuments
  obtain ⟨_, _, _, _, petOwn⟩ := dogs_read
  have hands : HandsDown (readOf dogDocuments).graph 2 0 := .branch ((dog_inheritsFrom 0).mpr rfl)
  have computed : (ofSchema (finalOf dogDocuments).catalog 2).toOption.isSome = true ∧
      (validatorOf (finalOf dogDocuments).catalog 2).evaluateWithin 20 .request dog = some [] := by
    decide +kernel
  obtain ⟨compiles, passes⟩ := computed
  have declared : ("name", Edge.inline 1) ∈ ((readOf dogDocuments).graph.node 0).propertyList :=
    petOwn ▸ List.mem_cons_self
  obtain ⟨inherited, _⟩ := flattening_hands_down read merge finished (Validator.ofSchema_eq_validatorOf compiles)
    (by decide +kernel) passes
  have admitted := (inherited _ _ rfl hands).2 _ _ _ declared dog_name_sole (List.mem_cons_of_mem _ List.mem_cons_self)
  exact ⟨hands, passes, admitted.resolve_right (by simp)⟩

/-- Keywords of a branch other than these are lost: a dog with a name alone passes, but it is no pet. -/
theorem flattening_loses_minimum :
    let rex := Value.object [("name", .string "Rex")]
    IsRead dogDocuments (readOf dogDocuments) ∧ IsFinished dogDocuments (finalOf dogDocuments) ∧
      ofSchema (finalOf dogDocuments).catalog 2 = .ok (validatorOf (finalOf dogDocuments).catalog 2) ∧
      ofSchema (finalOf dogDocuments).catalog 0 = .ok (validatorOf (finalOf dogDocuments).catalog 0) ∧
      ((readOf dogDocuments).graph.node 2).allOf = some [.reference 0] ∧
      Assoc.keys ((readOf dogDocuments).graph.node 2).propertyList = ["bark"] ∧
      Assoc.keys ((readOf dogDocuments).graph.node 0).propertyList = ["name"] ∧
      (validatorOf (finalOf dogDocuments).catalog 2).evaluate .request rex = some [] ∧
      ((validatorOf (finalOf dogDocuments).catalog 0).evaluate .request rex).map (·.map (·.code)) =
        some [.objectPropertiesMinimum] := by
  obtain ⟨read, _, finished⟩ := Finishing.stages dogDocuments
  have compiles : (ofSchema (finalOf dogDocuments).catalog 2).toOption.isSome = true ∧
      (ofSchema (finalOf dogDocuments).catalog 0).toOption.isSome = true := by
    decide +kernel
  exact ⟨read, finished, Validator.ofSchema_eq_validatorOf compiles.1, Validator.ofSchema_eq_validatorOf compiles.2,
    by decide +kernel⟩

end Draft

end ApiContract

namespace ApiContract.Draft

open Schema Schema.Reading Merging

/-- The draft with its objects collected in another order. -/
def withObjects (draft : Draft) (objects : List Nat) : Draft :=
  { draft with catalog := { draft.catalog with collections := { draft.catalog.collections with objects } } }

/-- All schemas that merging changes are collected as objects. -/
theorem Fresh.covers {read : Draft} {graph : Graph} (fresh : Fresh read) (retagged : Retagged read.graph graph)
    {id : Nat} (mergeable : Mergeable graph id) : id ∈ read.catalog.collections.objects := by
  obtain ⟨typed, branched⟩ := mergeable
  rw [retagged.allOf] at branched
  refine fresh.built.mem_objects (fun childless => branched childless.allOf) ?_
  rw [retagged.node id] at typed
  exact typed

theorem mergeBranches_withObjects {draft : Draft} {objects : List Nat} {graph merged : Graph}
    (answered : mergeAll draft.baseSchemas objects graph = some merged) :
    ((draft.withObjects objects).modifyGraph fun _ => graph).mergeBranches =
      .ok ((draft.withObjects objects).modifyGraph fun _ => merged) := by
  unfold mergeBranches
  split
  next other answeredToo =>
    cases answered.symm.trans answeredToo
    rfl
  next refused => cases answered.symm.trans refused

/-- Of the schemas that were read, with tags or without, whatever the base schemas are and in whatever order the objects
were collected, merging makes one graph. In it each object schema with branches has its own properties and required
names, followed by those that its branches came to, in the order of the branches and without a name that was there
before; it keeps its branches only as a base schema without a discriminator; and nothing else is different. Merging that
graph again makes no other one. -/
theorem mergeBranches_flattens {read draft : Draft} (fresh : Fresh read) (retagged : Retagged read.graph draft.graph)
    (acyclic : IsAcyclic (InheritsFrom draft.graph)) :
    ∃ merged : Graph,
      (∀ objects, objects.Perm read.catalog.collections.objects →
        let turned := draft.withObjects objects
        let done := turned.modifyGraph fun _ => merged
        turned.mergeBranches = .ok done ∧ done.mergeBranches = .ok done) ∧
      merged.size = draft.graph.size ∧ merged.locations = draft.graph.locations ∧
      (∀ id branches, (draft.graph.node id).inherits = true → (draft.graph.node id).allOf = some branches →
        Flattened draft.graph merged draft.baseSchemas id branches) ∧
      ∀ id, ¬Mergeable draft.graph id → merged.node id = draft.graph.node id := by
  obtain ⟨merged, size, locations, settled, answers⟩ := mergeAll_settles acyclic draft.baseSchemas
  refine ⟨merged, ?_, size, locations, fun _ _ inherits listed => settled.flattened inherits listed,
    fun _ refuses => settled.refused refuses⟩
  intro objects perm
  obtain ⟨first, again⟩ := answers objects fun id mergeable => perm.mem_iff.mpr (fresh.covers retagged mergeable)
  exact ⟨mergeBranches_withObjects first, mergeBranches_withObjects again⟩

/-- An amphibian is a car and a boat, and both are vehicles. -/
def amphibianDocuments : DocumentSet := .ofDefinitions [
  ("Amphibian", .object [("allOf", .array [.toDefinition "Car", .toDefinition "Boat"]),
    ("required", .array [.string "name", .string "speed"]), ("properties", .object [("name", .ofType "string")])]),
  ("Car", .object [("allOf", .array [.toDefinition "Vehicle"]), ("required", .array [.string "wheels"]),
    ("properties", .object [("wheels", .ofType "integer"), ("speed", .ofType "integer")])]),
  ("Boat", .object [("allOf", .array [.toDefinition "Vehicle"]), ("required", .array [.string "speed"]),
    ("properties", .object [("speed", .ofType "number"), ("draft", .ofType "number")])]),
  ("Vehicle", .object [("type", .string "object"), ("discriminator", .string "kind"),
    ("required", .array [.string "kind"]), ("properties", .object [("kind", .ofType "string")])])]

theorem amphibians_read :
    let graph := (readOf amphibianDocuments).graph
    (Pipeline.run ⟨Pass.readers, [Pass.discoverVariants]⟩ { documents := amphibianDocuments }).outcome.toOption.isSome =
        true ∧
      (readOf amphibianDocuments).catalog.collections.objects = [0, 2, 5, 7] ∧ graph.size = 10 ∧
      (List.range 10).map (fun id => ((graph.node id).allOf.getD []).map (·.target)) =
        [[2, 7], [], [5], [], [], [], [], [5], [], []] ∧
      [0, 2, 5, 7].map (fun id => ((graph.node id).inherits, (graph.node id).allOf, (graph.node id).discriminator)) =
        [(true, some [.reference 2, .reference 7], none), (true, some [.reference 5], none), (true, none, some "kind"),
          (true, some [.reference 5], none)] ∧
      [0, 2, 5, 7].map (fun id => ((graph.node id).propertyList, (graph.node id).required)) =
        [([("name", .inline 1)], ["name", "speed"]), ([("wheels", .inline 3), ("speed", .inline 4)], ["wheels"]),
          ([("kind", .inline 6)], ["kind"]), ([("speed", .inline 8), ("draft", .inline 9)], ["speed"])] := by
  decide +kernel

theorem amphibians_acyclic : IsAcyclic (InheritsFrom (readOf amphibianDocuments).graph) := by
  obtain ⟨_, _, size, branches, _⟩ := amphibians_read
  generalize (readOf amphibianDocuments).graph = graph at *
  refine .of_descending (fun id => if id = 0 then 2 else if id = 2 ∨ id = 7 then 1 else 0) ?_
  intro id parent inherits
  have inside : id < 10 := size ▸ lt_size_of_inheritsFrom inherits
  obtain ⟨_, listing, listed, branch, member, rfl⟩ := inherits
  have among : branch.target ∈
      (((List.range 10).map fun id => ((graph.node id).allOf.getD []).map (·.target))[id]?).getD [] := by
    simpa [inside, listed] using ⟨branch, member, rfl⟩
  rw [branches] at among
  have descends : ∀ id < 10, ∀ parent ∈ ([[2, 7], [], [5], [], [], [], [], [5], [], []][id]?).getD [],
      (if parent = 0 then 2 else if parent = 2 ∨ parent = 7 then 1 else 0) <
        if id = 0 then 2 else if id = 2 ∨ id = 7 then 1 else 0 := by decide
  exact descends id inside _ among

/-- With the boat before the car, an amphibian is as fast as its car, and cars still know that they are vehicles. -/
theorem mergeBranches_flattens_amphibian :
    ∃ merged : Graph,
      (({ readOf amphibianDocuments with baseSchemas := [2, 5] } : Draft).withObjects [7, 5, 2, 0]).mergeBranches =
        .ok ((({ readOf amphibianDocuments with baseSchemas := [2, 5] } : Draft).withObjects [7, 5, 2, 0]).modifyGraph
          fun _ => merged) ∧
      (merged.node 0).propertyList =
        [("name", .inline 1), ("wheels", .inline 3), ("speed", .inline 4), ("kind", .inline 6), ("draft", .inline 9)] ∧
      (merged.node 0).required = ["name", "speed", "wheels", "kind"] ∧ (merged.node 0).allOf = none ∧
      (merged.node 2).allOf = some [.reference 5] := by
  obtain ⟨ends, objects, _, _, kinds, written⟩ := amphibians_read
  have fresh : Fresh (readOf amphibianDocuments) := IsRead.fresh (run_eq_outcomeOf ends)
  have acyclic := amphibians_acyclic
  generalize readOf amphibianDocuments = read at *
  have retagged : Retagged read.graph ({ read with baseSchemas := [2, 5] } : Draft).graph := .refl _
  obtain ⟨merged, answers, _, _, flattened, untouched⟩ := mergeBranches_flattens fresh retagged acyclic
  have turned : [7, 5, 2, 0].Perm read.catalog.collections.objects := by
    rw [objects]
    decide
  change [0, 2, 5, 7].map (fun id => ((read.graph.node id).inherits, (read.graph.node id).allOf,
    (read.graph.node id).discriminator)) = _ at kinds
  simp only [List.map_cons, List.map_nil, List.cons.injEq, Prod.mk.injEq, and_true] at kinds written
  obtain ⟨⟨inherits, listed, plain⟩, ⟨carInherits, carListed, carPlain⟩, ⟨_, unlisted, _⟩,
    boatInherits, boatListed, boatPlain⟩ := kinds
  obtain ⟨⟨own, names⟩, ⟨carOwn, carNames⟩, ⟨vehicleOwn, vehicleNames⟩, boatOwn, boatNames⟩ := written
  have vehicle : merged.node 5 = read.graph.node 5 := untouched 5 fun mergeable => mergeable.2 unlisted
  have car : Flattened read.graph merged [2, 5] 2 [.reference 5] := flattened 2 _ carInherits carListed
  have boat : Flattened read.graph merged [2, 5] 7 [.reference 5] := flattened 7 _ boatInherits boatListed
  have amphibian : Flattened read.graph merged [2, 5] 0 [.reference 2, .reference 7] := flattened 0 _ inherits listed
  have carKeys : (merged.node 2).propertyList = [("wheels", .inline 3), ("speed", .inline 4), ("kind", .inline 6)] := by
    rw [Node.propertyList, car.properties, carOwn]
    simp only [List.flatMap_singleton, Edge.reference, vehicle, vehicleOwn]
    decide
  have boatKeys : (merged.node 7).propertyList = [("speed", .inline 8), ("draft", .inline 9), ("kind", .inline 6)] := by
    rw [Node.propertyList, boat.properties, boatOwn]
    simp only [List.flatMap_singleton, Edge.reference, vehicle, vehicleOwn]
    decide
  refine ⟨merged, (answers _ turned).1, ?_, ?_, ?_, ?_⟩
  · rw [Node.propertyList, amphibian.properties, own]
    simp only [List.flatMap_cons, List.flatMap_nil, Edge.reference, carKeys, boatKeys]
    decide
  · rw [amphibian.required, names]
    simp only [List.flatMap_cons, List.flatMap_nil, Edge.reference, car.required, boat.required, carNames, boatNames,
      vehicle, vehicleNames]
    decide
  · rw [amphibian.allOf]
    rfl
  · rw [car.allOf, carPlain]
    rfl

end ApiContract.Draft
