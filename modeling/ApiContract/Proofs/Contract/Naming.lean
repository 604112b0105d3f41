import ApiContract.Proofs.Contract.Closure
import ApiContract.Proofs.Contract.Entering

/-!
What the name of a definition is as a tag (`variants_named`). The name comes back from the location of the definition,
where it is spelled as the segment of a pointer: a name with slashes or tildes is entered as that spelling, and objects
that carry the name itself are not led to the definition. A number sign leaves the definition without a tag.
-/

namespace ApiContract

open Json (Value)
open Relation

namespace Pointer

theorem lastSegment_append {segment : String} (plain : '/' ∉ segment.toList) (path : String) :
    lastSegment (path ++ "/" ++ segment) = segment := by
  have kept : ∀ c ∈ segment.toList.reverse, (c ≠ '/' : Bool) = true := by
    intro c member
    rw [decide_eq_true_eq]
    rintro rfl
    exact plain (List.mem_reverse.mp member)
  have chars : (path ++ "/" ++ segment).toList.reverse = segment.toList.reverse ++ '/' :: path.toList.reverse := by
    simp
  have cut : (segment.toList.reverse ++ '/' :: path.toList.reverse).takeWhile (· ≠ '/') = segment.toList.reverse := by
    rw [List.takeWhile_append_of_pos kept, List.takeWhile_cons_of_neg (by simp), List.append_nil]
  rw [lastSegment, chars, cut, List.reverse_reverse, String.ofList_toList]

/-- Each tilde and each slash is spelled with one character more. -/
theorem length_escapeChars (text : List Char) :
    (escapeChars text).length = text.length + text.countP fun c => c = '~' || c = '/' := by
  induction text with
  | nil => rfl
  | cons c rest ih =>
      rw [escapeChars] at ih ⊢
      rw [List.flatMap_cons, List.length_append, ih, List.countP_cons, List.length_cons, escapeChar]
      by_cases tilde : c = '~'
      · simp only [tilde, ↓reduceIte, decide_true, Bool.true_or, List.length_cons, List.length_nil]
        omega
      · by_cases slash : c = '/' <;> simp [tilde, slash] <;> omega

theorem escapeChars_of_plain {text : List Char} (plain : ∀ c ∈ text, c ≠ '~' ∧ c ≠ '/') : escapeChars text = text := by
  induction text with
  | nil => rfl
  | cons c rest ih =>
      have own := plain c List.mem_cons_self
      have others := ih fun other member => plain other (List.mem_cons_of_mem _ member)
      rw [escapeChars] at others ⊢
      rw [List.flatMap_cons, others, escapeChar, if_neg own.1, if_neg own.2, List.singleton_append]

theorem escape_eq_self_iff (key : String) : escape key = key ↔ '~' ∉ key.toList ∧ '/' ∉ key.toList := by
  constructor
  · intro same
    have chars : escapeChars key.toList = key.toList := by
      rw [← String.toList_ofList (l := escapeChars key.toList)]
      exact congrArg String.toList same
    have length := length_escapeChars key.toList
    rw [chars] at length
    have none : key.toList.countP (fun c => c = '~' || c = '/') = 0 := by omega
    rw [List.countP_eq_zero] at none
    exact ⟨fun tilde => none _ tilde (by simp), fun slash => none _ slash (by simp)⟩
  · rintro ⟨tildeless, slashless⟩
    rw [escape, escapeChars_of_plain, String.ofList_toList]
    intro c member
    constructor
    · rintro rfl
      exact tildeless member
    · rintro rfl
      exact slashless member

theorem hash_mem_escape_iff (key : String) : '#' ∈ (escape key).toList ↔ '#' ∈ key.toList := by
  rw [escape, String.toList_ofList, escapeChars, List.mem_flatMap]
  constructor
  · rintro ⟨c, member, spelled⟩
    rw [escapeChar] at spelled
    split at spelled
    · simp at spelled
    · split at spelled
      · simp at spelled
      · rwa [List.mem_singleton.mp spelled]
  · exact fun member => ⟨'#', member, by decide⟩

end Pointer

namespace Schema

/-- A definition is named after the spelling of its name, if a reference or a visit of the definitions knows it. -/
theorem Reading.Signed.name?_definition {graph : Graph} (signed : Reading.Signed graph) {url name : String} {id : Nat}
    (defined : graph.definition url name = some id) (named : name ≠ "") :
    (graph.node id).name? =
      if (graph.node id).identity.isSome = true ∧ '#' ∉ name.toList then some (Pointer.escape name) else none := by
  have place := ((signed.located _ id).mp defined).2
  rcases known : (graph.node id).identity with _ | location
  · simp [Node.name?, known]
  · obtain rfl := signed.named id location known
    have cut : "#/definitions/" = "#/definitions" ++ "/" := rfl
    have segment := Pointer.lastSegment_append (Pointer.slash_notMem_escape name) (url ++ "#/definitions")
    rw [place, cut, ← String.append_assoc] at known
    have spelled : Pointer.escape name ≠ "" := fun empty => named (Pointer.escape_injective (empty.trans rfl))
    simp only [Node.name?, known, Option.bind_some, segment, spelled, false_or, Option.isSome_some, true_and,
      List.contains_iff_mem, Pointer.hash_mem_escape_iff]
    by_cases hash : '#' ∈ name.toList <;> simp [hash]

/-- A definition that gives itself no tag has its name for one. -/
theorem Reading.Signed.tag?_definition {graph : Graph} (signed : Reading.Signed graph) {url name : String} {id : Nat}
    (defined : graph.definition url name = some id) (named : name ≠ "") (untagged : (graph.node id).ownTag = none) :
    (graph.node id).tag? =
      if (graph.node id).identity.isSome = true ∧ '#' ∉ name.toList then some (Pointer.escape name) else none := by
  rw [← signed.name?_definition defined named, Node.tag?, untagged]
  rfl

end Schema

namespace Validator

open Schema (Catalog)

/-- Every validator of a root leads the objects with a tag on to the clause of a schema. -/
def LeadsOn (catalog : Catalog) (root : Nat) (tag : String) (id : Nat) : Prop :=
  ∀ validator, ofSchema catalog root = .ok validator → ∃ property dispatch child,
    (catalog.graph.node root).discriminator = some property ∧
    (validator.clauses.getD validator.root {}).dispatch = some dispatch ∧
    (validator.clauses.getD child {}).source = (catalog.graph.node id).source ∧
    ∀ entries, Assoc.find? entries property = some (.string tag) → Clause.variant? dispatch entries = some child

/-- What the map of a root leads to, its validators lead objects on to. -/
theorem leadsOn_of_leads {catalog : Catalog} {root id : Nat} {tag : String} (leads : catalog.Leads root tag id)
    (declares : (catalog.graph.node root).discriminator ≠ none) : LeadsOn catalog root tag id := by
  intro validator compiled
  obtain ⟨tags, mapped, found⟩ := leads
  obtain ⟨property, declared⟩ := Option.ne_none_iff_exists'.mp declares
  obtain ⟨slot, mirror⟩ := ofSchema_mirror compiled
  have routes : (catalog.graph.node root).routing? = some (property, tags) := by
    simp [Schema.Node.routing?, declared, mapped]
  have related := (mirror.depicts mirror.root).dispatch
  rw [routes] at related
  obtain ⟨dispatch, answered, same, alike⟩ := related.exists_right
  have variants := find?_alike alike tag
  rw [found] at variants
  obtain ⟨_, listed, entry⟩ := variants.exists_right
  obtain ⟨child, rfl, placed⟩ := entry.exists_right
  refine ⟨property, dispatch, child, declared, answered, (mirror.depicts placed).source, fun entries tagged => ?_⟩
  simp [Clause.variant?, ← same, tagged, Value.asString?, listed]

end Validator

namespace Draft

open Schema
open Validator (ofSchema LeadsOn)

variable {documents : DocumentSet} {written tagged merged final : Draft} {url name : String} {id root : Nat}

/-- A schema that inherits from another one is collected. -/
theorem Fresh.mem_objects (fresh : Fresh written) (object : (written.graph.node id).inherits = true)
    (rooted : RootIs written.graph id (some root)) (different : root ≠ id) :
    id ∈ written.catalog.collections.objects := by
  refine fresh.built.mem_objects (fun childless => ?_) object
  cases rooted with
  | itself => exact different rfl
  | inherited _ listed =>
      have branchless : (written.graph.node id).allOf = none := childless.allOf
      simp [Graph.parents, branchless] at listed

/-- A schema joins its root when the maps of tags are built. -/
theorem Fresh.joins (fresh : Fresh written) (tags : written.buildTagMaps = .ok tagged)
    (unlooped : written.graph.Unlooped id) (rooted : RootIs written.graph id (some root)) (different : root ≠ id)
    (object : (written.graph.node id).inherits = true)
    (alone : ∀ other ∈ written.catalog.collections.objects, other ≠ id →
      ReflTransGen written.graph.HasParent other root →
      ∀ tag, (written.graph.node id).tag? = some tag → (written.graph.node other).tag? ≠ some tag) :
    Catalog.Joined written.graph tagged.catalog root id ∧ Catalog.Labels written.graph tagged.catalog := by
  obtain ⟨catalog, search, answered, rfl⟩ := buildTagMaps_eq_ok tags
  have unmapped top : (written.graph.node top).tagMap = none := (fresh.built.written top).tagMap
  constructor
  · exact Catalog.enrollAll_joins unlooped rooted different alone (.refl _) (.start _ _) (fun _ => unmapped root)
      answered (.inl (fresh.mem_objects object rooted different))
  · refine Catalog.enrollAll_labels (fun top table tag other mapped => ?_) (.refl _) answered
    cases (unmapped top).symm.trans mapped

namespace Stages

variable (stages : Stages documents written tagged merged final)

include stages

theorem final_tagMap (inside : id < merged.graph.size) :
    (final.graph.node id).tagMap = (tagged.graph.node id).tagMap := by
  rw [(stages.last.ends id inside).apart, stages.merged_node id]

theorem final_deferred : final.catalog.deferred = tagged.catalog.deferred :=
  stages.last.deferred.trans (mergeBranches_outcome stages.branches).2.2.1

theorem final_discriminator (inside : id < merged.graph.size) :
    (final.graph.node id).discriminator = (written.graph.node id).discriminator := by
  rw [(stages.last.ends id inside).apart, stages.merged_discriminator]

/-- A schema that an error was deferred for when the maps were built gets no validator. -/
theorem unvalidated (spoiled : (tagged.catalog.deferred.find? id).isSome = true) :
    ∀ validator, ofSchema final.catalog id ≠ .ok validator := by
  intro validator compiled
  obtain ⟨slot, mirror⟩ := Validator.ofSchema_mirror compiled
  have sound := mirror.unbroken mirror.root
  rw [stages.final_deferred] at sound
  rw [sound] at spoiled
  cases spoiled

end Stages

/-- A definition that inherits from a root and gives itself no tag, where no other schema of the hierarchy has its tag.
If it is known by its location and its name has no number sign, the map of the root leads to it, from the spelling of
its name as a segment of a pointer and from no other tag, and the validators of the root lead objects with that tag on
to it. That is its name itself only if the name has neither tildes nor slashes. Else, and where the root has no tag, the
root has no validator. -/
theorem variants_named (read : IsRead documents written) (finished : IsFinished documents final)
    (defined : written.graph.definition url name = some id) (named : name ≠ "")
    (untagged : (written.graph.node id).ownTag = none) (object : (written.graph.node id).inherits = true)
    (unlooped : written.graph.Unlooped id) (rooted : RootIs written.graph id (some root)) (different : root ≠ id)
    (alone : ∀ other ∈ written.catalog.collections.objects, other ≠ id →
      ReflTransGen written.graph.HasParent other root →
      (written.graph.node other).tag? ≠ some (Pointer.escape name)) :
    ((written.graph.node root).tag?.isSome = true → (written.graph.node id).identity.isSome = true →
      '#' ∉ name.toList →
      LeadsOn final.catalog root (Pointer.escape name) id ∧
        ∃ tags, (final.graph.node root).tagMap = some tags ∧
          (∀ tag, Assoc.find? tags tag = some (some id) ↔ tag = Pointer.escape name) ∧
          (Assoc.find? tags name = some (some id) ↔ '~' ∉ name.toList ∧ '/' ∉ name.toList)) ∧
    ((written.graph.node root).tag? = none ∨ (written.graph.node id).identity = none ∨ '#' ∈ name.toList →
      ∀ validator, ofSchema final.catalog root ≠ .ok validator) := by
  obtain ⟨_, tagged, merged, stages⟩ := finished.stages
  obtain rfl := read.unique stages.read
  have own := read.signed.tag?_definition defined named untagged
  have only tag (same : (written.graph.node id).tag? = some tag) : tag = Pointer.escape name := by
    rw [own] at same
    split at same
    · exact (Option.some.inj same).symm
    · cases same
  obtain ⟨joined, labels⟩ := read.fresh.joins stages.tags unlooped rooted different object
    fun other member apart leads tag same => only tag same ▸ alone other member apart leads
  have declares := rooted.declares root rfl
  have inside : root < merged.graph.size := by
    rw [stages.size]
    exact Graph.lt_size_of_discriminator declares
  constructor
  · intro rootNamed known plain
    have tag := own.trans (if_pos ⟨known, plain⟩)
    cases joined with
    | spoiled unnamed =>
        rcases unnamed with unnamed | unnamed
        · rw [unnamed] at rootNamed
          cases rootNamed
        · cases unnamed.symm.trans tag
    | entered _ same leads =>
        obtain rfl := only _ same
        obtain ⟨tags, mapped, found⟩ := leads
        have mappedFinal := (stages.final_tagMap inside).trans mapped
        have exactly other : Assoc.find? tags other = some (some id) ↔ other = Pointer.escape name := by
          constructor
          · exact fun leads => only _ (labels root tags other id mapped (Assoc.mem_of_find? leads))
          · rintro rfl
            exact found
        refine ⟨Validator.leadsOn_of_leads ⟨tags, mappedFinal, found⟩ ?_, tags, mappedFinal, exactly, ?_⟩
        · exact (stages.final_discriminator inside).symm ▸ declares
        · rw [exactly, eq_comm, Pointer.escape_eq_self_iff]
  · intro unnamed
    cases joined with
    | spoiled _ error => exact stages.unvalidated error
    | entered rootNamed same =>
        rw [own] at same
        split at same
        next known =>
          rcases unnamed with unnamed | unknown | hash
          · rw [unnamed] at rootNamed
            cases rootNamed
          · rw [unknown] at known
            cases known.1
          · exact absurd hash known.2
        · cases same

def guardDocuments : DocumentSet := .ofDefinitions [
  ("Guard", .object [("type", .string "object"), ("discriminator", .string "kind"),
    ("properties", .object [("kind", .ofType "string")])]),
  ("Goose", .object [("allOf", .array [.toDefinition "Guard"]),
    ("properties", .object [("honks", .ofType "boolean")])]),
  ("Guard/Dog", .object [("allOf", .array [.toDefinition "Guard"]),
    ("properties", .object [("barks", .ofType "boolean")])])]

instance : Finishing guardDocuments :=
  ⟨by decide +kernel⟩

theorem guards_read :
    let graph := (readOf guardDocuments).graph
    (readOf guardDocuments).catalog.collections.objects = [0, 2, 4] ∧ graph.parents 2 = [0] ∧
      graph.definition "/api.json" "Goose" = some 2 ∧ (graph.node 2).ownTag = none ∧
      (graph.node 2).inherits = true ∧ (graph.node 2).identity.isSome = true ∧ (graph.node 2).discriminator = none ∧
      (graph.node 0).discriminator ≠ none ∧
      [0, 2, 4].map (fun id => (graph.node id).tag?) = [some "Guard", some "Goose", some "Guard~1Dog"] := by
  decide +kernel

/-- Objects of the kind of geese are held against what is said of geese. -/
theorem variants_named_goose :
    LeadsOn (finalOf guardDocuments).catalog 0 "Goose" 2 ∧
      ∃ tags, ((finalOf guardDocuments).graph.node 0).tagMap = some tags ∧
        Assoc.find? tags "Goose" = some (some 2) := by
  obtain ⟨read, _, finished⟩ := Finishing.stages guardDocuments
  obtain ⟨objects, parents, defined, untagged, object, known, plain, declares, tags⟩ := guards_read
  simp only [List.map_cons, List.map_nil, List.cons.injEq, and_true] at tags
  have unlooped : (readOf guardDocuments).graph.Unlooped 2 := by
    refine .of_parents fun parent asks => .of_parents fun grandparent asksParent => ?_
    have member : parent ∈ (readOf guardDocuments).graph.parents 2 := asks.2
    rw [parents, List.mem_singleton] at member
    exact absurd (member ▸ asksParent.1) declares
  have rooted : RootIs (readOf guardDocuments).graph 2 (some 0) :=
    .inherited plain parents (fun _ none => absurd none List.not_mem_nil) (.itself declares)
  have spelled : Pointer.escape "Goose" = "Goose" := by decide
  have named := variants_named read finished defined (by decide) untagged object unlooped rooted (by decide) ?_
  · obtain ⟨leads, map, mapped, _, exactly⟩ := named.1 (by rw [tags.1]; rfl) known (by decide)
    exact ⟨leads, map, mapped, exactly.mpr (by decide)⟩
  · intro other member different _
    rw [objects] at member
    rw [spelled]
    simp only [List.mem_cons, List.not_mem_nil, or_false] at member
    rcases member with rfl | rfl | rfl
    · rw [tags.1]
      decide
    · exact absurd rfl different
    · rw [tags.2.2]
      decide

/-- No tag of guards is the name of the dogs among them, and what a dog says of barking is refused. -/
theorem dogs_unnamed :
    IsFinished guardDocuments (finalOf guardDocuments) ∧
      (readOf guardDocuments).graph.definition "/api.json" "Guard/Dog" = some 4 ∧
      ((finalOf guardDocuments).graph.node 0).tagMap =
        some [("Guard", none), ("Goose", some 2), ("Guard~1Dog", some 4)] ∧
      ((Validator.validatorOf (finalOf guardDocuments).catalog 0).evaluate .request
          (.object [("kind", .string "Guard/Dog"), ("barks", .bool true)])).map
          (·.map fun failure => (failure.code, failure.path)) =
        some [(.objectAdditionalProperties, Pointer.child "" "barks")] :=
  ⟨(Finishing.stages guardDocuments).2.2, by decide +kernel⟩

end Draft

end ApiContract
