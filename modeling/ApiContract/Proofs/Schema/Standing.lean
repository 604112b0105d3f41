import ApiContract.Proofs.Json.Parts
import ApiContract.Proofs.Schema.Growth

/-!
The places that reading comes to. It looks at values of the documents, each with an address that references in it are
relative to, and a reference leads on to one of finitely many locations. A value stands in a document under the pointer
that spells the way to it, and what a reference leads to stands under the location that the reference gives it.
-/

namespace ApiContract.Schema.Reading

open Json (Value)

/-! ## Addresses -/

/-- The address that a location in a document is split into: the part before any number sign. -/
def home (url : String) : String := String.ofList (url.toList.takeWhile (· ≠ '#'))

theorem cutAt?_append (mark : Char) (text rest : List Char) :
    ∃ after, Text.cutAt? [mark] (text ++ mark :: rest) = some (text.takeWhile (· ≠ mark), after) ∧
      text.takeWhile (· ≠ mark) ++ mark :: after = text ++ mark :: rest := by
  induction text with
  | nil => exact ⟨rest, by simp [Text.cutAt?], rfl⟩
  | cons c text ih =>
      by_cases same : c = mark
      · subst same
        exact ⟨text ++ c :: rest, by simp [Text.cutAt?], by simp⟩
      · obtain ⟨after, cut, whole⟩ := ih
        refine ⟨after, ?_, ?_⟩
        · simp [Text.cutAt?, Ne.symm same, cut, same]
        · simpa [same] using whole

/-- Splitting a location gives a pair that spells the same location. -/
theorem splitReference_location (url pointer : String) :
    ∃ rest, Url.splitReference (url ++ "#" ++ pointer) = (home url, rest) ∧
      locationOf (home url) rest = url ++ "#" ++ pointer := by
  obtain ⟨after, cut, whole⟩ := cutAt?_append '#' url.toList pointer.toList
  have spelled : (url ++ "#" ++ pointer).toList = url.toList ++ '#' :: pointer.toList := by simp
  refine ⟨String.ofList after, ?_, ?_⟩
  · rw [Url.splitReference, spelled, cut]
    rfl
  · apply String.toList_injective
    rw [spelled, ← whole]
    simp [locationOf, home]

/-! ## Sites -/

/-- The values of all documents, each with the addresses that it may be read under. -/
def sites (documents : DocumentSet) : List (String × Value) :=
  documents.documents.flatMap fun document => document.2.parts.flatMap fun part =>
    [(document.1, part), (home document.1, part)]

def landings (documents : DocumentSet) : List String :=
  (sites documents).filterMap fun site =>
    ((reference? site.2).bind (documents.resolve? site.1)).map DocumentSet.Target.location

variable {documents : DocumentSet} {base : String} {value : Value}

theorem mem_sites_iff : (base, value) ∈ sites documents ↔
    ∃ document ∈ documents.documents, value ∈ document.2.parts ∧ (base = document.1 ∨ base = home document.1) := by
  simp only [sites, List.mem_flatMap, List.mem_cons, Prod.mk.injEq, List.not_mem_nil, or_false]
  constructor
  · rintro ⟨document, among, part, inside, ⟨rfl, rfl⟩ | ⟨rfl, rfl⟩⟩
    · exact ⟨document, among, inside, .inl rfl⟩
    · exact ⟨document, among, inside, .inr rfl⟩
  · rintro ⟨document, among, inside, based⟩
    exact ⟨document, among, value, inside, based.imp (fun same => ⟨same, rfl⟩) fun same => ⟨same, rfl⟩⟩

theorem length_sites (documents : DocumentSet) :
    (sites documents).length = 2 * Value.weightEntries documents.documents := by
  have pairs (parts : List Value) (url : String) :
      (parts.flatMap fun part => [(url, part), (home url, part)]).length = 2 * parts.length := by
    induction parts with
    | nil => rfl
    | cons part rest ih => simp [ih, Nat.mul_add]
  rw [sites]
  induction documents.documents with
  | nil => rfl
  | cons document rest ih =>
      rw [List.flatMap_cons, List.length_append, pairs, ih, Value.length_parts, Value.weightEntries, Nat.mul_add]

theorem length_landings_le (documents : DocumentSet) :
    (landings documents).length ≤ 2 * Value.weightEntries documents.documents := by
  rw [← length_sites]
  exact List.length_filterMap_le _ _

theorem depth_le_of_mem_sites (site : (base, value) ∈ sites documents) :
    value.depth ≤ Value.weightEntries documents.documents := by
  obtain ⟨document, among, inside, _⟩ := mem_sites_iff.mp site
  have whole : (Value.object documents.documents).Holds document.2 := .entry among
  have below := Nat.lt_of_le_of_lt (Value.depth_le_of_mem_parts inside) whole.depth_lt
  have bound := Value.depthEntries_le_weight documents.documents
  rw [Value.depth] at below
  omega

/-- What stands in a site is a site under the same address. -/
theorem mem_sites_of_holds {inner : Value} (site : (base, value) ∈ sites documents)
    (holds : Relation.TransGen Value.Holds value inner) : (base, inner) ∈ sites documents := by
  obtain ⟨document, among, inside, based⟩ := mem_sites_iff.mp site
  refine mem_sites_iff.mpr ⟨document, among, ?_, based⟩
  exact Value.mem_parts_iff.mpr ((Value.mem_parts_iff.mp inside).trans holds.to_reflTransGen)

theorem mem_sites_of_resolve? {reference : String} {target : DocumentSet.Target}
    (resolved : documents.resolve? base reference = some target) :
    (home target.url, target.value) ∈ sites documents := by
  obtain ⟨document, found, resolved⟩ := Option.bind_eq_some_iff.mp resolved
  obtain ⟨value, at_, resolved⟩ := Option.bind_eq_some_iff.mp resolved
  cases resolved
  exact mem_sites_iff.mpr ⟨_, Assoc.mem_of_find? found, Value.follow?_mem_parts at_, .inr rfl⟩

/-- A reference as it stands in a document, with the address that it is relative to. -/
def Stands (documents : DocumentSet) (base reference : String) : Prop :=
  ∃ value, (base, value) ∈ sites documents ∧ reference? value = some reference

theorem Stands.mem_landings {reference : String} (stands : Stands documents base reference)
    {target : DocumentSet.Target} (resolved : documents.resolve? base reference = some target) :
    target.location ∈ landings documents := by
  obtain ⟨value, site, written⟩ := stands
  refine List.mem_filterMap.mpr ⟨_, site, ?_⟩
  simp [written, resolved]

end ApiContract.Schema.Reading

namespace ApiContract

open Json (Value)

theorem Pointer.child_of_plain {key : String} (plain : Pointer.escape key = key) (pointer : String) :
    Pointer.child pointer key = pointer ++ ("/" ++ key) := by
  rw [child, plain, String.append_assoc]

namespace Schema.Reading

/-- The keys that a document is read under, as against those its author chooses. -/
def keywords : List String :=
  methods ++ ["paths", "definitions", "parameters", "responses", "headers", "schema", "properties", "items",
    "additionalProperties", "allOf", "anyOf", "oneOf"]

theorem keywords_plain : ∀ keyword ∈ keywords, keyword ≠ "" ∧ Pointer.escape keyword = keyword := by
  decide +kernel

/-- A value stands at a place. No pointer leads to the empty key of a whole document. -/
inductive Standing (documents : DocumentSet) : String → String → Value → Prop
  | document {url whole} : (url, whole) ∈ documents.documents → Standing documents url "" whole
  | member {url pointer entries key value} : Standing documents url pointer (.object entries) → (key, value) ∈ entries →
      pointer ≠ "" ∨ key ≠ "" → Standing documents url (Pointer.child pointer key) value
  | item {url pointer items position value} : Standing documents url pointer (.array items) →
      items[position]? = some value → Standing documents url (Pointer.item pointer position) value
  | target {base pointer value reference target} : Standing documents base pointer value →
      reference? value = some reference → documents.resolve? base reference = some target →
      Standing documents (Url.splitReference target.location).1 (Url.splitReference target.location).2 target.value

/-- What a schema is built from at a place: the value there, or null where a body parameter lacks its schema. -/
inductive Builds (documents : DocumentSet) (url : String) : String → Value → Prop
  | standing {pointer value} : Standing documents url pointer value → Builds documents url pointer value
  | lacking {owner parameter} : Standing documents url owner parameter → parameter.find? "schema" = none →
      Builds documents url (owner ++ "/schema") .null

def Cited (documents : DocumentSet) (base reference : String) : Prop :=
  ∃ pointer value, Standing documents base pointer value ∧ reference? value = some reference

/-- A reference leads, perhaps through others, to nothing, or comes back to a location that was passed. -/
inductive Unresolvable (documents : DocumentSet) : String → String → List String → Prop
  | missing {base current passed} : documents.resolve? base current = none → Unresolvable documents base current passed
  | circular {base current passed target} : documents.resolve? base current = some target →
      target.location ∈ passed → Unresolvable documents base current passed
  | onward {base current passed target next} : documents.resolve? base current = some target →
      reference? target.value = some next →
      Unresolvable documents (Url.splitReference target.location).1 next (target.location :: passed) →
      Unresolvable documents base current passed

/-- The reference that stands at a place is unresolvable. -/
structure Dangling (documents : DocumentSet) (url pointer reference : String) : Prop where
  stands : ∃ value, Standing documents url pointer value ∧ reference? value = some reference
  unresolvable : Unresolvable documents url reference []

variable {documents : DocumentSet} {url pointer : String} {value : Value}

namespace Standing

theorem mem_sites (standing : Standing documents url pointer value) : (url, value) ∈ sites documents := by
  induction standing with
  | document among => exact mem_sites_iff.mpr ⟨_, among, Value.mem_parts_self _, .inl rfl⟩
  | member _ member _ ih => exact mem_sites_of_holds ih (.single (.entry member))
  | item _ found ih => exact mem_sites_of_holds ih (.single (.item (List.mem_of_getElem? found)))
  | @target _ _ _ _ target _ _ resolved _ =>
      obtain ⟨rest, split, _⟩ := splitReference_location target.url target.pointer
      rw [DocumentSet.Target.location, split]
      exact mem_sites_of_resolve? resolved

theorem keyword {entries : Assoc Value} (standing : Standing documents url pointer (.object entries)) {key : String}
    (named : key ≠ "") (found : Assoc.find? entries key = some value) :
    Standing documents url (Pointer.child pointer key) value :=
  standing.member (Assoc.mem_of_find? found) (.inr named)

theorem under {entries : Assoc Value} (standing : Standing documents url pointer (.object entries)) {key : String}
    (named : key ≠ "") (plain : Pointer.escape key = key) (found : Assoc.find? entries key = some value) :
    Standing documents url (pointer ++ ("/" ++ key)) value := by
  rw [← Pointer.child_of_plain plain]
  exact standing.keyword named found

/-- What an entry of a table holds that a key leads to. -/
theorem nested {entries : Assoc Value} {above key : String}
    (standing : Standing documents url (Pointer.child pointer above) (.object entries)) (member : (key, value) ∈ entries) :
    Standing documents url (Pointer.child (Pointer.child pointer above) key) value :=
  standing.member member (.inl (Pointer.child_ne_empty pointer above))

theorem find? {key : String} (standing : Standing documents url pointer value) (named : key ≠ "") {inner : Value}
    (found : value.find? key = some inner) : Standing documents url (Pointer.child pointer key) inner := by
  cases value with
  | object entries => exact standing.keyword named found
  | null | bool flag | number n | string text | array items => cases found

theorem objectAt? {key : String} (standing : Standing documents url pointer value) (named : key ≠ "")
    {entries : Assoc Value} (found : value.objectAt? key = some entries) :
    Standing documents url (Pointer.child pointer key) (.object entries) := by
  obtain ⟨inner, held, object⟩ := Option.bind_eq_some_iff.mp found
  cases inner with
  | object table =>
      cases object
      exact standing.find? named held
  | null | bool flag | number n | string text | array items => cases object

theorem arrayAt? {key : String} (standing : Standing documents url pointer value) (named : key ≠ "")
    {items : List Value} (found : value.arrayAt? key = some items) :
    Standing documents url (Pointer.child pointer key) (.array items) := by
  obtain ⟨inner, held, array⟩ := Option.bind_eq_some_iff.mp found
  cases inner with
  | array list =>
      cases array
      exact standing.find? named held
  | null | bool flag | number n | string text | object entries => cases array

/-- An entry of the table under a key, if there is one. -/
theorem entry {name : String} {inner : Value} (standing : Standing documents url pointer value) (key : String)
    (named : key ≠ "") (plain : Pointer.escape key = key) (member : (name, inner) ∈ (value.objectAt? key).getD []) :
    Standing documents url (Pointer.child (pointer ++ ("/" ++ key)) name) inner := by
  rw [← Pointer.child_of_plain plain]
  cases listed : value.objectAt? key with
  | none =>
      rw [listed] at member
      cases member
  | some entries =>
      rw [listed] at member
      exact (standing.objectAt? named listed).nested member

/-- An item of the list under a key, if there is one. -/
theorem listed {position : Nat} {inner : Value} (standing : Standing documents url pointer value) (key : String)
    (named : key ≠ "") (plain : Pointer.escape key = key)
    (member : (inner, position) ∈ ((value.arrayAt? key).getD []).zipIdx) :
    Standing documents url (Pointer.item (pointer ++ ("/" ++ key)) position) inner := by
  rw [← Pointer.child_of_plain plain]
  cases listed : value.arrayAt? key with
  | none =>
      rw [listed] at member
      cases member
  | some items =>
      rw [listed] at member
      exact (standing.arrayAt? named listed).item (List.mem_zipIdx_iff_getElem?.mp member)

end Standing

theorem Builds.object {raw : Assoc Value} (builds : Builds documents url pointer (.object raw)) :
    Standing documents url pointer (.object raw) := by
  cases builds with
  | standing standing => exact standing

namespace Cited

variable {base current next : String} {target : DocumentSet.Target}

/-- What a reference leads to stands where the reference says. -/
theorem landed (cited : Cited documents base current) (resolved : documents.resolve? base current = some target) :
    Standing documents (Url.splitReference target.location).1 (Url.splitReference target.location).2 target.value := by
  obtain ⟨_, _, standing, written⟩ := cited
  exact standing.target written resolved

theorem onward (cited : Cited documents base current) (resolved : documents.resolve? base current = some target)
    (written : reference? target.value = some next) : Cited documents (Url.splitReference target.location).1 next :=
  ⟨_, _, cited.landed resolved, written⟩

end Cited

end Schema.Reading

end ApiContract
