import ApiContract.Proofs.Contract.Representation
import ApiContract.Proofs.Contract.Showing
import ApiContract.Proofs.Related
import ApiContract.Proofs.Schema.Growth

/-!
Outlines of schemas: which subschemas there are, whatever stands for them. The outline of a node has edges, that of a
schema object has the places that its subschemas are read from, and two outlines are compared position by position.

What reading draws from documents does not depend on what was read before: each node has the outline of the value at its
place, with edges to where the subschemas there come (`Drawn`).
-/

namespace ApiContract.Schema

open Json (Value)

/-- The subschemas of a schema. -/
structure Outline (ε : Type) where
  properties : Option (Assoc ε) := none
  items : Option ε := none
  additional : Option (Bool ⊕ ε) := none
  allOf : Option (List ε) := none
  anyOf : Option (List ε) := none
  oneOf : Option (List ε) := none

namespace Outline

variable {ε δ γ : Type}

/-- Two tables have related values under the same keys, in the same order. -/
abbrev Tables (related : ε → δ → Prop) : Assoc ε → Assoc δ → Prop :=
  List.Forall₂ fun entry other => entry.1 = other.1 ∧ related entry.2 other.2

/-- Two outlines have related subschemas in the same positions. -/
structure Rel (related : ε → δ → Prop) (left : Outline ε) (right : Outline δ) : Prop where
  properties : Option.Rel (Tables related) left.properties right.properties
  items : Option.Rel related left.items right.items
  additional : Option.Rel (Sum.LiftRel Eq related) left.additional right.additional
  allOf : Option.Rel (List.Forall₂ related) left.allOf right.allOf
  anyOf : Option.Rel (List.Forall₂ related) left.anyOf right.anyOf
  oneOf : Option.Rel (List.Forall₂ related) left.oneOf right.oneOf

/-- Every subschema has a property. -/
structure All (holds : ε → Prop) (outline : Outline ε) : Prop where
  properties : ∀ entries ∈ outline.properties, ∀ entry ∈ entries, holds entry.2
  items : ∀ item ∈ outline.items, holds item
  additional : ∀ other, outline.additional = some (.inr other) → holds other
  allOf : ∀ branches ∈ outline.allOf, ∀ branch ∈ branches, holds branch
  anyOf : ∀ branches ∈ outline.anyOf, ∀ branch ∈ branches, holds branch
  oneOf : ∀ branches ∈ outline.oneOf, ∀ branch ∈ branches, holds branch

variable {related : ε → δ → Prop} {left : Outline ε} {right : Outline δ}

theorem Rel.empty (related : ε → δ → Prop) : Rel related {} {} :=
  ⟨.none, .none, .none, .none, .none, .none⟩

theorem Rel.imp {more : ε → δ → Prop} (weaker : ∀ value other, related value other → more value other)
    (alike : Rel related left right) : Rel more left right where
  properties := alike.properties.imp fun _ _ tables => tables.imp fun _ _ both => ⟨both.1, weaker _ _ both.2⟩
  items := alike.items.imp weaker
  additional := alike.additional.imp fun _ _ lifted => lifted.mono (fun _ _ same => same) weaker
  allOf := alike.allOf.imp fun _ _ lists => lists.imp fun _ _ => weaker _ _
  anyOf := alike.anyOf.imp fun _ _ lists => lists.imp fun _ _ => weaker _ _
  oneOf := alike.oneOf.imp fun _ _ lists => lists.imp fun _ _ => weaker _ _

theorem Rel.meet {other : ε → γ → Prop} {both : δ → γ → Prop} {second : Outline γ}
    (joins : ∀ shared value another, related shared value → other shared another → both value another)
    (one : Rel related left right) (too : Rel other left second) : Rel both right second where
  properties := one.properties.meet (fun _ _ _ first last => first.meet (fun _ _ _ entry entryToo =>
    ⟨entry.1.symm.trans entryToo.1, joins _ _ _ entry.2 entryToo.2⟩) last) too.properties
  items := one.items.meet joins too.items
  additional := one.additional.meet (fun shared _ _ first last => by
    cases first with
    | inl same => cases last with | inl sameToo => exact .inl (same.symm.trans sameToo)
    | inr value => cases last with | inr valueToo => exact .inr (joins _ _ _ value valueToo)) too.additional
  allOf := one.allOf.meet (fun _ _ _ first last => first.meet joins last) too.allOf
  anyOf := one.anyOf.meet (fun _ _ _ first last => first.meet joins last) too.anyOf
  oneOf := one.oneOf.meet (fun _ _ _ first last => first.meet joins last) too.oneOf

theorem All.intro {holds : ε → Prop} (each : ∀ value, holds value) {outline : Outline ε} : outline.All holds :=
  ⟨fun _ _ _ _ => each _, fun _ _ => each _, fun _ _ => each _, fun _ _ _ _ => each _, fun _ _ _ _ => each _,
    fun _ _ _ _ => each _⟩

theorem Rel.all {holds : ε → Prop} (alike : Rel related left right)
    (each : ∀ value other, related value other → holds value) :
    left.All holds where
  properties entries found entry member := by
    obtain ⟨_, _, tables⟩ := (Option.mem_def.mp found ▸ alike.properties).exists_right
    obtain ⟨_, _, same⟩ := tables.exists_right member
    exact each _ _ same.2
  items item found := by
    obtain ⟨_, _, same⟩ := (Option.mem_def.mp found ▸ alike.items).exists_right
    exact each _ _ same
  additional other found := by
    obtain ⟨_, _, lifted⟩ := (found ▸ alike.additional).exists_right
    cases lifted with | inr same => exact each _ _ same
  allOf branches found branch member := by
    obtain ⟨_, _, lists⟩ := (Option.mem_def.mp found ▸ alike.allOf).exists_right
    obtain ⟨_, _, same⟩ := lists.exists_right member
    exact each _ _ same
  anyOf branches found branch member := by
    obtain ⟨_, _, lists⟩ := (Option.mem_def.mp found ▸ alike.anyOf).exists_right
    obtain ⟨_, _, same⟩ := lists.exists_right member
    exact each _ _ same
  oneOf branches found branch member := by
    obtain ⟨_, _, lists⟩ := (Option.mem_def.mp found ▸ alike.oneOf).exists_right
    obtain ⟨_, _, same⟩ := lists.exists_right member
    exact each _ _ same

end Outline

def Node.outline (node : Node) : Outline Edge where
  properties := node.properties
  items := node.items
  additional := node.additional.map fun others => match others with
    | .allowed flag => .inl flag
    | .schema edge => .inr edge
  allOf := node.allOf
  anyOf := node.anyOf
  oneOf := node.oneOf

namespace Reading

/-- A pointer, and the value that a subschema is read from there. -/
abbrev Spot := String × Value

def propertySpots (pointer : String) (raw : Assoc Value) : Option (Assoc Spot) :=
  match Assoc.find? raw "properties" with
  | some (.object entries) =>
      some (entries.map fun entry => (entry.1, Pointer.child (pointer ++ "/properties") entry.1, entry.2))
  | _ => none

def itemSpot (pointer : String) (raw : Assoc Value) : Option Spot :=
  match Assoc.find? raw "items" with
  | some (.object entries) => some (pointer ++ "/items", .object entries)
  | _ => none

def additionalSpot (pointer : String) (raw : Assoc Value) : Option (Bool ⊕ Spot) :=
  match Assoc.find? raw "additionalProperties" with
  | some (.bool flag) => some (.inl flag)
  | some (.object entries) => some (.inr (pointer ++ "/additionalProperties", .object entries))
  | _ => none

def branchSpots (pointer : String) (raw : Assoc Value) (keyword : String) : Option (List Spot) :=
  match Assoc.find? raw keyword with
  | some (.array items) =>
      some (items.zipIdx.map fun item => (Pointer.item (pointer ++ "/" ++ keyword) item.2, item.1))
  | _ => none

/-- The places that the subschemas of a value are read from. -/
def spots (pointer : String) : Value → Outline Spot
  | .object raw =>
      { properties := propertySpots pointer raw
        items := itemSpot pointer raw
        additional := additionalSpot pointer raw
        allOf := branchSpots pointer raw "allOf"
        anyOf := branchSpots pointer raw "anyOf"
        oneOf := branchSpots pointer raw "oneOf" }
  | _ => {}

theorem spots_eq_empty {pointer : String} {value : Value} (hollow : value.asObject? = none) :
    spots pointer value = {} := by
  cases value with
  | object raw => cases hollow
  | null | bool flag | number n | string text | array items => rfl

section

variable {pointer keyword : String} {raw : Assoc Value}

theorem propertySpots_eq_some {entries : Assoc Value} (found : Assoc.find? raw "properties" = some (.object entries)) :
    propertySpots pointer raw =
      some (entries.map fun entry => (entry.1, Pointer.child (pointer ++ "/properties") entry.1, entry.2)) := by
  rw [propertySpots, found]

theorem propertySpots_eq_none (other : ∀ entries, Assoc.find? raw "properties" = some (.object entries) → False) :
    propertySpots pointer raw = none := by
  unfold propertySpots
  split
  next entries found => exact absurd found (other entries)
  · rfl

theorem itemSpot_eq_some {entries : Assoc Value} (found : Assoc.find? raw "items" = some (.object entries)) :
    itemSpot pointer raw = some (pointer ++ "/items", .object entries) := by
  rw [itemSpot, found]

theorem itemSpot_eq_none (other : ∀ entries, Assoc.find? raw "items" = some (.object entries) → False) :
    itemSpot pointer raw = none := by
  unfold itemSpot
  split
  next entries found => exact absurd found (other entries)
  · rfl

theorem additionalSpot_eq_flag {flag : Bool} (found : Assoc.find? raw "additionalProperties" = some (.bool flag)) :
    additionalSpot pointer raw = some (.inl flag) := by
  rw [additionalSpot, found]

theorem additionalSpot_eq_schema {entries : Assoc Value}
    (found : Assoc.find? raw "additionalProperties" = some (.object entries)) :
    additionalSpot pointer raw = some (.inr (pointer ++ "/additionalProperties", .object entries)) := by
  rw [additionalSpot, found]

theorem additionalSpot_eq_none (otherFlag : ∀ flag, Assoc.find? raw "additionalProperties" = some (.bool flag) → False)
    (other : ∀ entries, Assoc.find? raw "additionalProperties" = some (.object entries) → False) :
    additionalSpot pointer raw = none := by
  unfold additionalSpot
  split
  next flag found => exact absurd found (otherFlag flag)
  next entries found => exact absurd found (other entries)
  · rfl

theorem branchSpots_eq_some {items : List Value} (found : Assoc.find? raw keyword = some (.array items)) :
    branchSpots pointer raw keyword =
      some (items.zipIdx.map fun item => (Pointer.item (pointer ++ "/" ++ keyword) item.2, item.1)) := by
  rw [branchSpots, found]

theorem branchSpots_eq_none (other : ∀ items, Assoc.find? raw keyword = some (.array items) → False) :
    branchSpots pointer raw keyword = none := by
  unfold branchSpots
  split
  next items found => exact absurd found (other items)
  · rfl

end

theorem outline_identified (node : Node) (identity : Option String) :
    (if node.identity.isNone then { node with identity } else node).outline = node.outline := by
  split <;> rfl

end Reading

end ApiContract.Schema

namespace ApiContract.Schema.Reading

open Json (Value)

variable {α β : Type} {documents : DocumentSet} {catalog before middle after : Catalog} {id : Nat} {fuel : Nat}
  {url pointer location : String} {value : Value}

/-- A location has a node, and no error is deferred for it. -/
structure Present (catalog : Catalog) (location : String) (id : Nat) : Prop where
  bound : catalog.graph.lookup location = some id
  sound : catalog.deferred.find? id = none

/-! ## What moves keep -/

theorem Moves.deferred (moves : Moves documents before after) (inside : id < before.graph.size) :
    after.deferred.find? id = before.deferred.find? id := by
  induction moves with
  | refl => rfl
  | tail steps step ih =>
      have below := Nat.lt_of_lt_of_le inside (Moves.grows steps).size_le
      cases step with
      | dangling => exact (Deferred.find?_add_of_ne (Nat.ne_of_lt below) _).trans ih
      | hollow | schema | identify | attach => exact ih

theorem Moves.present (moves : Moves documents before after) (built : Built before)
    (present : Present before location id) : Present after location id :=
  ⟨moves.grows.lookup present.bound, (moves.deferred (built.lookup_lt present.bound)).trans present.sound⟩

theorem Move.identity {name : String} (move : Move documents before after)
    (named : (before.graph.node id).identity = some name) : (after.graph.node id).identity = some name := by
  have inside : id < before.graph.size := by
    by_contra outside
    rw [Graph.node_of_size_le (Nat.le_of_not_lt outside)] at named
    cases named
  cases move with
  | hollow | dangling | schema =>
      exact (congrArg Node.identity (node_place_of_ne (Nat.ne_of_lt inside))).trans named
  | @identify other identity =>
      rw [node_change]
      split
      · rw [Node.identified, if_neg (by rw [named]; simp)]
        exact named
      · exact named
  | attach attachment =>
      rw [node_change]
      split
      · exact (identity_attach attachment _).trans named
      · exact named

theorem Moves.named (moves : Moves documents before after) (named : (before.graph.node id).identity ≠ none) :
    (after.graph.node id).identity ≠ none := by
  obtain ⟨name, known⟩ := Option.ne_none_iff_exists'.mp named
  refine Option.ne_none_iff_exists'.mpr ⟨name, ?_⟩
  induction moves with
  | refl => exact known
  | tail _ step ih => exact step.identity ih

/-! ## Places -/

theorem Navigable.target_eq (navigable : Navigable documents) {base reference other name : String}
    {target another : DocumentSet.Target} (resolved : documents.resolve? base reference = some target)
    (resolvedToo : documents.resolve? other name = some another) (same : target.location = another.location) :
    target.value = another.value := by
  obtain ⟨whole, held, resolved⟩ := Option.bind_eq_some_iff.mp resolved
  obtain ⟨inner, followed, resolved⟩ := Option.bind_eq_some_iff.mp resolved
  obtain ⟨wholeToo, heldToo, resolvedToo⟩ := Option.bind_eq_some_iff.mp resolvedToo
  obtain ⟨innerToo, followedToo, resolvedToo⟩ := Option.bind_eq_some_iff.mp resolvedToo
  cases resolved
  cases resolvedToo
  have plain {url : String} {whole : Value} (held : documents.get? url = some whole) : '#' ∉ url.toList :=
    navigable.addresses _ ((Assoc.contains_iff_mem_keys _ _).mp (Option.isSome_of_eq_some held))
  have split := congrArg Url.splitReference same
  simp only [DocumentSet.Target.location] at split
  rw [splitReference_of_plain (plain held), splitReference_of_plain (plain heldToo)] at split
  obtain ⟨address, place⟩ := Prod.mk.inj split
  rw [address, heldToo] at held
  cases held
  rw [place, followedToo] at followed
  exact (Option.some.inj followed).symm

/-- The addresses that are read from have no number sign. -/
theorem Navigable.plain (navigable : Navigable documents) (stored : Stored documents)
    (builds : Builds documents url pointer value) : '#' ∉ url.toList := by
  have here {place : String} {inner : Value} (standing : Standing documents url place inner) : '#' ∉ url.toList := by
    obtain ⟨_, whole, held, _⟩ := navigable.found stored standing
    exact navigable.addresses _ ((Assoc.contains_iff_mem_keys _ _).mp (Option.isSome_of_eq_some held))
  cases builds with
  | standing standing => exact here standing
  | lacking standing => exact here standing

/-- A pointer leads nowhere where a body parameter lacks its schema. -/
theorem Navigable.lacking (navigable : Navigable documents) (stored : Stored documents) {owner : String}
    {parameter : Value} (standing : Standing documents url owner parameter)
    (missing : parameter.find? "schema" = none) {inner : Value} :
    ¬Found documents url (owner ++ "/schema") inner := by
  rintro ⟨_, whole, held, followed⟩
  obtain ⟨named, wholeToo, heldToo, followedToo⟩ := navigable.found stored standing
  cases held.symm.trans heldToo
  have plain : '/' ∉ "schema".toList := by decide
  have longer := (named.append plain (.inr (by decide))).2
  rw [String.append_assoc, show "/" ++ "schema" = "/schema" from rfl] at longer
  rw [Value.at?, longer, Value.follow?_concat, ← Value.at?, followedToo, Option.bind_some] at followed
  have unescaped : Pointer.unescape "schema" = "schema" := by decide
  rw [unescaped] at followed
  cases parameter with
  | object entries => cases missing.symm.trans followed
  | array items =>
      have none : (Value.array items).step? "schema" = Option.none := by
        have position : Pointer.position? "schema" = Option.none := by decide
        rw [Value.step?, position]
        rfl
      cases none.symm.trans followed
  | null | bool | number | string => cases followed

theorem Navigable.value_eq (navigable : Navigable documents) (stored : Stored documents) {other place : String}
    {inner : Value} (builds : Builds documents url pointer value) (standing : Standing documents other place inner)
    (same : locationOf url pointer = locationOf other place) : url = other ∧ pointer = place ∧ inner = value := by
  have split := congrArg Url.splitReference same
  rw [locationOf, locationOf, splitReference_of_plain (navigable.plain stored builds),
    splitReference_of_plain (navigable.plain stored (.standing standing))] at split
  obtain ⟨rfl, rfl⟩ := Prod.mk.inj split
  refine ⟨rfl, rfl, ?_⟩
  have found := navigable.found stored standing
  cases builds with
  | standing stands =>
      obtain ⟨_, whole, held, followed⟩ := navigable.found stored stands
      obtain ⟨_, wholeToo, heldToo, followedToo⟩ := found
      cases held.symm.trans heldToo
      exact Option.some.inj (followedToo.symm.trans followed)
  | lacking stands missing => exact absurd found (navigable.lacking stored stands missing)

/-! ## Where references end -/

/-- A reference ends, after some others, at a schema that is no reference. -/
inductive Ends (documents : DocumentSet) : String → String → DocumentSet.Target → Nat → Prop
  | here {base reference target} : documents.resolve? base reference = some target → reference? target.value = none →
      Ends documents base reference target 0
  | onward {base reference middle next target length} : documents.resolve? base reference = some middle →
      reference? middle.value = some next → Ends documents (Url.splitReference middle.location).1 next target length →
      Ends documents base reference target (length + 1)

theorem Ends.unique {base reference : String} {target another : DocumentSet.Target} {length other : Nat}
    (ends : Ends documents base reference target length) (endsToo : Ends documents base reference another other) :
    target = another ∧ length = other := by
  induction ends generalizing other with
  | here resolved plain =>
      cases endsToo with
      | here resolvedToo => exact ⟨Option.some.inj (resolved.symm.trans resolvedToo), rfl⟩
      | onward resolvedToo written =>
          cases resolved.symm.trans resolvedToo
          cases plain.symm.trans written
  | onward resolved written _ ih =>
      cases endsToo with
      | here resolvedToo plain =>
          cases resolved.symm.trans resolvedToo
          cases plain.symm.trans written
      | onward resolvedToo writtenToo rest =>
          cases resolved.symm.trans resolvedToo
          cases written.symm.trans writtenToo
          obtain ⟨same, lengths⟩ := ih rest
          exact ⟨same, congrArg (· + 1) lengths⟩

/-- A reference was passed on the way, and from there the way is at least so long. -/
def Passed (documents : DocumentSet) (length : Nat) (location : String) : Prop :=
  ∃ base reference middle next target rest, documents.resolve? base reference = some middle ∧
    middle.location = location ∧ reference? middle.value = some next ∧
    Ends documents (Url.splitReference location).1 next target rest ∧ length ≤ rest

/-- A reference that ends does not come back to one that was passed: from there the way would be longer. -/
theorem Ends.not_unresolvable (navigable : Navigable documents) {base current : String} {passed : List String}
    (lost : Unresolvable documents base current passed) {target : DocumentSet.Target} {length : Nat}
    (ends : Ends documents base current target length)
    (behind : ∀ location ∈ passed, Passed documents length location) :
    False := by
  induction lost generalizing length with
  | missing missing =>
      cases ends with
      | here resolved | onward resolved => cases missing.symm.trans resolved
  | circular resolved member =>
      obtain ⟨_, _, middle, next, _, rest, resolvedToo, same, written, endsToo, long⟩ := behind _ member
      rw [navigable.target_eq resolvedToo resolved same] at written
      cases ends with
      | here again plain =>
          cases resolved.symm.trans again
          cases plain.symm.trans written
      | onward again writtenToo shorter =>
          cases resolved.symm.trans again
          cases written.symm.trans writtenToo
          have lengths := (shorter.unique endsToo).2
          omega
  | onward resolved written _ ih =>
      cases ends with
      | here again plain =>
          cases resolved.symm.trans again
          cases plain.symm.trans written
      | onward again writtenToo shorter =>
          cases resolved.symm.trans again
          cases written.symm.trans writtenToo
          refine ih shorter fun location member => ?_
          rcases List.mem_cons.mp member with rfl | before
          · exact ⟨_, _, _, _, _, _, resolved, rfl, written, shorter, Nat.le_refl _⟩
          · obtain ⟨_, _, _, _, _, _, resolvedToo, same, writtenToo, endsToo, long⟩ := behind _ before
            exact ⟨_, _, _, _, _, _, resolvedToo, same, writtenToo, endsToo, Nat.le_of_succ_le long⟩

theorem Unresolvable.mono {base current : String} {passed more : List String}
    (lost : Unresolvable documents base current passed) (further : passed ⊆ more) :
    Unresolvable documents base current more := by
  induction lost generalizing more with
  | missing missing => exact .missing missing
  | circular resolved member => exact .circular resolved (further member)
  | onward resolved written _ ih => exact .onward resolved written (ih (List.cons_subset_cons _ further))

/-- What a reference comes to: the node of the schema that it ends at, which is known by a name, or, where it ends
nowhere, a node with an error. -/
inductive Lands (documents : DocumentSet) (catalog : Catalog) (base current : String) (passed : List String) :
    Nat → Prop
  | reached {id length : Nat} {target : DocumentSet.Target} : Ends documents base current target length →
      Present catalog target.location id → (catalog.graph.node id).identity ≠ none →
      Lands documents catalog base current passed id
  | lost {id : Nat} : Unresolvable documents base current passed → catalog.deferred.find? id ≠ none →
      Lands documents catalog base current passed id

/-- The edge that is drawn for what stands at a spot. -/
inductive Comes (documents : DocumentSet) (catalog : Catalog) (url : String) (spot : Spot) : Edge → Prop
  | inline {id : Nat} : reference? spot.2 = none → Present catalog (locationOf url spot.1) id →
      Comes documents catalog url spot (.inline id)
  | reference {reference : String} {id : Nat} : reference? spot.2 = some reference →
    Lands documents catalog url reference [] id →
      Comes documents catalog url spot (.reference id)

/-- The node has the outline of the value at its place, or it is the placeholder of a reference that ends nowhere. -/
inductive Drawn (documents : DocumentSet) (catalog : Catalog) (id : Nat) : Prop
  | schema {url pointer : String} {value : Value} : Builds documents url pointer value →
    Present catalog (locationOf url pointer) id →
      (spots pointer value).Rel (Comes documents catalog url) (catalog.graph.node id).outline →
      Drawn documents catalog id
  | lost : catalog.deferred.find? id ≠ none → (catalog.graph.node id).outline = {} → Drawn documents catalog id

/-- Only moves were taken, and no reference was built as a schema. -/
structure Regular (documents : DocumentSet) (catalog : Catalog) : Prop where
  moves : Moves documents {} catalog
  plain : ∀ url pointer value id, Standing documents url pointer value → Present catalog (locationOf url pointer) id →
    reference? value = none

namespace Regular

variable (regular : Regular documents before)

include regular

theorem built : Built before := regular.moves.grows

theorem present (moves : Moves documents before after) (present : Present before location id) :
    Present after location id :=
  moves.present regular.built present

theorem lt_of_spoiled (lost : before.deferred.find? id ≠ none) : id < before.graph.size := by
  obtain ⟨error, found⟩ := Option.ne_none_iff_exists'.mp lost
  obtain ⟨entry, first, rfl⟩ := Option.map_eq_some_iff.mp found
  have same : entry.1 = id := by simpa using List.find?_some first
  exact (regular.moves.represents.spoiled id entry.2 (same ▸ List.mem_of_find?_eq_some first)).1

theorem spoiled (moves : Moves documents before after) (lost : before.deferred.find? id ≠ none) :
    after.deferred.find? id ≠ none := by
  rw [moves.deferred (regular.lt_of_spoiled lost)]
  exact lost

theorem lands {base current : String} {passed : List String} (moves : Moves documents before after)
    (lands : Lands documents before base current passed id) : Lands documents after base current passed id := by
  cases lands with
  | reached ends there named => exact .reached ends (regular.present moves there) (moves.named named)
  | lost unresolvable lost => exact .lost unresolvable (regular.spoiled moves lost)

theorem comes {spot : Spot} {edge : Edge} (moves : Moves documents before after)
    (comes : Comes documents before url spot edge) : Comes documents after url spot edge := by
  cases comes with
  | inline plain there => exact .inline plain (regular.present moves there)
  | reference written lands => exact .reference written (regular.lands moves lands)

theorem drawn (moves : Moves documents before after)
    (same : (after.graph.node id).outline = (before.graph.node id).outline) (drawn : Drawn documents before id) :
    Drawn documents after id := by
  cases drawn with
  | schema builds there alike =>
      exact .schema builds (regular.present moves there) (same ▸ alike.imp fun _ _ => regular.comes moves)
  | lost lost bare => exact .lost (regular.spoiled moves lost) (same.trans bare)

end Regular

end ApiContract.Schema.Reading
