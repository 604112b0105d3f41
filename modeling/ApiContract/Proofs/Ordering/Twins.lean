import ApiContract.Proofs.Ordering.Visits

/-!
Drafts that say the same under other numbers (`Draft.Paired`). A pairing tells which schemas of the two are the
same, and which ones on either side no validator can be compiled for. What two orders of the same documents come to
is paired (`Twins.sketched`).
-/

namespace ApiContract

open Json (Value)

namespace Schema

theorem Outline.Rel.flip {ε δ : Type} {related : ε → δ → Prop} {left : Outline ε} {right : Outline δ}
    (alike : Rel related left right) : Rel (fun other value => related value other) right left where
  properties := alike.properties.flip fun _ _ tables => tables.flip.imp fun _ _ both => ⟨both.1.symm, both.2⟩
  items := alike.items.flip fun _ _ => id
  additional := alike.additional.flip fun _ _ lifted => by
    cases lifted with
    | inl same => exact .inl same.symm
    | inr values => exact .inr values
  allOf := alike.allOf.flip fun _ _ => List.Forall₂.flip
  anyOf := alike.anyOf.flip fun _ _ => List.Forall₂.flip
  oneOf := alike.oneOf.flip fun _ _ => List.Forall₂.flip

/-- Numbers of the same schemas in two graphs, and on either side schemas that no validator can be compiled for. -/
structure Pairing where
  same : Nat → Nat → Prop
  lost : Nat → Prop
  lostToo : Nat → Prop

namespace Pairing

variable (pairing : Pairing)

/-- The same schema, or two schemas that make no difference. -/
def Near (id twin : Nat) : Prop := pairing.same id twin ∨ pairing.lost id ∧ pairing.lostToo twin

def flip : Pairing where
  same twin id := pairing.same id twin
  lost := pairing.lostToo
  lostToo := pairing.lost

variable {pairing}

theorem near_flip {id twin : Nat} : pairing.flip.Near twin id ↔ pairing.Near id twin :=
  or_congr Iff.rfl and_comm

/-- Each schema is the same as one other at most, and none of these is lost. -/
structure Sound (pairing : Pairing) : Prop where
  forward : ∀ id twin another, pairing.same id twin → pairing.same id another → twin = another
  backward : ∀ id other twin, pairing.same id twin → pairing.same other twin → id = other
  kept : ∀ id twin, pairing.same id twin → ¬pairing.lost id
  keptToo : ∀ id twin, pairing.same id twin → ¬pairing.lostToo twin

namespace Sound

theorem flip (sound : pairing.Sound) : pairing.flip.Sound where
  forward _ _ _ paired pairedToo := sound.backward _ _ _ paired pairedToo
  backward _ _ _ paired pairedToo := sound.forward _ _ _ paired pairedToo
  kept _ _ paired := sound.keptToo _ _ paired
  keptToo _ _ paired := sound.kept _ _ paired

variable (sound : pairing.Sound) {id twin another : Nat} (paired : pairing.same id twin)

include sound paired

/-- What is near to a schema that is the same as another one is that other one. -/
theorem near_iff : pairing.Near id another ↔ another = twin := by
  constructor
  · rintro (pairedToo | ⟨lost, _⟩)
    · exact sound.forward _ _ _ pairedToo paired
    · exact absurd lost (sound.kept _ _ paired)
  · rintro rfl
    exact .inl paired

theorem near_iff_left : pairing.Near another twin ↔ another = id :=
  near_flip.symm.trans (sound.flip.near_iff paired)

theorem eq_iff {other twinToo : Nat} (pairedToo : pairing.same other twinToo) : id = other ↔ twin = twinToo := by
  constructor
  · rintro rfl
    exact sound.forward _ _ _ paired pairedToo
  · rintro rfl
    exact sound.backward _ _ _ paired pairedToo

end Sound

end Pairing

/-- Two maps of tags lead to the same variants, each of them once. -/
structure TagsAlike (pairing : Pairing) (tags others : Assoc (Option Nat)) : Prop where
  leads : ∀ tag, Option.Rel (Option.Rel pairing.same) (Assoc.find? tags tag) (Assoc.find? others tag)
  distinct : (Assoc.keys tags).Nodup
  distinctToo : (Assoc.keys others).Nodup

theorem TagsAlike.flip {pairing : Pairing} {tags others : Assoc (Option Nat)} (alike : TagsAlike pairing tags others) :
    TagsAlike pairing.flip others tags where
  leads tag := (alike.leads tag).flip fun _ _ targets => targets.flip fun _ _ => id
  distinct := alike.distinctToo
  distinctToo := alike.distinct

/-- Two nodes that differ only in the numbers of their subschemas and variants, and in the order of the tags. -/
structure Node.Alike (pairing : Pairing) (node other : Node) : Prop where
  bare : { node.bare with tagMap := none } = { other.bare with tagMap := none }
  outline : node.outline.Rel (Edge.Alike pairing.Near) other.outline
  tags : Option.Rel (TagsAlike pairing) node.tagMap other.tagMap

/-- Both say the same of keys that are not declared. -/
inductive Additional.Alike (near : Nat → Nat → Prop) : Additional → Additional → Prop
  | allowed (flag) : Alike near (.allowed flag) (.allowed flag)
  | schema {edge other} : edge.Alike near other → Alike near (.schema edge) (.schema other)

theorem additional_of_outline {near : Nat → Nat → Prop} {node other : Node}
    (related : Option.Rel (Sum.LiftRel Eq (Edge.Alike near)) node.outline.additional other.outline.additional) :
    Option.Rel (Additional.Alike near) node.additional other.additional := by
  unfold Node.outline at related
  rcases one : node.additional with _ | flag | edge <;> rcases too : other.additional with _ | flagToo | edgeToo <;>
    simp only [one, too, Option.map_some, Option.map_none] at related <;> rcases related with ⟨lifted⟩ | _
  · exact .none
  · cases lifted with | inl same => exact same ▸ .some (.allowed flag)
  · cases lifted
  · cases lifted
  · cases lifted with | inr edges => exact .some (.schema edges)

theorem outline_of_additional {near : Nat → Nat → Prop} {node other : Node}
    (related : Option.Rel (Additional.Alike near) node.additional other.additional) :
    Option.Rel (Sum.LiftRel Eq (Edge.Alike near)) node.outline.additional other.outline.additional := by
  unfold Node.outline
  rcases one : node.additional with _ | own <;> rcases too : other.additional with _ | others <;>
    rw [one, too] at related <;> rcases related with ⟨said⟩ | _
  · exact .none
  · cases said with
    | allowed flag => exact .some (.inl rfl)
    | schema edges => exact .some (.inr edges)

/-- What does not look at subschemas or tags reads the same of both. -/
theorem Node.Alike.same {α : Type} {pairing : Pairing} {node other : Node} (alike : node.Alike pairing other)
    (read : Node → α) (blind : ∀ node : Node, read { node.bare with tagMap := none } = read node) :
    read node = read other :=
  (blind node).symm.trans ((congrArg read alike.bare).trans (blind other))

theorem Node.Alike.propertyList {pairing : Pairing} {node other : Node} (alike : node.Alike pairing other) :
    Outline.Tables (Edge.Alike pairing.Near) node.propertyList other.propertyList :=
  alike.outline.properties.getD_nil

theorem Node.Alike.hasProperties {pairing : Pairing} {node other : Node} (alike : node.Alike pairing other) :
    node.hasProperties = other.hasProperties := by
  have tables := alike.propertyList
  unfold Node.hasProperties
  rw [Bool.eq_iff_iff, Bool.not_eq_true', Bool.not_eq_true', List.isEmpty_eq_false_iff, List.isEmpty_eq_false_iff,
    ← List.length_pos_iff, ← List.length_pos_iff, tables.length_eq]

theorem Node.Alike.isNone_additional {pairing : Pairing} {node other : Node} (alike : node.Alike pairing other) :
    node.additional.isNone = other.additional.isNone := by
  rcases (additional_of_outline alike.outline.additional).none_or_some with ⟨none, noneToo⟩ | ⟨_, _, some, someToo, _⟩
  · rw [none, noneToo]
  · rw [some, someToo, Option.isNone_some, Option.isNone_some]

end Schema

open Schema

section

variable {near : Nat → Nat → Prop}

theorem Schema.Edge.Alike.flip {edge other : Edge} (alike : edge.Alike near other) :
    other.Alike (fun twin id => near id twin) edge :=
  ⟨alike.viaRef.symm, alike.near⟩

theorem Parameter.Alike.flip {parameter other : Parameter} (alike : parameter.Alike near other) :
    other.Alike (fun twin id => near id twin) parameter :=
  ⟨(congrArg (fun read : Parameter => { read with schema := parameter.schema }) alike.bare).symm, alike.schema.flip⟩

theorem Response.Alike.flip {response other : Response} (alike : response.Alike near other) :
    other.Alike (fun twin id => near id twin) response where
  bare := (congrArg (fun read : Response => { read with schema := response.schema, headers := response.headers })
    alike.bare).symm
  schema := alike.schema.flip fun _ _ => Edge.Alike.flip
  headers := alike.headers.flip.imp fun _ _ both => ⟨both.1.symm, both.2.flip⟩

theorem Operation.Alike.flip {operation other : Operation} (alike : operation.Alike near other) :
    other.Alike (fun twin id => near id twin) operation where
  bare := (congrArg (fun read : Operation =>
    { read with parameters := operation.parameters, responses := operation.responses }) alike.bare).symm
  parameters := alike.parameters.flip.imp fun _ _ => Parameter.Alike.flip
  responses := alike.responses.flip.imp fun _ _ both => ⟨both.1.symm, both.2.flip⟩

end

theorem Schema.Node.Alike.flip {pairing : Pairing} {node other : Node} (alike : node.Alike pairing other) :
    other.Alike pairing.flip node where
  bare := alike.bare.symm
  outline := alike.outline.flip.imp fun _ _ edges => edges.flip.imp fun _ _ => Pairing.near_flip.mpr
  tags := alike.tags.flip fun _ _ => TagsAlike.flip

namespace Draft

/-- Two drafts whose schemas and operations are the same under a pairing. -/
structure Paired (pairing : Pairing) (one other : Draft) : Prop where
  sound : pairing.Sound
  inside : ∀ id twin, pairing.same id twin → id < one.graph.size ∧ twin < other.graph.size
  nodes : ∀ id twin, pairing.same id twin → (one.graph.node id).Alike pairing (other.graph.node twin)
  deferred : ∀ id twin, pairing.same id twin →
    (one.catalog.deferred.find? id = none ↔ other.catalog.deferred.find? twin = none)
  operations : ∀ operation ∈ one.operations, ∃ twin ∈ other.operations, operation.Alike pairing.Near twin
  operationsToo : ∀ twin ∈ other.operations, ∃ operation ∈ one.operations, operation.Alike pairing.Near twin

theorem Paired.flip {pairing : Pairing} {one other : Draft} (paired : Paired pairing one other) :
    Paired pairing.flip other one where
  sound := paired.sound.flip
  inside twin id same := (paired.inside id twin same).symm
  nodes twin id same := (paired.nodes id twin same).flip
  deferred twin id same := (paired.deferred id twin same).symm
  operations twin member := by
    obtain ⟨operation, among, alike⟩ := paired.operationsToo twin member
    exact ⟨operation, among, alike.flip.imp fun _ _ => Pairing.near_flip.mpr⟩
  operationsToo operation member := by
    obtain ⟨twin, among, alike⟩ := paired.operations operation member
    exact ⟨twin, among, alike.flip.imp fun _ _ => Pairing.near_flip.mpr⟩

/-- A schema that stands for nothing and fails every validator that it is part of. -/
structure Blank (draft : Draft) (id : Nat) : Prop where
  spoiled : draft.catalog.deferred.find? id ≠ none
  outline : (draft.graph.node id).outline = {}
  discriminator : (draft.graph.node id).discriminator = none
  required : (draft.graph.node id).required = []
  xNullable : (draft.graph.node id).xNullable = none

/-- What a pairing says of one of the two drafts before nullability is decided: nothing that was collected or has
subschemas is without a twin, and what is lost is blank. -/
structure Matched (pairing : Pairing) (draft : Draft) : Prop where
  objects : ∀ id ∈ draft.catalog.collections.objects, ∃ twin, pairing.same id twin
  arrays : ∀ id ∈ draft.catalog.collections.arrays, ∃ twin, pairing.same id twin
  owners : ∀ id, (draft.graph.node id).outline ≠ {} → ∃ twin, pairing.same id twin
  blank : ∀ id, pairing.lost id → draft.Blank id

/-- Two drafts before nullability is decided. -/
structure Sketched (pairing : Pairing) (one other : Draft) : Prop extends Paired pairing one other where
  objects : ∀ id twin, pairing.same id twin →
    (id ∈ one.catalog.collections.objects ↔ twin ∈ other.catalog.collections.objects)
  arrays : ∀ id twin, pairing.same id twin →
    (id ∈ one.catalog.collections.arrays ↔ twin ∈ other.catalog.collections.arrays)
  bases : ∀ id twin, pairing.same id twin → (id ∈ one.baseSchemas ↔ twin ∈ other.baseSchemas)
  matched : Matched pairing one
  matchedToo : Matched pairing.flip other

theorem Sketched.flip {pairing : Pairing} {one other : Draft} (sketched : Sketched pairing one other) :
    Sketched pairing.flip other one where
  toPaired := sketched.toPaired.flip
  objects twin id same := (sketched.objects id twin same).symm
  arrays twin id same := (sketched.arrays id twin same).symm
  bases twin id same := (sketched.bases id twin same).symm
  matched := sketched.matchedToo
  matchedToo := sketched.matched

/-! ## What two orders come to -/

open Schema.Reading

/-- Schemas are the same if they were made at the same place. -/
def pairingOf (one other : Catalog) : Pairing where
  same id twin := ∃ location, Present one location id ∧ Present other location twin
  lost id := one.deferred.find? id ≠ none
  lostToo twin := other.deferred.find? twin ≠ none

theorem near_pairingOf {one other : Catalog} {id twin : Nat} (near : Near one other id twin) :
    (pairingOf one other).Near id twin := by
  cases near with
  | same present presentToo => exact .inl ⟨_, present, presentToo⟩
  | lost lost lostToo => exact .inr ⟨lost, lostToo⟩

theorem flip_pairingOf (one other : Catalog) : (pairingOf one other).flip = pairingOf other one := by
  have same : (pairingOf one other).flip.same = (pairingOf other one).same := by
    funext twin id
    exact propext ⟨fun ⟨location, present, presentToo⟩ => ⟨location, presentToo, present⟩,
      fun ⟨location, present, presentToo⟩ => ⟨location, presentToo, present⟩⟩
  exact congrArg (fun same => Pairing.mk same _ _) same

section

variable {documents : DocumentSet} {catalog : Catalog} {url pointer location : String} {value : Value} {id : Nat}
  (regular : Regular documents catalog)

include regular

theorem location_of_present (present : Present catalog location id) :
    (catalog.graph.node id).source.location = location :=
  ((regular.moves.represents.located location id).mp present.bound).2

/-- A schema that can be used has the outline of what stands at its place. -/
theorem outline_of_present (drawn : Drawn documents catalog id) (present : Present catalog location id) :
    ∃ url pointer value, locationOf url pointer = location ∧ Builds documents url pointer value ∧
      (spots pointer value).Rel (Comes documents catalog url) (catalog.graph.node id).outline := by
  cases drawn with
  | @schema url pointer value builds there alike =>
      refine ⟨url, pointer, value, ?_, builds, alike⟩
      rw [← location_of_present regular there, location_of_present regular present]
  | lost lost => exact absurd present.sound lost

/-- The keywords of a schema are those that stand at its place, and it was collected if an object stands there. -/
theorem keywords_of_present (navigable : Navigable documents) (stored : Stored documents)
    (builds : Builds documents url pointer value) (present : Present catalog (locationOf url pointer) id) :
    (∃ raw, value = .object raw ∧ id ∈ catalog.collections.listing ∧
      (catalog.graph.node id).bare = nodeOf (.within url pointer) (catalog.graph.node id).identity raw) ∨
    value.asObject? = none ∧ id ∉ catalog.collections.listing ∧
      (catalog.graph.node id).bare = .placeholder url pointer (catalog.graph.node id).identity := by
  have source := location_of_present regular present
  have inside := regular.built.lookup_lt present.bound
  cases regular.moves.represents.made id inside with
  | @schema other place raw standing keywords member =>
      have written : (catalog.graph.node id).source = .within other place := congrArg Node.source keywords
      rw [written, location_within] at source
      obtain ⟨rfl, rfl, rfl⟩ := navigable.builds_eq stored builds (.standing standing) source.symm
      exact .inl ⟨raw, rfl, member, keywords⟩
  | @hollow other place inner buildsToo hollow shape outside =>
      have written : (catalog.graph.node id).source = .within other place := by
        rw [shape]
        rfl
      rw [written, location_within] at source
      obtain ⟨rfl, rfl, rfl⟩ := navigable.builds_eq stored builds buildsToo source.symm
      exact .inr ⟨hollow, outside, (congrArg Node.bare shape).trans rfl⟩
  | dangling _ _ _ spoiled => cases spoiled.symm.trans present.sound

theorem identity_of_present (present : Present catalog location id) :
    (catalog.graph.node id).identity = none ∨ (catalog.graph.node id).identity = some location := by
  cases named : (catalog.graph.node id).identity with
  | none => exact .inl rfl
  | some name =>
      have own := regular.moves.represents.named id name named
      rw [location_of_present regular present] at own
      exact .inr (congrArg some own)

omit regular in
theorem id_unique {other : Nat} (present : Present catalog location id) (presentToo : Present catalog location other) :
    id = other :=
  Option.some.inj (present.bound.symm.trans presentToo.bound)

theorem present_of_listed (listed : id ∈ catalog.collections.listing) :
    Present catalog (catalog.graph.node id).source.location id := by
  obtain ⟨kind, member⟩ := Collections.mem_listing.mp listed
  have inside := (regular.built.ofKind member).1
  refine ⟨(regular.moves.represents.located _ id).mpr ⟨inside, rfl⟩, ?_⟩
  cases regular.moves.represents.made id inside with
  | schema _ _ _ sound => exact sound
  | hollow _ _ _ _ sound => exact sound
  | dangling _ _ outside => exact absurd listed outside

theorem mem_ofKind_iff {kind : Kind} :
    id ∈ catalog.collections.ofKind kind ↔ id ∈ catalog.collections.listing ∧ (catalog.graph.node id).kind = kind := by
  constructor
  · exact fun member => ⟨Collections.mem_listing.mpr ⟨kind, member⟩, (regular.built.ofKind member).2⟩
  · rintro ⟨listed, rfl⟩
    obtain ⟨other, member⟩ := Collections.mem_listing.mp listed
    rwa [(regular.built.ofKind member).2]

end

namespace Twins

variable {documents : DocumentSet} {one other : Draft}

theorem flip (twins : Twins documents one other) : Twins documents other one where
  regular := twins.regularToo
  regularToo := twins.regular
  drawn := twins.drawnToo
  drawnToo := twins.drawn
  covers := twins.coversToo
  coversToo := twins.covers
  operations := by
    obtain ⟨operations, perm, alike⟩ := twins.operations
    obtain ⟨matched, alikeToo, permToo⟩ := List.perm_comp_forall₂ perm.symm alike.flip
    refine ⟨matched, permToo, alikeToo.imp fun _ _ alike => alike.flip.imp fun _ _ near => ?_⟩
    cases near with
    | same present presentToo => exact .same presentToo present
    | lost lost lostToo => exact .lost lostToo lost

variable (twins : Twins documents one other) (navigable : Navigable documents) (stored : Stored documents)

include twins

theorem sound : (pairingOf one.catalog other.catalog).Sound where
  forward := by
    rintro id twin another ⟨location, present, presentToo⟩ ⟨place, presentAgain, presentLast⟩
    have same := (location_of_present twins.regular present).symm.trans (location_of_present twins.regular presentAgain)
    exact id_unique presentToo (same ▸ presentLast)
  backward := by
    rintro id another twin ⟨location, present, presentToo⟩ ⟨place, presentAgain, presentLast⟩
    have same := (location_of_present twins.regularToo presentToo).symm.trans
      (location_of_present twins.regularToo presentLast)
    exact id_unique present (same ▸ presentAgain)
  kept := fun _ _ ⟨_, present, _⟩ lost => lost present.sound
  keptToo := fun _ _ ⟨_, _, present⟩ lost => lost present.sound

/-- Schemas at one place are known by the same name. -/
theorem identity_eq {location : String} {id twin : Nat} (present : Present one.catalog location id)
    (presentToo : Present other.catalog location twin) :
    (one.graph.node id).identity = (other.graph.node twin).identity := by
  rcases identity_of_present twins.regular present with nameless | named
  · rcases identity_of_present twins.regularToo presentToo with namelessToo | namedToo
    · exact nameless.trans namelessToo.symm
    · obtain ⟨again, presentAgain, known⟩ :=
        (twins.covers location twin presentToo).2 (namedToo ▸ Option.some_ne_none _)
      cases id_unique present presentAgain
      exact absurd nameless known
  · obtain ⟨again, presentAgain, known⟩ := (twins.coversToo location id present).2 (named ▸ Option.some_ne_none _)
    cases id_unique presentToo presentAgain
    rcases identity_of_present twins.regularToo presentToo with nameless | namedToo
    · exact absurd nameless known
    · exact named.trans namedToo.symm

include navigable stored

theorem node_alike {location : String} {id twin : Nat} (present : Present one.catalog location id)
    (presentToo : Present other.catalog location twin) :
    (one.graph.node id).bare = (other.graph.node twin).bare ∧
      (id ∈ one.catalog.collections.listing ↔ twin ∈ other.catalog.collections.listing) ∧
      (one.graph.node id).outline.Rel (Edge.Alike (Near one.catalog other.catalog))
        (other.graph.node twin).outline := by
  have inside := twins.regular.built.lookup_lt present.bound
  have insideToo := twins.regularToo.built.lookup_lt presentToo.bound
  obtain ⟨url, pointer, value, rfl, builds, alike⟩ := outline_of_present twins.regular (twins.drawn id inside) present
  obtain ⟨_, _, _, same, buildsToo, alikeToo⟩ :=
    outline_of_present twins.regularToo (twins.drawnToo twin insideToo) presentToo
  obtain ⟨rfl, rfl, rfl⟩ := navigable.builds_eq stored builds buildsToo same.symm
  have edges := alike.meet (fun _ _ _ comes comesToo => comes.near navigable comesToo) alikeToo
  have identity := twins.identity_eq present presentToo
  rcases keywords_of_present twins.regular navigable stored builds present with
    ⟨raw, rfl, listed, bare⟩ | ⟨hollow, unlisted, bare⟩
  · rcases keywords_of_present twins.regularToo navigable stored builds presentToo with
      ⟨_, written, listedToo, bareToo⟩ | ⟨hollow, _⟩
    · cases written
      refine ⟨bare.trans (Eq.trans ?_ bareToo.symm), ⟨fun _ => listedToo, fun _ => listed⟩, edges⟩
      exact congrArg (nodeOf _ · raw) identity
    · cases hollow
  · rcases keywords_of_present twins.regularToo navigable stored builds presentToo with
      ⟨_, rfl, _⟩ | ⟨_, unlistedToo, bareToo⟩
    · cases hollow
    · refine ⟨bare.trans (Eq.trans ?_ bareToo.symm), ⟨fun listed => absurd listed unlisted,
        fun listed => absurd listed unlistedToo⟩, edges⟩
      exact congrArg (Node.placeholder _ _) identity

omit navigable stored in
theorem blank {id : Nat} (lost : one.catalog.deferred.find? id ≠ none) : one.Blank id := by
  have inside := twins.regular.lt_of_spoiled lost
  cases twins.regular.moves.represents.made id inside with
  | schema _ _ _ sound => exact absurd sound lost
  | hollow _ _ _ _ sound => exact absurd sound lost
  | dangling _ shape =>
      have shape : one.graph.node id = _ := shape
      refine ⟨lost, ?_, ?_, ?_, ?_⟩ <;> rw [shape] <;> rfl

omit navigable stored in
theorem matched : Matched (pairingOf one.catalog other.catalog) one := by
  have twin {location : String} {id : Nat} (present : Present one.catalog location id) :
      ∃ twin, (pairingOf one.catalog other.catalog).same id twin := by
    obtain ⟨⟨twin, presentToo⟩, _⟩ := twins.coversToo _ id present
    exact ⟨twin, _, present, presentToo⟩
  refine ⟨fun id member => twin (present_of_listed twins.regular (Collections.mem_listing.mpr ⟨.object, member⟩)),
    fun id member => twin (present_of_listed twins.regular (Collections.mem_listing.mpr ⟨.array, member⟩)),
    fun id leads => ?_, fun id lost => twins.blank lost⟩
  have inside : id < one.graph.size := by
    by_contra outside
    rw [Graph.node_of_size_le (Nat.le_of_not_lt outside)] at leads
    exact leads rfl
  cases twins.drawn id inside with
  | schema _ present => exact twin present
  | lost lost => exact absurd (twins.blank lost).outline leads

/-- What two orders of the same documents come to says the same under other numbers. -/
theorem sketched (bases : one.baseSchemas = []) (basesToo : other.baseSchemas = []) :
    Sketched (pairingOf one.catalog other.catalog) one other := by
  have collected (kind : Kind) id twin (same : (pairingOf one.catalog other.catalog).same id twin) :
      id ∈ one.catalog.collections.ofKind kind ↔ twin ∈ other.catalog.collections.ofKind kind := by
    obtain ⟨location, present, presentToo⟩ := same
    obtain ⟨bare, listed, _⟩ := twins.node_alike navigable stored present presentToo
    have kinds : (one.catalog.graph.node id).kind = (other.catalog.graph.node twin).kind :=
      (Node.mk.inj bare).1
    rw [mem_ofKind_iff twins.regular, mem_ofKind_iff twins.regularToo, listed]
    exact and_congr_right fun _ => by rw [kinds]
  refine
    { sound := twins.sound
      inside := ?_
      nodes := ?_
      deferred := ?_
      operations := ?_
      operationsToo := ?_
      objects := collected .object
      arrays := collected .array
      bases := ?_
      matched := twins.matched
      matchedToo := ?_ }
  · rintro id twin ⟨location, present, presentToo⟩
    exact ⟨twins.regular.built.lookup_lt present.bound, twins.regularToo.built.lookup_lt presentToo.bound⟩
  · rintro id twin ⟨location, present, presentToo⟩
    obtain ⟨bare, _, outline⟩ := twins.node_alike navigable stored present presentToo
    refine ⟨congrArg (fun node : Node => { node with tagMap := none }) bare,
      outline.imp fun _ _ edges => edges.imp fun _ _ => near_pairingOf, ?_⟩
    rw [show (one.graph.node id).tagMap = none from (twins.regular.built.written id).tagMap,
      show (other.graph.node twin).tagMap = none from (twins.regularToo.built.written twin).tagMap]
    exact .none
  · rintro id twin ⟨location, present, presentToo⟩
    exact ⟨fun _ => presentToo.sound, fun _ => present.sound⟩
  · intro operation member
    obtain ⟨operations, perm, alike⟩ := twins.operations
    obtain ⟨twin, among, alike⟩ := alike.exists_right member
    exact ⟨twin, perm.mem_iff.mp among, alike.imp fun _ _ => near_pairingOf⟩
  · intro twin member
    obtain ⟨operations, perm, alike⟩ := twins.operations
    obtain ⟨operation, among, alike⟩ := alike.exists_left (perm.mem_iff.mpr member)
    exact ⟨operation, among, alike.imp fun _ _ => near_pairingOf⟩
  · intro id twin _
    simp only [bases, basesToo, List.not_mem_nil]
  · rw [flip_pairingOf]
    exact twins.flip.matched

end Twins

end Draft

end ApiContract
