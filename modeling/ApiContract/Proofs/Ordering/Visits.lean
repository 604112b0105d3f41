import Mathlib.Data.List.Perm.Basic
import ApiContract.Proofs.Contract.Completeness
import ApiContract.Proofs.Ordering.Tracking
import ApiContract.Proofs.Ordering.Uniform

/-!
Documents that are read in two orders give the same schemas and the same operations (`Twins`): what one order comes
to, the other one does as well, also in the search for variants.
-/

namespace ApiContract

open Json (Value)

namespace Schema.Reading

variable {documents early : DocumentSet} {one other before after : Catalog} {region : Region} {fuel id : Nat}
  {url name pointer : String} {value : Value} {urls : List String}

/-! ## Reading documents -/

def Took (documents : DocumentSet) (fuel : Nat) (whole : Catalog) (url : String) (operations : List Operation) : Prop :=
  ∃ before after, Regular documents before ∧ (document documents fuel url).run before = some (operations, after) ∧
    Moves documents after whole

section

variable (navigable : Navigable documents) (stored : Stored documents) (unadorned : Unadorned documents)

include navigable stored unadorned

theorem document_fills (fuel : Nat) (url : String) :
    Fills documents .everywhere (fun _ => True) (document documents fuel url) fun _ _ => True := by
  intro before result after regular _ ran
  have closed : (Region.of {}).Closed documents := by
    rintro _ _ _ _ _ ⟨_, present⟩
    cases present.bound
  exact ⟨(document_tracks navigable stored unadorned closed fuel url _ _ _ _ _ _ regular regular trivial ran ran).1,
    trivial⟩

/-- Each of some documents that were read one after the other was read on the way to what came of them. -/
theorem took_of_mapM {whole : Catalog} {operations : List (List Operation)} (regular : Regular documents before)
    (ran : (urls.mapM (document documents fuel)).run before = some (operations, after))
    (moves : Moves documents after whole) :
    Filled documents .everywhere none before after ∧ List.Forall₂ (Took documents fuel whole) urls operations := by
  induction urls generalizing before operations with
  | nil =>
      cases ran
      exact ⟨.refl regular, .nil⟩
  | cons url rest ih =>
      rw [List.mapM_cons] at ran
      obtain ⟨first, middle, firstRan, ran⟩ := (StateT.run_bind_eq_some _ _ _ _).mp ran
      obtain ⟨later, last, laterRan, answered⟩ := (StateT.run_bind_eq_some _ _ _ _).mp ran
      cases answered
      have filled := (document_fills navigable stored unadorned fuel url _ _ _ regular trivial firstRan).1
      obtain ⟨filledOn, tooks⟩ := ih filled.regular laterRan
      exact ⟨filled.andThen filledOn, .cons ⟨_, _, regular, firstRan, filledOn.moves.trans moves⟩ tooks⟩

/-- Documents that were read on the way to a catalog lead to no other place when they are read again. -/
theorem mapM_covers (closed : (Region.of one).Closed documents)
    (took : ∀ url ∈ urls, ∃ operations, Took documents fuel one url operations) {operations : List (List Operation)}
    (regular : Regular documents before) (covers : (Region.of one).Covers before)
    (ran : (urls.mapM (document documents fuel)).run before = some (operations, after)) :
    (Region.of one).Covers after := by
  induction urls generalizing before operations with
  | nil =>
      cases ran
      exact covers
  | cons url rest ih =>
      rw [List.mapM_cons] at ran
      obtain ⟨first, middle, firstRan, ran⟩ := (StateT.run_bind_eq_some _ _ _ _).mp ran
      obtain ⟨later, last, laterRan, answered⟩ := (StateT.run_bind_eq_some _ _ _ _).mp ran
      cases answered
      obtain ⟨_, start, middleToo, regularToo, ranToo, moves⟩ := took url List.mem_cons_self
      obtain ⟨_, filled, _, onward⟩ :=
        document_tracks navigable stored unadorned closed fuel url _ _ _ _ _ _ regularToo regular
        trivial ranToo firstRan
      exact ih (fun url member => took url (List.mem_cons_of_mem _ member)) filled.regular (onward moves covers)
        laterRan

theorem Took.alike (closed : (Region.of one).Closed documents) {operations twins : List Operation}
    (took : Took documents fuel one url operations) (tookToo : Took documents fuel other url twins) :
    List.Forall₂ (Operation.Alike (Near one other)) operations twins := by
  obtain ⟨_, _, regular, ran, moves⟩ := took
  obtain ⟨_, _, regularToo, ranToo, movesToo⟩ := tookToo
  obtain ⟨filled, filledToo, alike, _⟩ := document_tracks navigable stored unadorned closed fuel url _ _ _ _ _ _ regular
    regularToo trivial ran ranToo
  exact alike.imp fun _ _ => operation_persists _ _ _ _ _ _ filled.regular filledToo.regular moves movesToo

end

/-! ## Searching for variants -/

/-- What reading a missing definition keeps, a search for variants keeps. -/
theorem discover_keeps {holds : Catalog → Prop} {rounds added : Nat}
    (keeps : ∀ entry ∈ definitions documents, ∀ before id after, holds before →
      IsMissing documents fuel before.graph entry →
      (definition documents fuel entry.1 entry.2.1 entry.2.2).run before = some (id, after) → holds after)
    (start : holds before) (ran : (discover documents fuel rounds).run before = some (added, after)) : holds after := by
  have round {entries : List (String × String × Value)} (listed : entries ⊆ definitions documents) {added counted : Nat}
      {before after : Catalog} (start : holds before)
      (ran : (entries.foldlM (visitDefinition documents fuel) added).run before = some (counted, after)) :
          holds after := by
    induction entries generalizing added before with
    | nil =>
        cases ran
        exact start
    | cons entry rest ih =>
        rw [List.foldlM_cons] at ran
        obtain ⟨_, middle, first, later⟩ := (StateT.run_bind_eq_some _ _ _ _).mp ran
        obtain ⟨member, others⟩ := List.cons_subset.mp listed
        refine ih others ?_ later
        rcases visitDefinition_cases first with ⟨_, _, rfl⟩ | ⟨missing, _, id, visited⟩
        · exact start
        · exact keeps entry member before id middle start missing visited
  induction rounds generalizing before added with
  | zero => cases ran
  | succ rounds ih =>
      obtain ⟨counted, middle, first, later⟩ := (StateT.run_bind_eq_some _ _ _ _).mp ran
      rw [discoverRound_eq] at first
      have holdsOn := round (List.Subset.refl _) start first
      split at later
      · cases later
        exact holdsOn
      · obtain ⟨_, _, rest, answered⟩ := (StateT.run_bind_eq_some _ _ _ _).mp later
        cases answered
        exact ih holdsOn rest

/-- A definition leads into a region. -/
structure Region.Invites (region : Region) (documents : DocumentSet) (url name : String) (value : Value) : Prop where
  plain : reference? value = none → region.place (locationOf url (Pointer.child "/definitions" name)) ∧
    region.named (locationOf url (Pointer.child "/definitions" name))
  reference : ∀ reference, reference? value = some reference → ∀ target length,
    Ends documents url reference target length → region.place target.location ∧ region.named target.location

theorem definition_fills (navigable : Navigable documents) (stored : Stored documents)
    (closed : region.Closed documents)
    (standing : Standing documents url (Pointer.child "/definitions" name) value)
    (invites : region.Invites documents url name value) :
    Fills documents region (fun _ => True) (definition documents fuel url name value) fun _ _ => True := by
  have within := fillsWithin navigable stored closed fuel
  unfold definition
  dsimp only
  split
  next reference written =>
    exact (within.follow ⟨url, _, reference⟩ url reference [] ⟨_, _, standing, written⟩
      (fun lost => ⟨⟨value, standing, written⟩, lost⟩) (invites.reference reference written)).weaken
        (fun _ _ => trivial)
      fun _ _ _ => trivial
  next plain =>
    obtain ⟨inside, named⟩ := invites.plain plain
    refine (within.build url _ value _ (.standing standing) plain ?_ inside fun _ => named).weaken (fun _ _ => trivial)
      fun _ _ _ => trivial
    rintro location ⟨⟩
    rfl

/-- The same documents in another order. -/
structure Reordered (early documents : DocumentSet) : Prop where
  get : ∀ url, early.get? url = documents.get? url
  definitions : ∀ entry, entry ∈ definitions early ↔ entry ∈ definitions documents

theorem Reordered.resolve (reordered : Reordered early documents) (base reference : String) :
    early.resolve? base reference = documents.resolve? base reference :=
  DocumentSet.resolve?_congr (reordered.get _)

theorem Reordered.answering (reordered : Reordered early documents) : Answering early documents :=
  fun base reference _ => reordered.resolve base reference

theorem Reordered.inherits (reordered : Reordered early documents) {graph : Graph}
    (inherits : Inherits early graph url value) :
    Inherits documents graph url value := by
  have landing {url : String} {branch : Value} : landing? early url branch = landing? documents url branch := by
    unfold landing?
    cases reference? branch with
    | none => rfl
    | some reference => exact reordered.resolve url reference
  induction inherits with
  | root member landed known => exact .root member (landing ▸ landed) known
  | parent member landed _ ih => exact .parent member (landing ▸ landed) ih

/-- Whatever stays in the region leads the search for variants only further into it. -/
theorem discover_fills (navigable : Navigable documents) (stored : Stored documents)
    (reordered : Reordered early documents)
    (closed : region.Closed documents) {rounds added : Nat} (regular : Regular documents before)
    (invites : ∀ entry ∈ definitions documents, ∀ catalog, Regular documents catalog → Moves documents before catalog →
      region.Covers catalog → IsMissing early fuel catalog.graph entry →
        region.Invites documents entry.1 entry.2.1 entry.2.2)
    (covers : region.Covers before) (ran : (discover early fuel rounds).run before = some (added, after)) :
    Filled documents region none before after ∧ region.Covers after := by
  let holds (catalog : Catalog) : Prop := Filled documents region none before catalog ∧ region.Covers catalog
  refine @discover_keeps early before after fuel holds rounds added
    (fun entry listed catalog id next start missing visited => ?_)
    ⟨.refl regular, covers⟩ ran
  obtain ⟨filled, covered⟩ := start
  have listedToo := (reordered.definitions entry).mp listed
  have standing := standing_of_mem_definitions listedToo
  have upheld := definition_upholds reordered.answering (Nat.le_refl fuel) standing _ _ visited
  have invited := invites entry listedToo catalog filled.regular filled.moves covered missing
  have filledOn := (definition_fills navigable stored closed standing invited _ _ _ filled.regular trivial upheld).1
  exact ⟨filled.andThen filledOn, filledOn.covers covered⟩

theorem Inherits.mono {graph more : Graph} (inherits : Inherits documents graph url value)
    (known : ∀ base reference target, documents.resolve? base reference = some target → IsKnownRoot graph target →
      IsKnownRoot more target) : Inherits documents more url value := by
  induction inherits with
  | root member landed isRoot =>
      obtain ⟨reference, _, resolved⟩ := landing?_eq_some landed
      exact .root member landed (known _ _ _ resolved isRoot)
  | parent member landed _ ih => exact .parent member landed ih

/-- What a reference leads to is what stands at its location. -/
theorem Navigable.target_value (navigable : Navigable documents) (stored : Stored documents) {base reference : String}
    {target : DocumentSet.Target} (resolved : documents.resolve? base reference = some target)
    (standing : Standing documents url pointer value) (same : target.location = locationOf url pointer) :
    target.value = value := by
  obtain ⟨_, whole, held, followed⟩ := navigable.found stored standing
  obtain ⟨wholeToo, heldToo, followedToo⟩ := resolve?_eq_some resolved
  have plain {url : String} {whole : Value} (held : documents.get? url = some whole) : '#' ∉ url.toList :=
    navigable.addresses _ ((Assoc.contains_iff_mem_keys _ _).mp (Option.isSome_of_eq_some held))
  have split := congrArg Url.splitReference same
  rw [DocumentSet.Target.location, locationOf, splitReference_of_plain (plain heldToo),
    splitReference_of_plain (plain held)] at split
  obtain ⟨address, place⟩ := Prod.mk.inj split
  rw [address, held] at heldToo
  cases heldToo
  rw [place, followed] at followedToo
  exact (Option.some.inj followedToo).symm

theorem url_of_mem_definitions {entry : String × String × Value} (listed : entry ∈ definitions documents) :
    entry.1 ∈ documents.urls := by
  obtain ⟨⟨url, whole⟩, among, member⟩ := List.mem_flatMap.mp listed
  obtain ⟨_, _, same⟩ := List.mem_map.mp member
  cases same
  exact List.mem_map_of_mem among

/-- The definitions of documents that are not roots are known by their names, as far as they were read. -/
def KnowsDefinitions (documents : DocumentSet) (catalog : Catalog) : Prop :=
  ∀ entry ∈ definitions documents, documents.isRoot entry.1 = false → ∀ id,
    Present catalog (locationOf entry.1 (Pointer.child "/definitions" entry.2.1)) id →
      (catalog.graph.node id).identity ≠ none

section

variable (navigable : Navigable documents) (stored : Stored documents) (unadorned : Unadorned documents)

include navigable stored unadorned

/-- A definition that is missing on the way to places of a complete catalog is there in that catalog. -/
theorem invites_of_missing (reordered : Reordered early documents) (regular : Regular documents one)
    (complete : ∀ entry ∈ definitions documents, Inherits documents one.graph entry.1 entry.2.2 →
      (one.graph.definition entry.1 entry.2.1).isSome = true)
    (knows : KnowsDefinitions documents one) {entry : String × String × Value} (listed : entry ∈ definitions documents)
    (regularToo : Regular documents other) (covers : (Region.of one).Covers other)
    (rooted : documents.isRoot entry.1 = true → reference? entry.2.2 = none →
      (other.graph.definition entry.1 entry.2.1).isSome = true)
    (missing : IsMissing early fuel other.graph entry) :
    (Region.of one).Invites documents entry.1 entry.2.1 entry.2.2 := by
  have standing := standing_of_mem_definitions listed
  have inherits := reordered.inherits (Inherits.of_search missing.2)
  have plain : reference? entry.2.2 = none := by
    have branches := branches_of_inheritsKnownRoot missing.2
    refine unadorned.plain navigable stored standing (show "allOf" ∈ _ by decide) fun none => branches ?_
    rw [Value.arrayAt?, none]
    rfl
  have known base reference target (resolved : documents.resolve? base reference = some target)
      (isRoot : IsKnownRoot other.graph target) : IsKnownRoot one.graph target := by
    refine ⟨isRoot.1, ?_⟩
    obtain ⟨id, bound⟩ := Option.isSome_iff_exists.mp isRoot.2
    by_cases sound : other.deferred.find? id = none
    · obtain ⟨⟨twin, present⟩, _⟩ := covers _ _ ⟨bound, sound⟩
      exact Option.isSome_of_eq_some present.bound
    · obtain ⟨url, pointer, written, dangling, same⟩ := regularToo.dangling bound sound
      obtain ⟨value, stands, cited⟩ := dangling.stands
      obtain rfl := navigable.target_value stored resolved stands same
      have uncited := unadorned.plain navigable stored stands (show "discriminator" ∈ _ by decide)
        (Option.isSome_iff_ne_none.mp isRoot.1)
      cases uncited.symm.trans cited
  obtain ⟨id, bound⟩ := Option.isSome_iff_exists.mp (complete entry listed (inherits.mono known))
  rw [definition_eq_lookup] at bound
  have present := regular.present_of_plain navigable stored (.standing standing) plain bound
  have outside : documents.isRoot entry.1 = false := by
    cases asked : documents.isRoot entry.1 with
    | false => rfl
    | true =>
        have there := rooted asked plain
        rw [missing.1] at there
        cases there
  exact ⟨fun _ => ⟨⟨id, present⟩, id, present, knows entry listed outside id present⟩,
    fun _ written => absurd (written.symm.trans plain) (Option.some_ne_none _)⟩

end

theorem Reordered.symm (reordered : Reordered early documents) : Reordered documents early :=
  ⟨fun url => (reordered.get url).symm, fun entry => (reordered.definitions entry).symm⟩

theorem home_of_plain (plain : '#' ∉ url.toList) : home url = url := by
  rw [home, List.takeWhile_eq_self_iff.mpr, String.ofList_toList]
  intro c member
  simpa using fun same : c = '#' => plain (same ▸ member)

/-- A search for variants that ended left out no definition that inherits from a root in the graph. -/
theorem complete_of_discover (plain : PlainAddresses early) (reordered : Reordered early documents) {added : Nat}
    (ran : (discoverVariants early).run before = some (added, after)) {entry : String × String × Value}
    (listed : entry ∈ definitions documents) (inherits : Inherits documents after.graph entry.1 entry.2.2) :
    (after.graph.definition entry.1 entry.2.1).isSome = true := by
  have listedToo := (reordered.definitions entry).mpr listed
  by_contra unbound
  refine discover_leaves_none ran entry listedToo ⟨by simpa using unbound, ?_⟩
  exact (inheritsKnownRoot_iff plain (standing_of_mem_definitions listedToo).mem_sites).mpr
    (reordered.symm.inherits inherits)

end Schema.Reading

namespace Draft

open Schema.Reading

/-- Documents whose references say the same before and after the documents are made uniform, and stand alone. -/
structure Settled (documents : DocumentSet) : Prop where
  stored : Stored documents.uniform
  navigable : Navigable documents.uniform
  unadorned : Unadorned documents.uniform
  answering : Answering documents documents.uniform

/-- Definitions of documents that are not roots are known by a name, as far as they were read. -/
def KnowsDefinitions (draft : Draft) : Prop :=
  ∀ url ∈ draft.documents.urls, draft.documents.isRoot url = false →
    ∀ name id, draft.graph.definition url name = some id →
    draft.catalog.deferred.find? id = none → (draft.graph.node id).identity ≠ none

/-- Two drafts have the same schemas and the same operations, under other numbers and in another order. -/
structure Twins (documents : DocumentSet) (one other : Draft) : Prop where
  regular : Regular documents one.catalog
  regularToo : Regular documents other.catalog
  drawn : ∀ id < one.graph.size, Drawn documents one.catalog id
  drawnToo : ∀ id < other.graph.size, Drawn documents other.catalog id
  covers : (Region.of one.catalog).Covers other.catalog
  coversToo : (Region.of other.catalog).Covers one.catalog
  operations : ∃ operations, operations.Perm other.operations ∧
    List.Forall₂ (Operation.Alike (Near one.catalog other.catalog)) one.operations operations

/-- How a draft came from the reading of some roots, and then from a search for variants in some documents. -/
structure Told (documents early : DocumentSet) (fuel : Nat) (roots : List String) (visited : Schema.Catalog)
    (read : Draft) : Prop where
  start : Filled documents .everywhere none {} visited
  search : Filled documents .everywhere none visited read.catalog
  visits : ∃ operations, (roots.mapM (document documents fuel)).run {} = some (operations, visited) ∧
    read.operations = operations.flatten
  discovers : ∃ added, (Schema.Reading.discoverVariants early).run visited = some (added, read.catalog)

theorem regular_empty (documents : DocumentSet) : Regular documents {} :=
  ⟨.refl, fun _ _ _ _ _ present => nomatch present.bound⟩

section

variable {documents early target : DocumentSet} {read one other : Draft} {visited : Schema.Catalog} {fuel : Nat}
  {roots rootsToo : List String} (navigable : Navigable target) (stored : Stored target) (unadorned : Unadorned target)

include navigable stored unadorned

theorem IsRead.told (isRead : IsRead documents read) (distinct : documents.urls.Nodup)
    (answering : Answering documents target) (reordered : Reordered documents.uniform target) :
    read.documents = documents.uniform ∧ read.baseSchemas = [] ∧ ∃ visited bound, ∀ fuel, bound ≤ fuel →
      Told target documents.uniform fuel (documents.urls.filter documents.isRoot) visited read := by
  obtain ⟨visited, isVisited, discovered⟩ := isRead.exists_visited
  obtain ⟨uniform, bases, bound, reads⟩ := isVisited.reads distinct answering fun url => (reordered.get url).symm
  obtain ⟨⟨added, last⟩, ran, answered⟩ := (Except.bind_eq_ok _ _ _).mp discovered
  cases answered
  unfold Draft.reading at ran
  split at ran
  next result catalog searched =>
    cases ran
    rw [uniform] at searched
    refine ⟨uniform, bases, visited.catalog, bound, fun fuel enough => ?_⟩
    obtain ⟨operations, visits, all⟩ := reads fuel enough
    have start := (took_of_mapM navigable stored unadorned (regular_empty target) visits .refl).1
    refine ⟨start, ?_, ⟨operations, visits, all⟩, added, searched⟩
    refine (discover_fills navigable stored reordered (Region.everywhere_closed target) start.regular ?_ ?_ searched).1
    · exact fun _ _ _ _ _ _ _ => ⟨fun _ => ⟨trivial, trivial⟩, fun _ _ _ _ _ => ⟨trivial, trivial⟩⟩
    · exact fun _ _ _ => ⟨trivial, fun _ => trivial⟩
  · cases ran

namespace Told

omit navigable stored unadorned in
theorem filled (told : Told target early fuel roots visited read) : Filled target .everywhere none {} read.catalog :=
  told.start.andThen told.search

omit navigable stored unadorned in
theorem drawn (told : Told target early fuel roots visited read) :
    ∀ id < read.graph.size, Drawn target read.catalog id :=
  fun id inside => told.filled.drawn id (Nat.zero_le _) inside

omit unadorned in
theorem closed (told : Told target early fuel roots visited read) : (Region.of read.catalog).Closed target :=
  Region.of_closed navigable stored told.drawn told.filled.regular

theorem took (told : Told target early fuel roots visited read) :
    ∃ operations, List.Forall₂ (Took target fuel read.catalog) roots operations ∧
      read.operations = operations.flatten := by
  obtain ⟨operations, visits, all⟩ := told.visits
  exact ⟨operations, (took_of_mapM navigable stored unadorned (regular_empty target) visits told.search.moves).2, all⟩

/-- The plain definitions of roots are bound once the roots were read. -/
theorem rooted (told : Told target early fuel roots visited read) {entry : String × String × Value}
    (listed : entry ∈ definitions target) (root : entry.1 ∈ roots) (plain : reference? entry.2.2 = none)
    {catalog : Schema.Catalog} (moves : Moves target visited catalog) :
    (catalog.graph.definition entry.1 entry.2.1).isSome = true := by
  obtain ⟨operations, visits, _⟩ := told.visits
  have tooks := (took_of_mapM navigable stored unadorned (regular_empty target) visits .refl).2
  obtain ⟨_, _, before, after, regular, ran, movesOn⟩ := tooks.exists_right root
  obtain ⟨⟨url, whole⟩, among, member⟩ := List.mem_flatMap.mp listed
  obtain ⟨⟨name, value⟩, held, same⟩ := List.mem_map.mp member
  cases same
  have present : target.get? url = some whole := Assoc.find?_of_mem stored.addresses among
  obtain ⟨_, names⟩ := document_names present _ _ _ regular.built trivial ran
  have lasting := named_lasts target url name value _ _ (Moves.grows (movesOn.trans moves)) (names (name, value) held)
  rcases lasting with own | ⟨_, _, written, _⟩
  · exact own
  · cases plain.symm.trans written

/-- What the one order comes to, the other one does as well. -/
theorem covers {visitedToo : Schema.Catalog} {earlyToo : DocumentSet}
    (told : Told target early fuel roots visited one) (toldToo : Told target earlyToo fuel rootsToo visitedToo other)
    (plain : PlainAddresses early) (reordered : Reordered early target) (reorderedToo : Reordered earlyToo target)
    (among : ∀ url ∈ rootsToo, url ∈ roots)
    (rootsAre : ∀ url, target.isRoot url = true → url ∈ target.urls → url ∈ rootsToo)
    (knows : Schema.Reading.KnowsDefinitions target one.catalog) : (Region.of one.catalog).Covers other.catalog := by
  have closed := told.closed navigable stored
  obtain ⟨operations, tooks, _⟩ := told.took navigable stored unadorned
  obtain ⟨_, visits, _⟩ := toldToo.visits
  obtain ⟨_, searched⟩ := told.discovers
  obtain ⟨_, searchedToo⟩ := toldToo.discovers
  have start : (Region.of one.catalog).Covers visitedToo := by
    refine mapM_covers navigable stored unadorned closed (fun url member => ?_) (regular_empty target) ?_ visits
    · obtain ⟨operations, _, took⟩ := tooks.exists_right (among url member)
      exact ⟨operations, took⟩
    · exact fun _ _ present => nomatch present.bound
  refine (discover_fills navigable stored reorderedToo closed toldToo.start.regular ?_ start searchedToo).2
  intro entry listed catalog regular moves covers missing
  refine invites_of_missing navigable stored unadorned reorderedToo told.filled.regular ?_ knows listed regular
    covers ?_ missing
  · exact fun entry listed inherits => complete_of_discover plain reordered searched listed inherits
  · exact fun root plain =>
      toldToo.rooted navigable stored unadorned listed (rootsAre _ root (url_of_mem_definitions listed)) plain moves

end Told

end

/-! ## Reading ends -/

theorem exists_isVisited (documents : DocumentSet) : ∃ visited, IsVisited documents visited := by
  refine Pipeline.exists_outcome (fun step member draft => ?_) _
  obtain ⟨url, _, listed⟩ := List.mem_flatMap.mp ((List.mem_append.mp member).resolve_right List.not_mem_nil)
  obtain ⟨pass, among, rfl⟩ := List.mem_map.mp listed
  simp only [Pass.readers, List.mem_cons, List.not_mem_nil, or_false] at among
  rcases among with rfl | rfl | rfl
  · exact ⟨_, rfl⟩
  · exact ⟨_, rfl⟩
  · change ∃ next, draft.readDocument url = .ok next
    unfold Draft.readDocument
    split
    · obtain ⟨operations, catalog, ran, _⟩ := document_answers draft.documents url draft.catalog trivial
      exact ⟨_, (Except.bind_eq_ok _ _ _).mpr ⟨(operations, { draft with catalog }), by rw [Draft.reading, ran], rfl⟩⟩
    · exact ⟨_, rfl⟩

/-- A reference that lists no branches beside it is no variant. -/
theorem separate_of_unadorned {documents early : DocumentSet} (unadorned : Unadorned documents)
    (navigable : Navigable documents)
    (stored : Stored documents) (reordered : Reordered early documents) : Separate early := by
  intro url name value listed
  rcases written : reference? value with _ | reference
  · exact .inl rfl
  · refine .inr ?_
    have standing := standing_of_mem_definitions ((reordered.definitions _).mp listed)
    by_contra branched
    refine Option.some_ne_none _ (written.symm.trans
      (unadorned.plain navigable stored standing (show "allOf" ∈ _ by decide) fun absent => ?_))
    exact branched (by rw [Value.arrayAt?, absent]; rfl)

/-- The documents are read, and the search for variants ends. -/
theorem exists_isRead {documents target : DocumentSet} (navigable : Navigable target) (stored : Stored target)
    (unadorned : Unadorned target) (distinct : documents.urls.Nodup) (answering : Answering documents target)
    (reordered : Reordered documents.uniform target) : ∃ read, IsRead documents read := by
  obtain ⟨visited, isVisited⟩ := exists_isVisited documents
  obtain ⟨uniform, _⟩ := isVisited.reads distinct answering fun url => (reordered.get url).symm
  obtain ⟨added, catalog, ran⟩ := discover_answers (separate_of_unadorned unadorned navigable stored reordered)
    isVisited.fresh.built (Nat.lt_succ_of_le (Schema.Catalog.unbound_le_length.trans_eq (List.length_map _)))
  have searched : (Schema.Reading.discoverVariants documents.uniform).run visited.catalog = some (added, catalog) := ran
  refine ⟨{ visited with catalog }, isVisited.read ((Except.bind_eq_ok _ _ _).mpr ⟨(added, _), ?_, rfl⟩)⟩
  rw [Draft.reading, uniform, searched]

section

variable {documents shuffled : DocumentSet} {one other : Draft} (permuted : documents.documents.Perm shuffled.documents)

include permuted

theorem uniform_perm : documents.uniform.documents.Perm shuffled.uniform.documents :=
  permuted.map _

theorem uniform_reordered (stored : Stored documents.uniform) : Reordered shuffled.uniform documents.uniform where
  get url := (Assoc.find?_of_perm (uniform_perm permuted) stored.addresses url).symm
  definitions _ := ((uniform_perm permuted).flatMap_right _).mem_iff.symm

theorem get?_of_perm (stored : Stored documents.uniform) (url : String) : documents.get? url = shuffled.get? url :=
  Assoc.find?_of_perm permuted (show documents.urls.Nodup from documents.urls_uniform ▸ stored.addresses) url

theorem Settled.answers (settled : Settled documents) : Answering shuffled documents.uniform := by
  intro base reference cited
  rw [← settled.answering base reference cited]
  exact DocumentSet.resolve?_congr (get?_of_perm permuted settled.stored _).symm

theorem Settled.distinct (settled : Settled documents) : shuffled.urls.Nodup := by
  have distinct : documents.urls.Nodup := documents.urls_uniform ▸ settled.stored.addresses
  exact (permuted.map Prod.fst).nodup distinct

theorem Settled.exists_isRead (settled : Settled documents) : ∃ read, IsRead shuffled read :=
  ApiContract.Draft.exists_isRead settled.navigable settled.stored settled.unadorned (settled.distinct permuted)
    (settled.answers permuted) (uniform_reordered permuted settled.stored)

theorem Settled.documents_eq (settled : Settled documents) (isRead : IsRead shuffled other) :
    other.documents = shuffled.uniform :=
  (isRead.told settled.navigable settled.stored settled.unadorned (settled.distinct permuted) (settled.answers permuted)
    (uniform_reordered permuted settled.stored)).1

/-- Documents that are read in two orders give the same schemas and the same operations. -/
theorem Settled.twins (settled : Settled documents) (roots : ∀ url, documents.isRoot url = shuffled.isRoot url)
    (isRead : IsRead documents one) (isReadToo : IsRead shuffled other) (knows : one.KnowsDefinitions)
    (knowsToo : other.KnowsDefinitions) :
    Twins documents.uniform one other ∧ one.baseSchemas = [] ∧ other.baseSchemas = [] := by
  have distinctToo := settled.distinct permuted
  have answeringToo := settled.answers permuted
  obtain ⟨stored, navigable, unadorned, answering⟩ := settled
  have reordered := uniform_reordered permuted stored
  have same : Reordered documents.uniform documents.uniform := ⟨fun _ => rfl, fun _ => Iff.rfl⟩
  have urlsPerm : documents.urls.Perm shuffled.urls := permuted.map _
  have distinct : documents.urls.Nodup := documents.urls_uniform ▸ stored.addresses
  obtain ⟨uniform, bases, visited, bound, tells⟩ := isRead.told navigable stored unadorned distinct answering same
  obtain ⟨uniformToo, basesToo, visitedToo, boundToo, tellsToo⟩ :=
    isReadToo.told navigable stored unadorned distinctToo answeringToo reordered
  have told := tells _ (Nat.le_max_left bound boundToo)
  have toldToo := tellsToo _ (Nat.le_max_right bound boundToo)
  have rootsPerm : (documents.urls.filter documents.isRoot).Perm (shuffled.urls.filter shuffled.isRoot) := by
    rw [show shuffled.isRoot = documents.isRoot from funext fun url => (roots url).symm]
    exact urlsPerm.filter _
  have plainAddresses {set : DocumentSet} (urls : ∀ url ∈ set.urls, url ∈ documents.uniform.urls) :
      PlainAddresses set :=
    fun url listed => home_of_plain (navigable.addresses url (urls url listed))
  have sameUrls url : url ∈ shuffled.uniform.urls ↔ url ∈ documents.uniform.urls := by
    rw [DocumentSet.urls_uniform, DocumentSet.urls_uniform]
    exact urlsPerm.mem_iff.symm
  have rootsAre url (root : documents.uniform.isRoot url = true) (listed : url ∈ documents.uniform.urls) :
      url ∈ documents.urls.filter documents.isRoot :=
    List.mem_filter.mpr ⟨documents.urls_uniform ▸ listed, root⟩
  have knowing {draft : Draft} (knows : draft.KnowsDefinitions)
    (rootsToo : draft.documents.isRoot = documents.uniform.isRoot)
      (urls : ∀ url ∈ documents.uniform.urls, url ∈ draft.documents.urls) :
      Schema.Reading.KnowsDefinitions documents.uniform draft.catalog := by
    intro entry listed outside id present
    refine knows entry.1 (urls _ (url_of_mem_definitions listed)) (rootsToo ▸ outside) entry.2.1 id ?_ present.sound
    rw [definition_eq_lookup]
    exact present.bound
  have covers := told.covers navigable stored unadorned toldToo (plainAddresses fun _ listed => listed) same reordered
    (fun url member => rootsPerm.mem_iff.mpr member)
    (fun url root listed => rootsPerm.mem_iff.mp (rootsAre url root listed))
    (knowing knows (by rw [uniform]) (by rw [uniform]; exact fun _ listed => listed))
  have coversToo := toldToo.covers navigable stored unadorned told (plainAddresses fun url => (sameUrls url).mp)
    reordered same
    (fun url member => rootsPerm.mem_iff.mp member) rootsAre
    (knowing knowsToo (by rw [uniformToo]; exact funext fun url => (roots url).symm)
      (by rw [uniformToo]; exact fun url => (sameUrls url).mpr))
  refine ⟨⟨told.filled.regular, toldToo.filled.regular, told.drawn, toldToo.drawn, covers, coversToo, ?_⟩, bases,
    basesToo⟩
  obtain ⟨operations, tooks, all⟩ := told.took navigable stored unadorned
  obtain ⟨operationsToo, tooksToo, allToo⟩ := toldToo.took navigable stored unadorned
  obtain ⟨matched, took, perm⟩ := List.perm_comp_forall₂ rootsPerm tooksToo
  refine ⟨matched.flatten, allToo ▸ perm.flatten, ?_⟩
  rw [all]
  refine List.rel_flatten (List.Forall₂.meet (fun url operations twins took tookToo => ?_) tooks took)
  exact took.alike navigable stored unadorned (told.closed navigable stored) tookToo

end

end Draft

end ApiContract
