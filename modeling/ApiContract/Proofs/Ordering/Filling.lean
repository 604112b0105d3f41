import ApiContract.Proofs.Ordering.Drawing

/-!
Readings draw what they add (`Filled`). One that starts in a set of places that is closed under subschemas and
references stays in it (`Region`), and what it answers is where the documents lead (`fillsWithin`).
-/

namespace ApiContract.Schema

open Json (Value)

def Attachment.draw : Attachment → Outline Edge → Outline Edge
  | properties entries, outline => { outline with properties := some entries }
  | items edge, outline => { outline with items := some edge }
  | additional (.allowed flag), outline => { outline with additional := some (.inl flag) }
  | additional (.schema edge), outline => { outline with additional := some (.inr edge) }
  | allOf edges, outline => { outline with allOf := some edges }
  | anyOf edges, outline => { outline with anyOf := some edges }
  | oneOf edges, outline => { outline with oneOf := some edges }

theorem outline_attach (attachment : Attachment) (node : Node) :
    (attachment.attach node).outline = attachment.draw node.outline := by
  cases attachment with
  | additional others => cases others <;> rfl
  | properties | items | allOf | anyOf | oneOf => rfl

namespace Reading

variable {α β : Type} {documents : DocumentSet} {catalog before middle after : Catalog} {busy : Option Nat}
  {id fuel : Nat}
  {url pointer location : String} {value : Value}

/-! ## Regions -/

/-- A set of places, some of which are known by a name. -/
structure Region where
  place : String → Prop
  named : String → Prop

namespace Region

def everywhere : Region := ⟨fun _ => True, fun _ => True⟩

variable (region : Region)

/-- What stands at a spot leads into the region. -/
structure Welcomes (documents : DocumentSet) (url : String) (spot : Spot) : Prop where
  inline : reference? spot.2 = none → region.place (locationOf url spot.1)
  reference : ∀ reference, reference? spot.2 = some reference → ∀ target length,
    Ends documents url reference target length → region.place target.location ∧ region.named target.location

/-- Subschemas of schemas in the region lead into it. -/
def Closed (documents : DocumentSet) : Prop :=
  ∀ url pointer value, Builds documents url pointer value → reference? value = none →
    region.place (locationOf url pointer) → (spots pointer value).All (region.Welcomes documents url)

/-- The schemas of a catalog are in the region, and the named ones are known there by name. -/
def Covers (catalog : Catalog) : Prop :=
  ∀ location id, Present catalog location id →
    region.place location ∧ ((catalog.graph.node id).identity ≠ none → region.named location)

theorem everywhere_welcomes (documents : DocumentSet) (url : String) (spot : Spot) :
    everywhere.Welcomes documents url spot :=
  ⟨fun _ => trivial, fun _ _ _ _ _ => ⟨trivial, trivial⟩⟩

theorem everywhere_closed (documents : DocumentSet) : everywhere.Closed documents :=
  fun url _ _ _ _ _ => .intro (everywhere_welcomes documents url)

end Region

/-! ## One move -/

/-- A schema that is present after a move was so before it, or was added by it. -/
theorem Move.present_inv (move : Move documents before after) (built : Built before)
    (present : Present after location id) :
    Present before location id ∨ before.graph.lookup location = none ∧ id = before.graph.size := by
  obtain ⟨bound, sound⟩ := present
  have placed {url pointer : String} {node : Node} (free : before.graph.lookup (locationOf url pointer) = none)
      (bound : (before.place url pointer node).graph.lookup location = some id) :
      before.graph.lookup location = some id ∨ before.graph.lookup location = none ∧ id = before.graph.size := by
    by_cases own : location = locationOf url pointer
    · subst own
      rw [lookup_place_self] at bound
      exact .inr ⟨free, (Option.some.inj bound).symm⟩
    · rw [lookup_place_of_ne before node own] at bound
      exact .inl bound
  cases move with
  | hollow free | schema free => exact (placed free bound).imp_left fun old => ⟨old, sound⟩
  | dangling free =>
      rcases placed free bound with known | new
      · have old := Nat.ne_of_lt (built.lookup_lt known)
        exact .inl ⟨known, (Deferred.find?_add_of_ne old _).symm.trans sound⟩
      · exact .inr new
  | identify | attach => exact .inl ⟨bound, sound⟩

theorem Regular.step (regular : Regular documents before) (move : Move documents before after)
    (plain : ∀ url pointer value, Standing documents url pointer value →
      Present after (locationOf url pointer) before.graph.size → reference? value = none) :
        Regular documents after where
  moves := regular.moves.tail move
  plain url pointer value id standing present := by
    rcases move.present_inv regular.built present with old | ⟨_, rfl⟩
    · exact regular.plain _ _ _ _ standing old
    · exact plain _ _ _ standing present

/-- A region is not left by a node that is added in it. -/
theorem Region.Covers.place {region : Region} {node : Node} (covers : region.Covers before) (built : Built before)
    (move : Move documents before after) (graph : after.graph = (before.place url pointer node).graph)
    (welcome : after.deferred.find? before.graph.size = none →
      region.place (locationOf url pointer) ∧ (node.identity ≠ none → region.named (locationOf url pointer))) :
    region.Covers after := by
  intro location other present
  rcases move.present_inv built present with old | ⟨free, rfl⟩
  · obtain ⟨inside, named⟩ := covers location other old
    rw [graph, node_place_of_ne (Nat.ne_of_lt (built.lookup_lt old.bound))]
    exact ⟨inside, named⟩
  · have own : location = locationOf url pointer := by
      by_contra different
      have bound := present.bound
      rw [graph, lookup_place_of_ne before node different, free] at bound
      cases bound
    rw [graph, node_place_self, own]
    exact welcome present.sound

/-- From one catalog to another one only moves were taken. The nodes that were added are drawn, of the others but
one the outlines are kept, and a region that was not left before was not left. -/
structure Filled (documents : DocumentSet) (region : Region) (busy : Option Nat) (before after : Catalog) : Prop where
  regular : Regular documents after
  moves : Moves documents before after
  kept : ∀ id < before.graph.size, some id ≠ busy → (after.graph.node id).outline = (before.graph.node id).outline
  drawn : ∀ id, before.graph.size ≤ id → id < after.graph.size → Drawn documents after id
  covers : region.Covers before → region.Covers after

namespace Filled

variable {region : Region}

theorem refl (regular : Regular documents before) : Filled documents region busy before before :=
  ⟨regular, .refl, fun _ _ _ => rfl, fun _ above below => absurd below (Nat.not_lt_of_le above), fun covers => covers⟩

theorem trans (first : Filled documents region busy before middle) (second : Filled documents region busy middle after)
    (old : ∀ id, busy = some id → id < before.graph.size) : Filled documents region busy before after where
  regular := second.regular
  moves := first.moves.trans second.moves
  kept id inside other :=
    (second.kept id (Nat.lt_of_lt_of_le inside first.moves.grows.size_le) other).trans (first.kept id inside other)
  drawn id above below := by
    by_cases earlier : id < middle.graph.size
    · refine first.regular.drawn second.moves (second.kept id earlier fun same => ?_) (first.drawn id above earlier)
      exact absurd (old id same.symm) (Nat.not_lt_of_le above)
    · exact second.drawn id (Nat.le_of_not_lt earlier) below
  covers := second.covers ∘ first.covers

theorem andThen (first : Filled documents region none before middle)
    (second : Filled documents region none middle after) :
    Filled documents region none before after :=
  first.trans second fun _ absurd => nomatch absurd

theorem weaken (filled : Filled documents region none before after) : Filled documents region busy before after :=
  ⟨filled.regular, filled.moves, fun id inside _ => filled.kept id inside nofun, filled.drawn, filled.covers⟩

/-- A node that was changed, but not where it is present. -/
theorem change {change : Node → Node} (regular : Regular documents before)
    (move : Move documents before (before.change id change))
    (same : ∀ other, some other ≠ busy →
      ((before.change id change).graph.node other).outline = (before.graph.node other).outline)
    (named : ∀ location, Present before location id → (change (before.graph.node id)).identity ≠ none →
      (before.graph.node id).identity ≠ none ∨ region.named location) :
    Filled documents region busy before (before.change id change) where
  regular := regular.step move fun _ _ _ _ present => by
    have inside := regular.built.lookup_lt (show before.graph.lookup _ = _ from present.bound)
    exact absurd inside (Nat.lt_irrefl _)
  moves := .single move
  kept other _ different := same other different
  drawn other above below := by
    rw [Catalog.change, Graph.size_modify] at below
    exact absurd below (Nat.not_lt_of_le above)
  covers covers location other present := by
    have old : Present before location other := ⟨present.bound, present.sound⟩
    obtain ⟨inside, known⟩ := covers location other old
    refine ⟨inside, fun given => ?_⟩
    rw [node_change] at given
    split at given
    next both =>
      obtain ⟨rfl, _⟩ := both
      exact (named location old given).elim known fun named => named
    · exact known given

theorem identify {identity : Option String} (regular : Regular documents before)
    (bound : ∀ location, identity = some location → before.graph.lookup location = some id)
    (named : ∀ location, identity = some location → Present before location id → region.named location) :
    Filled documents region none before (before.change id fun node => node.identified identity) := by
  refine .change regular (.identify bound) (fun other _ => ?_) fun location present given => ?_
  · rw [node_change]
    split
    · exact outline_identified _ _
    · rfl
  · by_cases anonymous : (before.graph.node id).identity = none
    · rw [Node.identified, if_pos (by rw [anonymous]; rfl)] at given
      obtain ⟨name, rfl⟩ := Option.ne_none_iff_exists'.mp given
      have signed := regular.moves.represents.signed
      have same : name = location := by
        rw [← ((signed.located name id).mp (bound name rfl)).2, ← ((signed.located location id).mp present.bound).2]
      subst same
      exact .inr (named _ rfl present)
    · exact .inl anonymous

theorem attach (attachment : Attachment) (regular : Regular documents before) (collected : Collected before id)
    (leads : ∀ edge ∈ attachment.edges, edge.target < before.graph.size) :
    Filled documents region (some id) before (before.change id attachment.attach) := by
  refine .change regular (.attach attachment collected leads) (fun other different => ?_)
    fun location present given => ?_
  · rw [node_change, if_neg fun both => different (congrArg some both.1)]
  · rw [identity_attach] at given
    exact .inl given

theorem place {node : Node} (regular : Regular documents before) (move : Move documents before after)
    (plain : ∀ url pointer value, Standing documents url pointer value →
      Present after (locationOf url pointer) before.graph.size → reference? value = none)
    (graph : after.graph = (before.place url pointer node).graph) (drawn : Drawn documents after before.graph.size)
    (welcome : after.deferred.find? before.graph.size = none →
      region.place (locationOf url pointer) ∧ (node.identity ≠ none → region.named (locationOf url pointer))) :
    Filled documents region none before after where
  regular := regular.step move plain
  moves := .single move
  kept other inside _ := by rw [graph, node_place_of_ne (Nat.ne_of_lt inside)]
  drawn other above below := by
    rw [graph, size_place] at below
    obtain rfl : other = before.graph.size := by omega
    exact drawn
  covers covers := covers.place regular.built move graph welcome

end Filled

/-! ## Readings -/

/-- What holds of a regular catalog goes on to hold. -/
def Endures (documents : DocumentSet) (holds : Catalog → Prop) : Prop :=
  ∀ before after, Regular documents before → Moves documents before after → holds before → holds after

theorem comes_endures (url : String) (spot : Spot) (edge : Edge) :
    Endures documents fun catalog => Comes documents catalog url spot edge :=
  fun _ _ regular moves comes => regular.comes moves comes

/-- From regular catalogs with some property, the reading draws what it adds, stays in the region, and answers what is
asked for. -/
def Fills (documents : DocumentSet) (region : Region) (pre : Catalog → Prop) (read : Reading α)
    (good : Catalog → α → Prop) : Prop :=
  ∀ before result after, Regular documents before → pre before → read.run before = some (result, after) →
    Filled documents region none before after ∧ good after result

namespace Fills

variable {region : Region} {pre : Catalog → Prop} {good : Catalog → α → Prop} {goodNext : Catalog → β → Prop}

theorem pure {result : α} (holds : ∀ catalog, Regular documents catalog → pre catalog → good catalog result) :
    Fills documents region pre (pure result) good := by
  intro before _ _ regular start ran
  cases ran
  exact ⟨.refl regular, holds before regular start⟩

theorem bind {read : Reading α} {next : α → Reading β} (endures : Endures documents pre)
    (first : Fills documents region pre read good)
    (later : ∀ result, Fills documents region (fun catalog => pre catalog ∧ good catalog result) (next result)
    goodNext) :
    Fills documents region pre (read >>= next) goodNext := by
  intro before last after regular start ran
  obtain ⟨result, middle, firstRan, laterRan⟩ := (StateT.run_bind_eq_some _ _ _ _).mp ran
  obtain ⟨filled, holds⟩ := first before result middle regular start firstRan
  have pursued : pre middle ∧ good middle result := ⟨endures _ _ regular filled.moves start, holds⟩
  obtain ⟨filledOn, holdsNext⟩ := later result middle last after filled.regular pursued laterRan
  exact ⟨filled.andThen filledOn, holdsNext⟩

theorem weaken {stronger : Catalog → Prop} {read : Reading α} {more : Catalog → α → Prop}
    (fills : Fills documents region pre read good) (strong : ∀ catalog, stronger catalog → pre catalog)
    (weak : ∀ catalog result, good catalog result → more catalog result) :
    Fills documents region stronger read more := by
  intro before result after regular start ran
  obtain ⟨filled, holds⟩ := fills before result after regular (strong before start) ran
  exact ⟨filled, weak _ _ holds⟩

theorem anywhere {read : Reading α} (fills : Fills documents region (fun _ => True) read good) :
    Fills documents region pre read good :=
  fills.weaken (fun _ _ => trivial) fun _ _ holds => holds

theorem mapM {items : List α} {visit : α → Reading β} {each : Catalog → α → β → Prop}
    (endures : ∀ item result, Endures documents fun catalog => each catalog item result)
    (fills : ∀ item ∈ items, Fills documents region (fun _ => True) (visit item) fun catalog result =>
      each catalog item result) :
    Fills documents region (fun _ => True) (items.mapM visit) fun catalog results =>
      List.Forall₂ (each catalog) items results := by
  induction items with
  | nil =>
      rw [List.mapM_nil]
      exact .pure fun _ _ _ => .nil
  | cons item rest ih =>
      rw [List.mapM_cons]
      refine .bind (fun _ _ _ _ _ => trivial) (fills item List.mem_cons_self) fun result => ?_
      have others := ih fun item member => fills item (List.mem_cons_of_mem _ member)
      have kept : Endures documents fun catalog => True ∧ each catalog item result :=
        fun _ _ regular moves both => ⟨trivial, endures _ _ _ _ regular moves both.2⟩
      refine .bind kept others.anywhere fun results => ?_
      exact .pure fun _ _ both => .cons both.1.2 both.2

end Fills

variable {region : Region}

theorem fills_lookup {location : String} {next : Option Nat → Reading α} {good : Catalog → α → Prop}
    (bound : ∀ id, Fills documents region (fun catalog => Bound location catalog id) (next (some id)) good)
    (free : Fills documents region (fun catalog => catalog.graph.lookup location = none) (next none) good) :
    Fills documents region (fun _ => True) (lookup location >>= next) good := by
  intro before result after regular _ ran
  rw [lookup_run] at ran
  cases known : before.graph.lookup location with
  | none =>
      rw [known] at ran
      exact free before result after regular known ran
  | some id =>
      rw [known] at ran
      exact bound id before result after regular known ran

/-! ### Where nodes are found -/

/-- A node with an error is found where a reference dangles. -/
theorem Regular.dangling (regular : Regular documents catalog) (bound : catalog.graph.lookup location = some id)
    (lost : catalog.deferred.find? id ≠ none) :
    ∃ url pointer reference, Dangling documents url pointer reference ∧ location = locationOf url pointer := by
  have represents := regular.moves.represents
  obtain ⟨inside, source⟩ := (represents.located location id).mp bound
  cases represents.made id inside with
  | schema _ _ _ sound | hollow _ _ _ _ sound => exact absurd sound lost
  | dangling dangling node =>
      refine ⟨_, _, _, dangling, ?_⟩
      rw [← source, node]
      exact location_within _ _

section

variable (navigable : Navigable documents) (stored : Stored documents)

include navigable stored

/-- A schema that is no reference is present where it has a node. -/
theorem Regular.present_of_plain (regular : Regular documents catalog) (builds : Builds documents url pointer value)
    (plain : reference? value = none) (bound : catalog.graph.lookup (locationOf url pointer) = some id) :
    Present catalog (locationOf url pointer) id := by
  refine ⟨bound, ?_⟩
  by_contra lost
  obtain ⟨other, place, reference, dangling, same⟩ := regular.dangling bound lost
  obtain ⟨inner, standing, written⟩ := dangling.stands
  obtain ⟨_, _, rfl⟩ := navigable.value_eq stored builds standing same
  cases plain.symm.trans written

end

theorem unresolved_fills {reference : String} (dangling : Dangling documents url pointer reference) :
    Fills documents region (fun _ => True) (unresolved url pointer reference) fun catalog id =>
      catalog.deferred.find? id ≠ none := by
  unfold unresolved
  dsimp only
  refine fills_lookup (fun id => .pure fun catalog regular bound sound => ?_) ?_
  · obtain ⟨value, standing, written⟩ := dangling.stands
    cases (regular.plain _ _ _ _ standing ⟨bound, sound⟩).symm.trans written
  · intro before id after regular free ran
    obtain ⟨_, _, added, later⟩ := (StateT.run_bind_eq_some _ _ _ _).mp ran
    obtain ⟨_, _, spoiled, answered⟩ := (StateT.run_bind_eq_some _ _ _ _).mp later
    cases added
    cases spoiled
    cases answered
    have represents := regular.moves.represents
    have known : (before.deferred.add before.graph.size
        (.unresolvableReference reference (locationOf url pointer))).find? before.graph.size ≠ none := by
      rw [Deferred.find?_add_self represents.find?_size]
      exact nofun
    refine ⟨.place regular (.dangling free dangling) (fun _ _ _ _ present => absurd present.sound known) rfl
      (.lost known ?_) fun sound => absurd sound known, known⟩
    exact congrArg Node.outline (node_place_self before url pointer _)

theorem Comes.leading {spot : Spot} {edge : Edge} (regular : Regular documents catalog)
    (comes : Comes documents catalog url spot edge) : edge.target < catalog.graph.size := by
  have lands {base current : String} {passed : List String} {id : Nat}
      (lands : Lands documents catalog base current passed id) : id < catalog.graph.size := by
    cases lands with
    | reached _ present => exact regular.built.lookup_lt present.bound
    | lost _ lost => exact regular.lt_of_spoiled lost
  cases comes with
  | inline _ present => exact regular.built.lookup_lt present.bound
  | reference _ comes => exact lands comes

/-! ### Subschemas -/

theorem attaching_fills {read : Reading α} {good : Catalog → α → Prop} (attachment : α → Attachment)
    (leads : ∀ catalog result, Regular documents catalog → good catalog result →
      ∀ edge ∈ (attachment result).edges, edge.target < catalog.graph.size)
    (endures : ∀ result, Endures documents fun catalog => good catalog result)
    (fills : Fills documents region (fun _ => True) read good) {done : Unit} (regular : Regular documents before)
    (collected : Collected before id)
    (ran : (read >>= fun result => modifyNode id (attachment result).attach).run before = some (done, after)) :
    Filled documents region (some id) before after ∧ ∃ result, good after result ∧
      (after.graph.node id).outline = (attachment result).draw (before.graph.node id).outline := by
  obtain ⟨result, middle, firstRan, attached⟩ := (StateT.run_bind_eq_some _ _ _ _).mp ran
  cases attached
  obtain ⟨filled, holds⟩ := fills before result middle regular trivial firstRan
  have collectedMiddle := filled.moves.grows.collected collected
  have attaches : Filled documents region (some id) middle (middle.change id (attachment result).attach) :=
    .attach (attachment result) filled.regular collectedMiddle (leads middle result filled.regular holds)
  refine ⟨filled.weaken.trans attaches fun _ same => Option.some.inj same ▸ collected.inside, result,
    endures result _ _ filled.regular attaches.moves holds, ?_⟩
  have changed : ((middle.change id (attachment result).attach).graph.node id) =
      (attachment result).attach (middle.graph.node id) := by
    rw [node_change, if_pos ⟨rfl, collectedMiddle.inside⟩]
  exact (congrArg Node.outline changed).trans ((outline_attach _ _).trans
    (congrArg _ (filled.kept id collected.inside nofun)))

section

variable {read : ReadEdge} {raw : Assoc Value}
  (reads : ∀ spot : Spot, Standing documents url spot.1 spot.2 → region.Welcomes documents url spot →
    Fills documents region (fun _ => True) (read spot.1 spot.2) fun catalog edge =>
      Comes documents catalog url spot edge)
  (standing : Standing documents url pointer (.object raw))
  (welcome : (spots pointer (.object raw)).All (region.Welcomes documents url))

include reads standing welcome

theorem attachProperties_fills {done : Unit} (regular : Regular documents before) (collected : Collected before id)
    (ran : (attachProperties read pointer raw id).run before = some (done, after)) :
    Filled documents region (some id) before after ∧ ∃ properties,
      Option.Rel (Outline.Tables (Comes documents after url)) (propertySpots pointer raw) properties ∧
      (after.graph.node id).outline = { (before.graph.node id).outline with
        properties := properties.or (before.graph.node id).outline.properties } := by
  have welcomes : ∀ entries ∈ propertySpots pointer raw, ∀ entry ∈ entries, region.Welcomes documents url entry.2 :=
    welcome.properties
  unfold attachProperties at ran
  split at ran
  next entries found =>
    rw [propertySpots_eq_some found] at welcomes ⊢
    have spelled : Pointer.child pointer "properties" = pointer ++ "/properties" :=
      Pointer.child_of_plain (keywords_plain _ (by decide)).2 pointer
    have each : Fills documents region (fun _ => True) (entries.mapM fun entry => do
        return (entry.1, ← read (Pointer.child (pointer ++ "/properties") entry.1) entry.2)) fun catalog edges =>
        List.Forall₂ (fun entry edge => entry.1 = edge.1 ∧ Comes documents catalog url
          (Pointer.child (pointer ++ "/properties") entry.1, entry.2) edge.2) entries edges := by
      refine .mapM (fun entry edge _ _ regular moves both => ⟨both.1, regular.comes moves both.2⟩)
        fun entry member => ?_
      have stands : Standing documents url (Pointer.child (pointer ++ "/properties") entry.1) entry.2 := by
        rw [← spelled]
        exact (standing.keyword (by decide) found).nested member
      refine .bind (fun _ _ _ _ _ => trivial) (reads (_, _) stands (welcomes _ rfl _ (List.mem_map_of_mem member)))
        fun edge => .pure fun catalog _ both => ⟨rfl, both.2⟩
    obtain ⟨filled, edges, come, drawn⟩ := attaching_fills .properties (fun catalog edges regular come edge member => by
        obtain ⟨entry, among, rfl⟩ := List.mem_map.mp member
        obtain ⟨_, _, _, comes⟩ := come.exists_left among
        exact comes.leading regular)
      (fun edges _ _ regular moves come => come.imp fun _ _ both => ⟨both.1, regular.comes moves both.2⟩)
      each regular collected ran
    exact ⟨filled, some edges, .some (List.forall₂_map_left_iff.mpr come), drawn⟩
  next other =>
    cases ran
    exact ⟨.refl regular, none, propertySpots_eq_none other ▸ .none, rfl⟩

theorem attachItems_fills {done : Unit} (regular : Regular documents before) (collected : Collected before id)
    (ran : (attachItems read pointer raw id).run before = some (done, after)) :
    Filled documents region (some id) before after ∧ ∃ items,
      Option.Rel (Comes documents after url) (itemSpot pointer raw) items ∧
      (after.graph.node id).outline = { (before.graph.node id).outline with
        items := items.or (before.graph.node id).outline.items } := by
  have welcomes : ∀ item ∈ itemSpot pointer raw, region.Welcomes documents url item :=
    welcome.items
  unfold attachItems at ran
  split at ran
  next entries found =>
    rw [itemSpot_eq_some found] at welcomes ⊢
    have stands := standing.under (by decide) (keywords_plain _ (by decide)).2 found
    obtain ⟨filled, edge, comes, drawn⟩ := attaching_fills .items
      (fun catalog edge regular comes other member => List.mem_singleton.mp member ▸ Comes.leading regular comes)
      (comes_endures url _) (reads (_, _) stands (welcomes _ rfl)) regular collected ran
    exact ⟨filled, some edge, .some comes, drawn⟩
  next other =>
    cases ran
    exact ⟨.refl regular, none, itemSpot_eq_none other ▸ .none, rfl⟩

theorem attachAdditional_fills {done : Unit} (regular : Regular documents before) (collected : Collected before id)
    (ran : (attachAdditional read pointer raw id).run before = some (done, after)) :
    Filled documents region (some id) before after ∧ ∃ additional,
      Option.Rel (Sum.LiftRel Eq (Comes documents after url)) (additionalSpot pointer raw) additional ∧
      (after.graph.node id).outline = { (before.graph.node id).outline with
        additional := additional.or (before.graph.node id).outline.additional } := by
  have welcomes : ∀ spot, additionalSpot pointer raw = some (.inr spot) → region.Welcomes documents url spot :=
    welcome.additional
  unfold attachAdditional at ran
  split at ran
  next flag found =>
    rw [additionalSpot_eq_flag found]
    cases ran
    have filled : Filled documents region (some id) before
        (before.change id (Attachment.additional (.allowed flag)).attach) :=
      .attach _ regular collected nofun
    refine ⟨filled, some (.inl flag), .some (.inl rfl), ?_⟩
    have changed : (before.change id (Attachment.additional (.allowed flag)).attach).graph.node id =
        (Attachment.additional (.allowed flag)).attach (before.graph.node id) := by
      rw [node_change, if_pos ⟨rfl, collected.inside⟩]
    exact (congrArg Node.outline changed).trans (outline_attach _ _)
  next entries found =>
    rw [additionalSpot_eq_schema found] at welcomes ⊢
    have stands := standing.under (by decide) (keywords_plain _ (by decide)).2 found
    obtain ⟨filled, edge, comes, drawn⟩ := attaching_fills (fun edge => .additional (.schema edge))
      (fun catalog edge regular comes other member => List.mem_singleton.mp member ▸ Comes.leading regular comes)
      (comes_endures url _) (reads (_, _) stands (welcomes _ rfl)) regular collected ran
    exact ⟨filled, some (.inr edge), .some (.inr comes), drawn⟩
  next otherFlag other =>
    cases ran
    exact ⟨.refl regular, none, additionalSpot_eq_none otherFlag other ▸ .none, rfl⟩

omit welcome in
theorem attachBranches_fills {keyword : String} (named : keyword ≠ "") (plain : Pointer.escape keyword = keyword)
    {attach : List Edge → Node → Node} (attachment : List Edge → Attachment)
    (attaches : ∀ edges, (attachment edges).attach = attach edges) (lists : ∀ edges, (attachment edges).edges = edges)
    (welcomes : ∀ branches ∈ branchSpots pointer raw keyword, ∀ branch ∈ branches,
      region.Welcomes documents url branch) {done : Unit} (regular : Regular documents before)
    (collected : Collected before id)
    (ran : (attachBranches read pointer raw keyword attach id).run before = some (done, after)) :
    Filled documents region (some id) before after ∧ ∃ branches,
      Option.Rel (List.Forall₂ (Comes documents after url)) (branchSpots pointer raw keyword) branches ∧
      (after.graph.node id).outline = (branches.map fun edges => (attachment edges).draw).getD (fun outline => outline)
        (before.graph.node id).outline := by
  unfold attachBranches at ran
  split at ran
  next items found =>
    rw [branchSpots_eq_some found] at welcomes ⊢
    simp only [← attaches] at ran
    have list := standing.under named plain found
    rw [← String.append_assoc] at list
    have each : Fills documents region (fun _ => True) (items.zipIdx.mapM fun item =>
        read (Pointer.item (pointer ++ "/" ++ keyword) item.2) item.1) fun catalog edges =>
        List.Forall₂ (fun item edge => Comes documents catalog url
          (Pointer.item (pointer ++ "/" ++ keyword) item.2, item.1) edge) items.zipIdx edges := by
      refine .mapM (fun item edge => comes_endures url _ edge) fun item member => ?_
      exact reads (_, _) (list.item (List.mem_zipIdx_iff_getElem?.mp member))
        (welcomes _ rfl _ (List.mem_map_of_mem member))
    obtain ⟨filled, edges, come, drawn⟩ := attaching_fills attachment (fun catalog edges regular come edge member => by
        rw [lists] at member
        obtain ⟨_, _, comes⟩ := come.exists_left member
        exact comes.leading regular)
      (fun edges _ _ regular moves come => come.imp fun _ _ comes => regular.comes moves comes)
      each regular collected ran
    exact ⟨filled, some edges, .some (List.forall₂_map_left_iff.mpr come), drawn⟩
  next other =>
    cases ran
    exact ⟨.refl regular, none, branchSpots_eq_none other ▸ .none, rfl⟩

/-- A node without subschemas gets the outline that is written. -/
theorem attachAll_fills {done : Unit} (regular : Regular documents before) (collected : Collected before id)
    (bare : (before.graph.node id).outline = {})
    (ran : (attachAll read pointer raw id).run before = some (done, after)) :
    Filled documents region (some id) before after ∧
      (spots pointer (.object raw)).Rel (Comes documents after url) (after.graph.node id).outline := by
  obtain ⟨_, first, ranProperties, ran⟩ := (StateT.run_bind_eq_some _ _ _ _).mp ran
  obtain ⟨_, second, ranItems, ran⟩ := (StateT.run_bind_eq_some _ _ _ _).mp ran
  obtain ⟨_, third, ranAdditional, ran⟩ := (StateT.run_bind_eq_some _ _ _ _).mp ran
  obtain ⟨_, fourth, ranAllOf, ran⟩ := (StateT.run_bind_eq_some _ _ _ _).mp ran
  obtain ⟨_, fifth, ranAnyOf, ranOneOf⟩ := (StateT.run_bind_eq_some _ _ _ _).mp ran
  obtain ⟨namedAll, plainAll⟩ := keywords_plain "allOf" (by decide)
  obtain ⟨namedAny, plainAny⟩ := keywords_plain "anyOf" (by decide)
  obtain ⟨namedOne, plainOne⟩ := keywords_plain "oneOf" (by decide)
  obtain ⟨filledFirst, properties, relProperties, drawnFirst⟩ :=
    attachProperties_fills reads standing welcome regular collected ranProperties
  have collectedFirst := filledFirst.moves.grows.collected collected
  obtain ⟨filledSecond, items, relItems, drawnSecond⟩ :=
    attachItems_fills reads standing welcome filledFirst.regular collectedFirst ranItems
  have collectedSecond := filledSecond.moves.grows.collected collectedFirst
  obtain ⟨filledThird, additional, relAdditional, drawnThird⟩ :=
    attachAdditional_fills reads standing welcome filledSecond.regular collectedSecond ranAdditional
  have collectedThird := filledThird.moves.grows.collected collectedSecond
  obtain ⟨filledFourth, allOf, relAllOf, drawnFourth⟩ := attachBranches_fills reads standing namedAll plainAll .allOf
    (fun _ => rfl) (fun _ => rfl) welcome.allOf filledThird.regular collectedThird ranAllOf
  have collectedFourth := filledFourth.moves.grows.collected collectedThird
  obtain ⟨filledFifth, anyOf, relAnyOf, drawnFifth⟩ := attachBranches_fills reads standing namedAny plainAny .anyOf
    (fun _ => rfl) (fun _ => rfl) welcome.anyOf filledFourth.regular collectedFourth ranAnyOf
  have collectedFifth := filledFifth.moves.grows.collected collectedFourth
  obtain ⟨filledLast, oneOf, relOneOf, drawnLast⟩ := attachBranches_fills reads standing namedOne plainOne .oneOf
    (fun _ => rfl) (fun _ => rfl) welcome.oneOf filledFifth.regular collectedFifth ranOneOf
  have inside {catalog : Catalog} (collected : Collected catalog id) other (same : some id = some other) :
      other < catalog.graph.size := Option.some.inj same ▸ collected.inside
  have fromFourth := filledFifth.trans filledLast (inside collectedFourth)
  have fromThird := filledFourth.trans fromFourth (inside collectedThird)
  have fromSecond := filledThird.trans fromThird (inside collectedSecond)
  have fromFirst := filledSecond.trans fromSecond (inside collectedFirst)
  have outline : (after.graph.node id).outline = { properties, items, additional, allOf, anyOf, oneOf } := by
    have lists (branches : Option (List Edge)) (outline : Outline Edge) :
        (branches.map fun edges => (Attachment.allOf edges).draw).getD (fun outline => outline) outline =
            { outline with allOf := branches.or outline.allOf } ∧
          (branches.map fun edges => (Attachment.anyOf edges).draw).getD (fun outline => outline) outline =
            { outline with anyOf := branches.or outline.anyOf } ∧
          (branches.map fun edges => (Attachment.oneOf edges).draw).getD (fun outline => outline) outline =
            { outline with oneOf := branches.or outline.oneOf } := by
      cases branches <;> exact ⟨rfl, rfl, rfl⟩
    rw [drawnLast, (lists _ _).2.2, drawnFifth, (lists _ _).2.1, drawnFourth, (lists _ _).1, drawnThird, drawnSecond,
      drawnFirst, bare]
    simp only [Option.or_none]
  refine ⟨filledFirst.trans fromFirst (inside collected), outline ▸ ⟨?_, ?_, ?_, ?_, ?_, ?_⟩⟩
  · exact relProperties.imp fun _ _ tables => tables.imp fun _ _ both =>
      ⟨both.1, filledFirst.regular.comes fromFirst.moves both.2⟩
  · exact relItems.imp fun _ _ => filledSecond.regular.comes fromSecond.moves
  · exact relAdditional.imp fun _ _ lifted =>
      lifted.mono (fun _ _ same => same) fun _ _ => filledThird.regular.comes fromThird.moves
  · exact relAllOf.imp fun _ _ lists => lists.imp fun _ _ => filledFourth.regular.comes fromFourth.moves
  · exact relAnyOf.imp fun _ _ lists => lists.imp fun _ _ => filledFifth.regular.comes filledLast.moves
  · exact relOneOf

end

theorem identity_identified_ne_none {node : Node} {identity : Option String} (given : identity ≠ none) :
    (node.identified identity).identity ≠ none := by
  unfold Node.identified
  split
  · exact given
  next known => simpa using known

/-! ### Readings that lead on to each other -/

/-- What the three kinds of readings that lead on to each other answer, and where they stay. -/
structure FillsWithin (documents : DocumentSet) (region : Region) (fuel : Nat) : Prop where
  edge : ∀ url pointer value, Standing documents url pointer value → region.Welcomes documents url (pointer, value) →
    Fills documents region (fun _ => True) (edge documents fuel url pointer value) fun catalog edge =>
      Comes documents catalog url (pointer, value) edge
  follow : ∀ origin base current passed, Cited documents base current →
    (Unresolvable documents base current passed → Dangling documents origin.url origin.pointer origin.reference) →
    (∀ target length, Ends documents base current target length →
      region.place target.location ∧ region.named target.location) →
    Fills documents region (fun _ => True) (follow documents fuel origin base current passed) fun catalog id =>
      Lands documents catalog base current passed id
  build : ∀ url pointer value identity, Builds documents url pointer value → reference? value = none →
    IsOwn url pointer identity → region.place (locationOf url pointer) →
    (identity ≠ none → region.named (locationOf url pointer)) →
    Fills documents region (fun _ => True) (build documents fuel url pointer value identity) fun catalog id =>
      Present catalog (locationOf url pointer) id ∧ (identity ≠ none → (catalog.graph.node id).identity ≠ none)

namespace FillsWithin

theorem edge_succ (within : FillsWithin documents region fuel) (standing : Standing documents url pointer value)
    (welcome : region.Welcomes documents url (pointer, value)) :
    Fills documents region (fun _ => True) (Reading.edge documents (fuel + 1) url pointer value) fun catalog edge =>
      Comes documents catalog url (pointer, value) edge := by
  rw [Reading.edge]
  split
  next reference written =>
    have dangles (lost : Unresolvable documents url reference []) : Dangling documents url pointer reference :=
      ⟨⟨value, standing, written⟩, lost⟩
    refine .bind (fun _ _ _ _ _ => trivial) (within.follow ⟨url, pointer, reference⟩ url reference []
      ⟨_, _, standing, written⟩ dangles (welcome.reference reference written)) fun id => .pure fun _ _ both => ?_
    exact .reference written both.2
  next plain =>
    have own : IsOwn url pointer none := by
      rintro _ ⟨⟩
    refine .bind (fun _ _ _ _ _ => trivial) (within.build url pointer value none (.standing standing) plain own
      (welcome.inline plain) fun given => absurd rfl given) fun id => .pure fun _ _ both => ?_
    exact .inline plain both.2.1

section

variable (navigable : Navigable documents) (stored : Stored documents)

include navigable stored

/-- A node that is found on the way: a schema, or the placeholder of another reference that ends nowhere. -/
theorem identify_fills {base current : String} {passed : List String} {target : DocumentSet.Target}
    (cited : Cited documents base current) (resolved : documents.resolve? base current = some target)
    (welcome : ∀ target length, Ends documents base current target length →
      region.place target.location ∧ region.named target.location) :
    Fills documents region (fun catalog => Bound target.location catalog id)
      (identify id (some target.location) >>= fun _ => Pure.pure id) fun catalog id =>
        Lands documents catalog base current passed id := by
  intro before result after regular bound ran
  obtain ⟨_, _, identified, answered⟩ := (StateT.run_bind_eq_some _ _ _ _).mp ran
  cases identified
  cases answered
  have landed := cited.landed resolved
  obtain ⟨rest, cut, spelled⟩ := splitReference_location target.url target.pointer
  rw [← DocumentSet.Target.location] at cut spelled
  rw [cut] at landed
  have ends (sound : before.deferred.find? id = none) : reference? target.value = none :=
    regular.plain _ _ _ id landed ⟨spelled.symm ▸ bound, sound⟩
  have filled : Filled documents region none before
      (before.change id fun node => node.identified (some target.location)) := by
    refine .identify regular (fun location same => Option.some.inj same ▸ bound) fun location same present => ?_
    cases same
    exact (welcome _ _ (.here resolved (ends present.sound))).2
  refine ⟨filled, ?_⟩
  by_cases sound : before.deferred.find? id = none
  · refine .reached (.here resolved (ends sound)) ⟨bound, sound⟩ ?_
    have inside := regular.built.lookup_lt bound
    change ((before.change id fun node => node.identified (some target.location)).graph.node id).identity ≠ none
    rw [node_change, if_pos ⟨rfl, inside⟩]
    exact identity_identified_ne_none (Option.some_ne_none _)
  · obtain ⟨url, pointer, reference, dangling, same⟩ := regular.dangling bound sound
    obtain ⟨value, standing, written⟩ := dangling.stands
    obtain ⟨rfl, rfl, rfl⟩ := navigable.value_eq stored (.standing standing) landed (same.symm.trans spelled.symm)
    refine .lost (.onward resolved written ?_) sound
    rw [cut]
    exact dangling.unresolvable.mono (List.nil_subset _)

theorem follow_succ (within : FillsWithin documents region fuel) {origin : Origin} {base current : String}
    {passed : List String} (cited : Cited documents base current)
    (dangles : Unresolvable documents base current passed →
      Dangling documents origin.url origin.pointer origin.reference)
    (welcome : ∀ target length, Ends documents base current target length →
      region.place target.location ∧ region.named target.location) :
    Fills documents region (fun _ => True) (Reading.follow documents (fuel + 1) origin base current passed)
      fun catalog id => Lands documents catalog base current passed id := by
  rw [Reading.follow]
  split
  next missing =>
    exact (unresolved_fills (dangles (.missing missing))).weaken (fun _ _ => trivial) fun _ _ lost =>
      .lost (.missing missing) lost
  next target resolved =>
    refine fills_lookup (fun id => identify_fills navigable stored cited resolved welcome) ?_
    dsimp only
    split
    next again =>
      have circular : Unresolvable documents base current passed := .circular resolved (by simpa using again)
      exact (unresolved_fills (dangles circular)).weaken (fun _ _ => trivial) fun _ _ lost => .lost circular lost
    · split
      next next written =>
        refine (within.follow origin _ next _ (cited.onward resolved written)
          (fun lost => dangles (.onward resolved written lost))
          fun target length ends => welcome target _ (.onward resolved written ends)).weaken (fun _ _ => trivial) ?_
        intro catalog id lands
        cases lands with
        | reached ends present named => exact .reached (.onward resolved written ends) present named
        | lost lost spoiled => exact .lost (.onward resolved written lost) spoiled
      next plain =>
        obtain ⟨rest, cut, spelled⟩ := splitReference_location target.url target.pointer
        rw [← DocumentSet.Target.location] at cut spelled
        have landed := cited.landed resolved
        rw [cut] at landed ⊢
        obtain ⟨inside, named⟩ := welcome target _ (.here resolved plain)
        rw [← spelled] at inside named
        refine (within.build _ _ _ (some target.location) (.standing landed) plain ?_ inside fun _ => named).weaken
          (fun _ _ => trivial) fun catalog id both => ?_
        · rintro location ⟨⟩
          exact spelled.symm
        · refine .reached (.here resolved plain) ?_ (both.2 (Option.some_ne_none _))
          rw [← spelled]
          exact both.1

section

variable {identity : Option String} (builds : Builds documents url pointer value) (plain : reference? value = none)
  (own : IsOwn url pointer identity)

include builds plain

/-- What is found at the node of a value is that value, and so no reference. -/
theorem plain_of_present {other place : String} {inner : Value} (standing : Standing documents other place inner)
    {placed : Catalog} (signed : Signed placed.graph) (bound : placed.graph.lookup (locationOf url pointer) = some id)
    (present : Present placed (locationOf other place) id) : reference? inner = none := by
  have same : locationOf url pointer = locationOf other place := by
    rw [← ((signed.located _ _).mp bound).2, ← ((signed.located _ _).mp present.bound).2]
  obtain ⟨_, _, rfl⟩ := navigable.value_eq stored builds standing same
  exact plain

include own

/-- A schema that has a node is known by its name from here on. -/
theorem identify_built_fills (named : identity ≠ none → region.named (locationOf url pointer)) :
    Fills documents region (fun catalog => Bound (locationOf url pointer) catalog id)
      (identify id identity >>= fun _ => Pure.pure id) fun catalog id =>
        Present catalog (locationOf url pointer) id ∧ (identity ≠ none → (catalog.graph.node id).identity ≠ none) := by
  intro before result after regular bound ran
  obtain ⟨_, _, identified, answered⟩ := (StateT.run_bind_eq_some _ _ _ _).mp ran
  cases identified
  cases answered
  have present := regular.present_of_plain navigable stored builds plain bound
  have filled : Filled documents region none before (before.change id fun node => node.identified identity) :=
    .identify regular (fun location same => own location same ▸ bound) fun location same _ =>
      own location same ▸ named (same ▸ Option.some_ne_none _)
  refine ⟨filled, ⟨present.bound, present.sound⟩, fun given => ?_⟩
  change ((before.change id fun node => node.identified identity).graph.node id).identity ≠ none
  rw [node_change, if_pos ⟨rfl, regular.built.lookup_lt bound⟩]
  exact identity_identified_ne_none given

variable (inside : region.place (locationOf url pointer))
  (named : identity ≠ none → region.named (locationOf url pointer)) (regular : Regular documents before)
  (free : before.graph.lookup (locationOf url pointer) = none)

include inside named regular free

/-- What is no object gets a node without subschemas. -/
theorem placeholder_fills (hollow : value.asObject? = none) :
    Filled documents region none before (before.place url pointer (.placeholder url pointer identity)) ∧
      Present (before.place url pointer (.placeholder url pointer identity)) (locationOf url pointer) before.graph.size ∧
      (identity ≠ none → ((before.place url pointer (.placeholder url pointer identity)).graph.node
        before.graph.size).identity ≠ none) := by
  have move := Move.hollow free builds hollow own
  have bound := lookup_place_self before url pointer (Node.placeholder url pointer identity)
  have present : Present (before.place url pointer (.placeholder url pointer identity)) (locationOf url pointer)
      before.graph.size := ⟨bound, regular.moves.represents.find?_size⟩
  have node := node_place_self before url pointer (.placeholder url pointer identity)
  have signed := move.signed regular.moves.represents.signed
  refine ⟨.place regular move (fun _ _ _ standing there => ?_) rfl (.schema builds present ?_)
    (fun _ => ⟨inside, named⟩), present, fun given => ?_⟩
  · exact plain_of_present navigable stored builds plain standing signed bound there
  · rw [spots_eq_empty hollow, congrArg Node.outline node]
    exact .empty _
  · rw [node]
    exact given

end

/-- An object gets a node of its own, to which all its subschemas are attached. -/
theorem schema_fills (within : FillsWithin documents region fuel) (closed : region.Closed documents)
    {identity : Option String} {raw : Assoc Value} (builds : Builds documents url pointer (.object raw))
    (plain : reference? (.object raw) = none) (own : IsOwn url pointer identity)
    (inside : region.place (locationOf url pointer))
    (named : identity ≠ none → region.named (locationOf url pointer)) (regular : Regular documents before)
    (free : before.graph.lookup (locationOf url pointer) = none) {done : Unit}
    (attached : (attachAll (Reading.edge documents fuel url) pointer raw before.graph.size).run
      ((before.place url pointer (nodeOf (.within url pointer) identity raw)).collect
        (nodeOf (.within url pointer) identity raw).kind before.graph.size) = some (done, after)) :
    Filled documents region none before after ∧ Present after (locationOf url pointer) before.graph.size ∧
      (identity ≠ none → (after.graph.node before.graph.size).identity ≠ none) := by
  let node := nodeOf (.within url pointer) identity raw
  let placed := (before.place url pointer node).collect node.kind before.graph.size
  have move : Move documents before placed := .schema free builds.object own
  have signed : Signed placed.graph := move.signed regular.moves.represents.signed
  have bound : placed.graph.lookup (locationOf url pointer) = some before.graph.size :=
    lookup_place_self before url pointer node
  have regularPlaced : Regular documents placed := regular.step move fun _ _ _ standing present =>
    plain_of_present navigable stored builds plain standing signed bound present
  have collected : Collected placed before.graph.size := by
    refine ⟨known_place before url pointer node, ?_⟩
    change before.graph.size ∈
      placed.collections.ofKind ((before.place url pointer node).graph.node before.graph.size).kind
    rw [node_place_self]
    exact mem_ofKind_add.mpr (.inr ⟨rfl, rfl⟩)
  have bare : (placed.graph.node before.graph.size).outline = {} :=
    congrArg Node.outline (node_place_self before url pointer node)
  obtain ⟨filled, alike⟩ := attachAll_fills
    (fun spot standing welcome => within.edge url spot.1 spot.2 standing welcome)
    builds.object (closed url pointer _ builds plain inside) regularPlaced collected bare attached
  have present : Present after (locationOf url pointer) before.graph.size :=
    regularPlaced.present filled.moves ⟨bound, regular.moves.represents.find?_size⟩
  have size : placed.graph.size = before.graph.size + 1 := size_place before url pointer node
  refine ⟨⟨filled.regular, filled.moves.head move, fun other below _ => ?_, fun other above below => ?_,
    fun covers => filled.covers (covers.place regular.built move rfl fun _ => ⟨inside, named⟩)⟩, present,
      fun given => ?_⟩
  · rw [filled.kept other (by omega) fun same => absurd (Option.some.inj same) (Nat.ne_of_lt below)]
    exact congrArg Node.outline (node_place_of_ne (Nat.ne_of_lt below))
  · by_cases own : other = before.graph.size
    · subst own
      exact .schema builds present alike
    · exact filled.drawn other (by omega) below
  · refine filled.moves.named ?_
    change ((before.place url pointer node).graph.node before.graph.size).identity ≠ none
    rw [node_place_self]
    exact given

theorem build_succ (within : FillsWithin documents region fuel) (closed : region.Closed documents)
    {identity : Option String} (builds : Builds documents url pointer value) (plain : reference? value = none)
    (own : IsOwn url pointer identity) (inside : region.place (locationOf url pointer))
    (named : identity ≠ none → region.named (locationOf url pointer)) :
    Fills documents region (fun _ => True) (Reading.build documents (fuel + 1) url pointer value identity)
      fun catalog id => Present catalog (locationOf url pointer) id ∧
        (identity ≠ none → (catalog.graph.node id).identity ≠ none) := by
  rw [Reading.build]
  dsimp only
  refine fills_lookup (fun id => identify_built_fills navigable stored builds plain own named) ?_
  intro before id after regular free ran
  cases value with
  | object raw =>
      obtain ⟨_, _, added, later⟩ := (StateT.run_bind_eq_some _ _ _ _).mp ran
      obtain ⟨_, _, collecting, later⟩ := (StateT.run_bind_eq_some _ _ _ _).mp later
      obtain ⟨_, _, attached, answered⟩ := (StateT.run_bind_eq_some _ _ _ _).mp later
      cases added
      cases collecting
      cases answered
      exact schema_fills navigable stored within closed builds plain own inside named regular free attached
  | null | bool flag | number n | string text | array items =>
      cases ran
      exact placeholder_fills navigable stored builds plain own inside named regular free rfl

end

end FillsWithin

theorem fillsWithin (navigable : Navigable documents) (stored : Stored documents) (closed : region.Closed documents)
    (fuel : Nat) : FillsWithin documents region fuel := by
  induction fuel with
  | zero =>
      constructor <;> (intros; intro _ _ _ _ _ ran; cases ran)
  | succ fuel ih =>
      constructor
      · exact fun _ _ _ standing welcome => ih.edge_succ standing welcome
      · exact fun _ _ _ _ cited dangles welcome => ih.follow_succ navigable stored cited dangles welcome
      · exact fun _ _ _ _ builds plain own inside named =>
          ih.build_succ navigable stored closed builds plain own inside named

end Reading

end ApiContract.Schema
