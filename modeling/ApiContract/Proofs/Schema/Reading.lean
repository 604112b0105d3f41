import ApiContract.Proofs.Related
import ApiContract.Proofs.Schema.Moves

/-!
Runs of readings are chains of moves, and what they answer are schemas of the graph (`Ensures`). An edge leads to the
schema at its place, or to where a chain of references comes to (`Led`).
-/

namespace ApiContract.Schema.Reading

open Json (Value)

variable {α β : Type} {documents : DocumentSet}

/-- From catalogs with some property, the reading only takes moves, and answers what is asked for. -/
def Ensures (documents : DocumentSet) (pre : Catalog → Prop) (read : Reading α) (good : Catalog → α → Prop) : Prop :=
  ∀ before result after, Built before → pre before → read.run before = some (result, after) →
    Moves documents before after ∧ good after result

def Lasts (holds : Catalog → Prop) : Prop :=
  ∀ before after, Grows before after → holds before → holds after

def Known (catalog : Catalog) (id : Nat) : Prop := id < catalog.graph.size

theorem known_lasts (id : Nat) : Lasts fun catalog => Known catalog id :=
  fun _ _ grows known => Nat.lt_of_lt_of_le known grows.size_le

theorem collected_lasts (id : Nat) : Lasts fun catalog => Collected catalog id :=
  fun _ _ grows collected => grows.collected collected

def Bound (location : String) (catalog : Catalog) (id : Nat) : Prop := catalog.graph.lookup location = some id

theorem trivial_lasts : Lasts fun _ => True := fun _ _ _ _ => trivial

theorem Lasts.and {first second : Catalog → Prop} (lasts : Lasts first) (lastsToo : Lasts second) :
    Lasts fun catalog => first catalog ∧ second catalog :=
  fun _ _ grows both => ⟨lasts _ _ grows both.1, lastsToo _ _ grows both.2⟩

theorem Lasts.forall₂ {items : List α} {results : List β} {holds : Catalog → α → β → Prop}
    (each : ∀ item result, Lasts fun catalog => holds catalog item result) :
    Lasts fun catalog => List.Forall₂ (holds catalog) items results :=
  fun _ _ grows all => all.imp fun item result held => each item result _ _ grows held

namespace Ensures

variable {pre : Catalog → Prop} {good : Catalog → α → Prop} {goodNext : Catalog → β → Prop}

theorem pure {result : α} (holds : ∀ catalog, pre catalog → good catalog result) :
    Ensures documents pre (pure result) good := by
  intro before _ _ _ start ran
  cases ran
  exact ⟨.refl, holds before start⟩

theorem bind {read : Reading α} {next : α → Reading β} (lasts : Lasts pre) (first : Ensures documents pre read good)
    (later : ∀ result, Ensures documents (fun catalog => pre catalog ∧ good catalog result) (next result) goodNext) :
    Ensures documents pre (read >>= next) goodNext := by
  intro before last after built start ran
  obtain ⟨result, middle, firstRan, laterRan⟩ := (StateT.run_bind_eq_some _ _ _ _).mp ran
  obtain ⟨moves, holds⟩ := first before result middle built start firstRan
  obtain ⟨movesOn, holdsNext⟩ :=
    later result middle last after (built.trans moves.grows) ⟨lasts _ _ moves.grows start, holds⟩ laterRan
  exact ⟨moves.trans movesOn, holdsNext⟩

theorem weaken {stronger : Catalog → Prop} {read : Reading α} {more : Catalog → α → Prop}
    (ensures : Ensures documents pre read good) (strong : ∀ catalog, stronger catalog → pre catalog)
    (weak : ∀ catalog result, good catalog result → more catalog result) : Ensures documents stronger read more := by
  intro before result after built start ran
  obtain ⟨moves, holds⟩ := ensures before result after built (strong before start) ran
  exact ⟨moves, weak _ _ holds⟩

theorem strengthen {stronger : Catalog → Prop} {read : Reading α} (ensures : Ensures documents pre read good)
    (strong : ∀ catalog, stronger catalog → pre catalog) : Ensures documents stronger read good :=
  ensures.weaken strong fun _ _ holds => holds

theorem anywhere {read : Reading α} (ensures : Ensures documents (fun _ => True) read good) :
    Ensures documents pre read good :=
  ensures.strengthen fun _ _ => trivial

theorem move {change : Catalog → Catalog} (moves : ∀ catalog, pre catalog → Move documents catalog (change catalog)) :
    Ensures documents pre (modify change) fun _ _ => True := by
  intro before _ after built start ran
  cases ran
  exact ⟨.single (moves before start), trivial⟩

theorem mapM {items : List α} {visit : α → Reading β} {each : Catalog → α → β → Prop} (lasts : Lasts pre)
    (lastsEach : ∀ item result, Lasts fun catalog => each catalog item result)
    (ensures : ∀ item ∈ items, Ensures documents pre (visit item) fun catalog result => each catalog item result) :
    Ensures documents pre (items.mapM visit) fun catalog results => List.Forall₂ (each catalog) items results := by
  induction items with
  | nil =>
      rw [List.mapM_nil]
      exact .pure fun _ _ => .nil
  | cons item rest ih =>
      rw [List.mapM_cons]
      refine .bind lasts (ensures item List.mem_cons_self) fun result => ?_
      have others := ih fun item member => ensures item (List.mem_cons_of_mem _ member)
      have kept := lasts.and (lastsEach item result)
      refine .bind kept (others.strengthen fun _ both => both.1) fun results => ?_
      exact .pure fun _ both => .cons both.1.2 both.2

/-- Every answer is good, whatever item it is for. -/
theorem mapM_mem {items : List α} {visit : α → Reading β} (lasts : Lasts pre)
    (lastsEach : ∀ result, Lasts fun catalog => goodNext catalog result)
    (ensures : ∀ item ∈ items, Ensures documents pre (visit item) goodNext) :
    Ensures documents pre (items.mapM visit) fun catalog results => ∀ result ∈ results, goodNext catalog result := by
  have each : Ensures documents pre (items.mapM visit) fun catalog results =>
      List.Forall₂ (fun _ => goodNext catalog) items results := .mapM lasts (fun _ => lastsEach) ensures
  refine each.weaken (fun _ start => start) fun catalog results all result member => ?_
  obtain ⟨_, _, good⟩ := all.exists_left member
  exact good

/-- What one visit ensures lasts through those that come after it. -/
theorem forM_each {items : List α} {visit : α → Reading PUnit} {each : Catalog → α → Prop} (lasts : Lasts pre)
    (lastsEach : ∀ item, Lasts fun catalog => each catalog item)
    (ensures : ∀ item ∈ items, Ensures documents pre (visit item) fun catalog _ => each catalog item) :
    Ensures documents pre (items.forM visit) fun catalog _ => ∀ item ∈ items, each catalog item := by
  induction items with
  | nil => exact .pure fun _ _ _ listed => absurd listed List.not_mem_nil
  | cons item rest ih =>
      change Ensures documents pre (visit item >>= fun _ => rest.forM visit) _
      refine .bind lasts (ensures item List.mem_cons_self) fun _ => ?_
      have others := ih fun item member => ensures item (List.mem_cons_of_mem _ member)
      intro before result after built start ran
      obtain ⟨moves, all⟩ := others before result after built start.1 ran
      exact ⟨moves, List.forall_mem_cons.mpr ⟨lastsEach item _ _ moves.grows start.2, all⟩⟩

theorem forM {items : List α} {visit : α → Reading PUnit} (lasts : Lasts pre)
    (ensures : ∀ item ∈ items, Ensures documents pre (visit item) fun _ _ => True) :
    Ensures documents pre (items.forM visit) fun _ _ => True :=
  (forM_each lasts (fun _ => trivial_lasts) ensures).weaken (fun _ start => start) fun _ _ _ => trivial

theorem known {read : Reading Nat} {location : String} (ensures : Ensures documents pre read (Bound location)) :
    Ensures documents pre read Known := by
  intro before id after built start ran
  obtain ⟨moves, bound⟩ := ensures before id after built start ran
  exact ⟨moves, Built.lookup_lt (built.trans moves.grows) bound⟩

end Ensures

def Leading (catalog : Catalog) (edge : Edge) : Prop := Known catalog edge.target

theorem known_place (catalog : Catalog) (url pointer : String) (node : Node) :
    Known (catalog.place url pointer node) catalog.graph.size := by
  rw [Known, size_place]
  exact Nat.lt_succ_self _

/-! ## What references lead to -/

/-- Where a reference comes to: the first location on its way that has a node. A reference that leads nowhere, or back to
a location that was passed, comes to the location that it was written at. -/
inductive Follows (documents : DocumentSet) (catalog : Catalog) (own : String) :
    String → String → List String → Nat → Prop
  | missing {base current passed id} : documents.resolve? base current = none →
      catalog.graph.lookup own = some id → Follows documents catalog own base current passed id
  | found {base current passed target id} : documents.resolve? base current = some target →
      catalog.graph.lookup target.location = some id → Follows documents catalog own base current passed id
  | circular {base current passed target id} : documents.resolve? base current = some target →
      target.location ∈ passed → catalog.graph.lookup own = some id → Follows documents catalog own base current passed id
  | onward {base current passed target next id} : documents.resolve? base current = some target →
      target.location ∉ passed → reference? target.value = some next →
      Follows documents catalog own (Url.splitReference target.location).1 next (target.location :: passed) id →
      Follows documents catalog own base current passed id

/-- The edge leads to the node of the schema at its place, or to where the reference there comes to. -/
inductive Led (documents : DocumentSet) (url pointer : String) (value : Value) (catalog : Catalog) : Edge → Prop
  | inline {id} : reference? value = none → catalog.graph.lookup (locationOf url pointer) = some id →
      Led documents url pointer value catalog (.inline id)
  | reference {reference id} : reference? value = some reference →
      Follows documents catalog (locationOf url pointer) url reference [] id →
      Led documents url pointer value catalog (.reference id)

theorem Follows.lasts {own base current : String} {passed : List String} {id : Nat} :
    Lasts fun catalog => Follows documents catalog own base current passed id := by
  intro before after grows follows
  induction follows with
  | missing lost bound => exact .missing lost (grows.lookup bound)
  | found resolved bound => exact .found resolved (grows.lookup bound)
  | circular resolved again bound => exact .circular resolved again (grows.lookup bound)
  | onward resolved new written _ ih => exact .onward resolved new written ih

theorem Follows.known {catalog : Catalog} {own base current : String} {passed : List String} {id : Nat}
    (follows : Follows documents catalog own base current passed id) (built : Built catalog) : Known catalog id := by
  induction follows with
  | missing _ bound | found _ bound | circular _ _ bound => exact built.lookup_lt bound
  | onward _ _ _ _ ih => exact ih

theorem Led.lasts {url pointer : String} {value : Value} {edge : Edge} :
    Lasts fun catalog => Led documents url pointer value catalog edge := by
  intro before after grows led
  cases led with
  | inline plain bound => exact .inline plain (grows.lookup bound)
  | reference written follows => exact .reference written (follows.lasts _ _ grows)

theorem Led.leading {catalog : Catalog} {url pointer : String} {value : Value} {edge : Edge}
    (led : Led documents url pointer value catalog edge) (built : Built catalog) : Leading catalog edge := by
  cases led with
  | inline _ bound => exact built.lookup_lt bound
  | reference _ follows => exact follows.known built

theorem Ensures.leading {pre : Catalog → Prop} {read : Reading Edge} {url pointer : String} {value : Value}
    (ensures : Ensures documents pre read (Led documents url pointer value)) : Ensures documents pre read Leading := by
  intro before edge after built start ran
  obtain ⟨moves, led⟩ := ensures before edge after built start ran
  exact ⟨moves, led.leading (built.trans moves.grows)⟩

/-! ## Subschemas -/

/-- Reads on from a location that has a node, or from one that has none. -/
theorem ensures_lookup {location : String} {next : Option Nat → Reading α} {good : Catalog → α → Prop}
    (bound : ∀ id, Ensures documents (fun catalog => Bound location catalog id) (next (some id)) good)
    (free : Ensures documents (fun catalog => catalog.graph.lookup location = none) (next none) good) :
    Ensures documents (fun _ => True) (lookup location >>= next) good := by
  intro before result after built _ ran
  obtain ⟨found, _, looked, later⟩ := (StateT.run_bind_eq_some _ _ _ _).mp ran
  cases looked
  cases known : before.graph.lookup location with
  | none =>
      rw [known] at later
      exact free before result after built known later
  | some id =>
      rw [known] at later
      exact bound id before result after built known later

theorem unresolved_ensures {url pointer reference : String} (dangling : Dangling documents url pointer reference) :
    Ensures documents (fun _ => True) (unresolved url pointer reference) (Bound (locationOf url pointer)) := by
  unfold unresolved
  dsimp only
  refine ensures_lookup (fun id => .pure fun _ bound => bound) ?_
  intro before id after _ free ran
  obtain ⟨_, _, added, later⟩ := (StateT.run_bind_eq_some _ _ _ _).mp ran
  obtain ⟨_, _, spoiled, answered⟩ := (StateT.run_bind_eq_some _ _ _ _).mp later
  cases added
  cases spoiled
  cases answered
  exact ⟨.single (.dangling free dangling), lookup_place_self before url pointer _⟩

/-- A node is named by a location that it is found at. -/
theorem identify_ensures {id : Nat} {identity : Option String} :
    Ensures documents (fun catalog => ∀ location, identity = some location → Bound location catalog id)
      (identify id identity) fun _ _ => True :=
  .move fun _ bound => .identify bound

theorem bound_lasts (location : String) (id : Nat) : Lasts fun catalog => Bound location catalog id :=
  fun _ _ grows bound => grows.lookup bound

section

variable {read : ReadEdge} {url pointer : String} {raw : Assoc Value}
  (reads : ∀ place value, Standing documents url place value →
    Ensures documents (fun _ => True) (read place value) Leading)
  (standing : Standing documents url pointer (.object raw)) (id : Nat)

include reads

theorem reads_of_collected {place : String} {value : Value} (stands : Standing documents url place value) :
    Ensures documents (fun catalog => Collected catalog id) (read place value) Leading :=
  (reads place value stands).anywhere

omit reads in
theorem attach_ensures (attachment : Attachment) {pre : Catalog → Prop}
    (collected : ∀ catalog, pre catalog → Collected catalog id)
    (leads : ∀ catalog, pre catalog → ∀ edge ∈ attachment.edges, Leading catalog edge) :
    Ensures documents pre (modifyNode id attachment.attach) fun _ _ => True :=
  .move fun catalog holds => .attach attachment (collected catalog holds) (leads catalog holds)

include standing

/-- What properties are read from leads to schemas of the graph. -/
theorem readProperties_ensures {entries : Assoc Value} (found : Assoc.find? raw "properties" = some (.object entries)) :
    Ensures documents (fun catalog => Collected catalog id) (entries.mapM fun entry => do
      return (entry.1, ← read (Pointer.child (pointer ++ "/properties") entry.1) entry.2))
      fun catalog properties => ∀ edge ∈ (Attachment.properties properties).edges, Leading catalog edge := by
  have spelled : Pointer.child pointer "properties" = pointer ++ "/properties" :=
    Pointer.child_of_plain (keywords_plain _ (by decide)).2 pointer
  have table : Standing documents url (Pointer.child pointer "properties") (.object entries) :=
    standing.keyword (by decide) found
  have each : Ensures documents (fun catalog => Collected catalog id) (entries.mapM fun entry => do
      return (entry.1, ← read (Pointer.child (pointer ++ "/properties") entry.1) entry.2))
      fun catalog properties => List.Forall₂ (fun _ property => Leading catalog property.2) entries properties := by
    refine .mapM (collected_lasts id) (fun _ property => known_lasts property.2.target) fun entry member => ?_
    have stands : Standing documents url (Pointer.child (pointer ++ "/properties") entry.1) entry.2 := by
      rw [← spelled]
      exact table.nested member
    refine .bind (collected_lasts id) (reads_of_collected reads id stands) fun edge => ?_
    exact .pure fun _ both => both.2
  refine each.weaken (fun _ collected => collected) fun catalog properties leads edge member => ?_
  obtain ⟨property, listed, rfl⟩ := List.mem_map.mp member
  obtain ⟨_, _, known⟩ := leads.exists_left listed
  exact known

theorem attachProperties_ensures :
    Ensures documents (fun catalog => Collected catalog id) (attachProperties read pointer raw id) fun _ _ => True := by
  unfold attachProperties
  split
  next entries found =>
    refine .bind (collected_lasts id) (readProperties_ensures reads standing id found) fun properties => ?_
    exact attach_ensures id (.properties properties) (fun _ both => both.1) fun _ both => both.2
  · exact .pure fun _ _ => trivial

theorem attachItems_ensures :
    Ensures documents (fun catalog => Collected catalog id) (attachItems read pointer raw id) fun _ _ => True := by
  unfold attachItems
  split
  next entries found =>
    have stands := standing.under (by decide) (keywords_plain _ (by decide)).2 found
    refine .bind (collected_lasts id) (reads_of_collected reads id stands) fun edge => ?_
    refine attach_ensures id (.items edge) (fun _ both => both.1) fun catalog both other member => ?_
    rw [List.mem_singleton.mp member]
    exact both.2
  · exact .pure fun _ _ => trivial

theorem attachAdditional_ensures :
    Ensures documents (fun catalog => Collected catalog id) (attachAdditional read pointer raw id) fun _ _ => True := by
  unfold attachAdditional
  split
  next flag _ =>
    exact attach_ensures id (.additional (.allowed flag)) (fun _ collected => collected)
      fun _ _ _ absurd => by cases absurd
  next entries found =>
    have stands := standing.under (by decide) (keywords_plain _ (by decide)).2 found
    refine .bind (collected_lasts id) (reads_of_collected reads id stands) fun edge => ?_
    refine attach_ensures id (.additional (.schema edge)) (fun _ both => both.1)
      fun catalog both other member => ?_
    rw [List.mem_singleton.mp member]
    exact both.2
  · exact .pure fun _ _ => trivial

/-- What branches are read from leads to schemas of the graph. -/
theorem readBranches_ensures {keyword : String} (named : keyword ≠ "") (plain : Pointer.escape keyword = keyword)
    {items : List Value} (found : Assoc.find? raw keyword = some (.array items)) :
    Ensures documents (fun catalog => Collected catalog id) (items.zipIdx.mapM fun item =>
      read (Pointer.item (pointer ++ "/" ++ keyword) item.2) item.1)
      fun catalog edges => ∀ edge ∈ edges, Leading catalog edge := by
  have list := standing.under named plain found
  rw [← String.append_assoc] at list
  have each : Ensures documents (fun catalog => Collected catalog id) (items.zipIdx.mapM fun item =>
      read (Pointer.item (pointer ++ "/" ++ keyword) item.2) item.1)
      fun catalog edges => List.Forall₂ (fun _ edge => Leading catalog edge) items.zipIdx edges := by
    refine .mapM (collected_lasts id) (fun _ edge => known_lasts edge.target) fun item member => ?_
    exact reads_of_collected reads id (list.item (List.mem_zipIdx_iff_getElem?.mp member))
  refine each.weaken (fun _ collected => collected) fun catalog edges leads edge member => ?_
  obtain ⟨_, _, known⟩ := leads.exists_left member
  exact known

theorem attachBranches_ensures {keyword : String} (named : keyword ≠ "") (plain : Pointer.escape keyword = keyword)
    {attach : List Edge → Node → Node} (attachment : List Edge → Attachment)
    (attaches : ∀ edges, (attachment edges).attach = attach edges) (lists : ∀ edges, (attachment edges).edges = edges) :
    Ensures documents (fun catalog => Collected catalog id) (attachBranches read pointer raw keyword attach id)
      fun _ _ => True := by
  unfold attachBranches
  split
  next items found =>
    refine .bind (collected_lasts id) (readBranches_ensures reads standing id named plain found) fun edges => ?_
    rw [← attaches]
    refine attach_ensures id (attachment edges) (fun _ both => both.1) fun catalog both => ?_
    rw [lists]
    exact both.2
  · exact .pure fun _ _ => trivial

theorem attachAll_ensures :
    Ensures documents (fun catalog => Collected catalog id) (attachAll read pointer raw id) fun _ _ => True := by
  have next {rest : Reading Unit}
      (ensures : Ensures documents (fun catalog => Collected catalog id) rest fun _ _ => True) :
      Ensures documents (fun catalog => Collected catalog id ∧ True) rest fun _ _ => True :=
    ensures.weaken (fun _ both => both.1) fun _ _ _ => trivial
  have branches {keyword : String} (named : keyword ≠ "") (plain : Pointer.escape keyword = keyword)
      {attach : List Edge → Node → Node} (attachment : List Edge → Attachment)
      (attaches : ∀ edges, (attachment edges).attach = attach edges)
      (lists : ∀ edges, (attachment edges).edges = edges) :=
    attachBranches_ensures reads standing id named plain attachment attaches lists
  unfold attachAll
  refine .bind (collected_lasts id) (attachProperties_ensures reads standing id) fun _ => next ?_
  refine .bind (collected_lasts id) (attachItems_ensures reads standing id) fun _ => next ?_
  refine .bind (collected_lasts id) (attachAdditional_ensures reads standing id) fun _ => next ?_
  refine .bind (collected_lasts id)
    (branches (by decide) (keywords_plain _ (by decide)).2 .allOf (fun _ => rfl) fun _ => rfl) fun _ => next ?_
  refine .bind (collected_lasts id)
    (branches (by decide) (keywords_plain _ (by decide)).2 .anyOf (fun _ => rfl) fun _ => rfl) fun _ => next ?_
  exact branches (by decide) (keywords_plain _ (by decide)).2 .oneOf (fun _ => rfl) fun _ => rfl

end

/-- The three kinds of readings that lead on to each other. A chain of references is followed on behalf of the place where
it starts, which is left dangling if the rest of the chain leads nowhere. -/
structure Sound (documents : DocumentSet) (fuel : Nat) : Prop where
  edge : ∀ url pointer value, Standing documents url pointer value →
    Ensures documents (fun _ => True) (edge documents fuel url pointer value) (Led documents url pointer value)
  follow : ∀ origin base current passed, Cited documents base current →
    (Unresolvable documents base current passed → Dangling documents origin.url origin.pointer origin.reference) →
    Ensures documents (fun _ => True) (follow documents fuel origin base current passed) fun catalog id =>
      Follows documents catalog (locationOf origin.url origin.pointer) base current passed id
  build : ∀ url pointer value identity, Builds documents url pointer value → IsOwn url pointer identity →
    Ensures documents (fun _ => True) (build documents fuel url pointer value identity) (Bound (locationOf url pointer))

namespace Sound

variable {fuel : Nat} {url pointer : String} {value : Value}

theorem edge_succ (sound : Sound documents fuel) (standing : Standing documents url pointer value) :
    Ensures documents (fun _ => True) (Reading.edge documents (fuel + 1) url pointer value)
      (Led documents url pointer value) := by
  rw [Reading.edge]
  split
  next reference written =>
    have dangles (lost : Unresolvable documents url reference []) : Dangling documents url pointer reference :=
      ⟨⟨value, standing, written⟩, lost⟩
    refine .bind trivial_lasts (sound.follow ⟨url, pointer, reference⟩ _ _ _ ⟨_, _, standing, written⟩ dangles)
      fun target => ?_
    exact .pure fun _ both => .reference written both.2
  next plain =>
    refine .bind trivial_lasts (sound.build _ _ _ _ (.standing standing) (fun _ absurd => by cases absurd))
      fun target => ?_
    exact .pure fun _ both => .inline plain both.2

/-- A chain of references comes to a node, to nothing, to a location that it passed, or to a schema that is built now. -/
theorem follow_succ (sound : Sound documents fuel) {origin : Origin} {base current : String} {passed : List String}
    (cited : Cited documents base current)
    (dangles : Unresolvable documents base current passed →
      Dangling documents origin.url origin.pointer origin.reference) :
    Ensures documents (fun _ => True) (Reading.follow documents (fuel + 1) origin base current passed) fun catalog id =>
      Follows documents catalog (locationOf origin.url origin.pointer) base current passed id := by
  rw [Reading.follow]
  split
  next lost =>
    refine (unresolved_ensures (dangles (.missing lost))).weaken (fun _ start => start) fun _ _ bound => ?_
    exact .missing lost bound
  next target resolved =>
    refine ensures_lookup (fun id => ?_) ?_
    · refine .bind (bound_lasts target.location id) (identify_ensures.weaken ?_ fun _ _ done => done) fun _ => ?_
      · rintro _ bound location ⟨⟩
        exact bound
      · exact .pure fun _ both => .found resolved both.1
    · dsimp only
      split
      next again =>
        have circular : target.location ∈ passed := by simpa using again
        refine (unresolved_ensures (dangles (.circular resolved circular))).weaken (fun _ _ => trivial)
          fun _ _ bound => ?_
        exact .circular resolved circular bound
      next new =>
        have notPassed : target.location ∉ passed := by simpa using new
        split
        next next written =>
          refine (sound.follow origin _ next _ (cited.onward resolved written)
            fun lost => dangles (.onward resolved written lost)).weaken (fun _ _ => trivial) fun _ _ follows => ?_
          exact .onward resolved notPassed written follows
        · obtain ⟨rest, cut, spelled⟩ := splitReference_location target.url target.pointer
          rw [← DocumentSet.Target.location] at cut spelled
          have landed := cited.landed resolved
          rw [cut] at landed ⊢
          refine (sound.build _ _ _ _ (.standing landed) ?_).weaken (fun _ _ => trivial) fun _ _ bound => ?_
          · rintro location ⟨⟩
            exact spelled.symm
          · rw [spelled] at bound
            exact .found resolved bound

/-- A schema is bound before its subschemas are read, and stays so. -/
theorem build_succ (sound : Sound documents fuel) {identity : Option String} (builds : Builds documents url pointer value)
    (own : IsOwn url pointer identity) :
    Ensures documents (fun _ => True) (Reading.build documents (fuel + 1) url pointer value identity)
      (Bound (locationOf url pointer)) := by
  rw [Reading.build]
  dsimp only
  refine ensures_lookup (fun id => ?_) ?_
  · refine .bind (bound_lasts _ id) (identify_ensures.weaken ?_ fun _ _ done => done) fun _ => ?_
    · intro catalog bound location given
      rwa [own location given]
    · exact .pure fun _ both => both.1
  · intro before id after built free ran
    cases value with
    | object raw =>
        obtain ⟨_, _, added, later⟩ := (StateT.run_bind_eq_some _ _ _ _).mp ran
        obtain ⟨_, middle, collecting, later⟩ := (StateT.run_bind_eq_some _ _ _ _).mp later
        obtain ⟨_, _, attached, answered⟩ := (StateT.run_bind_eq_some _ _ _ _).mp later
        cases added
        cases collecting
        cases answered
        let node := nodeOf (.within url pointer) identity raw
        let placed := (before.place url pointer node).collect node.kind before.graph.size
        have move : Move documents before placed := .schema free builds.object own
        have collected : Collected placed before.graph.size := by
          refine ⟨known_place before url pointer node, ?_⟩
          change before.graph.size ∈
            placed.collections.ofKind ((before.place url pointer node).graph.node before.graph.size).kind
          rw [node_place_self]
          exact mem_ofKind_add.mpr (.inr ⟨rfl, rfl⟩)
        have reads place inner (standing : Standing documents url place inner) :=
          (sound.edge url place inner standing).leading
        obtain ⟨moves, _⟩ := attachAll_ensures reads builds.object before.graph.size placed _ after
          (built.trans move.grows) collected attached
        exact ⟨.head move moves, moves.grows.lookup (lookup_place_self before url pointer node)⟩
    | null | bool flag | number n | string text | array items =>
        cases ran
        exact ⟨.single (.hollow free builds rfl own), lookup_place_self before url pointer _⟩

end Sound

theorem sound (documents : DocumentSet) (fuel : Nat) : Sound documents fuel := by
  induction fuel with
  | zero =>
      constructor <;> (intros; intro _ _ _ _ _ ran; cases ran)
  | succ fuel ih =>
      constructor
      · exact fun _ _ _ standing => ih.edge_succ standing
      · exact fun _ _ _ _ cited dangles => ih.follow_succ cited dangles
      · exact fun _ _ _ _ builds own => ih.build_succ builds own

end ApiContract.Schema.Reading
