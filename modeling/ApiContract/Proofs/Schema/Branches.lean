import ApiContract.Proofs.Schema.Visits

/-!
What a search for roots looks at in the graph is what the documents say (`Faithful`): each node declares the
discriminator that is written where it was made, and has an edge for each branch that is written there. A reading adds
faithful nodes only, and leaves this part of the others alone (`Tidy`).
-/

namespace ApiContract.Schema

open Json (Value)

def Node.heritage (node : Node) : Option (List Edge) × Option String := (node.allOf, node.discriminator)

namespace Reading

variable {α β : Type} {documents : DocumentSet} {catalog before middle after : Catalog} {id : Nat} {fuel : Nat}

/-- The branches of a node lead to where the branches lead that are written. -/
def Branches (documents : DocumentSet) (catalog : Catalog) (url : String) (written : Option (List Value))
    (branches : Option (List Edge)) : Prop :=
  Option.Rel (List.Forall₂ fun item edge => ∃ place, Led documents url place item catalog edge) written branches

/-- A node looks to a search for roots as a schema does that is written in a document. -/
structure Portrays (documents : DocumentSet) (catalog : Catalog) (url : String) (value : Value) (id : Nat) : Prop where
  branches : Branches documents catalog url (value.arrayAt? "allOf") (catalog.graph.node id).allOf
  discriminator : (catalog.graph.node id).discriminator = value.stringAt? "discriminator"

/-- A node looks to a search for roots as what is written where it was made. -/
inductive Faithful (documents : DocumentSet) (catalog : Catalog) (id : Nat) : Prop
  | built {url pointer value} : Builds documents url pointer value → Bound (locationOf url pointer) catalog id →
      Portrays documents catalog url value id → Faithful documents catalog id
  | dangling {url pointer reference} : Dangling documents url pointer reference →
      Bound (locationOf url pointer) catalog id → (catalog.graph.node id).heritage = (none, none) →
      Faithful documents catalog id

/-- A reading kept what a search for roots looks at, and added faithful nodes only. -/
structure Tidy (documents : DocumentSet) (before after : Catalog) : Prop where
  grows : Grows before after
  kept : ∀ id < before.graph.size, (after.graph.node id).heritage = (before.graph.node id).heritage
  faithful : ∀ id, before.graph.size ≤ id → id < after.graph.size → Faithful documents after id

theorem branches_lasts (url : String) (written : Option (List Value)) (branches : Option (List Edge)) :
    Lasts fun catalog => Branches documents catalog url written branches :=
  fun _ _ grows related => related.imp fun _ _ items =>
    items.imp fun _ _ ⟨place, led⟩ => ⟨place, led.lasts _ _ grows⟩

theorem Portrays.kept {url : String} {value : Value} (portrays : Portrays documents before url value id)
    (grows : Grows before after) (same : (after.graph.node id).heritage = (before.graph.node id).heritage) :
    Portrays documents after url value id := by
  obtain ⟨allOf, discriminator⟩ := Prod.mk.inj same
  refine ⟨?_, discriminator.trans portrays.discriminator⟩
  rw [allOf]
  exact branches_lasts _ _ _ _ _ grows portrays.branches

/-- A node without branches portrays a schema without branches. -/
theorem portrays_plain {url : String} {value : Value} (written : value.arrayAt? "allOf" = none)
    (heritage : (catalog.graph.node id).heritage = (none, value.stringAt? "discriminator")) :
    Portrays documents catalog url value id := by
  obtain ⟨allOf, discriminator⟩ := Prod.mk.inj heritage
  refine ⟨?_, discriminator⟩
  rw [allOf, written]
  exact .none

theorem Faithful.kept (faithful : Faithful documents before id) (grows : Grows before after)
    (same : (after.graph.node id).heritage = (before.graph.node id).heritage) : Faithful documents after id := by
  cases faithful with
  | built builds bound portrays => exact .built builds (grows.lookup bound) (portrays.kept grows same)
  | dangling dangling bound heritage => exact .dangling dangling (grows.lookup bound) (same.trans heritage)

namespace Tidy

theorem refl (documents : DocumentSet) (catalog : Catalog) : Tidy documents catalog catalog :=
  ⟨.refl, fun _ _ => rfl, fun _ above below => absurd below (Nat.not_lt_of_le above)⟩

theorem trans (first : Tidy documents before middle) (second : Tidy documents middle after) :
    Tidy documents before after where
  grows := first.grows.trans second.grows
  kept id inside := (second.kept id (Nat.lt_of_lt_of_le inside first.grows.size_le)).trans (first.kept id inside)
  faithful id above below := by
    by_cases old : id < middle.graph.size
    · exact (first.faithful id above old).kept second.grows (second.kept id old)
    · exact second.faithful id (Nat.le_of_not_lt old) below

theorem change {change : Node → Node} (step : Step before (before.change id change))
    (same : ∀ node, (change node).heritage = node.heritage) : Tidy documents before (before.change id change) := by
  refine ⟨.single step, fun other _ => ?_, fun other above below => ?_⟩
  · rw [node_change]
    split
    · exact same _
    · rfl
  · rw [Catalog.change, Graph.size_modify] at below
    exact absurd below (Nat.not_lt_of_le above)

theorem place {url pointer : String} {node : Node} (graph : after.graph = (before.place url pointer node).graph)
    (grows : Grows before after) (faithful : Faithful documents after before.graph.size) :
    Tidy documents before after := by
  refine ⟨grows, fun id inside => ?_, fun id above below => ?_⟩
  · rw [graph, node_place_of_ne (Nat.ne_of_lt inside)]
  · rw [graph, size_place] at below
    obtain rfl : id = before.graph.size := by omega
    exact faithful

end Tidy

/-- The reading is tidy, from catalogs with some property. -/
def Tidies (documents : DocumentSet) (pre : Catalog → Prop) (read : Reading α) : Prop :=
  ∀ before result after, Built before → pre before → read.run before = some (result, after) →
    Tidy documents before after

namespace Tidies

variable {pre : Catalog → Prop} {good : Catalog → α → Prop}

theorem pure (result : α) : Tidies documents pre (pure result) := by
  intro _ _ _ _ _ ran
  cases ran
  exact .refl _ _

theorem bind {read : Reading α} {next : α → Reading β} (lasts : Lasts pre) (ensures : Ensures documents pre read good)
    (first : Tidies documents pre read)
    (later : ∀ result, Tidies documents (fun catalog => pre catalog ∧ good catalog result) (next result)) :
    Tidies documents pre (read >>= next) := by
  intro before last after built start ran
  obtain ⟨result, middle, firstRan, laterRan⟩ := (StateT.run_bind_eq_some _ _ _ _).mp ran
  obtain ⟨moves, holds⟩ := ensures before result middle built start firstRan
  have tidy := first before result middle built start firstRan
  have pursued : pre middle ∧ good middle result := ⟨lasts _ _ moves.grows start, holds⟩
  exact tidy.trans (later result middle last after (built.trans moves.grows) pursued laterRan)

theorem strengthen {stronger : Catalog → Prop} {read : Reading α} (tidies : Tidies documents pre read)
    (strong : ∀ catalog, stronger catalog → pre catalog) : Tidies documents stronger read :=
  fun before result after built start ran => tidies before result after built (strong before start) ran

theorem anywhere {read : Reading α} (tidies : Tidies documents (fun _ => True) read) : Tidies documents pre read :=
  tidies.strengthen fun _ _ => trivial

/-- A reading goes on after another one, whatever that one answers. -/
theorem andThen {read : Reading α} {next : α → Reading β} (steps : Steps documents read)
    (first : Tidies documents (fun _ => True) read) (later : ∀ result, Tidies documents (fun _ => True) (next result)) :
    Tidies documents (fun _ => True) (read >>= next) :=
  .bind trivial_lasts steps first fun result => (later result).anywhere

theorem mapM {items : List α} {visit : α → Reading β} (steps : ∀ item ∈ items, Steps documents (visit item))
    (tidies : ∀ item ∈ items, Tidies documents (fun _ => True) (visit item)) :
    Tidies documents (fun _ => True) (items.mapM visit) := by
  induction items with
  | nil =>
      rw [List.mapM_nil]
      exact .pure _
  | cons item rest ih =>
      rw [List.mapM_cons]
      refine .andThen (steps item List.mem_cons_self) (tidies item List.mem_cons_self) fun _ => ?_
      have stepsRest : Steps documents (rest.mapM visit) :=
        .of_ensures (.mapM trivial_lasts (fun _ _ => trivial_lasts) fun item member =>
          steps item (List.mem_cons_of_mem _ member))
      refine .andThen stepsRest ?_ fun _ => .pure _
      exact ih (fun item member => steps item (List.mem_cons_of_mem _ member))
        fun item member => tidies item (List.mem_cons_of_mem _ member)

theorem attach (attachment : Attachment) (same : ∀ node, (attachment.attach node).heritage = node.heritage)
    (collected : ∀ catalog, pre catalog → Collected catalog id)
    (leads : ∀ catalog, pre catalog → ∀ edge ∈ attachment.edges, Leading catalog edge) :
    Tidies documents pre (modifyNode id attachment.attach) := by
  intro before _ after _ start ran
  cases ran
  obtain ⟨inside, member⟩ := collected before start
  exact .change (.attach attachment inside member (leads before start)) same

end Tidies

theorem tidies_lookup {location : String} {next : Option Nat → Reading α}
    (bound : ∀ id, Tidies documents (fun catalog => Bound location catalog id) (next (some id)))
    (free : Tidies documents (fun catalog => catalog.graph.lookup location = none) (next none)) :
    Tidies documents (fun _ => True) (lookup location >>= next) := by
  intro before result after built _ ran
  obtain ⟨found, _, looked, later⟩ := (StateT.run_bind_eq_some _ _ _ _).mp ran
  cases looked
  cases known : before.graph.lookup location with
  | none =>
      rw [known] at later
      exact free before result after built known later
  | some id =>
      rw [known] at later
      exact bound id before result after built known later

theorem identify_tidies {pre : Catalog → Prop} {id : Nat} {identity : Option String} (result : α) :
    Tidies documents pre (identify id identity >>= fun _ => pure result) := by
  intro before _ after _ _ ran
  cases ran
  refine .change .identify fun node => ?_
  split <;> rfl

theorem unresolved_tidies {url pointer reference : String} (dangling : Dangling documents url pointer reference) :
    Tidies documents (fun _ => True) (unresolved url pointer reference) := by
  unfold unresolved
  dsimp only
  refine tidies_lookup (fun id => .pure _) ?_
  intro before id after _ free ran
  obtain ⟨_, _, added, later⟩ := (StateT.run_bind_eq_some _ _ _ _).mp ran
  obtain ⟨_, _, spoiled, answered⟩ := (StateT.run_bind_eq_some _ _ _ _).mp later
  cases added
  cases spoiled
  cases answered
  have grows := (Move.dangling free dangling).grows
  refine .place rfl grows (.dangling dangling (lookup_place_self before url pointer _) ?_)
  exact congrArg Node.heritage (node_place_self before url pointer _)

/-! ## Subschemas -/

/-- What is attached to a node is read, and then attached; all but branches a search for roots does not look at. -/
theorem Tidies.attaching {read : Reading α} (attachment : α → Attachment)
    (same : ∀ result node, ((attachment result).attach node).heritage = node.heritage)
    (ensures : Ensures documents (fun catalog => Collected catalog id) read fun catalog result =>
      ∀ edge ∈ (attachment result).edges, Leading catalog edge)
    (tidies : Tidies documents (fun _ => True) read) :
    Tidies documents (fun catalog => Collected catalog id)
      (read >>= fun result => modifyNode id (attachment result).attach) :=
  .bind (collected_lasts id) ensures tidies.anywhere fun result =>
    .attach (attachment result) (same result) (fun _ both => both.1) fun _ both => both.2

/-- The branches of a node are attached, if it has any, and besides nothing changes that a search for roots looks at. -/
inductive Attaches (documents : DocumentSet) (url : String) (written : Option (List Value)) (id : Nat)
    (before after : Catalog) : Prop
  | plain : written = none → Tidy documents before after → Attaches documents url written id before after
  | branched {items edges middle} : written = some items → Tidy documents before middle →
      List.Forall₂ (fun item edge => ∃ place, Led documents url place item middle edge) items edges →
      Grows middle (middle.change id (Attachment.allOf edges).attach) →
      Tidy documents (middle.change id (Attachment.allOf edges).attach) after →
      Attaches documents url written id before after

namespace Attaches

variable {url : String} {written : Option (List Value)}

theorem after_tidy (tidy : Tidy documents before middle) (attaches : Attaches documents url written id middle after) :
    Attaches documents url written id before after := by
  cases attaches with
  | plain plain rest => exact .plain plain (tidy.trans rest)
  | branched listed first leads step rest => exact .branched listed (tidy.trans first) leads step rest

theorem then_tidy (attaches : Attaches documents url written id before middle) (tidy : Tidy documents middle after) :
    Attaches documents url written id before after := by
  cases attaches with
  | plain plain first => exact .plain plain (first.trans tidy)
  | branched listed first leads step rest => exact .branched listed first leads step (rest.trans tidy)

/-- A node that was just added gets the branches that are written. -/
theorem tidy {pointer : String} {value : Value} {placed : Catalog}
    (attaches : Attaches documents url (value.arrayAt? "allOf") before.graph.size placed after)
    (graph : ∃ node, placed.graph = (before.place url pointer node).graph ∧
      node.heritage = (none, value.stringAt? "discriminator"))
    (grows : Grows before placed) (builds : Builds documents url pointer value) : Tidy documents before after := by
  obtain ⟨node, graph, heritage⟩ := graph
  have bound : Bound (locationOf url pointer) placed before.graph.size := by
    rw [Bound, graph]
    exact lookup_place_self before url pointer node
  have own : (placed.graph.node before.graph.size).heritage = (none, value.stringAt? "discriminator") := by
    rw [graph, node_place_self, heritage]
  have old other (inside : other < before.graph.size) :
      (placed.graph.node other).heritage = (before.graph.node other).heritage := by
    rw [graph, node_place_of_ne (Nat.ne_of_lt inside)]
  have size : placed.graph.size = before.graph.size + 1 := by rw [graph, size_place]
  cases attaches with
  | plain plain rest => exact Tidy.trans (.place graph grows (.built builds bound (portrays_plain plain own))) rest
  | @branched items edges middle listed first leads step rest =>
      have elsewhere other (different : other ≠ before.graph.size) :
          ((middle.change before.graph.size (Attachment.allOf edges).attach).graph.node other).heritage =
            (middle.graph.node other).heritage := by
        rw [node_change, if_neg fun both => different both.1]
      have inside : before.graph.size < middle.graph.size := by
        have more := first.grows.size_le
        omega
      have changed : ((middle.change before.graph.size (Attachment.allOf edges).attach).graph.node
          before.graph.size).heritage = (some edges, value.stringAt? "discriminator") := by
        have kept := first.kept before.graph.size (by omega)
        rw [own] at kept
        rw [node_change, if_pos ⟨rfl, inside⟩]
        exact congrArg (some edges, ·) (congrArg Prod.snd kept)
      have sizeChanged : (middle.change before.graph.size (Attachment.allOf edges).attach).graph.size =
          middle.graph.size := Graph.size_modify _ _ _
      have keptRest := rest.kept
      rw [sizeChanged] at keptRest
      refine ⟨grows.trans (first.grows.trans (step.trans rest.grows)), fun other below => ?_,
        fun other above below => ?_⟩
      · rw [keptRest other (by omega), elsewhere other (by omega), first.kept other (by omega), old other below]
      -- A node that was not there before was added after the branches, is the one that got them, or was added on the way.
      · by_cases new : middle.graph.size ≤ other
        · exact rest.faithful other (by rwa [sizeChanged]) below
        · have last := keptRest other (by omega)
          by_cases same : other = before.graph.size
          · subst same
            have growsOn := first.grows.trans (step.trans rest.grows)
            obtain ⟨allOf, discriminator⟩ := Prod.mk.inj (last.trans changed)
            refine .built builds (Grows.lookup growsOn bound) ⟨?_, discriminator⟩
            rw [allOf, listed]
            exact branches_lasts _ _ _ _ _ (step.trans rest.grows) (.some leads)
          · have faithful := first.faithful other (by omega) (by omega)
            exact (faithful.kept step (elsewhere other same)).kept rest.grows (last.trans rfl)

end Attaches

section

variable {read : ReadEdge} {url pointer : String} {raw : Assoc Value}
  (reads : ∀ place value, Standing documents url place value →
    Ensures documents (fun _ => True) (read place value) (Led documents url place value))
  (tidies : ∀ place value, Standing documents url place value → Tidies documents (fun _ => True) (read place value))
  (standing : Standing documents url pointer (.object raw)) (id : Nat)

include reads tidies standing

theorem attachProperties_tidies :
    Tidies documents (fun catalog => Collected catalog id) (attachProperties read pointer raw id) := by
  unfold attachProperties
  split
  next entries found =>
    have spelled : Pointer.child pointer "properties" = pointer ++ "/properties" :=
      Pointer.child_of_plain (keywords_plain _ (by decide)).2 pointer
    have stands {entry : String × Value} (member : entry ∈ entries) :
        Standing documents url (Pointer.child (pointer ++ "/properties") entry.1) entry.2 := by
      rw [← spelled]
      exact (standing.keyword (by decide) found).nested member
    refine .attaching .properties (fun _ _ => rfl)
      (readProperties_ensures (fun _ _ stands => (reads _ _ stands).leading) standing id found) ?_
    refine .mapM (fun entry member => ?_) fun entry member => ?_
    · exact .bind (.of_ensures (reads _ _ (stands member))) fun _ => .pure _
    · exact .andThen (.of_ensures (reads _ _ (stands member))) (tidies _ _ (stands member)) fun _ => .pure _
  · exact .pure _

theorem attachItems_tidies :
    Tidies documents (fun catalog => Collected catalog id) (attachItems read pointer raw id) := by
  unfold attachItems
  split
  next entries found =>
    have stands := standing.under (by decide) (keywords_plain _ (by decide)).2 found
    refine .attaching .items (fun _ _ => rfl) ?_ (tidies _ _ stands)
    refine (reads _ _ stands).leading.weaken (fun _ _ => trivial) fun catalog edge leads other member => ?_
    rw [List.mem_singleton.mp member]
    exact leads
  · exact .pure _

theorem attachAdditional_tidies :
    Tidies documents (fun catalog => Collected catalog id) (attachAdditional read pointer raw id) := by
  unfold attachAdditional
  split
  · exact .attach (.additional _) (fun _ => rfl) (fun _ collected => collected) fun _ _ _ absurd => by cases absurd
  next entries found =>
    have stands := standing.under (by decide) (keywords_plain _ (by decide)).2 found
    refine .attaching (fun edge => .additional (.schema edge)) (fun _ _ => rfl) ?_ (tidies _ _ stands)
    refine (reads _ _ stands).leading.weaken (fun _ _ => trivial) fun catalog edge leads other member => ?_
    rw [List.mem_singleton.mp member]
    exact leads
  · exact .pure _

theorem readBranches_tidies {keyword : String} (named : keyword ≠ "") (plain : Pointer.escape keyword = keyword)
    {items : List Value} (found : Assoc.find? raw keyword = some (.array items)) :
    Tidies documents (fun _ => True) (items.zipIdx.mapM fun item =>
      read (Pointer.item (pointer ++ "/" ++ keyword) item.2) item.1) := by
  have list := standing.under named plain found
  rw [← String.append_assoc] at list
  have stands {item : Value × Nat} (member : item ∈ items.zipIdx) :=
    list.item (List.mem_zipIdx_iff_getElem?.mp member)
  exact .mapM (fun item member => .of_ensures (reads _ _ (stands member))) fun item member => tidies _ _ (stands member)

theorem attachBranches_tidies {keyword : String} (named : keyword ≠ "") (plain : Pointer.escape keyword = keyword)
    {attach : List Edge → Node → Node} (attachment : List Edge → Attachment)
    (attaches : ∀ edges, (attachment edges).attach = attach edges) (lists : ∀ edges, (attachment edges).edges = edges)
    (same : ∀ edges node, ((attachment edges).attach node).heritage = node.heritage) :
    Tidies documents (fun catalog => Collected catalog id) (attachBranches read pointer raw keyword attach id) := by
  unfold attachBranches
  split
  next items found =>
    simp only [← attaches]
    refine .attaching attachment same ?_ (readBranches_tidies reads tidies standing named plain found)
    refine (readBranches_ensures (fun _ _ stands => (reads _ _ stands).leading) standing id named plain found).weaken
      (fun _ collected => collected) fun catalog edges leads => ?_
    rw [lists]
    exact leads
  · exact .pure _

theorem attachAllOf_attaches {before after : Catalog} {done : Unit} (built : Built before)
    (collected : Collected before id)
    (ran : (attachBranches read pointer raw "allOf" (fun edges node => { node with allOf := some edges }) id).run
      before = some (done, after)) :
    Attaches documents url ((Value.object raw).arrayAt? "allOf") id before after := by
  unfold attachBranches at ran
  split at ran
  next items found =>
    have written : (Value.object raw).arrayAt? "allOf" = some items := by
      simp [Value.arrayAt?, Value.find?, found, Value.asArray?]
    obtain ⟨named, plain⟩ := keywords_plain "allOf" (by decide)
    have list := standing.under named plain found
    rw [← String.append_assoc] at list
    have each : Ensures documents (fun _ => True) (items.zipIdx.mapM fun item =>
        read (Pointer.item (pointer ++ "/" ++ "allOf") item.2) item.1) fun catalog edges =>
        List.Forall₂ (fun item edge => Led documents url (Pointer.item (pointer ++ "/" ++ "allOf") item.2) item.1
          catalog edge) items.zipIdx edges :=
      .mapM trivial_lasts (fun _ _ => Led.lasts) fun item member =>
        reads _ _ (list.item (List.mem_zipIdx_iff_getElem?.mp member))
    obtain ⟨edges, middle, read, attached⟩ := (StateT.run_bind_eq_some _ _ _ _).mp ran
    cases attached
    obtain ⟨moves, led⟩ := each _ _ _ built trivial read
    have tidy := readBranches_tidies reads tidies standing named plain found _ _ _ built trivial read
    obtain ⟨inside, member⟩ := moves.grows.collected collected
    have builtMiddle : Built middle := built.trans moves.grows
    have step : Step middle (middle.change id (Attachment.allOf edges).attach) := by
      refine .attach (.allOf edges) inside member fun edge listed => ?_
      obtain ⟨_, _, leads⟩ := led.exists_left listed
      exact leads.leading builtMiddle
    refine .branched written tidy ?_ (.single step) (.refl _ _)
    have firsts : items = items.zipIdx.map Prod.fst := (List.zipIdx_map_fst 0 items).symm
    rw [firsts, List.forall₂_map_left_iff]
    exact led.imp fun item edge leads => ⟨_, leads⟩
  next other =>
    cases ran
    refine .plain ?_ (.refl _ _)
    rw [Value.arrayAt?, Value.find?]
    cases found : Assoc.find? raw "allOf" with
    | none => rfl
    | some value =>
        cases value with
        | array items => exact absurd found (other items)
        | null | bool flag | number n | string text | object entries => rfl

theorem attachAll_attaches {before after : Catalog} {done : Unit} (built : Built before)
    (collected : Collected before id) (ran : (attachAll read pointer raw id).run before = some (done, after)) :
    Attaches documents url ((Value.object raw).arrayAt? "allOf") id before after := by
  have leading place value (stands : Standing documents url place value) := (reads place value stands).leading
  -- Each part is read in a catalog in which the node is collected still.
  have part {piece : Reading Unit} {start next : Catalog} {done : Unit} (built : Built start)
      (collected : Collected start id)
      (ensures : Ensures documents (fun catalog => Collected catalog id) piece fun _ _ => True)
      (ran : piece.run start = some (done, next)) : Built next ∧ Collected next id := by
    obtain ⟨moves, _⟩ := ensures _ _ _ built collected ran
    exact ⟨built.trans moves.grows, moves.grows.collected collected⟩
  obtain ⟨_, first, properties, ran⟩ := (StateT.run_bind_eq_some _ _ _ _).mp ran
  obtain ⟨_, second, items, ran⟩ := (StateT.run_bind_eq_some _ _ _ _).mp ran
  obtain ⟨_, third, additional, ran⟩ := (StateT.run_bind_eq_some _ _ _ _).mp ran
  obtain ⟨_, fourth, allOf, ran⟩ := (StateT.run_bind_eq_some _ _ _ _).mp ran
  obtain ⟨_, fifth, anyOf, oneOf⟩ := (StateT.run_bind_eq_some _ _ _ _).mp ran
  obtain ⟨builtFirst, collectedFirst⟩ := part built collected (attachProperties_ensures leading standing id) properties
  obtain ⟨builtSecond, collectedSecond⟩ :=
    part builtFirst collectedFirst (attachItems_ensures leading standing id) items
  obtain ⟨builtThird, collectedThird⟩ :=
    part builtSecond collectedSecond (attachAdditional_ensures leading standing id) additional
  obtain ⟨named, plain⟩ := keywords_plain "allOf" (by decide)
  obtain ⟨builtFourth, collectedFourth⟩ := part builtThird collectedThird
    (attachBranches_ensures leading standing id named plain .allOf (fun _ => rfl) fun _ => rfl) allOf
  obtain ⟨namedAny, plainAny⟩ := keywords_plain "anyOf" (by decide)
  obtain ⟨builtFifth, collectedFifth⟩ := part builtFourth collectedFourth
    (attachBranches_ensures leading standing id namedAny plainAny .anyOf (fun _ => rfl) fun _ => rfl) anyOf
  obtain ⟨namedOne, plainOne⟩ := keywords_plain "oneOf" (by decide)
  have tidyFirst := attachProperties_tidies reads tidies standing id _ _ _ built collected properties
  have tidySecond := attachItems_tidies reads tidies standing id _ _ _ builtFirst collectedFirst items
  have tidyThird := attachAdditional_tidies reads tidies standing id _ _ _ builtSecond collectedSecond additional
  have attaches := attachAllOf_attaches reads tidies standing id builtThird collectedThird allOf
  have tidyFifth := attachBranches_tidies reads tidies standing id namedAny plainAny .anyOf (fun _ => rfl)
    (fun _ => rfl) (fun _ _ => rfl) _ _ _ builtFourth collectedFourth anyOf
  have tidyLast := attachBranches_tidies reads tidies standing id namedOne plainOne .oneOf (fun _ => rfl) (fun _ => rfl)
    (fun _ _ => rfl) _ _ _ builtFifth collectedFifth oneOf
  exact ((attaches.after_tidy (tidyFirst.trans (tidySecond.trans tidyThird))).then_tidy tidyFifth).then_tidy tidyLast

end

/-! ## Readings that lead on to each other -/

/-- The three kinds of readings that lead on to each other are tidy. -/
structure TidyWithin (documents : DocumentSet) (fuel : Nat) : Prop where
  edge : ∀ url pointer value, Standing documents url pointer value →
    Tidies documents (fun _ => True) (edge documents fuel url pointer value)
  follow : ∀ origin base current passed, Cited documents base current →
    (Unresolvable documents base current passed → Dangling documents origin.url origin.pointer origin.reference) →
    Tidies documents (fun _ => True) (follow documents fuel origin base current passed)
  build : ∀ url pointer value identity, Builds documents url pointer value → IsOwn url pointer identity →
    Tidies documents (fun _ => True) (build documents fuel url pointer value identity)

namespace TidyWithin

variable {url pointer : String} {value : Value}

theorem edge_succ (tidy : TidyWithin documents fuel) (standing : Standing documents url pointer value) :
    Tidies documents (fun _ => True) (Reading.edge documents (fuel + 1) url pointer value) := by
  have sound := sound documents fuel
  rw [Reading.edge]
  split
  next reference written =>
    have dangles (lost : Unresolvable documents url reference []) : Dangling documents url pointer reference :=
      ⟨⟨value, standing, written⟩, lost⟩
    have cited : Cited documents url reference := ⟨_, _, standing, written⟩
    exact .andThen (.of_ensures (sound.follow ⟨url, pointer, reference⟩ _ _ _ cited dangles))
      (tidy.follow ⟨url, pointer, reference⟩ _ _ _ cited dangles) fun _ => .pure _
  next plain =>
    have own : IsOwn url pointer none := fun _ absurd => by cases absurd
    exact .andThen (.of_ensures (sound.build _ _ _ _ (.standing standing) own))
      (tidy.build _ _ _ _ (.standing standing) own) fun _ => .pure _

theorem follow_succ (tidy : TidyWithin documents fuel) {origin : Origin} {base current : String} {passed : List String}
    (cited : Cited documents base current)
    (dangles : Unresolvable documents base current passed →
      Dangling documents origin.url origin.pointer origin.reference) :
    Tidies documents (fun _ => True) (Reading.follow documents (fuel + 1) origin base current passed) := by
  rw [Reading.follow]
  split
  next lost => exact unresolved_tidies (dangles (.missing lost))
  next target resolved =>
    refine tidies_lookup (fun id => identify_tidies id) ?_
    dsimp only
    split
    next again => exact (unresolved_tidies (dangles (.circular resolved (by simpa using again)))).anywhere
    · split
      next next written =>
        exact (tidy.follow origin _ next _ (cited.onward resolved written)
          fun lost => dangles (.onward resolved written lost)).anywhere
      · obtain ⟨rest, cut, spelled⟩ := splitReference_location target.url target.pointer
        rw [← DocumentSet.Target.location] at cut spelled
        have landed := cited.landed resolved
        rw [cut] at landed ⊢
        refine (tidy.build _ _ _ _ (.standing landed) ?_).anywhere
        rintro location ⟨⟩
        exact spelled.symm

theorem build_succ (tidy : TidyWithin documents fuel) {identity : Option String}
    (builds : Builds documents url pointer value) (own : IsOwn url pointer identity) :
    Tidies documents (fun _ => True) (Reading.build documents (fuel + 1) url pointer value identity) := by
  rw [Reading.build]
  dsimp only
  refine tidies_lookup (fun id => identify_tidies id) ?_
  intro before id after built free ran
  cases value with
  | object raw =>
      obtain ⟨_, _, added, later⟩ := (StateT.run_bind_eq_some _ _ _ _).mp ran
      obtain ⟨_, middle, collecting, later⟩ := (StateT.run_bind_eq_some _ _ _ _).mp later
      obtain ⟨_, _, attached, answered⟩ := (StateT.run_bind_eq_some _ _ _ _).mp later
      cases added
      cases collecting
      cases answered
      let node := nodeOf (.within url pointer) identity raw
      have move : Move documents before ((before.place url pointer node).collect node.kind before.graph.size) :=
        .schema free builds.object own
      have collected : Collected ((before.place url pointer node).collect node.kind before.graph.size)
          before.graph.size := by
        refine ⟨known_place before url pointer node, ?_⟩
        change before.graph.size ∈
          ((before.place url pointer node).collect node.kind before.graph.size).collections.ofKind
            ((before.place url pointer node).graph.node before.graph.size).kind
        rw [node_place_self]
        exact mem_ofKind_add.mpr (.inr ⟨rfl, rfl⟩)
      have attaches := attachAll_attaches (fun _ _ => (sound documents fuel).edge _ _ _) (fun _ _ => tidy.edge _ _ _)
        builds.object before.graph.size (built.trans move.grows) collected attached
      exact attaches.tidy ⟨node, rfl, rfl⟩ move.grows builds
  | null | bool flag | number n | string text | array items =>
      cases ran
      have heritage := congrArg Node.heritage
        (node_place_self before url pointer { identity, source := .within url pointer })
      refine .place rfl (Move.hollow free builds rfl own).grows ?_
      exact .built builds (lookup_place_self before url pointer _) (portrays_plain rfl heritage)

end TidyWithin

theorem tidyWithin (documents : DocumentSet) (fuel : Nat) : TidyWithin documents fuel := by
  induction fuel with
  | zero =>
      constructor <;> (intros; intro _ _ _ _ _ ran; cases ran)
  | succ fuel ih =>
      constructor
      · exact fun _ _ _ standing => ih.edge_succ standing
      · exact fun _ _ _ _ cited dangles => ih.follow_succ cited dangles
      · exact fun _ _ _ _ builds own => ih.build_succ builds own

/-! ## Visits -/

namespace Tidies

theorem foldlM {items : List β} {visit : α → β → Reading α}
    (steps : ∀ item ∈ items, ∀ state, Steps documents (visit state item))
    (tidies : ∀ item ∈ items, ∀ state, Tidies documents (fun _ => True) (visit state item)) (start : α) :
    Tidies documents (fun _ => True) (items.foldlM visit start) := by
  induction items generalizing start with
  | nil => exact .pure start
  | cons item rest ih =>
      rw [List.foldlM_cons]
      exact .andThen (steps item List.mem_cons_self start) (tidies item List.mem_cons_self start)
        (ih (fun item member => steps item (List.mem_cons_of_mem _ member))
          fun item member => tidies item (List.mem_cons_of_mem _ member))

theorem get : Tidies documents (fun _ => True) (get : Reading Catalog) := by
  intro before _ _ _ _ ran
  cases ran
  exact .refl _ _

end Tidies

theorem Retraces.tidies {first second : Reading α} (retraces : Retraces documents fuel first second) :
    Tidies documents (fun _ => True) first ∧ Tidies documents (fun _ => True) second := by
  induction retraces with
  | pure first second => exact ⟨.pure first, .pure second⟩
  | bind retraced _ ih ihNext =>
      exact ⟨.andThen retraced.steps.1 ih.1 fun result => (ihNext result result).1,
        .andThen retraced.steps.2 ih.2 fun result => (ihNext result result).2⟩
  | edge standing =>
      have tidies := (tidyWithin documents fuel).edge _ _ _ standing
      exact ⟨tidies, tidies⟩
  | build builds own =>
      have tidies := (tidyWithin documents fuel).build _ _ _ _ builds own
      exact ⟨tidies, tidies⟩
  | @follow url pointer value reference standing written =>
      have tidies := (tidyWithin documents fuel).follow ⟨url, pointer, reference⟩ url reference []
        ⟨_, _, standing, written⟩ fun lost => ⟨⟨value, standing, written⟩, lost⟩
      exact ⟨tidies, tidies⟩
  | unresolved standing written missing =>
      have tidies := unresolved_tidies (Dangling.mk ⟨_, standing, written⟩ (.missing missing))
      exact ⟨tidies, tidies⟩

theorem document_tidies {url : String} : Tidies documents (fun _ => True) (document documents fuel url) :=
  (document_retraces documents fuel url).tidies.1

theorem definition_tidies {url name : String} {value : Value} (listed : (url, name, value) ∈ definitions documents) :
    Tidies documents (fun _ => True) (definition documents fuel url name value) :=
  (definition_retraces (standing_of_mem_definitions listed)).tidies.1

theorem discoverRound_tidies : Tidies documents (fun _ => True) (discoverRound documents fuel) := by
  have steps (added : Nat) {entry : String × String × Value} (listed : entry ∈ definitions documents) :
      Steps documents do
        let _ ← definition documents fuel entry.1 entry.2.1 entry.2.2
        return added + 1 :=
    .bind (definition_retraces (standing_of_mem_definitions listed)).steps.1 fun _ => .pure _
  refine .foldlM (fun entry listed added => ?_) (fun entry listed added => ?_) 0
  · refine .bind .get fun catalog => ?_
    dsimp only
    split
    · exact .pure _
    · split
      · exact steps added listed
      · exact .pure _
  · refine .andThen .get .get fun catalog => ?_
    dsimp only
    split
    · exact .pure _
    · split
      · exact .andThen (definition_retraces (standing_of_mem_definitions listed)).steps.1 (definition_tidies listed)
          fun _ => .pure _
      · exact .pure _

theorem discover_tidies {rounds : Nat} : Tidies documents (fun _ => True) (discover documents fuel rounds) := by
  induction rounds with
  | zero =>
      intro _ _ _ _ _ ran
      cases ran
  | succ rounds ih =>
      refine .andThen discoverRound_steps discoverRound_tidies fun added => ?_
      split
      · exact .pure _
      · exact .andThen discover_steps ih fun _ => .pure _

end Reading

end ApiContract.Schema
