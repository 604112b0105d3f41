import ApiContract.Proofs.Contract.Discovery
import ApiContract.Proofs.Contract.Lookup
import ApiContract.Proofs.Contract.Uniqueness
import ApiContract.Proofs.Schema.Branches
import ApiContract.Proofs.Schema.Kinship

/-!
What a search for variants leaves out. The last round of a search that ends finds nothing missing, so that every
definition is in the graph of which the test on the documents says that it inherits from a root there. The test looks at
what the reference of a branch resolves to, where reading follows a chain of references to its end. Where branches refer
to schemas directly the search is complete, and the test tells what a search for the root of the definition answers once
it was read (`discovery_complete`). A variant whose branch refers to another name of its root is left out
(`renamed_parent_missed`).
-/

namespace ApiContract

open Json (Value)

open Relation

namespace Schema

/-- Parents are what branches lead to that are references. -/
theorem Graph.hasParent_iff {graph : Graph} {id parent : Nat} : graph.HasParent id parent ↔
    ∃ edges, (graph.node id).allOf = some edges ∧ ∃ edge ∈ edges, edge.viaRef = true ∧ edge.target = parent := by
  rw [HasParent, parents]
  cases (graph.node id).allOf with
  | none => simp
  | some edges => simp [and_assoc]

namespace Reading

variable {documents : DocumentSet} {visited : List String} {catalog before after : Catalog} {graph : Graph}
  {url place base reference name : String} {value branch : Value} {target : DocumentSet.Target} {edge : Edge}
  {fuel id : Nat}

/-! ## Rounds that find nothing -/

/-- A visit that counts nothing changes nothing, and its definition is not missing. -/
theorem visitDefinition_idle {entry : String × String × Value} {added counted : Nat}
    (ran : (visitDefinition documents fuel added entry).run before = some (counted, after)) :
    added ≤ counted ∧ (counted = added → after = before ∧ ¬IsMissing documents fuel before.graph entry) := by
  rcases visitDefinition_cases ran with ⟨present, rfl, rfl⟩ | ⟨_, rfl, _⟩
  · exact ⟨Nat.le_refl _, fun _ => ⟨rfl, present⟩⟩
  · exact ⟨Nat.le_succ _, fun same => absurd same (Nat.succ_ne_self _)⟩

theorem visitDefinitions_idle {entries : List (String × String × Value)} {added counted : Nat}
    (ran : (entries.foldlM (visitDefinition documents fuel) added).run before = some (counted, after)) :
    added ≤ counted ∧
      (counted = added → after = before ∧ ∀ entry ∈ entries, ¬IsMissing documents fuel before.graph entry) := by
  induction entries generalizing added before with
  | nil =>
      cases ran
      exact ⟨Nat.le_refl _, fun _ => ⟨rfl, fun _ absurd => nomatch absurd⟩⟩
  | cons entry rest ih =>
      rw [List.foldlM_cons] at ran
      obtain ⟨more, middle, first, later⟩ := (StateT.run_bind_eq_some _ _ _ _).mp ran
      obtain ⟨atLeast, idle⟩ := visitDefinition_idle first
      obtain ⟨atLeastOn, idleOn⟩ := ih later
      refine ⟨Nat.le_trans atLeast atLeastOn, fun same => ?_⟩
      obtain ⟨rfl, present⟩ := idle (by omega)
      obtain ⟨rfl, others⟩ := idleOn (by omega)
      exact ⟨rfl, List.forall_mem_cons.mpr ⟨present, others⟩⟩

/-- A search that ends leaves no definition missing. -/
theorem discover_leaves_none {rounds added : Nat}
    (ran : (discover documents fuel rounds).run before = some (added, after)) :
    ∀ entry ∈ definitions documents, ¬IsMissing documents fuel after.graph entry := by
  induction rounds generalizing before added with
  | zero => cases ran
  | succ rounds ih =>
      obtain ⟨counted, middle, round, later⟩ := (StateT.run_bind_eq_some _ _ _ _).mp ran
      split at later
      next none =>
        cases later
        rw [discoverRound_eq] at round
        obtain ⟨rfl, present⟩ := (visitDefinitions_idle round).2 none
        exact present
      next =>
        obtain ⟨_, _, rest, answered⟩ := (StateT.run_bind_eq_some _ _ _ _).mp later
        cases answered
        exact ih rest

/-! ## Chains of references -/

/-- A reference leads to a schema that is no reference itself, perhaps through others. -/
inductive Refers (documents : DocumentSet) : String → String → DocumentSet.Target → Prop
  | last {base reference : String} {target : DocumentSet.Target} : documents.resolve? base reference = some target →
      reference? target.value = none → Refers documents base reference target
  | onward {base reference next : String} {middle target : DocumentSet.Target} :
      documents.resolve? base reference = some middle → reference? middle.value = some next →
      Refers documents (Url.splitReference middle.location).1 next target →
      Refers documents base reference target

/-- References of branches lead to a schema that declares a discriminator and is in the graph, or to one whose branches
do. -/
inductive Descends (documents : DocumentSet) (graph : Graph) : String → Value → Prop
  | root {url reference : String} {value branch : Value} {target : DocumentSet.Target} : branch ∈ branchesOf value →
      reference? branch = some reference → Refers documents url reference target →
      (target.value.stringAt? "discriminator").isSome = true → (graph.lookup target.location).isSome = true →
      Descends documents graph url value
  | parent {url reference : String} {value branch : Value} {target : DocumentSet.Target} : branch ∈ branchesOf value →
      reference? branch = some reference → Refers documents url reference target →
      Descends documents graph (Url.splitReference target.location).1 target.value → Descends documents graph url value

/-- No branch refers to what is a reference itself. -/
def Direct (documents : DocumentSet) : Prop :=
  ∀ site ∈ sites documents, ∀ branch ∈ branchesOf site.2, ∀ target ∈ landing? documents site.1 branch,
    reference? target.value = none

instance (documents : DocumentSet) : Decidable (Direct documents) :=
  inferInstanceAs (Decidable (∀ _ ∈ _, _))

/-- A direct branch refers to what its reference resolves to. -/
theorem Direct.landing? (direct : Direct documents) (site : (url, value) ∈ sites documents)
    (member : branch ∈ branchesOf value) (written : reference? branch = some reference)
    (refers : Refers documents url reference target) : landing? documents url branch = some target := by
  have landed {other : DocumentSet.Target} (resolved : documents.resolve? url reference = some other) :
      Reading.landing? documents url branch = some other := by
    rw [Reading.landing?, written]
    exact resolved
  cases refers with
  | last resolved => exact landed resolved
  | onward resolved on => cases (direct _ site _ member _ (landed resolved)).symm.trans on

theorem declares_of_stringAt? {key : String} (written : (value.stringAt? key).isSome = true) :
    (value.find? key).isSome = true := by
  obtain ⟨text, found⟩ := Option.isSome_iff_exists.mp written
  obtain ⟨inner, held, _⟩ := Option.bind_eq_some_iff.mp found
  rw [held]
  rfl

theorem Direct.inherits (direct : Direct documents) (site : (url, value) ∈ sites documents)
    (descends : Descends documents graph url value) : Inherits documents graph url value := by
  induction descends with
  | root member written refers declares known =>
      exact .root member (direct.landing? site member written refers) ⟨declares_of_stringAt? declares, known⟩
  | parent member written refers _ ih =>
      have landed := direct.landing? site member written refers
      exact .parent member landed (ih (site_of_landing? landed))

/-! ## The test and the graph -/

/-- References of branches resolve, and the discriminators that they lead to are texts. -/
structure Orderly (documents : DocumentSet) : Prop where
  canonical : Canonical documents
  resolved : ∀ site ∈ sites documents, ∀ branch ∈ branchesOf site.2, ∀ reference ∈ reference? branch,
    (documents.resolve? site.1 reference).isSome = true
  typed : ∀ site ∈ sites documents, ∀ branch ∈ branchesOf site.2, ∀ target ∈ landing? documents site.1 branch,
    (target.value.find? "discriminator").isSome = true → (target.value.stringAt? "discriminator").isSome = true

theorem Reached.tidy (reached : Reached documents visited catalog) : Tidy documents {} catalog := by
  induction reached with
  | start => exact .refl _ _
  | visit earlier ran ih => exact ih.trans (document_tidies _ _ _ earlier.moves.grows trivial ran)
  | discover earlier ran ih => exact ih.trans (discover_tidies _ _ _ earlier.moves.grows trivial ran)

/-- A node of the earlier graph is found where it was found then. -/
theorem Signed.lookup_of_grows (signed : Signed before.graph) (signedAfter : Signed after.graph)
    (grows : Grows before after) {location : String} (found : after.graph.lookup location = some id)
    (old : id < before.graph.size) :
    before.graph.lookup location = some id := by
  have own := (signed.located _ id).mpr ⟨old, rfl⟩
  have kept := ((signedAfter.located _ id).mp (grows.lookup own)).2
  rw [← ((signedAfter.located _ id).mp found).2, kept]
  exact own

/-- A node portrays what a pointer leads to at its place, unless that is a reference. -/
theorem Faithful.portrays (faithful : Faithful documents catalog id) (canonical : Canonical documents)
    (plain : PlainAddresses documents) (signed : Signed catalog.graph) {pointer : String} {route : Route}
    (found : documents.route? url pointer = some (route, value)) (own : reference? value = none)
    (bound : Bound (locationOf url pointer) catalog id) : Portrays documents catalog url value id := by
  have address {url : String} {whole : Value} (held : documents.get? url = some whole) : home url = url :=
    plain _ (List.mem_map_of_mem (Assoc.mem_of_find? held))
  -- What the node was made from stands at the same place, so that it is what the pointer leads to.
  have here {urlToo pointerToo : String} {valueToo : Value} (builds : Builds documents urlToo pointerToo valueToo)
      (boundToo : Bound (locationOf urlToo pointerToo) catalog id) : urlToo = url ∧ valueToo = value := by
    obtain ⟨_, held, _⟩ := Option.bind_eq_some_iff.mp found
    obtain ⟨_, heldToo⟩ : ∃ whole, documents.get? urlToo = some whole := by
      cases builds with
      | standing standing | lacking standing _ =>
          obtain ⟨whole, _, held, _⟩ := canonical.located standing
          exact ⟨whole, held⟩
    have same := ((signed.located _ id).mp boundToo).2.symm.trans ((signed.located _ id).mp bound).2
    have split := splitReference_locationOf (address heldToo) pointerToo
    rw [same, splitReference_locationOf (address held) pointer, Prod.mk.injEq] at split
    obtain ⟨rfl, rfl⟩ := split
    exact ⟨rfl, (canonical.value_eq builds found).symm⟩
  cases faithful with
  | built builds boundToo portrays =>
      obtain ⟨rfl, rfl⟩ := here builds boundToo
      exact portrays
  | dangling dangling boundToo =>
      obtain ⟨valueToo, standing, written⟩ := dangling.stands
      obtain ⟨rfl, rfl⟩ := here (.standing standing) boundToo
      cases own.symm.trans written

/-- The edge of a branch that refers to a schema directly leads to the node of that schema. -/
theorem Led.leads_to_landing (led : Led documents url place branch catalog edge)
    (landed : landing? documents url branch = some target) (own : reference? target.value = none) :
    edge.viaRef = true ∧ Bound target.location catalog edge.target := by
  obtain ⟨reference, written, resolved⟩ := landing?_eq_some landed
  cases led with
  | inline plain => cases plain.symm.trans written
  | reference writtenToo follows =>
      cases written.symm.trans writtenToo
      refine ⟨rfl, ?_⟩
      cases follows with
      | missing lost => cases lost.symm.trans resolved
      | found resolvedToo bound =>
          cases resolved.symm.trans resolvedToo
          exact bound
      | circular _ again => cases again
      | onward resolvedToo _ on =>
          cases resolved.symm.trans resolvedToo
          cases own.symm.trans on

/-- A branch that refers to a schema directly gives a parent. -/
theorem Portrays.parent_of_branch (portrays : Portrays documents catalog url value id)
    (member : branch ∈ branchesOf value) (landed : landing? documents url branch = some target)
    (own : reference? target.value = none) :
    ∃ parent, catalog.graph.HasParent id parent ∧ Bound target.location catalog parent := by
  obtain ⟨items, listed, member⟩ := mem_branchesOf_iff.mp member
  have branches := portrays.branches
  rw [Branches, listed] at branches
  obtain ⟨edges, attached, leads⟩ := branches.exists_right
  obtain ⟨edge, among, place, led⟩ := leads.exists_right member
  obtain ⟨viaRef, bound⟩ := led.leads_to_landing landed own
  exact ⟨edge.target, Graph.hasParent_iff.mpr ⟨edges, attached, edge, among, viaRef, rfl⟩, bound⟩

/-- A parent comes from a branch that refers to it, where all branches refer to schemas directly. -/
theorem Portrays.branch_of_parent (portrays : Portrays documents catalog url value id) (direct : Direct documents)
    (orderly : Orderly documents) (site : (url, value) ∈ sites documents) {parent : Nat}
    (hasParent : catalog.graph.HasParent id parent) :
    ∃ branch ∈ branchesOf value, ∃ target, landing? documents url branch = some target ∧
      Bound target.location catalog parent := by
  obtain ⟨edges, attached, edge, among, viaRef, rfl⟩ := Graph.hasParent_iff.mp hasParent
  have branches := portrays.branches
  rw [Branches, attached] at branches
  obtain ⟨items, listed, leads⟩ := branches.exists_left
  obtain ⟨branch, member, place, led⟩ := leads.exists_left among
  have branchOf : branch ∈ branchesOf value := mem_branchesOf_iff.mpr ⟨items, listed, member⟩
  have written : ∃ reference, reference? branch = some reference := by
    cases led with
    | inline => cases viaRef
    | reference written => exact ⟨_, written⟩
  obtain ⟨reference, written⟩ := written
  obtain ⟨target, resolved⟩ := Option.isSome_iff_exists.mp (orderly.resolved _ site _ branchOf _ written)
  have landed : landing? documents url branch = some target := by
    rw [landing?, written]
    exact resolved
  exact ⟨branch, branchOf, target, landed, (led.leads_to_landing landed (direct _ site _ branchOf _ landed)).2⟩

/-- Each node is found at its place alone, and portrays what is written there. -/
structure Mirrors (documents : DocumentSet) (catalog : Catalog) : Prop where
  signed : Signed catalog.graph
  faithful : ∀ id < catalog.graph.size, Faithful documents catalog id

theorem Reached.mirrors (reached : Reached documents visited catalog) : Mirrors documents catalog :=
  ⟨reached.moves.signed .empty, fun id inside => reached.tidy.faithful id (Nat.zero_le _) inside⟩

section

variable (plain : PlainAddresses documents) (direct : Direct documents) (orderly : Orderly documents)

include plain orderly

theorem Mirrors.portrays (mirrors : Mirrors documents catalog) {pointer : String} {route : Route}
    (found : documents.route? url pointer = some (route, value)) (own : reference? value = none)
    (bound : Bound (locationOf url pointer) catalog id) : Portrays documents catalog url value id :=
  (mirrors.faithful id ((mirrors.signed.located _ id).mp bound).1).portrays orderly.canonical plain mirrors.signed found
    own bound

theorem Mirrors.portrays_landing (mirrors : Mirrors documents catalog)
    (landed : landing? documents url branch = some target) (own : reference? target.value = none)
    (bound : Bound target.location catalog id) :
    Portrays documents catalog (Url.splitReference target.location).1 target.value id := by
  obtain ⟨_, _, resolved⟩ := landing?_eq_some landed
  obtain ⟨⟨route, _⟩, found, rfl⟩ := Option.map_eq_some_iff.mp (route?_of_resolve? resolved)
  rw [splitReference_target plain resolved]
  exact mirrors.portrays plain orderly found own bound

include direct

/-- Where branches lead to a root of the earlier graph, parents lead to one in the later graph. -/
theorem Portrays.leads_of_inherits (portrays : Portrays documents after url value id)
    (site : (url, value) ∈ sites documents) (signed : Signed before.graph) (mirrors : Mirrors documents after)
    (grows : Grows before after) (inherits : Inherits documents before.graph url value) :
    ∃ top < before.graph.size, (after.graph.node top).discriminator ≠ none ∧ TransGen after.graph.HasParent id top := by
  induction inherits generalizing id with
  | root member landed known =>
      have own := direct _ site _ member _ landed
      obtain ⟨declares, held⟩ := known
      obtain ⟨top, found⟩ := Option.isSome_iff_exists.mp held
      obtain ⟨parent, hasParent, bound⟩ := portrays.parent_of_branch member landed own
      obtain rfl : top = parent := Option.some.inj ((grows.lookup found).symm.trans bound)
      refine ⟨top, ((signed.located _ top).mp found).1, ?_, .single hasParent⟩
      rw [(mirrors.portrays_landing plain orderly landed own bound).discriminator]
      exact Option.isSome_iff_ne_none.mp (orderly.typed _ site _ member _ landed declares)
  | parent member landed _ ih =>
      have own := direct _ site _ member _ landed
      obtain ⟨parent, hasParent, bound⟩ := portrays.parent_of_branch member landed own
      obtain ⟨top, old, declares, leads⟩ :=
        ih (mirrors.portrays_landing plain orderly landed own bound) (site_of_landing? landed)
      exact ⟨top, old, declares, .head hasParent leads⟩

/-- Where parents lead to a root in the later graph that the earlier one has, branches lead to it. -/
theorem Portrays.inherits_of_leads (portrays : Portrays documents after url value id)
    (site : (url, value) ∈ sites documents) (signed : Signed before.graph) (mirrors : Mirrors documents after)
    (grows : Grows before after) {top : Nat} (old : top < before.graph.size)
    (declares : (after.graph.node top).discriminator ≠ none) (leads : TransGen after.graph.HasParent id top) :
    Inherits documents before.graph url value := by
  induction leads using TransGen.head_induction_on generalizing url value with
  | single hasParent =>
      obtain ⟨branch, member, target, landed, bound⟩ := portrays.branch_of_parent direct orderly site hasParent
      have own := direct _ site _ member _ landed
      rw [(mirrors.portrays_landing plain orderly landed own bound).discriminator, ← Option.isSome_iff_ne_none]
        at declares
      have known := signed.lookup_of_grows mirrors.signed grows bound old
      exact .root member landed ⟨declares_of_stringAt? declares, by rw [known]; rfl⟩
  | head hasParent _ ih =>
      obtain ⟨branch, member, target, landed, bound⟩ := portrays.branch_of_parent direct orderly site hasParent
      have own := direct _ site _ member _ landed
      have portraysParent := mirrors.portrays_landing plain orderly landed own bound
      exact .parent member landed (ih portraysParent (site_of_landing? landed))

end

/-- A named definition is where its pointer leads to. -/
theorem Canonical.route?_definition (canonical : Canonical documents)
    (listed : (url, name, value) ∈ definitions documents) :
    ∃ route, documents.route? url (Pointer.child "/definitions" name) = some (route, value) := by
  obtain ⟨⟨url, whole⟩, among, member⟩ := List.mem_flatMap.mp listed
  obtain ⟨⟨name, value⟩, inside, ⟨⟩⟩ := List.mem_map.mp member
  have held : documents.get? url = some whole := Assoc.find?_of_mem canonical.addresses among
  cases written : whole.objectAt? "definitions" with
  | none =>
      rw [written] at inside
      cases inside
  | some entries =>
      rw [written] at inside
      have table := (Standing.document among).objectAt? (by decide) written
      have unique := (canonical.located table).hasUniqueKeys canonical
      rw [Value.hasUniqueKeys, Bool.and_eq_true, decide_eq_true_eq] at unique
      have found : Assoc.find? entries name = some value := Assoc.find?_of_mem unique.1 inside
      have spelled : Pointer.child "/definitions" name = Route.spell [.key "definitions", .key name] := rfl
      refine ⟨[.key "definitions", .key name], ?_⟩
      rw [DocumentSet.route?, held, spelled, Route.segments_spell (by simp [Route.IsProper]), Option.bind_some]
      exact Value.route?_entry written found

/-- The test that was made before a definition was read tells what a search for its root answers after: the definition
inherits from one of so many nodes, those that were known then. -/
structure Foretells (inherits : Bool) (known : Nat) (graph : Graph) (id : Nat) : Prop where
  exact : inherits = true ↔
    ∃ top < known, (graph.node top).discriminator ≠ none ∧ TransGen graph.HasParent id top
  rooted : inherits = true → (graph.ownRoot? id).isSome = true
  told : ∀ top < known, graph.ownRoot? id = some top → inherits = true

theorem definition_foretold (plain : PlainAddresses documents) (direct : Direct documents) (orderly : Orderly documents)
    (reached : Reached documents visited catalog) (listed : (url, name, value) ∈ definitions documents)
    (own : reference? value = none) (free : catalog.graph.definition url name = none) :
    ∃ id built, (definition documents (fuelFor documents) url name value).run catalog = some (id, built) ∧
      Foretells (inheritsKnownRoot documents catalog.graph (fuelFor documents) url value []).1 catalog.graph.size
        built.graph id := by
  obtain ⟨id, built, ran, _⟩ := definition_answers listed catalog trivial
  refine ⟨id, built, ran, ?_⟩
  have standing := standing_of_mem_definitions listed
  have mirrors := reached.mirrors
  have tidy := reached.tidy.trans (definition_tidies listed _ _ _ reached.moves.grows trivial ran)
  rw [definition, own] at ran
  obtain ⟨moves, bound⟩ := (sound documents (fuelFor documents)).build url (Pointer.child "/definitions" name) value
    (some (locationOf url (Pointer.child "/definitions" name))) (.standing standing) (by rintro location ⟨⟩; rfl)
    _ _ _ reached.moves.grows trivial ran
  have mirrorsBuilt : Mirrors documents built :=
    ⟨moves.signed mirrors.signed, fun other inside => tidy.faithful other (Nat.zero_le _) inside⟩
  obtain ⟨route, found⟩ := orderly.canonical.route?_definition listed
  have portrays := mirrorsBuilt.portrays plain orderly found own bound
  have site := standing.mem_sites
  have exact : (inheritsKnownRoot documents catalog.graph (fuelFor documents) url value []).1 = true ↔
      ∃ top < catalog.graph.size, (built.graph.node top).discriminator ≠ none ∧
        TransGen built.graph.HasParent id top := by
    rw [inheritsKnownRoot_iff plain site]
    constructor
    · exact portrays.leads_of_inherits plain direct orderly site mirrors.signed mirrorsBuilt moves.grows
    · rintro ⟨top, old, declares, leads⟩
      exact portrays.inherits_of_leads plain direct orderly site mirrors.signed mirrorsBuilt moves.grows old declares leads
  refine ⟨exact, fun inherits => ?_, fun top old answered => ?_⟩
  · obtain ⟨top, _, declares, leads⟩ := exact.mp inherits
    exact (Graph.ownRoot?_isSome_iff _ _).mpr ⟨top, leads.to_reflTransGen, declares⟩
  · obtain ⟨declares, leads⟩ := Graph.leads_of_ownRoot? answered
    refine exact.mpr ⟨top, old, declares, ?_⟩
    -- The definition is not its own root among the known nodes: it had no node.
    rcases reflTransGen_iff_eq_or_transGen.mp leads with rfl | onward
    · have known := mirrors.signed.lookup_of_grows mirrorsBuilt.signed moves.grows bound old
      rw [definition_eq_lookup] at free
      cases free.symm.trans known
    · exact onward

/-- A search that ends leaves out no definition whose branches refer, step by step, to a root in the graph. Where all
branches refer to schemas directly that is every definition that chains of references lead to a root from; and where all
references are in order, the test that decides on a definition tells beforehand what a search for its root answers once
it was read. -/
theorem discovery_complete (plain : PlainAddresses documents) :
    (∀ rounds before added after, (discover documents (fuelFor documents) rounds).run before = some (added, after) →
      ∀ url name value, (url, name, value) ∈ definitions documents →
        Inherits documents after.graph url value ∨ Direct documents ∧ Descends documents after.graph url value →
        (after.graph.definition url name).isSome = true) ∧
      (Direct documents → Orderly documents → ∀ visited catalog, Reached documents visited catalog →
        ∀ url name value, (url, name, value) ∈ definitions documents → reference? value = none →
          catalog.graph.definition url name = none →
          ∃ id built, (definition documents (fuelFor documents) url name value).run catalog = some (id, built) ∧
            Foretells (inheritsKnownRoot documents catalog.graph (fuelFor documents) url value []).1 catalog.graph.size
              built.graph id) := by
  refine ⟨fun rounds before added after ran url name value listed leads => ?_,
    fun direct orderly visited catalog reached url name value => definition_foretold plain direct orderly reached⟩
  have site := (standing_of_mem_definitions listed).mem_sites
  have inherits : Inherits documents after.graph url value := by
    rcases leads with inherits | ⟨direct, descends⟩
    · exact inherits
    · exact direct.inherits site descends
  by_contra unbound
  exact discover_leaves_none ran _ listed ⟨by simpa using unbound, (inheritsKnownRoot_iff plain site).mpr inherits⟩

/-! ## A kennel -/

/-- Dogs with a branch that refers to a definition. -/
def dog (parent : String) : Value :=
  .object [("allOf", .array [.toDefinition parent]), ("properties", .object [("barks", .ofType "boolean")])]

/-- Pets are kept in a document of their own, where they are called animals as well, and dogs are found by their tag
alone. -/
def kennelDocuments (parent : String) : DocumentSet :=
  let boxes := Value.object [("type", .string "array"),
    ("items", .object [("$ref", .string "pets.json#/definitions/Pet")])]
  let pet := Value.object [("type", .string "object"), ("discriminator", .string "kind"),
    ("properties", .object [("kind", .ofType "string")])]
  { documents := [("/api.json", .object [("definitions", .object [("Boxes", boxes)])]),
      ("/pets.json", .object [("definitions",
        .object [("Pet", pet), ("Animal", .toDefinition "Pet"), ("Dog", dog parent)])])]
    roots := ["/api.json"] }

abbrev kennel : DocumentSet := kennelDocuments "Pet"

/-- Dogs refer to pets by their other name. -/
abbrev renamedKennel : DocumentSet := kennelDocuments "Animal"

theorem dog_mem_definitions (parent : String) :
    ("/pets.json", "Dog", dog parent) ∈ definitions (kennelDocuments parent) := by
  have last : (definitions (kennelDocuments parent))[3]? = some ("/pets.json", "Dog", dog parent) := rfl
  exact List.mem_of_getElem? last

theorem kennel_orderly : PlainAddresses kennel ∧ Direct kennel ∧ Orderly kennel := by
  refine ⟨by decide +kernel, by decide +kernel, ?_, by decide +kernel, by decide +kernel⟩
  apply Canonical.of_sites <;> decide +kernel

/-- Pets are the root of dogs, whether these refer to them or to their other name. -/
theorem dog_descends {graph : Graph} (known : (graph.lookup "/pets.json#/definitions/Pet").isSome = true)
    (parent : String) (named : parent = "Pet" ∨ parent = "Animal") :
    Descends (kennelDocuments parent) graph "/pets.json" (dog parent) := by
  have pets : ((kennelDocuments parent).resolve? "/pets.json" "#/definitions/Pet").any (fun target =>
      decide (target.location = "/pets.json#/definitions/Pet" ∧ reference? target.value = none ∧
        (target.value.stringAt? "discriminator").isSome = true)) = true := rfl
  obtain ⟨pet, resolved, facts⟩ := (Option.any_eq_true _ _).mp pets
  obtain ⟨location, own, declares⟩ := of_decide_eq_true facts
  have refers : Refers (kennelDocuments parent) "/pets.json" "#/definitions/Pet" pet := .last resolved own
  rw [← location] at known
  rcases named with rfl | rfl
  · exact .root (List.mem_singleton_self _) rfl refers declares known
  · have animals : ((kennelDocuments "Animal").resolve? "/pets.json" "#/definitions/Animal").any (fun target =>
        decide ((Url.splitReference target.location).1 = "/pets.json" ∧
          reference? target.value = some "#/definitions/Pet")) = true := by
      decide +kernel
    obtain ⟨animal, resolvedToo, facts⟩ := (Option.any_eq_true _ _).mp animals
    obtain ⟨home, onward⟩ := of_decide_eq_true facts
    exact .root (List.mem_singleton_self _) rfl (.onward resolvedToo onward (home ▸ refers)) declares known

/-- One dog is discovered, and the test told so. -/
theorem kennel_complete :
    ∃ operations catalog added after,
      (document kennel (fuelFor kennel) "/api.json").run {} = some (operations, catalog) ∧
      (discover kennel (fuelFor kennel) 2).run catalog = some (added, after) ∧
      catalog.graph.definition "/pets.json" "Dog" = none ∧ (after.graph.definition "/pets.json" "Dog").isSome = true ∧
      ∃ id built, (definition kennel (fuelFor kennel) "/pets.json" "Dog" (dog "Pet")).run catalog = some (id, built) ∧
        Foretells true catalog.graph.size built.graph id := by
  obtain ⟨plain, direct, orderly⟩ := kennel_orderly
  have listed := dog_mem_definitions "Pet"
  have facts : ((document kennel (fuelFor kennel) "/api.json").run {}).any (fun read =>
      ((discover kennel (fuelFor kennel) 2).run read.2).any fun searched =>
        decide (read.2.graph.definition "/pets.json" "Dog" = none ∧
          (inheritsKnownRoot kennel read.2.graph (fuelFor kennel) "/pets.json" (dog "Pet") []).1 = true ∧
          (searched.2.graph.lookup "/pets.json#/definitions/Pet").isSome = true)) = true := by
    decide +kernel
  obtain ⟨⟨operations, catalog⟩, read, facts⟩ := (Option.any_eq_true _ _).mp facts
  obtain ⟨⟨added, after⟩, searched, facts⟩ := (Option.any_eq_true _ _).mp facts
  obtain ⟨free, inherits, known⟩ := of_decide_eq_true facts
  obtain ⟨complete, foretold⟩ := discovery_complete plain
  have told := foretold direct orderly _ catalog (.visit .start read) _ _ _ listed (by decide +kernel) free
  rw [inherits] at told
  exact ⟨operations, catalog, added, after, read, searched, free,
    complete _ _ _ _ searched _ _ _ listed (.inr ⟨direct, dog_descends known "Pet" (.inl rfl)⟩), told⟩

/-- Dogs that refer to pets by their other name are left out, though a search for their root finds the pets. -/
theorem renamed_parent_missed :
    ∃ operations catalog after root,
      (document renamedKennel (fuelFor renamedKennel) "/api.json").run {} = some (operations, catalog) ∧
      (discover renamedKennel (fuelFor renamedKennel) 1).run catalog = some (0, after) ∧
      ("/pets.json", "Dog", dog "Animal") ∈ definitions renamedKennel ∧
      Descends renamedKennel after.graph "/pets.json" (dog "Animal") ∧
      after.graph.definition "/pets.json" "Dog" = none ∧
      after.graph.lookup "/pets.json#/definitions/Pet" = some root ∧
      ∃ id built,
        (definition renamedKennel (fuelFor renamedKennel) "/pets.json" "Dog" (dog "Animal")).run after =
          some (id, built) ∧
        built.graph.ownRoot? id = some root := by
  have facts : ((document renamedKennel (fuelFor renamedKennel) "/api.json").run {}).any (fun read =>
      ((discover renamedKennel (fuelFor renamedKennel) 1).run read.2).any fun searched =>
        ((definition renamedKennel (fuelFor renamedKennel) "/pets.json" "Dog" (dog "Animal")).run searched.2).any
          fun built =>
            decide (searched.1 = 0 ∧ searched.2.graph.definition "/pets.json" "Dog" = none ∧
              searched.2.graph.lookup "/pets.json#/definitions/Pet" = some 1 ∧
              built.2.graph.ownRoot? built.1 = some 1)) = true := by
    decide +kernel
  obtain ⟨⟨operations, catalog⟩, read, facts⟩ := (Option.any_eq_true _ _).mp facts
  obtain ⟨⟨added, after⟩, searched, facts⟩ := (Option.any_eq_true _ _).mp facts
  obtain ⟨⟨id, built⟩, ran, facts⟩ := (Option.any_eq_true _ _).mp facts
  obtain ⟨rfl, free, known, rooted⟩ := of_decide_eq_true facts
  exact ⟨operations, catalog, after, 1, read, searched, dog_mem_definitions _,
    dog_descends (by rw [known]; rfl) "Animal" (.inr rfl), free, known, id, built, ran, rooted⟩

end Reading

end Schema

end ApiContract
