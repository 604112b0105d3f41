import ApiContract.Proofs.Schema.Visits

/-!
Whether a schema inherits from a root that is in the graph is decided on the documents. The search passes no location
twice, and still it finds out exactly whether the references of branches lead to such a root (`inheritsKnownRoot_iff`):
what it leaves alone was searched before.
-/

namespace ApiContract.Schema.Reading

open Json (Value)

variable {documents : DocumentSet} {graph : Graph} {url base reference : String} {value : Value} {fuel : Nat}
  {seen middle after : List String} {branches : List Value} {target other : DocumentSet.Target}

def PlainAddresses (documents : DocumentSet) : Prop := ∀ url ∈ documents.urls, home url = url

instance (documents : DocumentSet) : Decidable (PlainAddresses documents) :=
  inferInstanceAs (Decidable (∀ _ ∈ _, _))

def branchesOf (value : Value) : List Value := (value.arrayAt? "allOf").getD []

def landing? (documents : DocumentSet) (url : String) (branch : Value) : Option DocumentSet.Target :=
  (reference? branch).bind (documents.resolve? url)

/-- A schema that declares a discriminator and is in the graph. -/
def IsKnownRoot (graph : Graph) (target : DocumentSet.Target) : Prop :=
  (target.value.find? "discriminator").isSome = true ∧ (graph.lookup target.location).isSome = true

/-- Branches refer to a root that is in the graph, or to a schema whose branches do. -/
inductive Inherits (documents : DocumentSet) (graph : Graph) : String → Value → Prop
  | root {url value branch target} : branch ∈ branchesOf value → landing? documents url branch = some target →
      IsKnownRoot graph target → Inherits documents graph url value
  | parent {url value branch target} : branch ∈ branchesOf value → landing? documents url branch = some target →
      Inherits documents graph (Url.splitReference target.location).1 target.value → Inherits documents graph url value

/-! ## Targets -/

theorem resolve?_eq_some (resolved : documents.resolve? base reference = some target) :
    ∃ document, documents.get? target.url = some document ∧ document.at? target.pointer = some target.value := by
  obtain ⟨document, held, rest⟩ := Option.bind_eq_some_iff.mp resolved
  obtain ⟨value, followed, same⟩ := Option.bind_eq_some_iff.mp rest
  cases same
  exact ⟨document, held, followed⟩

/-- A location in a document whose address has no number sign is split into what it was made of. -/
theorem splitReference_locationOf (own : home url = url) (pointer : String) :
    Url.splitReference (locationOf url pointer) = (url, pointer) := by
  obtain ⟨after, cut, spelled⟩ := splitReference_location url pointer
  rw [own, locationOf] at spelled
  rw [locationOf, cut, own, (String.append_right_inj _).mp spelled]

theorem splitReference_target (plain : PlainAddresses documents)
    (resolved : documents.resolve? base reference = some target) :
    Url.splitReference target.location = (target.url, target.pointer) := by
  obtain ⟨_, held, _⟩ := resolve?_eq_some resolved
  exact splitReference_locationOf (plain _ (List.mem_map_of_mem (Assoc.mem_of_find? held))) _

theorem eq_of_location_eq (plain : PlainAddresses documents) {baseToo referenceToo : String}
    (resolved : documents.resolve? base reference = some target)
    (resolvedToo : documents.resolve? baseToo referenceToo = some other) (same : target.location = other.location) :
    target = other := by
  have spelled := splitReference_target plain resolved
  rw [same, splitReference_target plain resolvedToo, Prod.mk.injEq] at spelled
  obtain ⟨document, held, followed⟩ := resolve?_eq_some resolved
  obtain ⟨documentToo, heldToo, followedToo⟩ := resolve?_eq_some resolvedToo
  rw [spelled.1, held] at heldToo
  cases heldToo
  rw [spelled.2, followed] at followedToo
  cases target
  cases other
  simp_all

theorem landing?_eq_some {branch : Value} (landed : landing? documents url branch = some target) :
    ∃ reference, reference? branch = some reference ∧ documents.resolve? url reference = some target :=
  Option.bind_eq_some_iff.mp landed

theorem site_of_landing? {branch : Value} (landed : landing? documents url branch = some target) :
    ((Url.splitReference target.location).1, target.value) ∈ sites documents := by
  obtain ⟨_, _, resolved⟩ := landing?_eq_some landed
  obtain ⟨_, cut, _⟩ := splitReference_location target.url target.pointer
  rw [DocumentSet.Target.location, cut]
  exact mem_sites_of_resolve? resolved

theorem mem_branchesOf_iff {branch : Value} :
    branch ∈ branchesOf value ↔ ∃ items, value.arrayAt? "allOf" = some items ∧ branch ∈ items := by
  rw [branchesOf]
  cases value.arrayAt? "allOf" <;> simp

theorem branch_mem_sites (site : (url, value) ∈ sites documents) {branch : Value} (member : branch ∈ branchesOf value) :
    (url, branch) ∈ sites documents := by
  obtain ⟨items, listed, among⟩ := mem_branchesOf_iff.mp member
  obtain ⟨inner, held, array⟩ := Option.bind_eq_some_iff.mp listed
  obtain ⟨entries, rfl⟩ : ∃ entries, value = .object entries := by
    cases value with
    | object entries => exact ⟨entries, rfl⟩
    | null | bool flag | number n | string text | array items => cases held
  cases inner with
  | array list =>
      cases array
      exact mem_sites_of_holds site (.tail (.single (Value.holds_of_find? held)) (.item among))
  | null | bool flag | number n | string text | object table => cases array

/-! ## One branch after the other -/

/-- Searches a branch, if no root was found before. -/
def searchBranch (documents : DocumentSet) (graph : Graph) (fuel : Nat) (url : String) (state : Bool × List String)
    (branch : Value) : Bool × List String :=
  if state.1 then (state.1, state.2)
  else match landing? documents url branch with
    | none => (false, state.2)
    | some target =>
        if state.2.contains target.location then (false, state.2)
        else if (target.value.find? "discriminator").isSome && (graph.lookup target.location).isSome then
          (true, target.location :: state.2)
        else inheritsKnownRoot documents graph fuel (Url.splitReference target.location).1 target.value
          (target.location :: state.2)

theorem inheritsKnownRoot_succ (documents : DocumentSet) (graph : Graph) (fuel : Nat) (url : String) (value : Value)
    (seen : List String) : inheritsKnownRoot documents graph (fuel + 1) url value seen =
      (branchesOf value).foldl (searchBranch documents graph fuel url) (false, seen) := rfl

/-- One branch, where no root was found before it. -/
inductive SearchesBranch (documents : DocumentSet) (graph : Graph) (fuel : Nat) (url : String) (branch : Value)
    (seen : List String) : Bool → List String → Prop
  | lost : landing? documents url branch = none → SearchesBranch documents graph fuel url branch seen false seen
  | passed {target : DocumentSet.Target} : landing? documents url branch = some target → target.location ∈ seen →
      SearchesBranch documents graph fuel url branch seen false seen
  | root {target : DocumentSet.Target} : landing? documents url branch = some target → IsKnownRoot graph target →
      SearchesBranch documents graph fuel url branch seen true (target.location :: seen)
  | onward {target : DocumentSet.Target} {found : Bool} {after : List String} :
      landing? documents url branch = some target → target.location ∉ seen → ¬IsKnownRoot graph target →
      inheritsKnownRoot documents graph fuel (Url.splitReference target.location).1 target.value
        (target.location :: seen) = (found, after) →
      SearchesBranch documents graph fuel url branch seen found after

theorem searchBranch_cases (branch : Value) (seen : List String) :
    SearchesBranch documents graph fuel url branch seen (searchBranch documents graph fuel url (false, seen) branch).1
      (searchBranch documents graph fuel url (false, seen) branch).2 := by
  unfold searchBranch
  rw [if_neg Bool.false_ne_true]
  split
  next lost => exact .lost lost
  next target landed =>
    split
    next again => exact .passed landed (by simpa using again)
    next new =>
      split
      next root => exact .root landed (by simpa [IsKnownRoot] using root)
      next plain => exact .onward landed (by simpa using new) (by simpa [IsKnownRoot] using plain) rfl

theorem foldl_searchBranch_found (branches : List Value) (seen : List String) :
    branches.foldl (searchBranch documents graph fuel url) (true, seen) = (true, seen) := by
  induction branches with
  | nil => rfl
  | cons branch rest ih => exact ih

theorem Inherits.of_search (found : (inheritsKnownRoot documents graph fuel url value seen).1 = true) :
    Inherits documents graph url value := by
  induction fuel generalizing url value seen with
  | zero => cases found
  | succ fuel ih =>
      rw [inheritsKnownRoot_succ] at found
      have each {branches : List Value} (among : branches ⊆ branchesOf value) (seen : List String)
          (found : (branches.foldl (searchBranch documents graph fuel url) (false, seen)).1 = true) :
          Inherits documents graph url value := by
        induction branches generalizing seen with
        | nil => cases found
        | cons branch rest ihRest =>
            obtain ⟨member, amongRest⟩ := List.cons_subset.mp among
            rw [List.foldl_cons] at found
            have searches : SearchesBranch documents graph fuel url branch seen _ _ := searchBranch_cases branch seen
            generalize searchBranch documents graph fuel url (false, seen) branch = state at found searches
            obtain ⟨answer, onward⟩ := state
            cases searches with
            | lost | passed => exact ihRest amongRest _ found
            | root landed root => exact .root member landed root
            | onward landed _ _ ran =>
                cases answer with
                | true => exact .parent member landed (ih (by rw [ran]))
                | false => exact ihRest amongRest _ found
      exact each (List.Subset.refl _) seen found

/-! ## Searches that find nothing -/

/-- Whatever the branches refer to was seen, and is no root that is in the graph. -/
def Exhausted (documents : DocumentSet) (graph : Graph) (seen : List String) (url : String) (branches : List Value) :
    Prop :=
  ∀ branch ∈ branches, ∀ target, landing? documents url branch = some target →
    target.location ∈ seen ∧ ¬IsKnownRoot graph target

theorem Exhausted.mono (exhausted : Exhausted documents graph seen url branches) (more : seen ⊆ after) :
    Exhausted documents graph after url branches :=
  fun branch member target landed => (exhausted branch member target landed).imp_left fun known => more known

/-- What a search has seen that found nothing yet: landings, each once, and no root that is in the graph. -/
structure Rootless (documents : DocumentSet) (graph : Graph) (seen : List String) : Prop where
  distinct : seen.Nodup
  among : seen ⊆ landings documents
  unrelated : ∀ base reference target, documents.resolve? base reference = some target → target.location ∈ seen →
    ¬IsKnownRoot graph target

theorem Rootless.cons (plain : PlainAddresses documents) (rootless : Rootless documents graph seen)
    (resolved : documents.resolve? base reference = some target) (landing : target.location ∈ landings documents)
    (new : target.location ∉ seen) (unrelated : ¬IsKnownRoot graph target) :
    Rootless documents graph (target.location :: seen) where
  distinct := List.nodup_cons.mpr ⟨new, rootless.distinct⟩
  among := List.cons_subset.mpr ⟨landing, rootless.among⟩
  unrelated baseToo referenceToo other resolvedToo member := by
    rcases List.mem_cons.mp member with own | earlier
    · rwa [eq_of_location_eq plain resolvedToo resolved own]
    · exact rootless.unrelated baseToo referenceToo other resolvedToo earlier

/-- A search that found nothing exhausted all that it came to see. -/
structure Fruitless (documents : DocumentSet) (graph : Graph) (seen after : List String) : Prop where
  rootless : Rootless documents graph after
  keeps : seen ⊆ after
  inner : ∀ base reference target, documents.resolve? base reference = some target → target.location ∈ after →
    target.location ∉ seen →
    Exhausted documents graph after (Url.splitReference target.location).1 (branchesOf target.value)

theorem Fruitless.refl (rootless : Rootless documents graph seen) : Fruitless documents graph seen seen :=
  ⟨rootless, List.Subset.refl _, fun _ _ _ _ member new => absurd member new⟩

theorem Fruitless.trans (first : Fruitless documents graph seen middle)
    (second : Fruitless documents graph middle after) : Fruitless documents graph seen after where
  rootless := second.rootless
  keeps := List.Subset.trans first.keeps second.keeps
  inner base reference target resolved member new := by
    by_cases known : target.location ∈ middle
    · exact (first.inner base reference target resolved known new).mono second.keeps
    · exact second.inner base reference target resolved member known

/-- The search below a target that was not seen before. -/
theorem Fruitless.below (plain : PlainAddresses documents) (resolved : documents.resolve? base reference = some target)
    (rest : Fruitless documents graph (target.location :: seen) after)
    (exhausted : Exhausted documents graph after (Url.splitReference target.location).1 (branchesOf target.value)) :
    Fruitless documents graph seen after where
  rootless := rest.rootless
  keeps := fun _ member => rest.keeps (List.mem_cons_of_mem _ member)
  inner baseToo referenceToo other resolvedToo member new := by
    by_cases own : other.location = target.location
    · rw [eq_of_location_eq plain resolvedToo resolved own]
      exact exhausted
    · exact rest.inner baseToo referenceToo other resolvedToo member (by simp [own, new])

/-- With so much fuel, a search that finds nothing leaves nothing out. -/
def Exhaustive (documents : DocumentSet) (graph : Graph) (fuel : Nat) : Prop :=
  ∀ url value seen after, (url, value) ∈ sites documents → Rootless documents graph seen →
    (landings documents).length < fuel + seen.length →
    inheritsKnownRoot documents graph fuel url value seen = (false, after) →
    Fruitless documents graph seen after ∧ Exhausted documents graph after url (branchesOf value)

namespace Exhaustive

theorem branch (exhaustive : Exhaustive documents graph fuel) (plain : PlainAddresses documents) {branch : Value}
    (site : (url, branch) ∈ sites documents) (rootless : Rootless documents graph seen)
    (enough : (landings documents).length < fuel + 1 + seen.length)
    (searches : SearchesBranch documents graph fuel url branch seen false after) :
    Fruitless documents graph seen after ∧ Exhausted documents graph after url [branch] := by
  have single (known : ∀ target, landing? documents url branch = some target →
      target.location ∈ after ∧ ¬IsKnownRoot graph target) : Exhausted documents graph after url [branch] := by
    intro other same
    rw [List.mem_singleton.mp same]
    exact known
  cases searches with
  | lost lost =>
      refine ⟨.refl rootless, single fun target landed => ?_⟩
      cases lost.symm.trans landed
  | @passed target landed known =>
      obtain ⟨reference, _, resolved⟩ := landing?_eq_some landed
      refine ⟨.refl rootless, single fun other landedToo => ?_⟩
      cases landed.symm.trans landedToo
      exact ⟨known, rootless.unrelated _ _ _ resolved known⟩
  | @onward target _ _ landed new unrelated ran =>
      obtain ⟨reference, written, resolved⟩ := landing?_eq_some landed
      have landing : target.location ∈ landings documents := Stands.mem_landings ⟨branch, site, written⟩ resolved
      obtain ⟨fruitless, exhausted⟩ := exhaustive _ _ _ _ (site_of_landing? landed)
        (rootless.cons plain resolved landing new unrelated) (by rw [List.length_cons]; omega) ran
      refine ⟨.below plain resolved fruitless exhausted, single fun other landedToo => ?_⟩
      cases landed.symm.trans landedToo
      exact ⟨fruitless.keeps List.mem_cons_self, unrelated⟩

theorem all (exhaustive : Exhaustive documents graph fuel) (plain : PlainAddresses documents)
    (sited : ∀ branch ∈ branches, (url, branch) ∈ sites documents) (rootless : Rootless documents graph seen)
    (enough : (landings documents).length < fuel + 1 + seen.length)
    (missed : branches.foldl (searchBranch documents graph fuel url) (false, seen) = (false, after)) :
    Fruitless documents graph seen after ∧ Exhausted documents graph after url branches := by
  induction branches generalizing seen with
  | nil =>
      cases missed
      exact ⟨.refl rootless, fun _ member => absurd member List.not_mem_nil⟩
  | cons branch rest ih =>
      rw [List.foldl_cons] at missed
      have searches : SearchesBranch documents graph fuel url branch seen _ _ := searchBranch_cases branch seen
      generalize searchBranch documents graph fuel url (false, seen) branch = state at missed searches
      obtain ⟨answer, onward⟩ := state
      obtain rfl : answer = false := by
        cases answer with
        | false => rfl
        | true =>
            rw [foldl_searchBranch_found] at missed
            cases missed
      obtain ⟨fruitless, exhausted⟩ :=
        exhaustive.branch plain (sited branch List.mem_cons_self) rootless enough searches
      have longer := (List.subperm_of_subset rootless.distinct fruitless.keeps).length_le
      obtain ⟨fruitlessRest, exhaustedRest⟩ :=
        ih (fun other member => sited other (List.mem_cons_of_mem _ member)) fruitless.rootless (by omega) missed
      refine ⟨fruitless.trans fruitlessRest, fun other member => ?_⟩
      rcases List.mem_cons.mp member with rfl | later
      · exact (exhausted.mono fruitlessRest.keeps) other (List.mem_singleton_self _)
      · exact exhaustedRest other later

end Exhaustive

theorem exhaustive (plain : PlainAddresses documents) (graph : Graph) (fuel : Nat) :
    Exhaustive documents graph fuel := by
  induction fuel with
  | zero =>
      intro _ _ seen _ _ rootless enough
      have bounded := (List.subperm_of_subset rootless.distinct rootless.among).length_le
      omega
  | succ fuel ih =>
      intro url value seen after site rootless enough missed
      rw [inheritsKnownRoot_succ] at missed
      exact ih.all plain (fun _ member => branch_mem_sites site member) rootless enough missed

/-- The search finds out whether branches lead to a root that is in the graph. -/
theorem inheritsKnownRoot_iff (plain : PlainAddresses documents) (site : (url, value) ∈ sites documents) :
    (inheritsKnownRoot documents graph (fuelFor documents) url value []).1 = true ↔
      Inherits documents graph url value := by
  refine ⟨.of_search, fun inherits => ?_⟩
  by_contra unfound
  generalize ran : inheritsKnownRoot documents graph (fuelFor documents) url value [] = answer at unfound
  obtain ⟨found, after⟩ := answer
  obtain rfl : found = false := by simpa using unfound
  have empty : Rootless documents graph [] :=
    ⟨List.nodup_nil, List.nil_subset _, fun _ _ _ _ member => absurd member List.not_mem_nil⟩
  have enough : (landings documents).length < fuelFor documents + ([] : List String).length := by
    have few : (landings documents).length ≤ span documents := length_landings_le documents
    have less := @demand_le_fuelFor documents 0 0 (Nat.zero_le _) (Nat.zero_le _)
    unfold demand at less
    omega
  obtain ⟨fruitless, exhausted⟩ := exhaustive plain graph _ _ _ _ _ site empty enough ran
  clear ran unfound site
  induction inherits with
  | root member landed root => exact (exhausted _ member _ landed).2 root
  | parent member landed _ ih =>
      obtain ⟨_, _, resolved⟩ := landing?_eq_some landed
      obtain ⟨known, _⟩ := exhausted _ member _ landed
      exact ih (fruitless.inner _ _ _ resolved known List.not_mem_nil)

end ApiContract.Schema.Reading
