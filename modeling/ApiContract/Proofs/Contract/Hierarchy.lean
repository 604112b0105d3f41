import ApiContract.Proofs.Pass.Computed
import ApiContract.Proofs.Pass.Hierarchy
import ApiContract.Proofs.Pass.Roots

/-!
Maps of tags are exact (`buildTagMaps_exact`): they lead from the tags of the variants to the variants, whatever the
order in which the schemas of a hierarchy are visited, and base schemas are the parents on the way to a root.
-/

namespace ApiContract

open Relation

namespace Schema

variable {graph tagged : Graph} {root : Nat → Option Nat}

theorem Retagged.tag? (retagged : Retagged graph tagged) (id : Nat) : (tagged.node id).tag? = (graph.node id).tag? := by
  have same := congrArg Node.tag? (retagged.node id)
  exact same

theorem root_declares (finds : FindsRoots graph root) (acyclic : IsAcyclic graph.HasParent) {id top : Nat}
    (rooted : root id = some top) : (graph.node top).discriminator.isSome = true := by
  induction size : reach graph.HasParent graph.size id using Nat.strong_induction_on generalizing id with
  | _ size ih =>
      have found := finds id
      rw [rooted] at found
      split at found
      next declares =>
        cases found
        exact declares
      · obtain ⟨parent, member, rootedParent⟩ := List.exists_of_findSome?_eq_some found.symm
        have below := acyclic.reach_lt (Graph.lt_size_of_hasParent member) member
        exact ih _ (size ▸ below) rootedParent rfl

/-! ## Maps -/

/-- A map that holds the tag of a root and those of some variants, and nothing else. -/
structure Exact (graph : Graph) (root : Nat → Option Nat) (variants : List Nat) (top : Nat)
    (tags : Assoc (Option Nat)) : Prop where
  distinct : (Assoc.keys tags).Nodup
  leads : ∀ tag target, Assoc.find? tags tag = some target ↔
    target = none ∧ (graph.node top).tag? = some tag ∨
      ∃ id ∈ variants, id ≠ top ∧ root id = some top ∧ target = some id ∧ (graph.node id).tag? = some tag

/-- Schemas of a hierarchy have tags, by which they can be told apart. -/
structure WellTagged (graph : Graph) (root : Nat → Option Nat) (objects : List Nat) : Prop where
  hasTag : ∀ id ∈ objects, ∀ top, root id = some top → (graph.node top).tag?.isSome = true
  variantHasTag : ∀ id ∈ objects, (root id).isSome = true → (graph.node id).tag?.isSome = true
  own : ∀ id ∈ objects, ∀ top, root id = some top → id ≠ top → (graph.node id).tag? ≠ (graph.node top).tag?
  apart : ∀ first ∈ objects, ∀ second ∈ objects, ∀ top, root first = some top → root second = some top →
    (graph.node first).tag? = (graph.node second).tag? → first = second

/-- The schemas of a hierarchy that have tags can be told apart by them. -/
structure TagsApart (graph : Graph) (root : Nat → Option Nat) (objects : List Nat) : Prop where
  own : ∀ id ∈ objects, ∀ top tag, root id = some top → id ≠ top → (graph.node id).tag? = some tag →
    (graph.node top).tag? ≠ some tag
  apart : ∀ first ∈ objects, ∀ second ∈ objects, ∀ top tag, root first = some top → root second = some top →
    (graph.node first).tag? = some tag → (graph.node second).tag? = some tag → first = second

/-- What a missing tag breaks: a root without one, if anything inherits from it, or else the variant without one and its
root. -/
inductive Mistagged (graph : Graph) (root : Nat → Option Nat) (variants : List Nat) (id : Nat) : Prop
  | head {variant} : variant ∈ variants → variant ≠ id → root variant = some id →
      (graph.node id).tag? = none ∨ (graph.node variant).tag? = none → Mistagged graph root variants id
  | variant {top} : id ∈ variants → id ≠ top → root id = some top → (graph.node top).tag? ≠ none →
      (graph.node id).tag? = none → Mistagged graph root variants id

variable {variants objects : List Nat} {top id : Nat} {tags : Assoc (Option Nat)} {tag : String}

theorem WellTagged.tagsApart (wellTagged : WellTagged graph root objects) : TagsApart graph root objects where
  own id member top _ rooted different named namedTop :=
    wellTagged.own id member top rooted different (named.trans namedTop.symm)
  apart first member second memberToo top _ rooted rootedToo named namedToo :=
    wellTagged.apart first member second memberToo top rooted rootedToo (named.trans namedToo.symm)

theorem WellTagged.not_mistagged (wellTagged : WellTagged graph root objects) (among : variants ⊆ objects) :
    ¬Mistagged graph root variants id := by
  have tagged {other top : Nat} (member : other ∈ variants) (rooted : root other = some top) :
      (graph.node other).tag? ≠ none ∧ (graph.node top).tag? ≠ none :=
    ⟨Option.isSome_iff_ne_none.mp (wellTagged.variantHasTag other (among member) (by simp [rooted])),
      Option.isSome_iff_ne_none.mp (wellTagged.hasTag other (among member) top rooted)⟩
  rintro (⟨member, _, rooted, untagged⟩ | ⟨member, _, rooted, _, untagged⟩)
  · exact untagged.elim (tagged member rooted).2 (tagged member rooted).1
  · exact (tagged member rooted).1 untagged

theorem mistagged_cons {other : Nat} : Mistagged graph root (id :: variants) other ↔
    Mistagged graph root variants other ∨ Mistagged graph root [id] other := by
  constructor
  · rintro (⟨member, different, rooted, untagged⟩ | ⟨member, different, rooted, tagged, untagged⟩)
    · rcases List.mem_cons.mp member with rfl | later
      · exact .inr (.head (List.mem_singleton_self _) different rooted untagged)
      · exact .inl (.head later different rooted untagged)
    · rcases List.mem_cons.mp member with rfl | later
      · exact .inr (.variant (List.mem_singleton_self _) different rooted tagged untagged)
      · exact .inl (.variant later different rooted tagged untagged)
  · rintro ((⟨member, different, rooted, untagged⟩ | ⟨member, different, rooted, tagged, untagged⟩) |
      (⟨member, different, rooted, untagged⟩ | ⟨member, different, rooted, tagged, untagged⟩))
    · exact .head (List.mem_cons_of_mem _ member) different rooted untagged
    · exact .variant (List.mem_cons_of_mem _ member) different rooted tagged untagged
    · exact .head (List.mem_cons.mpr (.inl (List.mem_singleton.mp member))) different rooted untagged
    · exact .variant (List.mem_cons.mpr (.inl (List.mem_singleton.mp member))) different rooted tagged untagged

/-- What the schema itself, entered into the map of its root, is broken by. -/
theorem mistagged_singleton {other : Nat} (rooted : root id = some top) : Mistagged graph root [id] other ↔
    id ≠ top ∧ (other = top ∧ ((graph.node top).tag? = none ∨ (graph.node id).tag? = none) ∨
      other = id ∧ (graph.node top).tag? ≠ none ∧ (graph.node id).tag? = none) := by
  constructor
  · rintro (⟨member, different, rootedToo, untagged⟩ | ⟨member, different, rootedToo, tagged, untagged⟩)
    · cases List.mem_singleton.mp member
      cases rooted.symm.trans rootedToo
      exact ⟨different, .inl ⟨rfl, untagged⟩⟩
    · cases List.mem_singleton.mp member
      cases rooted.symm.trans rootedToo
      exact ⟨different, .inr ⟨rfl, tagged, untagged⟩⟩
  · rintro ⟨different, ⟨rfl, untagged⟩ | ⟨rfl, tagged, untagged⟩⟩
    · exact .head (List.mem_singleton_self _) different rooted untagged
    · exact .variant (List.mem_singleton_self _) different rooted tagged untagged

theorem not_mistagged_of_rootless {other : Nat} (rootless : root id = none) : ¬Mistagged graph root [id] other := by
  rintro (⟨member, _, rooted, _⟩ | ⟨member, _, rooted, _⟩)
  all_goals
    cases List.mem_singleton.mp member
    cases rootless.symm.trans rooted

theorem Exact.opened (named : (graph.node top).tag? = some tag)
    (first : ¬∃ id ∈ variants, root id = some top) : Exact graph root variants top [(tag, none)] where
  distinct := List.nodup_singleton _
  leads := by
    intro other target
    rw [named, Option.some.injEq]
    constructor
    · intro found
      by_cases same : tag = other
      · simp only [Assoc.find?, same, if_true, Option.some.injEq] at found
        exact .inl ⟨found.symm, same⟩
      · simp [Assoc.find?, same] at found
    · rintro (⟨rfl, rfl⟩ | ⟨id, member, _, rooted, _⟩)
      · simp [Assoc.find?]
      · exact absurd ⟨id, member, rooted⟩ first

/-- A schema that is no variant of the root makes no difference. -/
theorem Exact.skip (exact : Exact graph root variants top tags) (outside : root id = some top → id = top) :
    Exact graph root (id :: variants) top tags where
  distinct := exact.distinct
  leads := by
    intro other target
    rw [exact.leads]
    refine or_congr Iff.rfl ?_
    constructor
    · rintro ⟨variant, member, rest⟩
      exact ⟨variant, List.mem_cons_of_mem _ member, rest⟩
    · rintro ⟨variant, member, different, rooted, rest⟩
      rcases List.mem_cons.mp member with rfl | later
      · exact absurd (outside rooted) different
      · exact ⟨variant, later, different, rooted, rest⟩

theorem Exact.insert (exact : Exact graph root variants top tags) (apart : TagsApart graph root objects)
    (among : variants ⊆ objects) (member : id ∈ objects) (different : id ≠ top) (rooted : root id = some top)
    (named : (graph.node id).tag? = some tag) :
    Exact graph root (id :: variants) top (Assoc.insert tags tag (some id)) where
  distinct := Assoc.nodup_keys_insert _ exact.distinct
  leads := by
    intro other target
    by_cases same : other = tag
    · subst same
      rw [Assoc.find?_insert_self, Option.some.injEq]
      constructor
      · rintro rfl
        exact .inr ⟨id, List.mem_cons_self, different, rooted, rfl, named⟩
      · rintro (⟨_, namedTop⟩ | ⟨variant, memberVariant, _, rootedVariant, rfl, namedVariant⟩)
        · exact absurd namedTop (apart.own id member top other rooted different named)
        · have collected : variant ∈ objects := by
            rcases List.mem_cons.mp memberVariant with rfl | later
            · exact member
            · exact among later
          rw [apart.apart id member variant collected top other rooted rootedVariant named namedVariant]
    · rw [Assoc.find?_insert_of_ne _ _ same, exact.leads]
      refine or_congr Iff.rfl ?_
      constructor
      · rintro ⟨variant, memberVariant, rest⟩
        exact ⟨variant, List.mem_cons_of_mem _ memberVariant, rest⟩
      · rintro ⟨variant, memberVariant, differentVariant, rootedVariant, rfl, namedVariant⟩
        rcases List.mem_cons.mp memberVariant with rfl | later
        · rw [named, Option.some.injEq] at namedVariant
          exact absurd namedVariant.symm same
        · exact ⟨variant, later, differentVariant, rootedVariant, rfl, namedVariant⟩

namespace Catalog

variable {catalog : Catalog} {deferred : Deferred}

theorem isSome_find?_defer {other : Nat} {error : CompileError} :
    ((catalog.defer id error).deferred.find? other).isSome = true ↔
      (catalog.deferred.find? other).isSome = true ∨ other = id := by
  change ((catalog.deferred.add id error).find? other).isSome = true ↔ _
  by_cases same : other = id
  · subst same
    exact iff_of_true (Deferred.isSome_find?_add_self _ _ _) (.inr rfl)
  · constructor
    · intro known
      by_contra unknown
      obtain ⟨found, member⟩ := Option.isSome_iff_exists.mp known
      obtain ⟨entry, among, rfl⟩ := Option.map_eq_some_iff.mp member
      have own : entry.1 = other := by simpa using List.find?_some among
      rcases Deferred.mem_errors_add (List.mem_of_find?_eq_some among) with old | new
      · refine unknown (.inl ?_)
        rw [Deferred.find?, Option.isSome_map, List.find?_isSome]
        exact ⟨entry, old, by simpa using own⟩
      · exact same (own.symm.trans (congrArg Prod.fst new))
    · rintro (known | rfl)
      · exact Deferred.isSome_find?_add error known
      · exact absurd rfl same

/-- The maps of a catalog after some schemas were entered, and what is broken by a missing tag. -/
structure Enrolled (graph : Graph) (deferred : Deferred) (root : Nat → Option Nat) (seen : List Nat) (catalog : Catalog) :
    Prop where
  retagged : Retagged graph catalog.graph
  mapped : ∀ top, (∃ id ∈ seen, root id = some top) → (graph.node top).tag? ≠ none →
    ∃ tags, (catalog.graph.node top).tagMap = some tags ∧ Exact graph root seen top tags
  unmapped : ∀ top, ((graph.node top).tag? = none ∨ ¬∃ id ∈ seen, root id = some top) →
    (catalog.graph.node top).tagMap = none
  spoiled : ∀ id, (catalog.deferred.find? id).isSome = true ↔
    (deferred.find? id).isSome = true ∨ Mistagged graph root seen id
  unspoiled : (∀ id, ¬Mistagged graph root seen id) → catalog.deferred = deferred

theorem Enrolled.skip {seen : List Nat} (enrolled : Enrolled graph deferred root seen catalog) (rootless : root id = none) :
    Enrolled graph deferred root (id :: seen) catalog where
  retagged := enrolled.retagged
  mapped := by
    rintro top ⟨other, member, rooted⟩ named
    rcases List.mem_cons.mp member with rfl | later
    · cases rootless.symm.trans rooted
    · obtain ⟨tags, mapped, exact⟩ := enrolled.mapped top ⟨other, later, rooted⟩ named
      refine ⟨tags, mapped, exact.skip fun impossible => ?_⟩
      cases rootless.symm.trans impossible
  unmapped := by
    rintro top none
    refine enrolled.unmapped top (none.imp_right fun none => ?_)
    rintro ⟨other, member, rooted⟩
    exact none ⟨other, List.mem_cons_of_mem _ member, rooted⟩
  spoiled other := by
    rw [enrolled.spoiled, mistagged_cons, or_iff_left (not_mistagged_of_rootless rootless)]
  unspoiled none := enrolled.unspoiled fun other mistagged => none other (mistagged_cons.mpr (.inl mistagged))

/-- Only the map of one schema changed. -/
structure Remaps (top : Nat) (catalog later : Catalog) : Prop where
  retagged : Retagged catalog.graph later.graph
  others : ∀ other, other ≠ top → (later.graph.node other).tagMap = (catalog.graph.node other).tagMap

theorem Remaps.refl (top : Nat) (catalog : Catalog) : Remaps top catalog catalog :=
  ⟨.refl _, fun _ _ => rfl⟩

theorem Remaps.modify {middle : Catalog} (remaps : Remaps top catalog middle)
    (tags : Node → Option (Assoc (Option Nat))) :
    Remaps top catalog (middle.modifyNode top fun node => { node with tagMap := tags node }) where
  retagged := remaps.retagged.trans (.modify _ _ _)
  others := by
    intro other different
    rw [modifyNode, Graph.node_modify_of_ne _ _ different]
    exact remaps.others other different

theorem openMap?_untagged {seen : List Nat} (enrolled : Enrolled graph deferred root seen catalog)
    (untagged : (graph.node top).tag? = none) : catalog.openMap? top = none := by
  simp [openMap?, enrolled.unmapped top (.inl untagged), enrolled.retagged.tag?, untagged]

theorem openMap?_exact {seen : List Nat} (enrolled : Enrolled graph deferred root seen catalog) (inside : top < graph.size)
    (named : (graph.node top).tag? = some tag) :
    ∃ opened tags, catalog.openMap? top = some opened ∧ Remaps top catalog opened ∧ opened.deferred = catalog.deferred ∧
      (opened.graph.node top).tagMap = some tags ∧ Exact graph root seen top tags := by
  rw [← enrolled.retagged.size] at inside
  by_cases known : ∃ id ∈ seen, root id = some top
  · obtain ⟨tags, mapped, exact⟩ := enrolled.mapped top known (by simp [named])
    refine ⟨catalog, tags, ?_, .refl _ _, rfl, mapped, exact⟩
    simp [openMap?, mapped]
  · have unmapped := enrolled.unmapped top (.inr known)
    refine ⟨_, [(tag, none)], ?_, (Remaps.refl top catalog).modify fun _ => some [(tag, none)], rfl, ?_, .opened named known⟩
    · simp [openMap?, unmapped, enrolled.retagged.tag?, named]
    · rw [modifyNode, Graph.node_modify_self _ inside]

theorem enroll_exact {seen : List Nat} (enrolled : Enrolled graph deferred root seen catalog)
    (apart : TagsApart graph root objects) (among : seen ⊆ objects) (member : id ∈ objects)
    (rooted : root id = some top) (inside : top < graph.size) :
    Remaps top catalog (catalog.enroll top id) ∧
      ((graph.node top).tag? = none → ((catalog.enroll top id).graph.node top).tagMap = none) ∧
      ((graph.node top).tag? ≠ none → ∃ tags, ((catalog.enroll top id).graph.node top).tagMap = some tags ∧
        Exact graph root (id :: seen) top tags) ∧
      (∀ other, ((catalog.enroll top id).deferred.find? other).isSome = true ↔
        (catalog.deferred.find? other).isSome = true ∨ Mistagged graph root [id] other) ∧
      ((∀ other, ¬Mistagged graph root [id] other) → (catalog.enroll top id).deferred = catalog.deferred) := by
  simp only [mistagged_singleton rooted]
  cases namedRoot : (graph.node top).tag? with
  | none =>
      have unmapped := enrolled.unmapped top (.inl namedRoot)
      rw [enroll, openMap?_untagged enrolled namedRoot]
      dsimp only
      by_cases same : top = id
      · subst same
        rw [if_pos rfl]
        exact ⟨.refl _ _, fun _ => unmapped, fun tagged => absurd rfl tagged, by simp, fun _ => rfl⟩
      · rw [if_neg same]
        refine ⟨⟨.refl _, fun _ _ => rfl⟩, fun _ => unmapped, fun tagged => absurd rfl tagged, fun other => ?_, fun none => ?_⟩
        · rw [isSome_find?_defer]
          simp [Ne.symm same]
        · exact absurd ⟨Ne.symm same, .inl ⟨rfl, .inl rfl⟩⟩ (none top)
  | some rootTag =>
      obtain ⟨opened, tags, opens, remaps, kept, mapped, exact⟩ := openMap?_exact enrolled inside namedRoot
      have declares {stays : Prop} (untagged : some rootTag = none) : stays :=
        absurd untagged (Option.some_ne_none rootTag)
      rw [enroll, opens]
      dsimp only
      by_cases same : top = id
      · subst same
        rw [if_pos rfl]
        exact ⟨remaps, declares, fun _ => ⟨tags, mapped, exact.skip fun _ => rfl⟩, by simp [kept], fun _ => kept⟩
      · have retagged := enrolled.retagged.trans remaps.retagged
        rw [if_neg same, retagged.tag?]
        cases named : (graph.node id).tag? with
        | none =>
            refine ⟨⟨remaps.retagged, remaps.others⟩, declares, fun _ => ⟨tags, mapped, ?_⟩, fun other => ?_, fun none => ?_⟩
            · refine ⟨exact.distinct, fun other target => ?_⟩
              rw [exact.leads]
              refine or_congr Iff.rfl ⟨fun ⟨variant, among, rest⟩ => ⟨variant, List.mem_cons_of_mem _ among, rest⟩, ?_⟩
              rintro ⟨variant, among, different, rootedToo, found, namedToo⟩
              rcases List.mem_cons.mp among with rfl | later
              · cases named.symm.trans namedToo
              · exact ⟨variant, later, different, rootedToo, found, namedToo⟩
            · dsimp only
              rw [isSome_find?_defer, isSome_find?_defer, kept]
              simp [Ne.symm same, or_assoc]
            · exact absurd ⟨Ne.symm same, .inl ⟨rfl, .inr rfl⟩⟩ (none top)
        | some tag =>
            refine ⟨remaps.modify fun node => node.tagMap.map fun tags => Assoc.insert tags tag (some id), declares, fun _ =>
              ⟨Assoc.insert tags tag (some id), ?_, exact.insert apart among member (Ne.symm same) rooted named⟩, ?_,
              fun _ => kept⟩
            · rw [← retagged.size] at inside
              simp only [modifyNode, Graph.node_modify_self _ inside, mapped, Option.map_some]
            · simp [modifyNode, kept]

theorem Enrolled.enroll {seen : List Nat} (enrolled : Enrolled graph deferred root seen catalog)
    (apart : TagsApart graph root objects) (among : seen ⊆ objects) (member : id ∈ objects)
    (rooted : root id = some top) (inside : top < graph.size) :
    Enrolled graph deferred root (id :: seen) (catalog.enroll top id) := by
  obtain ⟨remaps, untagged, tagged, spoiled, unspoiled⟩ := enroll_exact enrolled apart among member rooted inside
  refine ⟨enrolled.retagged.trans remaps.retagged, ?_, ?_, fun other => ?_, fun none => ?_⟩
  · rintro other ⟨variant, memberVariant, rootedVariant⟩ named
    by_cases same : other = top
    · subst same
      exact tagged named
    · have elsewhere : root id ≠ some other := by
        rw [rooted]
        exact fun equal => same (Option.some.inj equal).symm
      have later : variant ∈ seen := by
        rcases List.mem_cons.mp memberVariant with rfl | later
        · exact absurd rootedVariant elsewhere
        · exact later
      obtain ⟨old, mappedOld, exactOld⟩ := enrolled.mapped other ⟨variant, later, rootedVariant⟩ named
      refine ⟨old, (remaps.others other same).trans mappedOld, exactOld.skip ?_⟩
      exact fun impossible => absurd impossible elsewhere
  · intro other silent
    by_cases same : other = top
    · subst same
      exact untagged (silent.resolve_right fun unrelated => unrelated ⟨id, List.mem_cons_self, rooted⟩)
    · rw [remaps.others other same]
      refine enrolled.unmapped other (silent.imp_right fun unrelated => ?_)
      rintro ⟨variant, memberVariant, rootedVariant⟩
      exact unrelated ⟨variant, List.mem_cons_of_mem _ memberVariant, rootedVariant⟩
  · calc _ ↔ _ ∨ _ := spoiled other
      _ ↔ (_ ∨ _) ∨ _ := or_congr_left (enrolled.spoiled other)
      _ ↔ _ := or_assoc.trans (or_congr_right mistagged_cons.symm)
  · rw [unspoiled fun other mistagged => none other (mistagged_cons.mpr (.inr mistagged)),
      enrolled.unspoiled fun other mistagged => none other (mistagged_cons.mpr (.inl mistagged))]

/-- Each schema is entered into the map of its root, and the parents on its way to the root become base schemas. -/
theorem enrollAll_exact (finds : FindsRoots graph root) (acyclic : IsAcyclic graph.HasParent)
    (apart : TagsApart graph root objects) {rest seen : List Nat} (among : seen ⊆ objects)
    (amongRest : rest ⊆ objects) (enrolled : Enrolled graph deferred root seen catalog) {before : RootSearch}
    (sound : before.Sound graph root []) :
    ∃ final after, (catalog.enrollAll rest).run before = some (final, after) ∧
      Enrolled graph deferred root (rest.reverse ++ seen) final ∧
      ∀ base, base ∈ after.bases ↔ base ∈ before.bases ∨ ∃ id ∈ rest, TransGen (Chooses graph root) id base := by
  induction rest generalizing catalog seen before with
  | nil => exact ⟨catalog, before, rfl, enrolled, fun base => by simp⟩
  | cons id rest ih =>
      obtain ⟨member, amongLater⟩ := List.cons_subset.mp amongRest
      have found : RootSearch.Finds graph root [] before id (RootSearch.rootOf graph id) :=
        RootSearch.rootOf_finds finds acyclic sound
      obtain ⟨middle, searched, soundMiddle, passed⟩ := found
      have amongSeen : id :: seen ⊆ objects := List.cons_subset.mpr ⟨member, among⟩
      rw [enrollAll, enrolled.retagged.rootOf, StateT.run_bind, searched, List.reverse_cons, List.append_assoc,
        List.singleton_append]
      have bases {after : RootSearch} (later : ∀ base, base ∈ after.bases ↔
          base ∈ middle.bases ∨ ∃ id ∈ rest, TransGen (Chooses graph root) id base) (base : Nat) :
          base ∈ after.bases ↔
            base ∈ before.bases ∨ ∃ other ∈ id :: rest, TransGen (Chooses graph root) other base := by
        rw [later, passed]
        simp only [List.mem_cons, exists_eq_or_imp, or_assoc]
      cases rooted : root id with
      | none =>
          obtain ⟨final, after, ran, enrolledFinal, later⟩ :=
            ih amongSeen amongLater (enrolled.skip rooted) soundMiddle
          exact ⟨final, after, ran, enrolledFinal, bases later⟩
      | some top =>
          have inside := Graph.lt_size_of_discriminator
            (Option.isSome_iff_ne_none.mp (root_declares finds acyclic rooted))
          obtain ⟨final, after, ran, enrolledFinal, later⟩ :=
            ih amongSeen amongLater (enrolled.enroll apart among member rooted inside) soundMiddle
          exact ⟨final, after, ran, enrolledFinal, bases later⟩

end Catalog

theorem Exact.congr {first second : List Nat} {graph : Graph} {root : Nat → Option Nat} {top : Nat}
    {tags : Assoc (Option Nat)} (exact : Exact graph root first top tags) (same : ∀ id, id ∈ first ↔ id ∈ second) :
    Exact graph root second top tags where
  distinct := exact.distinct
  leads := by simpa only [same] using exact.leads

theorem Mistagged.congr {first second : List Nat} {graph : Graph} {root : Nat → Option Nat} {id : Nat}
    (same : ∀ id, id ∈ first ↔ id ∈ second) : Mistagged graph root first id ↔ Mistagged graph root second id := by
  have turn {first second : List Nat} (same : ∀ id, id ∈ first ↔ id ∈ second) (mistagged : Mistagged graph root first id) :
      Mistagged graph root second id := by
    cases mistagged with
    | head member different rooted untagged => exact .head ((same _).mp member) different rooted untagged
    | variant member different rooted tagged untagged => exact .variant ((same _).mp member) different rooted tagged untagged
  exact ⟨turn same, turn fun id => (same id).symm⟩

theorem Catalog.Enrolled.congr {first second : List Nat} {graph : Graph} {deferred : Deferred} {root : Nat → Option Nat}
    {catalog : Catalog} (enrolled : Enrolled graph deferred root first catalog) (same : ∀ id, id ∈ first ↔ id ∈ second) :
    Enrolled graph deferred root second catalog where
  retagged := enrolled.retagged
  mapped top used named := by
    obtain ⟨tags, mapped, exact⟩ := enrolled.mapped top (by simpa only [same] using used) named
    exact ⟨tags, mapped, exact.congr same⟩
  unmapped top silent := enrolled.unmapped top (by simpa only [same] using silent)
  spoiled id := (enrolled.spoiled id).trans (or_congr Iff.rfl (Mistagged.congr same))
  unspoiled none := enrolled.unspoiled fun id mistagged => none id ((Mistagged.congr same).mp mistagged)

end Schema

namespace Draft

open Schema

/-- Every schema of a collection is entered into the map of its root, as far as tags can be told apart. -/
theorem buildTagMaps_enrolled {draft : Draft} (fresh : Fresh draft) (acyclic : IsAcyclic draft.graph.HasParent)
    (apart : TagsApart draft.graph draft.graph.root? draft.catalog.collections.objects) :
    ∃ tagged, draft.buildTagMaps = .ok tagged ∧
      Catalog.Enrolled draft.graph draft.catalog.deferred draft.graph.root? draft.catalog.collections.objects tagged.catalog ∧
      (∀ base, base ∈ tagged.baseSchemas ↔
        ∃ id ∈ draft.catalog.collections.objects, TransGen (Chooses draft.graph draft.graph.root?) id base) ∧
      tagged.catalog.collections = draft.catalog.collections ∧
      tagged = { draft with catalog := tagged.catalog, baseSchemas := tagged.baseSchemas } := by
  have start : Catalog.Enrolled draft.graph draft.catalog.deferred draft.graph.root? [] draft.catalog := by
    refine ⟨.refl _, ?_, fun top _ => (fresh.built.written top).tagMap, fun id => (or_iff_left ?_).symm, fun _ => rfl⟩
    · rintro top ⟨id, none, _⟩
      cases none
    · rintro (⟨none, _⟩ | ⟨none, _⟩) <;> cases none
  obtain ⟨final, after, ran, enrolled, passed⟩ := Catalog.enrollAll_exact (findsRoots_root? acyclic) acyclic apart
    (List.nil_subset _) (List.Subset.refl draft.catalog.collections.objects) start (.start draft.baseSchemas)
  refine ⟨{ draft with catalog := final, baseSchemas := after.bases }, ?_, enrolled.congr fun id => by simp, fun base => ?_,
    (Catalog.enrollAll_retags ran).2, rfl⟩
  · simp only [buildTagMaps]
    rw [ran]
  · rw [passed, fresh.baseSchemas]
    simp

/-- After the tags were entered, each root with a schema in the collection has the map of its hierarchy, and nothing
else has a map; exactly the parents on the way from a schema to its root are base schemas; and nothing else changed. -/
theorem buildTagMaps_exact {draft : Draft} (fresh : Fresh draft) (acyclic : IsAcyclic draft.graph.HasParent)
    (wellTagged : WellTagged draft.graph draft.graph.root? draft.catalog.collections.objects) :
    let objects := draft.catalog.collections.objects
    let root := draft.graph.root?
    FindsRoots draft.graph root ∧ ∃ tagged, draft.buildTagMaps = .ok tagged ∧
      (∀ top, (∃ id ∈ objects, root id = some top) →
        ∃ tags, (tagged.graph.node top).tagMap = some tags ∧ Exact draft.graph root objects top tags) ∧
      (∀ top, (¬∃ id ∈ objects, root id = some top) → (tagged.graph.node top).tagMap = none) ∧
      (∀ top, (tagged.graph.node top).tagMap.isSome = true → (draft.graph.node top).discriminator.isSome = true) ∧
      (∀ base, base ∈ tagged.baseSchemas ↔ ∃ id ∈ objects, TransGen (Chooses draft.graph root) id base) ∧
      Retagged draft.graph tagged.graph ∧
      tagged = { draft with
        catalog := { draft.catalog with graph := tagged.graph }, baseSchemas := tagged.baseSchemas } := by
  intro objects root
  have finds : FindsRoots draft.graph root := findsRoots_root? acyclic
  obtain ⟨tagged, answered, enrolled, passed, collections, frame⟩ :=
    buildTagMaps_enrolled fresh acyclic wellTagged.tagsApart
  have named top (used : ∃ id ∈ objects, root id = some top) : (draft.graph.node top).tag? ≠ none := by
    obtain ⟨id, member, rooted⟩ := used
    exact Option.isSome_iff_ne_none.mp (wellTagged.hasTag id member top rooted)
  have unmapped top (unused : ¬∃ id ∈ objects, root id = some top) : (tagged.graph.node top).tagMap = none :=
    enrolled.unmapped top (.inr unused)
  refine ⟨finds, tagged, answered, fun top used => enrolled.mapped top used (named top used), unmapped, ?_, passed,
    enrolled.retagged, ?_⟩
  · intro top hasMap
    by_contra plain
    have unused : ¬∃ id ∈ objects, root id = some top := by
      rintro ⟨id, _, rooted⟩
      exact plain (root_declares finds acyclic rooted)
    rw [unmapped top unused] at hasMap
    cases hasMap
  · have same := enrolled.unspoiled fun id => wellTagged.not_mistagged (List.Subset.refl objects)
    have catalog : tagged.catalog = { draft.catalog with graph := tagged.graph } :=
      calc tagged.catalog = ⟨tagged.graph, tagged.catalog.collections, tagged.catalog.deferred⟩ := rfl
        _ = _ := by rw [collections, same]
    rwa [← catalog]

/-- A car is a vehicle of some brand, by way of vehicles with wheels. -/
def carDocuments : DocumentSet := .ofDefinitions [
  ("Car", .object [("allOf", .array [.toDefinition "Branded", .toDefinition "Wheeled"]),
    ("properties", .object [("doors", .ofType "integer")])]),
  ("Branded", .object [("type", .string "object"), ("properties", .object [("brand", .ofType "string")])]),
  ("Wheeled", .object [("allOf", .array [.toDefinition "Vehicle"]),
    ("properties", .object [("wheels", .ofType "integer")])]),
  ("Vehicle", .object [("type", .string "object"), ("discriminator", .string "kind"),
    ("properties", .object [("kind", .ofType "string")])])]

theorem cars_read :
    let graph := (readOf carDocuments).graph
    (Pipeline.run ⟨Pass.readers, [Pass.discoverVariants]⟩ { documents := carDocuments }).outcome.toOption.isSome = true ∧
      (readOf carDocuments).catalog.collections.objects = [0, 2, 4, 6] ∧ graph.size = 8 ∧
      (∀ id < 8, ∀ parent ∈ graph.parents id, id < parent ∧ parent < 8) ∧
      [0, 2, 4, 6].map graph.root? = [some 6, none, some 6, some 6] ∧
      [0, 2, 4, 6].map (fun id => (graph.node id).tag?) = [some "Car", some "Branded", some "Wheeled", some "Vehicle"] ∧
      (graph.node 0).discriminator = none ∧
      (graph.parents 0).find? (fun parent => (graph.root? parent).isSome) = some 4 := by
  decide +kernel

theorem wellTagged_cars {graph : Graph} {root : Nat → Option Nat}
    (roots : [0, 2, 4, 6].map root = [some 6, none, some 6, some 6])
    (tags : [0, 2, 4, 6].map (fun id => (graph.node id).tag?) =
      [some "Car", some "Branded", some "Wheeled", some "Vehicle"]) : WellTagged graph root [0, 2, 4, 6] := by
  simp only [List.map_cons, List.map_nil, List.cons.injEq, and_true] at roots tags
  constructor <;> simp [roots, tags]

theorem find?_cars {graph : Graph} {root : Nat → Option Nat} {map : Assoc (Option Nat)}
    (exact : Exact graph root [0, 2, 4, 6] 6 map) (roots : [0, 2, 4, 6].map root = [some 6, none, some 6, some 6])
    (tags : [0, 2, 4, 6].map (fun id => (graph.node id).tag?) =
      [some "Car", some "Branded", some "Wheeled", some "Vehicle"]) :
    Assoc.find? map "Car" = some (some 0) ∧ Assoc.find? map "Vehicle" = some none ∧
      Assoc.find? map "Branded" = none := by
  simp only [List.map_cons, List.map_nil, List.cons.injEq, and_true] at roots tags
  refine ⟨(exact.leads _ _).mpr (by simp [roots, tags]), (exact.leads _ _).mpr (by simp [tags]), ?_⟩
  cases found : Assoc.find? map "Branded" with
  | none => rfl
  | some target =>
      have leads := (exact.leads _ _).mp found
      simp [roots, tags] at leads

/-- Cars, vehicles with wheels and vehicles are told apart; brands are no vehicles. -/
theorem buildTagMaps_exact_cars :
    ∃ tagged, (readOf carDocuments).buildTagMaps = .ok tagged ∧
      (∃ map, (tagged.graph.node 6).tagMap = some map ∧ Assoc.find? map "Car" = some (some 0) ∧
        Assoc.find? map "Vehicle" = some none ∧ Assoc.find? map "Branded" = none) ∧
      (tagged.graph.node 2).tagMap = none ∧ 4 ∈ tagged.baseSchemas := by
  obtain ⟨ends, objects, size, descends, roots, tags, plain, chosen⟩ := cars_read
  have acyclic : IsAcyclic (readOf carDocuments).graph.HasParent := by
    refine .of_descending (fun id => 8 - id) ?_
    intro id parent member
    have inside := Graph.lt_size_of_hasParent member
    rw [size] at inside
    have above := descends id inside parent member
    omega
  have fresh : Fresh (readOf carDocuments) := IsRead.fresh (run_eq_outcomeOf ends)
  have wellTagged := wellTagged_cars roots tags
  rw [← objects] at wellTagged
  obtain ⟨_, tagged, answered, mapped, unmapped, _, bases, _⟩ := buildTagMaps_exact fresh acyclic wellTagged
  rw [objects] at mapped unmapped bases
  generalize (readOf carDocuments).graph.root? = root at *
  generalize (readOf carDocuments).graph = graph at *
  have list := roots
  simp only [List.map_cons, List.map_nil, List.cons.injEq, and_true] at list
  obtain ⟨map, mappedVehicle, exact⟩ := mapped 6 ⟨0, by simp, list.1⟩
  have wheeled : Relation.TransGen (Chooses graph root) 0 4 := .single ⟨plain, chosen⟩
  refine ⟨tagged, answered, ⟨map, mappedVehicle, find?_cars exact roots tags⟩, unmapped 2 ?_, ?_⟩
  · simp [list]
  · exact (bases 4).mpr ⟨0, by simp, wheeled⟩

end Draft

end ApiContract
