import Mathlib.Data.List.Nodup
import ApiContract.Proofs.Assoc
import ApiContract.Proofs.Evaluation.Renaming
import ApiContract.Proofs.Related
import ApiContract.Proofs.Schema.Graph
import ApiContract.Validator.Compilation

/-!
The table of a compiled schema mirrors the graph below it: each schema that was reached has one clause,
which says what the schema says, with places of clauses for the schemas that it leads to (`Mirror`).
-/

namespace ApiContract

namespace Validator

open Schema (Node Catalog)

def bareOf (node : Node) : Except Interruption Clause := do
  let access ← accessOf node node.source.location
  let checks ← (Check.compileAll node.constraints node.source.location).mapError Interruption.refused
  return {
    source := node.source
    label := labelOf node
    typeName := node.typeName
    nullable := node.nullable
    enumValues := node.enumValues
    enumAsString := node.enumAsString
    access
    skip := node.skipErrors
    required := node.required
    uniqueItems := asksUniqueItems node
    dependencies := dependenciesOf node
    format := node.format.map Format.ofName
    checks }

inductive Undeclared.Depicts (slot : Nat → Nat → Prop) : Schema.Additional → Undeclared → Prop
  | allowed (flag) : Depicts slot (.allowed flag) (.allowed flag)
  | clause {edge index} : slot edge.target index → Depicts slot (.schema edge) (.clause index)

theorem Undeclared.Depicts.mono {slot more : Nat → Nat → Prop} {additional : Schema.Additional}
    {undeclared : Undeclared} (weaker : ∀ id place, slot id place → more id place)
    (depicts : Undeclared.Depicts slot additional undeclared) :
    Undeclared.Depicts more additional undeclared := by
  cases depicts with
  | allowed flag => exact .allowed flag
  | clause placed => exact .clause (weaker _ _ placed)

/-- The clause says what the node says, where `slot` relates schemas to places of clauses. -/
structure Depicts (slot : Nat → Nat → Prop) (node : Node) (clause : Clause) : Prop where
  bare : bareOf node = .ok clause.bare
  properties : Option.Rel (List.Forall₂ fun entry other => entry.1 = other.1 ∧ slot entry.2.target other.2)
    node.properties clause.properties
  undeclared : Option.Rel (Undeclared.Depicts slot) node.additional clause.undeclared
  items : Option.Rel (fun edge => slot edge.target) node.items clause.items
  allOf : List.Forall₂ (fun edge => slot edge.target) (node.allOf.getD []) clause.allOf
  anyOf : List.Forall₂ (fun edge => slot edge.target) (node.anyOf.getD []) clause.anyOf
  oneOf : List.Forall₂ (fun edge => slot edge.target) (node.oneOf.getD []) clause.oneOf
  dispatch : Option.Rel (fun routing dispatch => routing.1 = dispatch.property ∧
    List.Forall₂ (fun entry other => entry.1 = other.1 ∧ Option.Rel slot entry.2 other.2)
      routing.2 dispatch.variants) node.routing? clause.dispatch

namespace Depicts

variable {slot more other : Nat → Nat → Prop} {node : Node} {clause twin : Clause}

theorem mono (weaker : ∀ id place, slot id place → more id place) (depicts : Depicts slot node clause) :
    Depicts more node clause where
  bare := depicts.bare
  properties := depicts.properties.imp fun _ _ entries =>
    entries.imp fun _ _ entry => ⟨entry.1, weaker _ _ entry.2⟩
  undeclared := depicts.undeclared.imp fun _ _ others => others.mono weaker
  items := depicts.items.imp fun _ _ placed => weaker _ _ placed
  allOf := depicts.allOf.imp fun _ _ placed => weaker _ _ placed
  anyOf := depicts.anyOf.imp fun _ _ placed => weaker _ _ placed
  oneOf := depicts.oneOf.imp fun _ _ placed => weaker _ _ placed
  dispatch := depicts.dispatch.imp fun _ _ routes => ⟨routes.1, routes.2.imp fun _ _ entry =>
    ⟨entry.1, entry.2.imp fun _ _ placed => weaker _ _ placed⟩⟩

theorem alike (depicts : Depicts slot node clause) (depictsToo : Depicts other node twin) :
    Clause.Alike (fun place place' => ∃ id, slot id place ∧ other id place') clause twin where
  bare := Except.ok.inj (depicts.bare.symm.trans depictsToo.bare)
  properties := depicts.properties.meet (fun _ _ _ entries others =>
    entries.meet (fun _ _ _ entry otherEntry =>
      ⟨entry.1.symm.trans otherEntry.1, _, entry.2, otherEntry.2⟩) others) depictsToo.properties
  undeclared := depicts.undeclared.meet (fun _ _ _ one another => by
    cases one with
    | allowed flag =>
        cases another
        exact .allowed flag
    | clause placed =>
        rcases another with _ | ⟨placedToo⟩
        exact .clause ⟨_, placed, placedToo⟩) depictsToo.undeclared
  items := depicts.items.meet (fun _ _ _ placed placedToo => ⟨_, placed, placedToo⟩) depictsToo.items
  allOf := depicts.allOf.meet (fun _ _ _ placed placedToo => ⟨_, placed, placedToo⟩) depictsToo.allOf
  anyOf := depicts.anyOf.meet (fun _ _ _ placed placedToo => ⟨_, placed, placedToo⟩) depictsToo.anyOf
  oneOf := depicts.oneOf.meet (fun _ _ _ placed placedToo => ⟨_, placed, placedToo⟩) depictsToo.oneOf
  dispatch := depicts.dispatch.meet (fun _ _ _ routes routesToo =>
    ⟨routes.1.symm.trans routesToo.1, fun tag => (find?_alike routes.2 tag).meet (fun _ _ _ leads leadsToo =>
      leads.meet (fun _ _ _ placed placedToo => ⟨_, placed, placedToo⟩) leadsToo) (find?_alike routesToo.2 tag)⟩)
    depictsToo.dispatch

theorem bareOf_eq_ok {node : Node} {clause : Clause} (compiled : bareOf node = .ok clause) :
    clause.source = node.source ∧ clause.typeName = node.typeName ∧ clause.nullable = node.nullable ∧
      clause.skip = node.skipErrors ∧ clause.required = node.required ∧
      accessOf node node.source.location = .ok clause.access ∧
      Check.compileAll node.constraints node.source.location = .ok clause.checks := by
  simp only [bareOf, Except.bind_eq_ok] at compiled
  obtain ⟨access, accessed, checks, checked, made⟩ := compiled
  cases made
  refine ⟨rfl, rfl, rfl, rfl, rfl, accessed, ?_⟩
  cases compiledAll : Check.compileAll node.constraints node.source.location with
  | error fault =>
      rw [compiledAll] at checked
      cases checked
  | ok found =>
      rw [compiledAll] at checked
      cases checked
      rfl

theorem source (depicts : Depicts slot node clause) : clause.source = node.source := (bareOf_eq_ok depicts.bare).1

theorem typeName (depicts : Depicts slot node clause) : clause.typeName = node.typeName :=
  (bareOf_eq_ok depicts.bare).2.1

theorem nullable (depicts : Depicts slot node clause) : clause.nullable = node.nullable :=
  (bareOf_eq_ok depicts.bare).2.2.1

theorem skip (depicts : Depicts slot node clause) : clause.skip = node.skipErrors :=
  (bareOf_eq_ok depicts.bare).2.2.2.1

theorem required (depicts : Depicts slot node clause) : clause.required = node.required :=
  (bareOf_eq_ok depicts.bare).2.2.2.2.1

theorem enum (depicts : Depicts slot node clause) :
    clause.enumValues = node.enumValues ∧ clause.enumAsString = node.enumAsString := by
  have compiled := depicts.bare
  simp only [bareOf, Except.bind_eq_ok] at compiled
  obtain ⟨_, _, _, _, made⟩ := compiled
  have same := Except.ok.inj made
  exact ⟨(congrArg Clause.enumValues same).symm, (congrArg Clause.enumAsString same).symm⟩

theorem unreadable_iff (depicts : Depicts slot node clause) :
    clause.access.unreadable = true ↔ ∃ names, node.mutability = some names ∧ "read" ∉ names := by
  have accessed := (bareOf_eq_ok depicts.bare).2.2.2.2.2.1
  unfold accessOf at accessed
  rcases listed : node.mutability with _ | names
  · rw [listed] at accessed
    have plain := congrArg Access.mutability (Except.ok.inj accessed)
    change none = clause.access.mutability at plain
    simp [Access.unreadable, ← plain]
  · rw [listed] at accessed
    dsimp only at accessed
    split at accessed
    · have plain := congrArg Access.mutability (Except.ok.inj accessed)
      change some _ = clause.access.mutability at plain
      simp [Access.unreadable, ← plain]
    · cases accessed

theorem property? (depicts : Depicts slot node clause) (key : String) :
    Option.Rel (fun edge => slot edge.target) (Assoc.find? node.propertyList key) (clause.property? key) := by
  unfold Clause.property? Node.propertyList
  have properties := depicts.properties
  revert properties
  generalize node.properties = table
  generalize clause.properties = other
  intro properties
  cases properties with
  | none => exact .none
  | some entries => exact find?_alike entries key

theorem clauseFor? (depicts : Depicts slot node clause) {key : String} {child : Nat}
    (looked : clause.clauseFor? key = some child) :
    ∃ edge, slot edge.target child ∧
      (Assoc.find? node.propertyList key = some edge ∨
        Assoc.find? node.propertyList key = none ∧ node.additional = some (.schema edge)) := by
  have related := depicts.property? key
  unfold Clause.clauseFor? at looked
  rcases declared : clause.property? key with _ | own
  · rw [declared] at looked related
    have undeclared : Assoc.find? node.propertyList key = none := by
      generalize Assoc.find? node.propertyList key = found at related
      cases related
      rfl
    rcases others : clause.undeclared with _ | flag | index
    · rw [others] at looked
      cases looked
    · rw [others] at looked
      cases looked
    · rw [others] at looked
      cases looked
      have asked := depicts.undeclared
      rw [others] at asked
      obtain ⟨additional, listed, same⟩ := asked.exists_left
      rcases same with _ | ⟨placedEdge⟩
      exact ⟨_, placedEdge, .inr ⟨undeclared, listed⟩⟩
  · rw [declared] at looked related
    cases looked
    obtain ⟨edge, found, placedEdge⟩ := related.exists_left
    exact ⟨edge, placedEdge, .inl found⟩

theorem clauseFor?_declared (depicts : Depicts slot node clause) {key : String} {edge : Schema.Edge}
    (declared : Assoc.find? node.propertyList key = some edge) :
    ∃ child, clause.clauseFor? key = some child ∧ slot edge.target child := by
  have related := depicts.property? key
  rw [declared] at related
  obtain ⟨child, found, placed⟩ := related.exists_right
  exact ⟨child, by simp only [Clause.clauseFor?, found], placed⟩

theorem clauseFor?_undeclared (depicts : Depicts slot node clause) {key : String} {edge : Schema.Edge}
    (undeclared : Assoc.find? node.propertyList key = none) (additional : node.additional = some (.schema edge)) :
    ∃ child, clause.clauseFor? key = some child ∧ slot edge.target child := by
  have related := depicts.property? key
  rw [undeclared] at related
  have unfound : clause.property? key = none := by
    generalize clause.property? key = found at related
    cases related
    rfl
  have others := depicts.undeclared
  rw [additional] at others
  obtain ⟨_, said, same⟩ := others.exists_right
  rcases same with _ | ⟨placed⟩
  refine ⟨_, ?_, placed⟩
  simp only [Clause.clauseFor?, unfound, said]

theorem keys (depicts : Depicts slot node clause) {declared : Assoc Nat}
    (listed : clause.properties = some declared) : Assoc.keys node.propertyList = Assoc.keys declared := by
  have properties := depicts.properties
  rw [listed] at properties
  obtain ⟨table, found, entries⟩ := properties.exists_left
  have owned : node.propertyList = table := by rw [Node.propertyList, found, Option.getD_some]
  rw [owned]
  exact @keys_alike _ _ (fun edge => slot edge.target) _ _ entries

theorem forbids_iff {key : String} (depicts : Depicts slot node clause) :
    clause.forbids key = true ↔ node.additional = some (.allowed false) ∧ key ∉ Assoc.keys node.propertyList := by
  have undeclared : key ∉ Assoc.keys node.propertyList ↔ clause.property? key = none := by
    rw [← Assoc.contains_iff_mem_keys, Assoc.contains, Bool.not_eq_true, Option.isSome_eq_false_iff,
      Option.isNone_iff_eq_none]
    rcases (depicts.property? key).none_or_some with ⟨unfound, unfoundToo⟩ | ⟨edge, child, found, foundToo, _⟩
    · simp [unfound, unfoundToo]
    · simp [found, foundToo]
  have shut : node.additional = some (.allowed false) ↔ clause.undeclared = some (.allowed false) := by
    rcases depicts.undeclared.none_or_some with ⟨silent, silentToo⟩ | ⟨_, _, said, saidToo, same⟩
    · simp [silent, silentToo]
    · cases same <;> simp [said, saidToo]
  rw [undeclared, shut, Clause.forbids, Bool.and_eq_true, Option.isNone_iff_eq_none, beq_iff_eq, and_comm]

end Depicts

/-! ## Arenas -/

/-- The clause of a message or of one of its slots. It reports what it finds, and other clauses it asks only about the
members that it declares. -/
structure Clause.Frame (clause : Clause) : Prop where
  skip : clause.skip = false
  undeclared : clause.undeclared = none
  items : clause.items = none
  allOf : clause.allOf = []
  anyOf : clause.anyOf = []
  oneOf : clause.oneOf = []
  dispatch : clause.dispatch = none
  checks : clause.checks = []

theorem Clause.frame_empty : Clause.Frame {} := ⟨rfl, rfl, rfl, rfl, rfl, rfl, rfl, rfl⟩

theorem getD_push_of_lt {clauses : Array Clause} (clause : Clause) {place : Nat} (below : place < clauses.size) :
    (clauses.push clause).getD place {} = clauses.getD place {} := by
  simp [Array.getD, below, Nat.lt_succ_of_lt below, Array.getElem_push_lt below]

theorem getD_push (clauses : Array Clause) (clause : Clause) (place : Nat) :
    (clauses.push clause).getD place {} = clauses.getD place {} ∨ (clauses.push clause).getD place {} = clause := by
  by_cases below : place < clauses.size
  · exact .inl (getD_push_of_lt clause below)
  · by_cases last : place = clauses.size
    · exact .inr (by simp [Array.getD, last])
    · refine .inl ?_
      have outside : ¬place < clauses.size + 1 := by omega
      simp [Array.getD, below, outside]

theorem getD_modify_self {clauses : Array Clause} {place : Nat} (inside : place < clauses.size)
    (change : Clause → Clause) : (clauses.modify place change).getD place {} = change (clauses.getD place {}) := by
  simp [Array.getD, inside, Array.getElem_modify]

theorem getD_modify_of_ne (clauses : Array Clause) (change : Clause → Clause) {place other : Nat}
    (different : other ≠ place) : (clauses.modify place change).getD other {} = clauses.getD other {} := by
  by_cases below : other < clauses.size
  · simp [Array.getD, below, Array.getElem_modify, Ne.symm different]
  · simp [Array.getD, below]

namespace Arena

def Slot (arena : Arena) (id place : Nat) : Prop := (id, place) ∈ arena.slots

/-- An arena with more clauses, in which the old ones belong to the same schemas. -/
structure Extends (before after : Arena) : Prop where
  slots : before.slots ⊆ after.slots
  size : before.clauses.size ≤ after.clauses.size
  fresh : ∀ id place, after.Slot id place → place < before.clauses.size → before.Slot id place

theorem Extends.refl (arena : Arena) : Extends arena arena :=
  ⟨List.Subset.refl _, Nat.le_refl _, fun _ _ placed _ => placed⟩

theorem Extends.trans {before middle after : Arena} (first : Extends before middle) (second : Extends middle after) :
    Extends before after := by
  refine ⟨List.Subset.trans first.slots second.slots, Nat.le_trans first.size second.size, ?_⟩
  intro id place placed below
  exact first.fresh id place (second.fresh id place placed (Nat.lt_of_lt_of_le below first.size)) below

theorem extends_reserve (arena : Arena) (id : Nat) (clause : Clause) :
    arena.Extends { clauses := arena.clauses.push clause, slots := (id, arena.clauses.size) :: arena.slots } := by
  refine ⟨fun _ old => List.mem_cons_of_mem _ old, by simp, ?_⟩
  intro other place placed below
  rcases List.mem_cons.mp placed with own | earlier
  · cases own
    exact absurd below (Nat.lt_irrefl _)
  · exact earlier

theorem extends_modify (arena : Arena) (place : Nat) (change : Clause → Clause) :
    arena.Extends { arena with clauses := arena.clauses.modify place change } :=
  ⟨List.Subset.refl _, by simp, fun _ _ placed _ => placed⟩

def reserved (arena : Arena) (id : Nat) : Arena :=
  { clauses := arena.clauses.push {}, slots := (id, arena.clauses.size) :: arena.slots }

def settled (arena : Arena) (place : Nat) (clause : Clause) : Arena :=
  { arena with clauses := arena.clauses.modify place fun _ => clause }

@[simp] theorem clauses_reserved (arena : Arena) (id : Nat) :
    (arena.reserved id).clauses = arena.clauses.push {} := rfl

@[simp] theorem clauses_settled (arena : Arena) (place : Nat) (clause : Clause) :
    (arena.settled place clause).clauses = arena.clauses.modify place fun _ => clause := rfl

/-- Every schema with a place has one of its own; its clause is complete unless the schema is pending. Clauses
of no schema have no branches. -/
structure Sound (catalog : Catalog) (pending : List Nat) (arena : Arena) : Prop where
  ids : (arena.slots.map Prod.fst).Nodup
  places : (arena.slots.map Prod.snd).Nodup
  place_lt_size : ∀ {id place}, arena.Slot id place → place < arena.clauses.size
  unbroken : ∀ id place, arena.Slot id place → catalog.deferred.find? id = none
  depicts : ∀ id place, arena.Slot id place → id ∉ pending →
    Depicts arena.Slot (catalog.graph.node id) (arena.clauses.getD place {})
  frames : ∀ place, (∀ id, ¬arena.Slot id place) → (arena.clauses.getD place {}).Frame

theorem slot?_eq_some (arena : Arena) (distinct : (arena.slots.map Prod.fst).Nodup) (id place : Nat) :
    arena.slot? id = some place ↔ arena.Slot id place := by
  unfold slot? Slot
  rw [Option.map_eq_some_iff]
  constructor
  · rintro ⟨⟨other, _⟩, found, rfl⟩
    have same : other = id := by simpa using List.find?_some found
    exact same ▸ List.mem_of_find?_eq_some found
  · intro member
    rcases found : arena.slots.find? fun entry => entry.1 == id with _ | ⟨other, otherPlace⟩
    · have absent := List.find?_eq_none.mp found _ member
      simp at absent
    · have same : other = id := by simpa using List.find?_some found
      subst same
      have both := List.inj_on_of_nodup_map distinct (List.mem_of_find?_eq_some found) member rfl
      exact ⟨_, found, congrArg Prod.snd both⟩

theorem slot?_eq_none (arena : Arena) (id : Nat) :
    arena.slot? id = none ↔ id ∉ arena.slots.map Prod.fst := by
  simp only [slot?, Option.map_eq_none_iff, List.find?_eq_none, List.mem_map, beq_iff_eq, not_exists, not_and]

namespace Sound

variable {catalog : Catalog} {pending : List Nat} {arena : Arena}

theorem empty (catalog : Catalog) (pending : List Nat) : Sound catalog pending {} where
  ids := List.nodup_nil
  places := List.nodup_nil
  place_lt_size placed := absurd placed List.not_mem_nil
  unbroken _ _ placed := absurd placed List.not_mem_nil
  depicts _ _ placed := absurd placed List.not_mem_nil
  frames _ _ := Clause.frame_empty

theorem id_inj (sound : Sound catalog pending arena) {id other place : Nat} (placed : arena.Slot id place)
    (placedToo : arena.Slot other place) : id = other :=
  congrArg Prod.fst (List.inj_on_of_nodup_map sound.places placed placedToo rfl)

theorem place_inj (sound : Sound catalog pending arena) {id place other : Nat} (placed : arena.Slot id place)
    (placedToo : arena.Slot id other) : place = other :=
  congrArg Prod.snd (List.inj_on_of_nodup_map sound.ids placed placedToo rfl)

theorem reserve (sound : Sound catalog pending arena) {id : Nat} (fresh : arena.slot? id = none)
    (unbroken : catalog.deferred.find? id = none) :
    Sound catalog (id :: pending) (arena.reserved id) where
  ids := List.nodup_cons.mpr ⟨(slot?_eq_none arena id).mp fresh, sound.ids⟩
  places := by
    refine List.nodup_cons.mpr ⟨?_, sound.places⟩
    intro taken
    obtain ⟨⟨other, place⟩, placed, same⟩ := List.mem_map.mp taken
    have below := sound.place_lt_size placed
    exact Nat.ne_of_lt below same
  place_lt_size placed := by
    rw [clauses_reserved, Array.size_push]
    rcases List.mem_cons.mp placed with own | earlier
    · cases own
      exact Nat.lt_succ_self _
    · exact Nat.lt_succ_of_lt (sound.place_lt_size earlier)
  unbroken other place placed := by
    rcases List.mem_cons.mp placed with own | earlier
    · cases own
      exact unbroken
    · exact sound.unbroken other place earlier
  depicts other place placed settled := by
    rcases List.mem_cons.mp placed with own | earlier
    · cases own
      exact absurd List.mem_cons_self settled
    · have kept := sound.depicts other place earlier fun old => settled (List.mem_cons_of_mem _ old)
      have below := sound.place_lt_size earlier
      rw [clauses_reserved, getD_push_of_lt _ below]
      exact kept.mono fun _ _ => List.mem_cons_of_mem _
  frames place free := by
    rcases getD_push arena.clauses {} place with same | same
    · rw [clauses_reserved, same]
      exact sound.frames place fun other placed => free other (List.mem_cons_of_mem _ placed)
    · rw [clauses_reserved, same]
      exact Clause.frame_empty

theorem settle {id place : Nat} {clause : Clause} (sound : Sound catalog (id :: pending) arena)
    (placed : arena.Slot id place) (depicts : Depicts arena.Slot (catalog.graph.node id) clause) :
    Sound catalog pending (arena.settled place clause) where
  ids := sound.ids
  places := sound.places
  place_lt_size placed := by
    rw [clauses_settled, Array.size_modify]
    exact sound.place_lt_size placed
  unbroken := sound.unbroken
  depicts other otherPlace otherPlaced settled := by
    have below := sound.place_lt_size otherPlaced
    by_cases own : otherPlace = place
    · subst own
      obtain rfl := sound.id_inj placed otherPlaced
      have written : (arena.clauses.modify otherPlace fun _ => clause).getD otherPlace {} = clause := by
        simp [Array.getD, below, Array.getElem_modify]
      rw [clauses_settled, written]
      exact depicts
    · have notOwn : other ≠ id := by
        rintro rfl
        exact own (sound.place_inj otherPlaced placed)
      have kept := sound.depicts other otherPlace otherPlaced (by simp [notOwn, settled])
      rw [clauses_settled, getD_modify_of_ne _ _ own]
      exact kept
  frames otherPlace free := by
    have different : otherPlace ≠ place := by
      rintro rfl
      exact free id placed
    rw [clauses_settled, getD_modify_of_ne _ _ different]
    exact sound.frames otherPlace free

end Sound

end Arena

end Validator

end ApiContract
