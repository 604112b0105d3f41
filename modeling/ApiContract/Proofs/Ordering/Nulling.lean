import ApiContract.Proofs.Compilation.Success
import ApiContract.Proofs.Ordering.Twins
import ApiContract.Proofs.Pass.Commutation

/-!
Closure and nullability under other numbers. What nullability does to a graph is decided on the graph as it was
(`effects`), and what comes of it does not depend on the order of the decisions, up to the numbers of the wrappers
(`Reached`). So paired drafts stay paired.
-/

namespace ApiContract

theorem Assoc.insert_related {α β : Type} (related more : String → α → β → Prop) {table : Assoc α} {other : Assoc β}
    {key : String} {value : α} {new : β}
    (tables : List.Forall₂ (fun entry led => entry.1 = led.1 ∧ related entry.1 entry.2 led.2) table other)
    (distinct : (keys table).Nodup) (member : (key, value) ∈ table)
    (others : ∀ name value led, name ≠ key → related name value led → more name value led) (own : more key value new) :
    List.Forall₂ (fun entry led => entry.1 = led.1 ∧ more entry.1 entry.2 led.2) table (insert other key new) := by
  induction tables with
  | nil => contradiction
  | @cons entry led rest restToo both tables ih =>
      obtain ⟨name, old⟩ := entry
      obtain ⟨nameToo, led⟩ := led
      obtain ⟨rfl, relates⟩ := both
      obtain ⟨fresh, distinctRest⟩ := List.nodup_cons.mp distinct
      unfold insert
      split
      next same =>
        subst same
        rcases List.mem_cons.mp member with first | later
        · cases first
          refine .cons ⟨rfl, own⟩ ?_
          refine ((List.forall₂_and_left (p := fun entry => entry.1 ≠ name) _ _).mpr
            ⟨fun entry among same => ?_, tables⟩).imp
            fun entry led both => ⟨both.2.1, others _ _ _ both.1 both.2.2⟩
          exact fresh (List.mem_map.mpr ⟨entry, among, same⟩)
        · exact absurd (List.mem_map_of_mem (f := Prod.fst) later) fresh
      next different =>
        rcases List.mem_cons.mp member with first | later
        · cases first
          exact absurd rfl different
        · exact .cons ⟨rfl, others _ _ _ different relates⟩ (ih distinctRest later)

namespace Schema

/-- An edge that is led through a wrapper: its owner and its key, or none if it is for undeclared keys. -/
structure Detour where
  owner : Nat
  key : Option String
  edge : Edge

def Detour.spot (detour : Detour) : Nat × Option String := (detour.owner, detour.key)

inductive Effect where
  | mark (id : Nat)
  | lead (detour : Detour)

namespace Effect

def detour? : Effect → Option Detour
  | mark _ => none
  | lead detour => some detour

end Effect

def detours (effects : List Effect) : List Detour := effects.filterMap Effect.detour?

@[simp] theorem detours_append (effects more : List Effect) :
    detours (effects ++ more) = detours effects ++ detours more :=
  List.filterMap_append

@[simp] theorem detours_mark (id : Nat) : detours [.mark id] = [] := rfl

@[simp] theorem detours_lead (detour : Detour) : detours [.lead detour] = [detour] := rfl

@[simp] theorem detours_nil : detours [] = [] := rfl

theorem mem_detours {effects : List Effect} {detour : Detour} : detour ∈ detours effects ↔ .lead detour ∈ effects := by
  rw [detours, List.mem_filterMap]
  constructor
  · rintro ⟨effect, member, same⟩
    cases effect with
    | mark => cases same
    | lead => cases same; exact member
  · exact fun member => ⟨_, member, rfl⟩

namespace Graph

/-- Where an edge leads after some effects: to where it led before, or to its wrapper. -/
inductive Leads (start : Graph) (done : List Effect) (owner : Nat) (key : Option String) (edge : Edge) : Edge → Prop
  | straight : (∀ detour ∈ detours done, detour.spot ≠ (owner, key)) → Leads start done owner key edge edge
  | around {place} : (detours done)[place]? = some ⟨owner, key, edge⟩ →
      Leads start done owner key edge (.inline (start.size + 2 * place + 1))

inductive LeadsBeyond (start : Graph) (done : List Effect) (owner : Nat) : Additional → Additional → Prop
  | allowed (flag) : LeadsBeyond start done owner (.allowed flag) (.allowed flag)
  | schema {edge led} : Leads start done owner none edge led → LeadsBeyond start done owner (.schema edge) (.schema led)

/-- What some effects make of a graph. -/
structure Reached (start : Graph) (done : List Effect) (graph : Graph) : Prop where
  size : graph.size = start.size + 2 * (detours done).length
  apart : ∀ id < start.size, graph.node id = { start.node id with
    nullable := (graph.node id).nullable, properties := (graph.node id).properties,
    additional := (graph.node id).additional }
  nullable : ∀ id < start.size, (graph.node id).nullable = true ↔ (start.node id).nullable = true ∨ .mark id ∈ done
  properties : ∀ id < start.size, Option.Rel
    (List.Forall₂ fun entry led => entry.1 = led.1 ∧ Leads start done id (some entry.1) entry.2 led.2)
    (start.node id).properties (graph.node id).properties
  additional : ∀ id < start.size,
    Option.Rel (LeadsBeyond start done id) (start.node id).additional (graph.node id).additional
  added : ∀ place detour, (detours done)[place]? = some detour →
    graph.node (start.size + 2 * place) = .nullMarker (start.node detour.edge.target).source ∧
    graph.node (start.size + 2 * place + 1) =
      .nullableWrapper (start.node detour.edge.target).source detour.edge (start.size + 2 * place)
  once : ((detours done).map Detour.spot).Nodup

variable {start graph : Graph} {done : List Effect} {owner : Nat} {key : Option String} {edge led : Edge}

theorem Leads.append {detour : Detour} (leads : Leads start done owner key edge led)
    (different : (owner, key) ≠ detour.spot) : Leads start (done ++ [.lead detour]) owner key edge led := by
  cases leads with
  | straight free =>
      refine .straight fun other member => ?_
      rw [detours_append, detours_lead, List.mem_append, List.mem_singleton] at member
      rcases member with earlier | rfl
      · exact free other earlier
      · exact Ne.symm different
  | around found =>
      refine .around ?_
      rw [detours_append, List.getElem?_append_left (List.getElem?_eq_some_iff.mp found).1]
      exact found

theorem Leads.new (done : List Effect) (start : Graph) (owner : Nat) (key : Option String) (edge : Edge) :
    Leads start (done ++ [.lead ⟨owner, key, edge⟩]) owner key edge
      (.inline (start.size + 2 * (detours done).length + 1)) :=
  .around (by simp)

theorem Leads.eq_of_free (leads : Leads start done owner key edge led)
    (free : ∀ detour ∈ detours done, detour.spot ≠ (owner, key)) : led = edge := by
  cases leads with
  | straight => rfl
  | around found => exact absurd rfl (free _ (List.mem_of_getElem? found))

theorem LeadsBeyond.imp {more : List Effect} {additional other : Additional}
    (each : ∀ edge led, Leads start done owner none edge led → Leads start more owner none edge led)
    (beyond : LeadsBeyond start done owner additional other) : LeadsBeyond start more owner additional other := by
  cases beyond with
  | allowed flag => exact .allowed flag
  | schema leads => exact .schema (each _ _ leads)

/-- What is added for an edge: a marker, and the wrapper that leads to both. -/
theorem nodes_wrapNullable (graph : Graph) (edge : Edge) :
    (graph.wrapNullable edge).2.node graph.size = .nullMarker (graph.node edge.target).source ∧
      (graph.wrapNullable edge).2.node (graph.size + 1) =
        .nullableWrapper (graph.node edge.target).source edge graph.size := by
  simp only [wrapNullable, add_fst]
  refine ⟨?_, ?_⟩
  · rw [node_add_of_ne _ (by rw [size_add]; omega), node_add_self]
  · rw [← size_add graph (.nullMarker (graph.node edge.target).source), node_add_self]

namespace Reached

theorem refl (graph : Graph) : Reached graph [] graph where
  size := rfl
  apart _ _ := rfl
  nullable _ _ := by simp
  properties id _ := by
    cases (graph.node id).properties with
    | none => exact .none
    | some table => exact .some (List.forall₂_same.mpr fun entry _ =>
      ⟨rfl, .straight fun _ none => absurd none List.not_mem_nil⟩)
  additional id _ := by
    rcases (graph.node id).additional with _ | flag | edge
    · exact .none
    · exact .some (.allowed flag)
    · exact .some (.schema (.straight fun _ none => absurd none List.not_mem_nil))
  added _ _ found := by cases found
  once := .nil

variable (reached : Reached start done graph)

include reached

theorem size_le : start.size ≤ graph.size := by
  rw [reached.size]
  omega

theorem keeps {α : Type} {id : Nat} (inside : id < start.size) (read : Node → α)
    (blind : ∀ (node : Node) nullable properties additional,
      read { node with nullable, properties, additional } = read node) :
    read (graph.node id) = read (start.node id) := by
  rw [reached.apart id inside, blind]

theorem xNullable {id : Nat} (inside : id < start.size) : (graph.node id).xNullable = (start.node id).xNullable :=
  reached.keeps inside Node.xNullable fun _ _ _ _ => rfl

/-- Owners whose turn has not come have the edges that they had. -/
theorem propertyList {id : Nat} (inside : id < start.size) (free : ∀ detour ∈ detours done, detour.owner ≠ id) :
    (graph.node id).propertyList = (start.node id).propertyList := by
  rw [Node.propertyList, Node.propertyList]
  rcases (reached.properties id inside).none_or_some with ⟨none, noneToo⟩ | ⟨table, tableToo, some, someToo, tables⟩
  · rw [none, noneToo]
  · rw [some, someToo, Option.getD_some, Option.getD_some]
    have same : List.Forall₂ (· = ·) table tableToo := tables.imp fun entry led both =>
      Prod.ext both.1 (both.2.eq_of_free fun detour member spot => free detour member (congrArg Prod.fst spot)).symm
    rw [List.forall₂_eq_eq_eq] at same
    exact same.symm

theorem additional_of_free {id : Nat} (inside : id < start.size)
    (free : ∀ detour ∈ detours done, detour.spot ≠ (id, none)) :
    (graph.node id).additional = (start.node id).additional := by
  rcases (reached.additional id inside).none_or_some with ⟨none, noneToo⟩ | ⟨_, _, some, someToo, leads⟩
  · rw [none, noneToo]
  · rw [some, someToo]
    cases leads with
    | allowed => rfl
    | schema leads => rw [leads.eq_of_free free]

theorem mark {id : Nat} (inside : id < start.size) : Reached start (done ++ [.mark id]) (graph.markNullable id) := by
  have same : detours (done ++ [.mark id]) = detours done := by simp
  have kept other := node_markNullable graph id other
  have leads {owner : Nat} {key : Option String} {edge led : Edge} (leads : Leads start done owner key edge led) :
      Leads start (done ++ [.mark id]) owner key edge led := by
    cases leads with
    | straight free => exact .straight (same ▸ free)
    | around found => exact .around (same ▸ found)
  have size_le := reached.size_le
  refine ⟨?_, fun other old => ?_, fun other old => ?_, fun other old => ?_, fun other old => ?_,
    fun place detour found => ?_, same ▸ reached.once⟩
  · rw [same, markNullable, size_modify, reached.size]
  · rw [kept, reached.apart other old]
  · rw [List.mem_append, List.mem_singleton, ← or_assoc, ← reached.nullable other old, markNullable, Effect.mark.injEq]
    by_cases own : other = id
    · subst own
      rw [node_modify_self _ (by omega)]
      exact iff_of_true rfl (.inr rfl)
    · rw [node_modify_of_ne _ _ own]
      exact (or_iff_left own).symm
  · rw [kept]
    exact (reached.properties other old).imp fun _ _ tables => tables.imp fun _ _ both => ⟨both.1, leads both.2⟩
  · rw [kept]
    exact (reached.additional other old).imp fun _ _ beyond => beyond.imp fun _ _ => leads
  · rw [same] at found
    obtain ⟨marker, wrapper⟩ := reached.added place detour found
    rw [markNullable, node_modify_of_ne _ _ (by omega), node_modify_of_ne _ _ (by omega)]
    exact ⟨marker, wrapper⟩

/-- An edge that was led nowhere yet is led through a wrapper, which comes next. -/
theorem lead {detour : Detour} {change : Node → Node} (old : detour.owner < start.size)
    (oldTarget : detour.edge.target < start.size) (free : ∀ other ∈ detours done, other.spot ≠ detour.spot)
    (apart : ∀ node, change node =
      { node with properties := (change node).properties, additional := (change node).additional })
    (properties : Option.Rel
      (List.Forall₂ fun entry led =>
        entry.1 = led.1 ∧ Leads start (done ++ [.lead detour]) detour.owner (some entry.1) entry.2 led.2)
      (start.node detour.owner).properties (change (graph.node detour.owner)).properties)
    (additional : Option.Rel (LeadsBeyond start (done ++ [.lead detour]) detour.owner)
      (start.node detour.owner).additional (change (graph.node detour.owner)).additional) :
    Reached start (done ++ [.lead detour]) ((graph.wrapNullable detour.edge).2.modify detour.owner change) := by
  have size := reached.size
  have same : detours (done ++ [.lead detour]) = detours done ++ [detour] := by simp
  have own : ((graph.wrapNullable detour.edge).2.modify detour.owner change).node detour.owner =
      change (graph.node detour.owner) := by
    rw [node_modify_self _ (by rw [size_wrapNullable]; omega), node_wrapNullable_of_lt (by omega)]
  have others {id : Nat} (different : id ≠ detour.owner) (inside : id < graph.size) :
      ((graph.wrapNullable detour.edge).2.modify detour.owner change).node id = graph.node id := by
    rw [node_modify_of_ne _ _ different, node_wrapNullable_of_lt inside]
  have apart node : change node = _ := apart node
  refine ⟨?_, fun id inside => ?_, fun id inside => ?_, fun id inside => ?_, fun id inside => ?_,
    fun place other found => ?_, ?_⟩
  · rw [same, size_modify, size_wrapNullable, List.length_append, List.length_singleton, size]
    omega
  · by_cases owner : id = detour.owner
    · subst owner
      rw [own, apart, reached.apart _ inside]
    · rw [others owner (by omega), ← reached.apart id inside]
  · have unmarked : Effect.mark id ∈ done ++ [.lead detour] ↔ .mark id ∈ done := by simp
    rw [unmarked, ← reached.nullable id inside]
    by_cases owner : id = detour.owner
    · subst owner
      rw [own, apart]
    · rw [others owner (by omega)]
  · by_cases owner : id = detour.owner
    · subst owner
      rw [own]
      exact properties
    · rw [others owner (by omega)]
      exact (reached.properties id inside).imp fun _ _ tables => tables.imp fun _ _ both =>
        ⟨both.1, both.2.append fun spot => owner (congrArg Prod.fst spot)⟩
  · by_cases owner : id = detour.owner
    · subst owner
      rw [own]
      exact additional
    · rw [others owner (by omega)]
      exact (reached.additional id inside).imp fun _ _ beyond => beyond.imp fun _ _ leads =>
        leads.append fun spot => owner (congrArg Prod.fst spot)
  · rw [same] at found
    by_cases earlier : place < (detours done).length
    · rw [List.getElem?_append_left earlier] at found
      rw [others (by omega) (by omega), others (by omega) (by omega)]
      exact reached.added place other found
    · have last : place = (detours done).length := by
        have inside := (List.getElem?_eq_some_iff.mp found).1
        rw [List.length_append, List.length_singleton] at inside
        omega
      subst last
      rw [List.getElem?_append_right (Nat.le_refl _), Nat.sub_self] at found
      cases found
      rw [node_modify_of_ne _ _ (by omega), node_modify_of_ne _ _ (by omega), ← size,
        ← reached.keeps oldTarget Node.source fun _ _ _ _ => rfl]
      exact nodes_wrapNullable graph detour.edge
  · rw [same, List.map_append, List.nodup_append]
    refine ⟨reached.once, List.nodup_singleton _, fun spot member other last => ?_⟩
    obtain ⟨earlier, among, rfl⟩ := List.mem_map.mp member
    rw [List.map_singleton, List.mem_singleton] at last
    exact last ▸ free earlier among

theorem leadProperty {owner : Nat} {name : String} {edge : Edge} (old : owner < start.size)
    (oldTarget : edge.target < start.size) (distinct : (Assoc.keys (start.node owner).propertyList).Nodup)
    (declared : (name, edge) ∈ (start.node owner).propertyList)
    (free : ∀ other ∈ detours done, other.spot ≠ (owner, some name)) :
    Reached start (done ++ [.lead ⟨owner, some name, edge⟩]) (graph.wrapProperty owner name edge) := by
  refine reached.lead old oldTarget free (fun _ => rfl) ?_ ?_
  · rw [Node.propertyList] at distinct declared
    change Option.Rel _ _ ((graph.node owner).properties.map _)
    rcases (reached.properties owner old).none_or_some with ⟨none, noneToo⟩ | ⟨table, tableToo, some, someToo, tables⟩
    · rw [none, noneToo]
      exact .none
    · rw [some, Option.getD_some] at distinct declared
      rw [some, someToo]
      refine .some ?_
      refine Assoc.insert_related (fun key => Leads start done owner (.some key))
        (fun key => Leads start (done ++ [.lead ⟨owner, .some name, edge⟩]) owner (.some key)) tables distinct declared
        (fun other value led different leads => leads.append fun spot => different ?_) ?_
      · exact Option.some.inj (congrArg Prod.snd spot)
      · rw [show (graph.wrapNullable edge).1 = .inline (graph.size + 1) from congrArg Edge.inline (size_add _ _),
          reached.size]
        exact .new done start owner (.some name) edge
  · refine (reached.additional owner old).imp fun _ _ beyond => ?_
    cases beyond with
    | allowed flag => exact .allowed flag
    | schema leads => exact .schema (leads.append fun spot => Option.some_ne_none _ (congrArg Prod.snd spot).symm)

theorem leadAdditional {owner : Nat} {edge : Edge} (old : owner < start.size) (oldTarget : edge.target < start.size)
    (declared : (start.node owner).additional = some (.schema edge))
    (free : ∀ other ∈ detours done, other.spot ≠ (owner, none)) :
    Reached start (done ++ [.lead ⟨owner, none, edge⟩]) (graph.wrapAdditional owner edge) := by
  refine reached.lead old oldTarget free (fun _ => rfl) ?_ ?_
  · exact (reached.properties owner old).imp fun _ _ tables => tables.imp fun _ _ both =>
      ⟨both.1, both.2.append fun spot => Option.some_ne_none _ (congrArg Prod.snd spot)⟩
  · rw [declared]
    refine .some (.schema ?_)
    rw [show (graph.wrapNullable edge).1 = .inline (graph.size + 1) from congrArg Edge.inline (size_add _ _),
      reached.size]
    exact .new done start owner none edge

end Reached

/-! ## Decisions -/

def propertyEffects (start : Graph) (owner : Nat) (property : String × Edge) : List Effect :=
  let (key, edge) := property
  let target := start.node edge.target
  if !target.xNullable.getD (!(start.node owner).required.contains key) then []
  else if !edge.viaRef || target.xNullable == some true then [.mark edge.target]
  else [.lead ⟨owner, some key, edge⟩]

def additionalEffects (start : Graph) (owner : Nat) : List Effect :=
  match (start.node owner).additional with
  | some (.schema edge) =>
      if edge.viaRef then [.lead ⟨owner, none, edge⟩]
      else if (start.node edge.target).xNullable == some false then []
      else [.mark edge.target]
  | _ => []

def objectEffects (start : Graph) (owner : Nat) : List Effect :=
  (start.node owner).propertyList.flatMap (start.propertyEffects owner) ++ start.additionalEffects owner

def itemEffects (start : Graph) (owner : Nat) : List Effect :=
  match (start.node owner).items with
  | some edge => if (start.node edge.target).xNullable == some true then [.mark edge.target] else []
  | none => []

def parameterEffects (parameter : Parameter) : List Effect :=
  if parameter.place = .query ∧ parameter.allowEmptyValue then [.mark parameter.schema.target] else []

theorem spot_of_propertyEffects {property : String × Edge} {detour : Detour}
    (member : detour ∈ detours (start.propertyEffects owner property)) : detour.spot = (owner, some property.1) := by
  unfold propertyEffects at member
  dsimp only at member
  split at member
  · cases member
  · split at member
    · cases member
    · cases List.mem_singleton.mp member
      rfl

theorem owner_of_objectEffects {detour : Detour} (member : detour ∈ detours (start.objectEffects owner)) :
    detour.owner = owner := by
  rw [mem_detours, objectEffects, List.mem_append, List.mem_flatMap] at member
  rcases member with ⟨property, _, among⟩ | among
  · exact congrArg Prod.fst (spot_of_propertyEffects (mem_detours.mpr among))
  · unfold additionalEffects at among
    split at among
    · split at among
      · cases List.mem_singleton.mp among
        rfl
      · split at among
        · cases among
        · cases List.mem_singleton.mp among
    · cases among

/-- Edges lead to schemas of the graph, and each key of a schema has one. -/
structure Orderly (graph : Graph) : Prop where
  below : ∀ id target, (graph.node id).LeadsTo target → target < graph.size
  distinct : ∀ id, (Assoc.keys (graph.node id).propertyList).Nodup

namespace Reached

variable (orderly : start.Orderly) (reached : Reached start done graph)

include orderly reached

theorem nullProperty {property : String × Edge} (old : owner < start.size)
    (declared : property ∈ (start.node owner).propertyList)
    (free : ∀ other ∈ detours done, other.spot ≠ (owner, some property.1)) :
    Reached start (done ++ start.propertyEffects owner property)
      (graph.nullProperty owner (start.node owner).required property) := by
  obtain ⟨key, edge⟩ := property
  have oldTarget := orderly.below owner edge.target (.property declared)
  unfold Graph.nullProperty propertyEffects
  dsimp only
  rw [reached.xNullable oldTarget]
  split
  · rwa [List.append_nil]
  · split
    · exact reached.mark oldTarget
    · exact reached.leadProperty old oldTarget (orderly.distinct owner) declared free

theorem nullAdditional (old : owner < start.size) (free : ∀ other ∈ detours done, other.spot ≠ (owner, none)) :
    Reached start (done ++ start.additionalEffects owner) (graph.nullAdditional owner) := by
  unfold Graph.nullAdditional additionalEffects
  rw [reached.additional_of_free old free]
  rcases declared : (start.node owner).additional with _ | _ | edge
  · rwa [List.append_nil]
  · rwa [List.append_nil]
  · have oldTarget := orderly.below owner edge.target (.additional declared)
    dsimp only
    rw [reached.xNullable oldTarget]
    split
    · exact reached.leadAdditional old oldTarget declared free
    · split
      · rwa [List.append_nil]
      · exact reached.mark oldTarget

theorem nullProperties {properties : Assoc Edge} (old : owner < start.size)
    (declared : properties ⊆ (start.node owner).propertyList) (distinct : (Assoc.keys properties).Nodup)
    (free : ∀ other ∈ detours done, ∀ key ∈ Assoc.keys properties, other.spot ≠ (owner, some key)) :
    Reached start (done ++ properties.flatMap (start.propertyEffects owner))
      (properties.foldl (Graph.nullProperty owner (start.node owner).required) graph) := by
  induction properties generalizing done graph with
  | nil => rwa [List.flatMap_nil, List.append_nil]
  | cons property rest ih =>
      obtain ⟨fresh, distinctRest⟩ := List.nodup_cons.mp distinct
      have next := reached.nullProperty orderly old (declared List.mem_cons_self) fun other member =>
        free other member _ List.mem_cons_self
      rw [List.flatMap_cons, List.foldl_cons, ← List.append_assoc]
      refine ih next (fun entry member => declared (List.mem_cons_of_mem _ member)) distinctRest ?_
      intro other member key among
      rw [detours_append, List.mem_append] at member
      rcases member with earlier | new
      · exact free other earlier key (List.mem_cons_of_mem _ among)
      · rw [spot_of_propertyEffects new]
        rintro same
        exact fresh (Option.some.inj (congrArg Prod.snd same) ▸ among)

theorem nullObject (old : owner < start.size) (free : ∀ other ∈ detours done, other.owner ≠ owner) :
    Reached start (done ++ start.objectEffects owner) (graph.nullObject owner) := by
  unfold Graph.nullObject objectEffects
  dsimp only
  rw [reached.propertyList old free, reached.keeps old Node.required fun _ _ _ _ => rfl, ← List.append_assoc]
  have properties := reached.nullProperties orderly old (List.Subset.refl _) (orderly.distinct owner)
    fun other member _ _ spot => free other member (congrArg Prod.fst spot)
  refine properties.nullAdditional orderly old fun other member => ?_
  rw [detours_append, List.mem_append] at member
  rcases member with earlier | new
  · exact fun spot => free other earlier (congrArg Prod.fst spot)
  · rw [mem_detours, List.mem_flatMap] at new
    obtain ⟨property, _, among⟩ := new
    rw [spot_of_propertyEffects (mem_detours.mpr among)]
    exact fun spot => Option.some_ne_none _ (congrArg Prod.snd spot)

theorem nullObjects {objects : List Nat} (old : ∀ id ∈ objects, id < start.size) (once : objects.Nodup)
    (free : ∀ other ∈ detours done, other.owner ∉ objects) :
    Reached start (done ++ objects.flatMap start.objectEffects) (objects.foldl Graph.nullObject graph) := by
  induction objects generalizing done graph with
  | nil => rwa [List.flatMap_nil, List.append_nil]
  | cons owner rest ih =>
      obtain ⟨fresh, onceRest⟩ := List.nodup_cons.mp once
      rw [List.flatMap_cons, List.foldl_cons, ← List.append_assoc]
      have next := reached.nullObject orderly (old owner List.mem_cons_self) fun other member same =>
        free other member (same ▸ List.mem_cons_self)
      refine ih next (fun id member => old id (List.mem_cons_of_mem _ member)) onceRest fun other member => ?_
      rw [detours_append, List.mem_append] at member
      rcases member with earlier | new
      · exact fun among => free other earlier (List.mem_cons_of_mem _ among)
      · rw [owner_of_objectEffects new]
        exact fresh

theorem nullItems (old : owner < start.size) :
    Reached start (done ++ start.itemEffects owner) (graph.nullItems owner) := by
  unfold Graph.nullItems itemEffects
  rw [reached.keeps old Node.items fun _ _ _ _ => rfl]
  rcases declared : (start.node owner).items with _ | edge
  · rwa [List.append_nil]
  · have oldTarget := orderly.below owner edge.target (.items declared)
    dsimp only
    rw [reached.xNullable oldTarget]
    split
    · exact reached.mark oldTarget
    · rwa [List.append_nil]

omit orderly in
theorem nullParameter {parameter : Parameter} (old : parameter.schema.target < start.size) :
    Reached start (done ++ parameterEffects parameter) (graph.nullParameter parameter) := by
  unfold Graph.nullParameter parameterEffects
  split
  · exact reached.mark old
  · rwa [List.append_nil]

omit orderly in
/-- What holds of each decision holds of all of them. -/
theorem foldl {α : Type} (items : List α) (decide : Graph → α → Graph) (effects : α → List Effect)
    (each : ∀ item ∈ items, ∀ done graph, Reached start done graph →
      Reached start (done ++ effects item) (decide graph item)) :
    Reached start (done ++ items.flatMap effects) (items.foldl decide graph) := by
  induction items generalizing done graph with
  | nil => rwa [List.flatMap_nil, List.append_nil]
  | cons item rest ih =>
      rw [List.flatMap_cons, List.foldl_cons, ← List.append_assoc]
      exact ih (each item List.mem_cons_self _ _ reached) fun item member => each item (List.mem_cons_of_mem _ member)

end Reached

end Graph

end Schema

/-- The same effect on schemas that are the same. -/
inductive Schema.Effect.Alike (pairing : Schema.Pairing) : Schema.Effect → Schema.Effect → Prop
  | mark {id twin} : pairing.Near id twin → Alike pairing (.mark id) (.mark twin)
  | lead {owner twin key edge other} : pairing.same owner twin → edge.Alike pairing.Near other →
      Alike pairing (.lead ⟨owner, key, edge⟩) (.lead ⟨twin, key, other⟩)

namespace Draft

open Schema Schema.Graph

def effects (draft : Draft) : List Effect :=
  draft.catalog.collections.objects.flatMap draft.graph.objectEffects ++
    draft.catalog.collections.arrays.flatMap draft.graph.itemEffects ++
    (draft.operations.flatMap (·.parameters)).flatMap parameterEffects

/-- The schemas of a draft are numbered as its graph has them, and the objects each once. -/
structure Orderly (draft : Draft) : Prop where
  graph : draft.graph.Orderly
  listing : ∀ id ∈ draft.catalog.collections.listing, id < draft.graph.size
  once : draft.catalog.collections.objects.Nodup
  deferred : ∀ id, draft.catalog.deferred.find? id ≠ none → id < draft.graph.size
  parameters : ∀ operation ∈ draft.operations, ∀ parameter ∈ operation.parameters,
    parameter.schema.target < draft.graph.size

theorem Orderly.reached {draft : Draft} (orderly : draft.Orderly) :
    Reached draft.graph draft.effects draft.admitNull.graph := by
  have objects := (Reached.refl draft.graph).nullObjects orderly.graph
    (fun id member => orderly.listing id (Collections.mem_listing.mpr ⟨.object, member⟩)) orderly.once
    fun _ none => absurd none List.not_mem_nil
  have arrays := objects.foldl draft.catalog.collections.arrays nullItems draft.graph.itemEffects
    fun owner member done graph reached => reached.nullItems orderly.graph
      (orderly.listing owner (Collections.mem_listing.mpr ⟨.array, member⟩))
  refine arrays.foldl _ nullParameter parameterEffects fun parameter member done graph reached =>
    reached.nullParameter ?_
  obtain ⟨operation, among, owned⟩ := List.mem_flatMap.mp member
  exact orderly.parameters operation among parameter owned

/-! ## Two drafts -/

/-- What is added for edges of the same owners to schemas that are the same. -/
inductive Added (pairing : Pairing) (one other : Draft) (id twin : Nat) : Prop
  | intro {place placeToo extra detour detourToo} : (detours one.effects)[place]? = some detour →
      (detours other.effects)[placeToo]? = some detourToo → pairing.same detour.owner detourToo.owner →
      detour.key = detourToo.key → detour.edge.Alike pairing.same detourToo.edge → extra < 2 →
      id = one.graph.size + 2 * place + extra → twin = other.graph.size + 2 * placeToo + extra →
        Added pairing one other id twin

/-- The wrapper of a schema that is lost. -/
inductive Spoiled (lost : Nat → Prop) (draft : Draft) (id : Nat) : Prop
  | intro {place detour} : (detours draft.effects)[place]? = some detour → lost detour.edge.target →
      id = draft.graph.size + 2 * place + 1 → Spoiled lost draft id

def nulled (pairing : Pairing) (one other : Draft) : Pairing where
  same id twin := pairing.same id twin ∨ Added pairing one other id twin
  lost id := pairing.lost id ∨ Spoiled pairing.lost one id
  lostToo twin := pairing.lostToo twin ∨ Spoiled pairing.lostToo other twin

variable {pairing : Pairing} {one other : Draft} {id twin owner : Nat}

theorem Added.flip (added : Added pairing one other id twin) : Added pairing.flip other one twin id := by
  obtain ⟨found, foundToo, owners, keys, edges, bound, rfl, rfl⟩ := added
  exact ⟨foundToo, found, owners, keys.symm, edges.flip, bound, rfl, rfl⟩

theorem near_nulled (near : pairing.Near id twin) : (nulled pairing one other).Near id twin :=
  near.imp .inl fun ⟨lost, lostToo⟩ => ⟨.inl lost, .inl lostToo⟩

theorem same_nulled_flip (same : (nulled pairing one other).same id twin) :
    (nulled pairing.flip other one).same twin id :=
  same.imp (fun same => same) Added.flip

namespace Sketched

variable (sketched : Sketched pairing one other)

include sketched

theorem xNullable_near (near : pairing.Near id twin) :
    (one.graph.node id).xNullable = (other.graph.node twin).xNullable := by
  rcases near with same | ⟨lost, lostToo⟩
  · exact (sketched.nodes id twin same).same Node.xNullable fun _ => rfl
  · exact (sketched.matched.blank id lost).xNullable.trans (sketched.matchedToo.blank twin lostToo).xNullable.symm

theorem propertyEffects_alike (same : pairing.same owner twin) {property propertyToo : String × Edge}
    (key : property.1 = propertyToo.1) (edges : property.2.Alike pairing.Near propertyToo.2) :
    List.Forall₂ (Effect.Alike pairing) (one.graph.propertyEffects owner property)
      (other.graph.propertyEffects twin propertyToo) := by
  obtain ⟨name, edge⟩ := property
  obtain ⟨nameToo, edgeToo⟩ := propertyToo
  cases key
  dsimp only at edges
  unfold propertyEffects
  dsimp only
  rw [sketched.xNullable_near edges.near, (sketched.nodes owner twin same).same Node.required fun _ => rfl,
    edges.viaRef]
  split
  · exact .nil
  · split
    · exact .cons (.mark edges.near) .nil
    · exact .cons (.lead same edges) .nil

theorem additionalEffects_alike (same : pairing.same owner twin) :
    List.Forall₂ (Effect.Alike pairing) (one.graph.additionalEffects owner) (other.graph.additionalEffects twin) := by
  have related := additional_of_outline (sketched.nodes owner twin same).outline.additional
  unfold additionalEffects
  rcases related.none_or_some with ⟨none, noneToo⟩ | ⟨_, _, some, someToo, said⟩
  · rw [none, noneToo]
    exact .nil
  · rw [some, someToo]
    cases said with
    | allowed => exact .nil
    | schema edges =>
        dsimp only
        rw [sketched.xNullable_near edges.near, edges.viaRef]
        split
        · exact .cons (.lead same edges) .nil
        · split
          · exact .nil
          · exact .cons (.mark edges.near) .nil

theorem objectEffects_alike (same : pairing.same owner twin) :
    List.Forall₂ (Effect.Alike pairing) (one.graph.objectEffects owner) (other.graph.objectEffects twin) := by
  refine List.rel_append (List.rel_flatten (List.forall₂_map_left_iff.mpr (List.forall₂_map_right_iff.mpr ?_)))
    (sketched.additionalEffects_alike same)
  exact (sketched.nodes owner twin same).outline.properties.getD_nil.imp fun _ _ both =>
    sketched.propertyEffects_alike same both.1 both.2

theorem itemEffects_alike (same : pairing.same owner twin) :
    List.Forall₂ (Effect.Alike pairing) (one.graph.itemEffects owner) (other.graph.itemEffects twin) := by
  have related : Option.Rel _ (one.graph.node owner).items (other.graph.node twin).items :=
    (sketched.nodes owner twin same).outline.items
  unfold itemEffects
  rcases related.none_or_some with ⟨none, noneToo⟩ | ⟨edge, edgeToo, some, someToo, edges⟩
  · rw [none, noneToo]
    exact .nil
  · rw [some, someToo]
    dsimp only
    rw [sketched.xNullable_near edges.near]
    split
    · exact .cons (.mark edges.near) .nil
    · exact .nil

omit sketched in
theorem parameterEffects_alike {parameter parameterToo : Parameter}
    (alike : parameter.Alike pairing.Near parameterToo) :
    List.Forall₂ (Effect.Alike pairing) (parameterEffects parameter) (parameterEffects parameterToo) := by
  have place : parameter.place = parameterToo.place := by rw [← alike.bare]
  have empty : parameter.allowEmptyValue = parameterToo.allowEmptyValue := by rw [← alike.bare]
  unfold parameterEffects
  rw [place, empty]
  split
  · exact .cons (.mark alike.schema.near) .nil
  · exact .nil

/-- Each effect on the one draft has its like on the other. -/
theorem effects_alike {effect : Effect} (member : effect ∈ one.effects) :
    ∃ twin ∈ other.effects, effect.Alike pairing twin := by
  rw [effects, List.mem_append, List.mem_append, List.mem_flatMap, List.mem_flatMap, List.mem_flatMap] at member
  simp only [effects, List.mem_append, List.mem_flatMap]
  rcases member with (⟨owner, listed, among⟩ | ⟨owner, listed, among⟩) | ⟨parameter, listed, among⟩
  · obtain ⟨twin, same⟩ := sketched.matched.objects owner listed
    obtain ⟨effectToo, amongToo, alike⟩ := (sketched.objectEffects_alike same).exists_right among
    exact ⟨effectToo, .inl (.inl ⟨twin, (sketched.objects owner twin same).mp listed, amongToo⟩), alike⟩
  · obtain ⟨twin, same⟩ := sketched.matched.arrays owner listed
    obtain ⟨effectToo, amongToo, alike⟩ := (sketched.itemEffects_alike same).exists_right among
    exact ⟨effectToo, .inl (.inr ⟨twin, (sketched.arrays owner twin same).mp listed, amongToo⟩), alike⟩
  · obtain ⟨operation, present, owned⟩ := List.mem_flatMap.mp listed
    obtain ⟨operationToo, presentToo, operations⟩ := sketched.operations operation present
    obtain ⟨parameterToo, ownedToo, parameters⟩ := operations.parameters.exists_right owned
    obtain ⟨effectToo, amongToo, alike⟩ := (parameterEffects_alike parameters).exists_right among
    exact ⟨effectToo, .inr ⟨parameterToo, ⟨operationToo, presentToo, ownedToo⟩, amongToo⟩, alike⟩

theorem marked (same : pairing.same id twin) (marks : .mark id ∈ one.effects) : .mark twin ∈ other.effects := by
  obtain ⟨effect, member, alike⟩ := sketched.effects_alike marks
  cases alike with
  | mark near => exact (sketched.sound.near_iff same).mp near ▸ member

/-- An edge that is led through a wrapper in the one draft is so in the other. -/
theorem led {key : Option String} {edge : Edge} (same : pairing.same owner twin)
    (leads : ⟨owner, key, edge⟩ ∈ detours one.effects) : ∃ edgeToo, ⟨twin, key, edgeToo⟩ ∈ detours other.effects := by
  obtain ⟨effect, member, alike⟩ := sketched.effects_alike (mem_detours.mp leads)
  cases alike with
  | lead sameToo edges =>
      cases sketched.sound.forward _ _ _ same sameToo
      exact ⟨_, mem_detours.mpr member⟩

theorem nulled_functional (once : ((detours other.effects).map Detour.spot).Nodup) {another : Nat}
    (same : (nulled pairing one other).same id twin) (sameToo : (nulled pairing one other).same id another) :
    twin = another := by
  rcases same with same | @⟨place, placeToo, extra, detour, detourToo, found, foundToo, owners, keys, _, bound, rfl,
    rfl⟩ <;>
    rcases sameToo with
      sameToo | @⟨again, againToo, more, other, last, foundAgain, foundLast, ownersToo, keysToo, _, boundToo, equal,
        rfl⟩
  · exact sketched.sound.forward _ _ _ same sameToo
  · have inside := (sketched.inside _ _ same).1
    omega
  · have inside := (sketched.inside _ _ sameToo).1
    omega
  · obtain ⟨rfl, rfl⟩ : place = again ∧ extra = more := by omega
    cases found.symm.trans foundAgain
    have spots : detourToo.spot = last.spot :=
      Prod.ext (sketched.sound.forward _ _ _ owners ownersToo) (keys.symm.trans keysToo)
    have places : placeToo = againToo := by
      refine (List.getElem?_inj ?_ once).mp ?_
      · rw [List.length_map]
        exact (List.getElem?_eq_some_iff.mp foundToo).1
      · rw [List.getElem?_map, List.getElem?_map, foundToo, foundLast, Option.map_some, Option.map_some, spots]
    rw [places]

variable (orderly : one.Orderly) (orderlyToo : other.Orderly)

include orderly orderlyToo

omit orderlyToo in
theorem not_lost_of_added (added : Added pairing one other id twin) : ¬(nulled pairing one other).lost id := by
  obtain @⟨place, placeToo, extra, detour, detourToo, found, foundToo, owners, keys, edges, bound, rfl, rfl⟩ := added
  rintro (lost | @⟨again, another, foundAgain, lost, equal⟩)
  · have inside := orderly.deferred _ (sketched.matched.blank _ lost).spoiled
    omega
  · obtain rfl : place = again := by omega
    cases found.symm.trans foundAgain
    exact sketched.sound.kept _ _ edges.near lost

theorem nulled_sound : (nulled pairing one other).Sound where
  forward _ _ _ := sketched.nulled_functional orderlyToo.reached.once
  backward _ _ _ same sameToo :=
    sketched.flip.nulled_functional orderly.reached.once (same_nulled_flip same) (same_nulled_flip sameToo)
  kept id twin := by
    rintro (same | added)
    · rintro (lost | ⟨found, lost, rfl⟩)
      · exact sketched.sound.kept _ _ same lost
      · have inside := (sketched.inside _ _ same).1
        omega
    · exact sketched.not_lost_of_added orderly added
  keptToo id twin := by
    rintro (same | added)
    · rintro (lost | ⟨found, lost, rfl⟩)
      · exact sketched.sound.keptToo _ _ same lost
      · have inside := (sketched.inside _ _ same).2
        omega
    · exact sketched.flip.not_lost_of_added orderlyToo added.flip

omit orderly orderlyToo in
theorem leads_alike {key : Option String} {edge edgeToo led ledToo : Edge} (same : pairing.same owner twin)
    (edges : edge.Alike pairing.Near edgeToo) (leads : Leads one.graph one.effects owner key edge led)
    (leadsToo : Leads other.graph other.effects twin key edgeToo ledToo) :
    led.Alike (nulled pairing one other).Near ledToo := by
  cases leads with
  | straight free =>
      cases leadsToo with
      | straight => exact edges.imp fun _ _ => near_nulled
      | around foundToo =>
          obtain ⟨_, led⟩ := sketched.flip.led same (List.mem_of_getElem? foundToo)
          exact absurd rfl (free _ led)
  | @around place found =>
      cases leadsToo with
      | straight freeToo =>
          obtain ⟨_, led⟩ := sketched.led same (List.mem_of_getElem? found)
          exact absurd rfl (freeToo _ led)
      | @around placeToo foundToo =>
          refine ⟨rfl, ?_⟩
          rcases edges.near with sameTarget | ⟨lost, lostToo⟩
          · exact .inl (.inr (.intro found foundToo same rfl ⟨edges.viaRef, sameTarget⟩ Nat.one_lt_two rfl rfl))
          · exact .inr ⟨.inr ⟨found, lost, rfl⟩, .inr ⟨foundToo, lostToo, rfl⟩⟩

omit orderly orderlyToo

theorem properties_alike {led ledToo : Option (Assoc Edge)} (same : pairing.same owner twin)
    (leads : Option.Rel
      (List.Forall₂ fun entry led => entry.1 = led.1 ∧ Leads one.graph one.effects owner (some entry.1) entry.2 led.2)
      (one.graph.node owner).properties led)
    (leadsToo : Option.Rel
      (List.Forall₂ fun entry led => entry.1 = led.1 ∧
        Leads other.graph other.effects twin (some entry.1) entry.2 led.2)
      (other.graph.node twin).properties ledToo) :
    Option.Rel (Outline.Tables (Edge.Alike (nulled pairing one other).Near)) led ledToo := by
  have tables : Option.Rel (Outline.Tables (Edge.Alike pairing.Near)) (one.graph.node owner).properties
      (other.graph.node twin).properties :=
    (sketched.nodes owner twin same).outline.properties
  have between : Option.Rel (List.Forall₂ fun entryToo led => entryToo.1 = led.1 ∧
      ∃ edge : Edge, Leads one.graph one.effects owner (some led.1) edge led.2 ∧ edge.Alike pairing.Near entryToo.2)
      (other.graph.node twin).properties led :=
    tables.meet (fun _ _ _ tables leads => tables.meet
      (fun entry _ _ both led => ⟨both.1.symm.trans led.1, entry.2, led.1 ▸ led.2, both.2⟩) leads) leads
  refine between.meet (fun _ _ _ first second => first.meet ?_ second) leadsToo
  rintro entryToo led ledToo ⟨key, edge, leads, edges⟩ ⟨keyToo, leadsToo⟩
  exact ⟨key.symm.trans keyToo, sketched.leads_alike same edges leads (key ▸ leadsToo)⟩

theorem additional_alike {led ledToo : Option Additional} (same : pairing.same owner twin)
    (leads : Option.Rel (LeadsBeyond one.graph one.effects owner) (one.graph.node owner).additional led)
    (leadsToo : Option.Rel (LeadsBeyond other.graph other.effects twin) (other.graph.node twin).additional ledToo) :
    Option.Rel (Additional.Alike (nulled pairing one other).Near) led ledToo := by
  have said := additional_of_outline (sketched.nodes owner twin same).outline.additional
  have between : Option.Rel (fun own led => ∃ others, LeadsBeyond one.graph one.effects owner others led ∧
      others.Alike pairing.Near own) (other.graph.node twin).additional led :=
    said.meet (fun own _ _ alike leads => ⟨own, leads, alike⟩) leads
  refine between.meet ?_ leadsToo
  rintro own led ledToo ⟨others, leads, alike⟩ leadsToo
  cases alike with
  | allowed flag =>
      cases leads
      cases leadsToo
      exact .allowed flag
  | schema edges =>
      cases leads with
      | schema leads =>
          cases leadsToo with
          | schema leadsToo => exact .schema (sketched.leads_alike same edges leads leadsToo)

include orderly orderlyToo

theorem nulled_alike (same : (nulled pairing one other).same id twin) :
    (one.admitNull.graph.node id).Alike (nulled pairing one other) (other.admitNull.graph.node twin) := by
  have reached := orderly.reached
  have reachedToo := orderlyToo.reached
  rcases same with same | @⟨place, placeToo, extra, detour, detourToo, found, foundToo, owners, keys, edges, bound, rfl,
    rfl⟩
  · obtain ⟨inside, insideToo⟩ := sketched.inside id twin same
    have alike := sketched.nodes id twin same
    have apart := reached.apart id inside
    have apartToo := reachedToo.apart twin insideToo
    refine ⟨?_, ?_, ?_⟩
    · have nullable : (one.admitNull.graph.node id).nullable = (other.admitNull.graph.node twin).nullable := by
        rw [Bool.eq_iff_iff, reached.nullable id inside, reachedToo.nullable twin insideToo,
          alike.same Node.nullable fun _ => rfl]
        exact or_congr_right ⟨sketched.marked same, sketched.flip.marked same⟩
      rw [apart, apartToo, nullable]
      exact congrArg (fun bare : Node => { bare with nullable := (other.admitNull.graph.node twin).nullable })
        alike.bare
    · have outline : (one.admitNull.graph.node id).outline = _ := congrArg Node.outline apart
      have outlineToo : (other.admitNull.graph.node twin).outline = _ := congrArg Node.outline apartToo
      rw [outline, outlineToo]
      exact { alike.outline.imp fun _ _ edges => edges.imp fun _ _ => near_nulled with
        properties := sketched.properties_alike same (reached.properties id inside)
          (reachedToo.properties twin insideToo)
        additional := outline_of_additional
          (sketched.additional_alike same (reached.additional id inside) (reachedToo.additional twin insideToo)) }
    · rw [apart, apartToo]
      exact alike.tags.imp fun _ _ tags =>
        ⟨fun tag => (tags.leads tag).imp fun _ _ targets => targets.imp fun _ _ => .inl, tags.distinct,
          tags.distinctToo⟩
  · have sources : (one.graph.node detour.edge.target).source = (other.graph.node detourToo.edge.target).source :=
      (sketched.nodes _ _ edges.near).same Node.source fun _ => rfl
    obtain ⟨marker, wrapper⟩ := reached.added place detour found
    obtain ⟨markerToo, wrapperToo⟩ := reachedToo.added placeToo detourToo foundToo
    obtain rfl | rfl : extra = 0 ∨ extra = 1 := by omega
    · rw [Nat.add_zero, Nat.add_zero, marker, markerToo, sources]
      exact ⟨rfl, .empty _, .none⟩
    · rw [wrapper, wrapperToo, sources]
      refine ⟨rfl, { Outline.Rel.empty _ with anyOf := .some (.cons ?_ (.cons ⟨rfl, ?_⟩ .nil)) }, .none⟩
      · exact edges.imp fun _ _ same => .inl (.inl same)
      · exact .inl (.inr (.intro found foundToo owners keys edges Nat.zero_lt_two rfl rfl))

/-- Paired drafts are paired after nullability, if each is numbered in order. -/
theorem admitNull : Paired (nulled pairing one other) one.admitNull other.admitNull where
  sound := sketched.nulled_sound orderly orderlyToo
  inside id twin := by
    have size := orderly.reached.size
    have sizeToo := orderlyToo.reached.size
    rintro (same | @⟨place, placeToo, extra, _, _, found, foundToo, _, _, _, bound, rfl, rfl⟩)
    · have inside := sketched.inside id twin same
      omega
    · have placed := (List.getElem?_eq_some_iff.mp found).1
      have placedToo := (List.getElem?_eq_some_iff.mp foundToo).1
      omega
  nodes id twin := sketched.nulled_alike orderly orderlyToo
  deferred id twin := by
    rintro (same | ⟨_, _, _, _, _, _, rfl, rfl⟩)
    · exact sketched.deferred id twin same
    · have unbroken {draft : Draft} (orderly : draft.Orderly) {extra : Nat} :
          draft.catalog.deferred.find? (draft.graph.size + extra) = none := by
        by_contra broken
        have inside := orderly.deferred _ broken
        omega
      rw [Nat.add_assoc, Nat.add_assoc]
      exact iff_of_true (unbroken orderly) (unbroken orderlyToo)
  operations operation member := by
    obtain ⟨twin, among, alike⟩ := sketched.operations operation member
    exact ⟨twin, among, alike.imp fun _ _ => near_nulled⟩
  operationsToo twin member := by
    obtain ⟨operation, among, alike⟩ := sketched.operationsToo twin member
    exact ⟨operation, among, alike.imp fun _ _ => near_nulled⟩

theorem nulled_objects (same : (nulled pairing one other).same id twin) :
    id ∈ one.catalog.collections.objects ↔ twin ∈ other.catalog.collections.objects := by
  rcases same with same | ⟨_, _, _, _, _, _, rfl, rfl⟩
  · exact sketched.objects id twin same
  · have outside {draft : Draft} (orderly : draft.Orderly) {extra : Nat} :
        draft.graph.size + extra ∉ draft.catalog.collections.objects := fun member => by
      have inside := orderly.listing _ (Collections.mem_listing.mpr ⟨.object, member⟩)
      omega
    rw [Nat.add_assoc, Nat.add_assoc]
    exact iff_of_false (outside orderly) (outside orderlyToo)

end Sketched

/-- No validator can be compiled for the schema, since it leads to one that is broken. -/
def Doomed (draft : Draft) (id : Nat) : Prop :=
  ∃ broken, Relation.ReflTransGen (Validator.Leads draft.catalog) id broken ∧ draft.catalog.deferred.find? broken ≠ none

theorem doomed_of_spoiled {draft : Draft} {lost : Nat → Prop} {id : Nat} (orderly : draft.Orderly)
    (spoiled : ∀ id, lost id → draft.catalog.deferred.find? id ≠ none) (wrapper : Spoiled lost draft id) :
    draft.admitNull.Doomed id := by
  obtain ⟨found, lost, rfl⟩ := wrapper
  obtain ⟨_, shape⟩ := orderly.reached.added _ _ found
  refine ⟨_, .single ?_, spoiled _ lost⟩
  exact .anyOf (by rw [show draft.admitNull.catalog.graph.node _ = _ from shape]; exact List.mem_cons_self)

end Draft

/-! ## Closing and loosening -/

namespace Schema

theorem Node.LeadsTo.of_closed {node : Node} {isBase : Bool} {target : Nat}
    (leads : (node.closed isBase).LeadsTo target) :
    node.LeadsTo target := by
  have silent {edge : Edge} : (node.closed isBase).additional = some (.schema edge) ↔
      node.additional = some (.schema edge) :=
    Node.additional_closed_iff edge
  rw [Node.closed_eq] at leads
  cases leads with
  | property member => exact .property member
  | additional said => exact .additional (silent.mp said)
  | items said => exact .items said
  | allOf member => exact .allOf member
  | anyOf member => exact .anyOf member
  | oneOf member => exact .oneOf member
  | variant routes member => exact .variant routes member

theorem Node.LeadsTo.loosened {node : Node} {target : Nat} (leads : node.LeadsTo target) :
    node.loosened.LeadsTo target := by
  rw [Node.loosened_eq]
  cases leads with
  | property member => exact .property member
  | additional said => exact .additional said
  | items said => exact .items said
  | allOf member => exact .allOf member
  | anyOf member => exact .anyOf member
  | oneOf member => exact .oneOf member
  | variant routes member => exact .variant routes member

namespace Node.Alike

variable {pairing : Pairing} {node other : Node}

theorem closed (alike : node.Alike pairing other) {isBase isBaseToo : Bool} (same : isBase = isBaseToo) :
    (node.closed isBase).Alike pairing (other.closed isBaseToo) := by
  have untagged : node.tagMap.isNone = other.tagMap.isNone := by
    rcases alike.tags.none_or_some with ⟨none, noneToo⟩ | ⟨_, _, some, someToo, _⟩
    · rw [none, noneToo]
    · rw [some, someToo, Option.isNone_some, Option.isNone_some]
  unfold Node.closed
  rw [alike.isNone_additional, untagged, same, alike.hasProperties]
  split
  · exact ⟨alike.bare, { alike.outline with additional := .some (.inl rfl) }, alike.tags⟩
  · exact alike

theorem loosened (alike : node.Alike pairing other) : node.loosened.Alike pairing other.loosened := by
  unfold Node.loosened
  rw [alike.isNone_additional, alike.hasProperties, alike.same Node.isObjectTyped fun _ => rfl]
  split
  · exact ⟨congrArg (fun bare : Node => { bare with typeName := none }) alike.bare, alike.outline, alike.tags⟩
  · exact alike

end Node.Alike

end Schema

namespace Draft

open Schema Schema.Graph

variable {pairing : Pairing} {one other draft : Draft} {id : Nat}

/-- Changes of the objects that do not tell paired schemas apart keep drafts paired. -/
theorem Paired.modifyObjects (paired : Paired pairing one other)
    (objects : ∀ id twin, pairing.same id twin →
      (id ∈ one.catalog.collections.objects ↔ twin ∈ other.catalog.collections.objects))
    {change changeToo : Nat → Node → Node} (again : ∀ id node, change id (change id node) = change id node)
    (againToo : ∀ id node, changeToo id (changeToo id node) = changeToo id node)
    (alike : ∀ id twin, pairing.same id twin → ∀ node other : Node, node.Alike pairing other →
      (change id node).Alike pairing (changeToo twin other)) :
    Paired pairing (one.modifyObjects change) (other.modifyObjects changeToo) := by
  have same : one.SameBut (one.modifyObjects change) := one.sameBut_foldl _ _
  have sameToo : other.SameBut (other.modifyObjects changeToo) := other.sameBut_foldl _ _
  refine ⟨paired.sound, fun id twin both => ?_, fun id twin both => ?_, fun id twin both => ?_, ?_, ?_⟩
  · rw [same.size, sameToo.size]
    exact paired.inside id twin both
  · obtain ⟨inside, insideToo⟩ := paired.inside id twin both
    have nodes := paired.nodes id twin both
    by_cases member : id ∈ one.catalog.collections.objects
    · have memberToo := (objects id twin both).mp member
      rw [Draft.modifyObjects, Draft.modifyObjects, node_foldl_of_mem _ _ (again id) member inside,
        node_foldl_of_mem _ _ (againToo twin) memberToo insideToo]
      exact alike id twin both _ _ nodes
    · have absent := fun memberToo => member ((objects id twin both).mpr memberToo)
      rw [Draft.modifyObjects, Draft.modifyObjects, node_foldl_of_notMem _ _ _ member,
        node_foldl_of_notMem _ _ _ absent]
      exact nodes
  · rw [same.deferred, sameToo.deferred]
    exact paired.deferred id twin both
  · rw [same.operations, sameToo.operations]
    exact paired.operations
  · rw [same.operations, sameToo.operations]
    exact paired.operationsToo

theorem Orderly.node_closeObjects (orderly : draft.Orderly) (bare : (draft.graph.node id).hasProperties = false) :
    draft.closeObjects.graph.node id = draft.graph.node id := by
  by_cases member : id ∈ draft.catalog.collections.objects
  · have inside := orderly.listing id (Collections.mem_listing.mpr ⟨.object, member⟩)
    rw [draft.node_closeObjects_of_mem member inside, Node.closed_of_bare bare]
  · exact draft.node_closeObjects_of_notMem member

theorem Orderly.closeObjects (orderly : draft.Orderly) : draft.closeObjects.Orderly := by
  have same := draft.closeObjects_sameBut
  have closed id : draft.closeObjects.graph.node id = draft.graph.node id ∨
      draft.closeObjects.graph.node id = (draft.graph.node id).closed (draft.isBaseSchema id) := by
    by_cases member : id ∈ draft.catalog.collections.objects
    · exact .inr (draft.node_closeObjects_of_mem member
        (orderly.listing id (Collections.mem_listing.mpr ⟨.object, member⟩)))
    · exact .inl (draft.node_closeObjects_of_notMem member)
  have propertyList id : (draft.closeObjects.graph.node id).propertyList = (draft.graph.node id).propertyList := by
    rcases closed id with kept | kept <;> rw [kept]
    rw [Node.closed_eq]
    rfl
  refine ⟨⟨fun id target leads => ?_, fun id => ?_⟩, ?_, ?_, ?_, ?_⟩
  · rw [same.size]
    refine orderly.graph.below id target ?_
    rcases closed id with kept | kept
    · exact kept ▸ leads
    · rw [kept] at leads
      exact leads.of_closed
  · rw [propertyList]
    exact orderly.graph.distinct id
  · rw [same.collections, same.size]
    exact orderly.listing
  · rw [same.collections]
    exact orderly.once
  · rw [same.deferred, same.size]
    exact orderly.deferred
  · rw [same.operations, same.size]
    exact orderly.parameters

theorem Matched.closeObjects (matched : Matched pairing draft) (orderly : draft.Orderly) :
    Matched pairing draft.closeObjects := by
  have same := draft.closeObjects_sameBut
  have plain {id : Nat} (none : (draft.graph.node id).outline = {}) :
      draft.closeObjects.graph.node id = draft.graph.node id := by
    have untabled : (draft.graph.node id).properties = .none := congrArg Outline.properties none
    exact orderly.node_closeObjects (by rw [Node.hasProperties, Node.propertyList, untabled]; rfl)
  refine ⟨?_, ?_, fun id leads => ?_, fun id lost => ?_⟩
  · rw [same.collections]
    exact matched.objects
  · rw [same.collections]
    exact matched.arrays
  · exact matched.owners id fun none => leads (by rw [plain none, none])
  · have blank := matched.blank id lost
    have kept := plain blank.outline
    refine ⟨?_, kept ▸ blank.outline, kept ▸ blank.discriminator, kept ▸ blank.required, kept ▸ blank.xNullable⟩
    rw [same.deferred]
    exact blank.spoiled

theorem Sketched.closeObjects (sketched : Sketched pairing one other) (orderly : one.Orderly)
    (orderlyToo : other.Orderly) :
    Sketched pairing one.closeObjects other.closeObjects := by
  have same := one.closeObjects_sameBut
  have sameToo := other.closeObjects_sameBut
  refine
    { sketched.toPaired.modifyObjects sketched.objects (fun id node => Node.closed_closed node _)
        (fun id node => Node.closed_closed node _) fun id twin both node nodeToo alike => alike.closed ?_ with
      objects := ?_
      arrays := ?_
      bases := ?_
      matched := sketched.matched.closeObjects orderly
      matchedToo := sketched.matchedToo.closeObjects orderlyToo }
  · rw [isBaseSchema, isBaseSchema, Bool.eq_iff_iff, List.contains_iff_mem, List.contains_iff_mem]
    exact sketched.bases id twin both
  · rw [same.collections, sameToo.collections]
    exact sketched.objects
  · rw [same.collections, sameToo.collections]
    exact sketched.arrays
  · rw [same.baseSchemas, sameToo.baseSchemas]
    exact sketched.bases

/-- Two drafts that validators can be compiled from. -/
structure Mates (pairing : Pairing) (one other : Draft) : Prop extends Paired pairing one other where
  doomed : ∀ id, pairing.lost id → one.Doomed id
  doomedToo : ∀ twin, pairing.lostToo twin → other.Doomed twin

theorem Doomed.loosenObjects (doomed : draft.Doomed id) : draft.loosenObjects.Doomed id := by
  obtain ⟨broken, reaches, spoiled⟩ := doomed
  refine ⟨broken, Relation.ReflTransGen.mono (fun other target leads => ?_) _ _ reaches,
    draft.loosenObjects_sameBut.deferred ▸ spoiled⟩
  have inside : other < draft.graph.size := by
    by_contra outside
    exact Validator.not_leads_of_size_le (Nat.le_of_not_lt outside) leads
  change (draft.loosenObjects.graph.node other).LeadsTo target
  by_cases member : other ∈ draft.catalog.collections.objects
  · rw [draft.node_loosenObjects_of_mem member inside]
    exact leads.loosened
  · rw [draft.node_loosenObjects_of_notMem member]
    exact leads

/-- Two drafts that inherit the same are the same in the end. -/
theorem Sketched.finish (sketched : Sketched pairing one other) (orderly : one.Orderly) (orderlyToo : other.Orderly) :
    Mates (nulled pairing one.closeObjects other.closeObjects) one.closeObjects.admitNull.loosenObjects
      other.closeObjects.admitNull.loosenObjects := by
  have closed := sketched.closeObjects orderly orderlyToo
  have orderlyClosed := orderly.closeObjects
  have orderlyClosedToo := orderlyToo.closeObjects
  refine
    { (closed.admitNull orderlyClosed orderlyClosedToo).modifyObjects
        (fun id twin => closed.nulled_objects orderlyClosed orderlyClosedToo) (fun _ => Node.loosened_loosened)
        (fun _ => Node.loosened_loosened) fun _ _ _ _ _ alike => alike.loosened with
      doomed := fun id lost => Doomed.loosenObjects ?_
      doomedToo := fun twin lost => Doomed.loosenObjects ?_ }
  · rcases lost with lost | wrapper
    · exact ⟨id, .refl, (closed.matched.blank id lost).spoiled⟩
    · exact doomed_of_spoiled orderlyClosed (fun id lost => (closed.matched.blank id lost).spoiled) wrapper
  · rcases lost with lost | wrapper
    · exact ⟨twin, .refl, (closed.matchedToo.blank twin lost).spoiled⟩
    · exact doomed_of_spoiled orderlyClosedToo (fun id lost => (closed.matchedToo.blank id lost).spoiled) wrapper

end Draft

end ApiContract
