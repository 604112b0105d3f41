import Mathlib.Logic.Relation
import ApiContract.Pass.Nullability
import ApiContract.Proofs.Assoc
import ApiContract.Proofs.Schema.Graph

/-!
Nullability marks schemas and leads edges through wrappers, one by one (`Nulling`). Of a schema that was
there before, only its mark and its edges change, and these only where an owner decides so (`Adapted`).
-/

namespace ApiContract.Schema

theorem Node.exists_properties {node : Node} {entry : String × Edge} (member : entry ∈ node.propertyList) :
    ∃ table, node.properties = some table := by
  rcases listed : node.properties with _ | table
  · simp [propertyList, listed] at member
  · exact ⟨table, rfl⟩

namespace Graph

/-- An edge leads to a wrapper of another edge that was added to a graph. -/
structure Wraps (start graph : Graph) (edge wrapper : Edge) : Prop where
  inline : wrapper.viaRef = false
  added : start.size ≤ wrapper.target
  shape : ∃ source marker, start.size ≤ marker ∧
    graph.node wrapper.target =
      { Node.nullableWrapper source edge marker with nullable := (graph.node wrapper.target).nullable } ∧
    graph.node marker = { Node.nullMarker source with nullable := (graph.node marker).nullable }

/-- A node as it was, except that it may admit null, and that optional edges may lead through wrappers. -/
structure Adapted (start : Graph) (marked : Nat → Prop) (graph : Graph) (id : Nat) (node : Node) : Prop where
  apart : node = { start.node id with
    nullable := node.nullable, properties := node.properties, additional := node.additional }
  nullable : node.nullable = true → (start.node id).nullable = true ∨ marked id
  tabled : node.properties.isSome = (start.node id).properties.isSome
  keys : Assoc.keys node.propertyList = Assoc.keys (start.node id).propertyList
  entries : ∀ entry ∈ node.propertyList, entry ∈ (start.node id).propertyList ∨
    entry.1 ∉ (start.node id).required ∧
      ∃ edge, (entry.1, edge) ∈ (start.node id).propertyList ∧ Wraps start graph edge entry.2
  found : ∀ key, Assoc.find? node.propertyList key = Assoc.find? (start.node id).propertyList key ∨
    key ∉ (start.node id).required ∧ ∃ edge wrapper, (key, edge) ∈ (start.node id).propertyList ∧
      Assoc.find? node.propertyList key = some wrapper ∧ Wraps start graph edge wrapper
  additional : node.additional = (start.node id).additional ∨
    ∃ edge wrapper, (start.node id).additional = some (.schema edge) ∧
      node.additional = some (.schema wrapper) ∧ Wraps start graph edge wrapper ∧ edge.viaRef = true

/-- A graph that grew out of another one by marks and wrappers. -/
structure Nulled (start : Graph) (marked : Nat → Prop) (graph : Graph) : Prop where
  size_le : start.size ≤ graph.size
  adapted : ∀ id, id < start.size → Adapted start marked graph id (graph.node id)

/-- Leads the edge of a property through a wrapper. -/
def wrapProperty (graph : Graph) (owner : Nat) (key : String) (edge : Edge) : Graph :=
  (graph.wrapNullable edge).2.modify owner fun node =>
    { node with properties := node.properties.map fun table => Assoc.insert table key (graph.wrapNullable edge).1 }

/-- Leads the edge for undeclared keys through a wrapper. -/
def wrapAdditional (graph : Graph) (owner : Nat) (edge : Edge) : Graph :=
  (graph.wrapNullable edge).2.modify owner fun node =>
    { node with additional := some (.schema (graph.wrapNullable edge).1) }

/-- One decision: schemas that were there before are marked only as told, and only references of optional
properties and for undeclared keys are led through wrappers. -/
inductive Nulling (start : Graph) (marked : Nat → Prop) (graph : Graph) : Graph → Prop
  | mark {id} : (id < start.size → marked id) → Nulling start marked graph (graph.markNullable id)
  | property {owner key edge} : owner < start.size → (key, edge) ∈ (start.node owner).propertyList →
      key ∉ (start.node owner).required → edge.viaRef = true →
      Nulling start marked graph (graph.wrapProperty owner key edge)
  | additional {owner edge} : owner < start.size → (start.node owner).additional = some (.schema edge) →
      edge.viaRef = true → Nulling start marked graph (graph.wrapAdditional owner edge)

variable {start graph : Graph} {marked : Nat → Prop}

theorem node_markNullable (graph : Graph) (id other : Nat) :
    (graph.markNullable id).node other =
      { graph.node other with nullable := ((graph.markNullable id).node other).nullable } := by
  unfold markNullable
  by_cases same : other = id
  · subst same
    by_cases inside : other < graph.size
    · rw [node_modify_self _ inside]
    · rw [node_modify_outside _ _ (Nat.le_of_not_lt inside)]
  · rw [node_modify_of_ne _ _ same]

theorem nullable_markNullable (graph : Graph) (id other : Nat)
    (nullable : ((graph.markNullable id).node other).nullable = true) :
    (graph.node other).nullable = true ∨ other = id := by
  by_cases same : other = id
  · exact .inr same
  · rw [markNullable, node_modify_of_ne _ _ same] at nullable
    exact .inl nullable

/-! ## Wrappers -/

theorem node_wrapNullable_of_lt {edge : Edge} {id : Nat} (inside : id < graph.size) :
    (graph.wrapNullable edge).2.node id = graph.node id := by
  simp only [wrapNullable]
  rw [node_add_of_ne _ (by rw [size_add]; omega), node_add_of_ne _ (by omega)]

theorem size_wrapNullable (graph : Graph) (edge : Edge) : (graph.wrapNullable edge).2.size = graph.size + 2 := by
  simp [wrapNullable]

theorem wraps_wrapNullable (size_le : start.size ≤ graph.size) (edge : Edge) :
    Wraps start (graph.wrapNullable edge).2 edge (graph.wrapNullable edge).1 := by
  refine ⟨rfl, ?_, (graph.node edge.target).source, graph.size, size_le, ?_, ?_⟩
  · simp only [wrapNullable, Edge.inline, add_fst, size_add]
    omega
  · simp only [wrapNullable, Edge.inline, add_fst]
    rw [node_add_self]
  · simp only [wrapNullable]
    rw [add_fst, node_add_of_ne _ (by rw [size_add]; omega), node_add_self]

namespace Wraps

variable {edge wrapper : Edge}

theorem inside (wraps : Wraps start graph edge wrapper) : wrapper.target < graph.size := by
  obtain ⟨source, marker, _, shape, _⟩ := wraps.shape
  refine Nat.lt_of_not_le fun outside => ?_
  rw [node_of_size_le outside] at shape
  have branches := congrArg Node.anyOf shape
  cases branches

theorem lasts {later : Graph} (wraps : Wraps start graph edge wrapper)
    (kept : ∀ id, start.size ≤ id → id < graph.size →
      later.node id = { graph.node id with nullable := (later.node id).nullable }) :
    Wraps start later edge wrapper := by
  have insideWrapper := wraps.inside
  obtain ⟨source, marker, added, shape, marks⟩ := wraps.shape
  have insideMarker : marker < graph.size := by
    refine Nat.lt_of_not_le fun outside => ?_
    rw [node_of_size_le outside] at marks
    have types := congrArg Node.typeName marks
    cases types
  refine ⟨wraps.inline, wraps.added, source, marker, added, ?_, ?_⟩
  · rw [kept _ wraps.added insideWrapper, shape]
  · rw [kept _ added insideMarker, marks]

end Wraps

/-! ## Decisions one by one -/

theorem Adapted.mono {later : Graph} {id : Nat} {node : Node} (adapted : Adapted start marked graph id node)
    (lasts : ∀ edge wrapper, Wraps start graph edge wrapper → Wraps start later edge wrapper) :
    Adapted start marked later id node where
  apart := adapted.apart
  nullable := adapted.nullable
  tabled := adapted.tabled
  keys := adapted.keys
  entries entry member := (adapted.entries entry member).imp_right fun ⟨optional, edge, declared, wraps⟩ =>
    ⟨optional, edge, declared, lasts _ _ wraps⟩
  found key := (adapted.found key).imp_right fun ⟨optional, edge, wrapper, declared, found, wraps⟩ =>
    ⟨optional, edge, wrapper, declared, found, lasts _ _ wraps⟩
  additional := adapted.additional.imp_right fun ⟨edge, wrapper, declared, led, wraps, reference⟩ =>
    ⟨edge, wrapper, declared, led, lasts _ _ wraps, reference⟩

theorem Adapted.refl (start : Graph) (marked : Nat → Prop) (id : Nat) :
    Adapted start marked start id (start.node id) where
  apart := rfl
  nullable := .inl
  tabled := rfl
  keys := rfl
  entries _ := .inl
  found _ := .inl rfl
  additional := .inl rfl

theorem node_wrapProperty_of_ne {owner id : Nat} {key : String} {edge : Edge} (different : id ≠ owner)
    (inside : id < graph.size) : (graph.wrapProperty owner key edge).node id = graph.node id := by
  rw [wrapProperty, node_modify_of_ne _ _ different, node_wrapNullable_of_lt inside]

theorem node_wrapProperty_self {owner : Nat} (key : String) (edge : Edge) (inside : owner < graph.size) :
    (graph.wrapProperty owner key edge).node owner =
      { graph.node owner with
        properties := (graph.node owner).properties.map (Assoc.insert · key (graph.wrapNullable edge).1) } := by
  rw [wrapProperty, node_modify_self _ (by rw [size_wrapNullable]; omega), node_wrapNullable_of_lt inside]

theorem node_wrapAdditional_of_ne {owner id : Nat} {edge : Edge} (different : id ≠ owner)
    (inside : id < graph.size) : (graph.wrapAdditional owner edge).node id = graph.node id := by
  rw [wrapAdditional, node_modify_of_ne _ _ different, node_wrapNullable_of_lt inside]

theorem node_wrapAdditional_self {owner : Nat} (edge : Edge) (inside : owner < graph.size) :
    (graph.wrapAdditional owner edge).node owner =
      { graph.node owner with additional := some (.schema (graph.wrapNullable edge).1) } := by
  rw [wrapAdditional, node_modify_self _ (by rw [size_wrapNullable]; omega), node_wrapNullable_of_lt inside]

theorem wraps_modify {owner : Nat} (size_le : start.size ≤ graph.size) (inside : owner < start.size) (edge : Edge)
    (change : Node → Node) :
    Wraps start ((graph.wrapNullable edge).2.modify owner change) edge (graph.wrapNullable edge).1 := by
  refine (wraps_wrapNullable size_le edge).lasts fun id added _ => ?_
  rw [node_modify_of_ne _ _ (by omega)]

theorem Nulling.size_le {later : Graph} (step : Nulling start marked graph later) : graph.size ≤ later.size := by
  cases step with
  | mark => exact Nat.le_of_eq (size_modify _ _ _).symm
  | property | additional =>
      simp only [wrapProperty, wrapAdditional, size_modify, size_wrapNullable]
      omega

/-- Of what was added, a decision changes only marks. -/
theorem Nulling.kept {later : Graph} (step : Nulling start marked graph later) (id : Nat) (added : start.size ≤ id)
    (inside : id < graph.size) : later.node id = { graph.node id with nullable := (later.node id).nullable } := by
  cases step with
  | mark => exact node_markNullable graph _ id
  | property old => rw [node_wrapProperty_of_ne (by omega) inside]
  | additional old => rw [node_wrapAdditional_of_ne (by omega) inside]

section

variable {id : Nat} {node : Node} {edge wrapper : Edge}

theorem Adapted.mark {flag : Bool} (adapted : Adapted start marked graph id node)
    (told : flag = true → node.nullable = true ∨ marked id) :
    Adapted start marked graph id { node with nullable := flag } := by
  refine ⟨?_, ?_, adapted.tabled, adapted.keys, adapted.entries, adapted.found, adapted.additional⟩
  · rw [adapted.apart]
  · exact fun set => (told set).elim adapted.nullable .inr

theorem Adapted.lead {key : String} (adapted : Adapted start marked graph id node)
    (declared : (key, edge) ∈ (start.node id).propertyList) (optional : key ∉ (start.node id).required)
    (wraps : Wraps start graph edge wrapper) :
    Adapted start marked graph id
      { node with properties := node.properties.map fun table => Assoc.insert table key wrapper } := by
  have present : key ∈ Assoc.keys node.propertyList := by
    rw [adapted.keys]
    exact List.mem_map_of_mem declared
  obtain ⟨_, there, _⟩ := List.mem_map.mp present
  obtain ⟨table, listed⟩ := Node.exists_properties there
  have same : node.propertyList = table := by simp [Node.propertyList, listed]
  rw [listed]
  refine ⟨?_, adapted.nullable, ?_, ?_, ?_, ?_, adapted.additional⟩
  · rw [adapted.apart]
  · rw [← adapted.tabled, listed]
    rfl
  · change Assoc.keys (Assoc.insert table key _) = _
    rw [Assoc.keys_insert_of_mem _ (same ▸ present), ← same, adapted.keys]
  · intro entry member
    change entry ∈ Assoc.insert table key _ at member
    rcases Assoc.mem_insert member with earlier | rfl
    · exact adapted.entries entry (same ▸ earlier)
    · exact .inr ⟨optional, edge, declared, wraps⟩
  · intro name
    change Assoc.find? (Assoc.insert table key _) name = _ ∨ _ ∧ ∃ edge wrapper,
      _ ∧ Assoc.find? (Assoc.insert table key _) name = _ ∧ _
    by_cases own : name = key
    · subst own
      rw [Assoc.find?_insert_self]
      exact .inr ⟨optional, edge, _, declared, rfl, wraps⟩
    · rw [Assoc.find?_insert_of_ne _ _ own, ← same]
      exact adapted.found name

theorem Adapted.leadBeyond (adapted : Adapted start marked graph id node)
    (declared : (start.node id).additional = some (.schema edge)) (reference : edge.viaRef = true)
    (wraps : Wraps start graph edge wrapper) :
    Adapted start marked graph id { node with additional := some (.schema wrapper) } := by
  refine ⟨?_, adapted.nullable, adapted.tabled, adapted.keys, adapted.entries, adapted.found,
    .inr ⟨edge, wrapper, declared, rfl, wraps, reference⟩⟩
  rw [adapted.apart]

end

theorem Nulled.step {later : Graph} (nulled : Nulled start marked graph) (step : Nulling start marked graph later) :
    Nulled start marked later := by
  refine ⟨Nat.le_trans nulled.size_le step.size_le, ?_⟩
  intro id inside
  have adapted := (nulled.adapted id inside).mono fun edge wrapper (wraps : Wraps start graph edge wrapper) =>
    wraps.lasts step.kept
  have size_le := nulled.size_le
  cases step with
  | @mark other told =>
      rw [node_markNullable]
      refine adapted.mark fun marks => (nullable_markNullable graph other id marks).imp_right ?_
      rintro rfl
      exact told inside
  | @property owner key edge old declared optional =>
      by_cases own : id = owner
      · subst own
        rw [node_wrapProperty_self key edge (by omega)]
        exact adapted.lead declared optional (wraps_modify size_le inside edge _)
      · rw [node_wrapProperty_of_ne own (by omega)]
        exact adapted
  | @additional owner edge old declared reference =>
      by_cases own : id = owner
      · subst own
        rw [node_wrapAdditional_self edge (by omega)]
        exact adapted.leadBeyond declared reference (wraps_modify size_le inside edge _)
      · rw [node_wrapAdditional_of_ne own (by omega)]
        exact adapted

abbrev Decided (start : Graph) (marked : Nat → Prop) : Graph → Graph → Prop :=
  Relation.ReflTransGen (Nulling start marked)

theorem Decided.nulled {later : Graph} (decided : Decided start marked graph later)
    (nulled : Nulled start marked graph) : Nulled start marked later := by
  induction decided with
  | refl => exact nulled
  | tail _ step ih => exact ih.step step

theorem decided_foldl {α : Type} {items : List α} {decide : Graph → α → Graph}
    (each : ∀ item ∈ items, ∀ graph, Nulled start marked graph → Decided start marked graph (decide graph item))
    (nulled : Nulled start marked graph) : Decided start marked graph (items.foldl decide graph) := by
  induction items generalizing graph with
  | nil => exact .refl
  | cons item rest ih =>
      have first := each item List.mem_cons_self graph nulled
      exact first.trans (ih (fun other member => each other (List.mem_cons_of_mem _ member)) (first.nulled nulled))

/-! ## The decisions of owners -/

/-- The schema asks for null itself, or it belongs to an owner that lets its edge admit null. -/
inductive Marked (start : Graph) (objects : List Nat) (parameters : List Parameter) (id : Nat) : Prop
  | asked : (start.node id).xNullable = some true → Marked start objects parameters id
  | property {owner key edge} : owner ∈ objects → (key, edge) ∈ (start.node owner).propertyList →
      edge = .inline id → (start.node id).xNullable = none → key ∉ (start.node owner).required →
      Marked start objects parameters id
  | additional {owner} : owner ∈ objects → (start.node owner).additional = some (.schema (.inline id)) →
      (start.node id).xNullable ≠ some false → Marked start objects parameters id
  | parameter {parameter} : parameter ∈ parameters → parameter.place = .query → parameter.allowEmptyValue = true →
      parameter.schema.target = id → Marked start objects parameters id

variable {objects : List Nat} {parameters : List Parameter}

theorem Nulled.xNullable (nulled : Nulled start marked graph) {id : Nat} (inside : id < start.size) :
    (graph.node id).xNullable = (start.node id).xNullable := by
  rw [(nulled.adapted id inside).apart]

theorem Nulled.required (nulled : Nulled start marked graph) {id : Nat} (inside : id < start.size) :
    (graph.node id).required = (start.node id).required := by
  rw [(nulled.adapted id inside).apart]

/-- The edge was there from the start, or leads to something that was added. -/
def Known (start : Graph) (owner : Nat) (property : String × Edge) : Prop :=
  property ∈ (start.node owner).propertyList ∨ property.2.viaRef = false ∧ start.size ≤ property.2.target

theorem Adapted.known {id : Nat} {node : Node} (adapted : Adapted start marked graph id node)
    {entry : String × Edge} (member : entry ∈ node.propertyList) : Known start id entry :=
  (adapted.entries entry member).imp_right fun ⟨_, _, _, wraps⟩ => ⟨wraps.inline, wraps.added⟩

theorem nullProperty_decided {owner : Nat} {property : String × Edge} (among : owner ∈ objects)
    (inside : owner < start.size) (known : Known start owner property)
    (nulled : Nulled start (Marked start objects parameters) graph) :
    Decided start (Marked start objects parameters) graph
      (graph.nullProperty owner (start.node owner).required property) := by
  obtain ⟨key, edge⟩ := property
  simp only [nullProperty]
  split
  · exact .refl
  next admitted =>
    have optional (unsaid : (graph.node edge.target).xNullable = none) : key ∉ (start.node owner).required := by
      simpa [unsaid] using admitted
    split
    next marks =>
      refine .single (.mark fun old => ?_)
      have said := nulled.xNullable old
      cases asked : (start.node edge.target).xNullable with
      | some flag =>
          rw [asked] at said
          have positive : flag = true := by simpa [said] using admitted
          exact .asked (positive ▸ asked)
      | none =>
          rw [asked] at said
          rcases known with declared | ⟨_, added⟩
          · have inline : edge.viaRef = false := by simpa [said] using marks
            exact .property among declared (by cases edge; cases inline; rfl) asked (optional said)
          · exact absurd old (Nat.not_lt.mpr added)
    next wraps =>
      have reference : edge.viaRef = true ∧ (graph.node edge.target).xNullable ≠ some true := by
        simpa using wraps
      have unsaid : (graph.node edge.target).xNullable = none := by
        rcases said : (graph.node edge.target).xNullable with _ | flag
        · rfl
        · have positive : flag = true := by simpa [said] using admitted
          exact absurd (positive ▸ said) reference.2
      rcases known with declared | ⟨inline, _⟩
      · exact .single (.property inside declared (optional unsaid) reference.1)
      · rw [reference.1] at inline
        cases inline

theorem nullAdditional_decided {owner : Nat} (among : owner ∈ objects) (inside : owner < start.size)
    (nulled : Nulled start (Marked start objects parameters) graph) :
    Decided start (Marked start objects parameters) graph (graph.nullAdditional owner) := by
  have adapted := (nulled.adapted owner inside).additional
  simp only [nullAdditional]
  split
  next edge led =>
    rw [led] at adapted
    split
    next reference =>
      rcases adapted with same | ⟨_, _, _, wrapped, wraps, _⟩
      · exact .single (.additional inside same.symm reference)
      · cases wrapped
        rw [wraps.inline] at reference
        cases reference
    next inline =>
      split
      · exact .refl
      next unrefused =>
        refine .single (.mark fun old => ?_)
        rcases adapted with same | ⟨_, _, _, wrapped, wraps, _⟩
        · have inlined : (start.node owner).additional = some (.schema (.inline edge.target)) := by
            rw [← same]
            cases edge
            simp only [Bool.not_eq_true] at inline
            cases inline
            rfl
          refine .additional among inlined ?_
          rw [← nulled.xNullable old]
          simpa using unrefused
        · cases wrapped
          exact absurd old (Nat.not_lt.mpr wraps.added)
  · exact .refl

theorem nullObject_decided {owner : Nat} (among : owner ∈ objects) (inside : owner < start.size)
    (nulled : Nulled start (Marked start objects parameters) graph) :
    Decided start (Marked start objects parameters) graph (graph.nullObject owner) := by
  simp only [nullObject, nulled.required inside]
  have properties : Decided start (Marked start objects parameters) graph
      ((graph.node owner).propertyList.foldl (nullProperty owner (start.node owner).required) graph) :=
    decided_foldl (fun _ member _ => nullProperty_decided among inside ((nulled.adapted owner inside).known member))
      nulled
  exact properties.trans (nullAdditional_decided among inside (properties.nulled nulled))

theorem nullItems_decided (graph : Graph) (owner : Nat)
    (nulled : Nulled start (Marked start objects parameters) graph) :
    Decided start (Marked start objects parameters) graph (graph.nullItems owner) := by
  simp only [nullItems]
  split
  next edge _ =>
    split
    next asked =>
      refine .single (.mark fun old => .asked ?_)
      rw [← nulled.xNullable old]
      simpa using asked
    · exact .refl
  · exact .refl

theorem nullParameter_decided {parameter : Parameter} (among : parameter ∈ parameters) (graph : Graph) :
    Decided start (Marked start objects parameters) graph (graph.nullParameter parameter) := by
  simp only [nullParameter]
  split
  next empty => exact .single (.mark fun _ => .parameter among empty.1 empty.2 rfl)
  · exact .refl

/-! ## What owners grant -/

/-- The property leads to a schema that is marked, or to a wrapper. -/
def Lenient (start graph : Graph) (owner : Nat) (key : String) : Prop :=
  ∃ edge, Assoc.find? (graph.node owner).propertyList key = some edge ∧
    ((graph.node edge.target).nullable = true ∨ ∃ wrapped, Wraps start graph wrapped edge)

theorem Nulling.marks_last {later : Graph} (step : Nulling start marked graph later) {id : Nat}
    (nullable : (graph.node id).nullable = true) : (later.node id).nullable = true := by
  have inside : id < graph.size := by
    refine Nat.lt_of_not_le fun outside => ?_
    rw [node_of_size_le outside] at nullable
    cases nullable
  cases step with
  | @mark other =>
      by_cases same : id = other
      · subst same
        rw [markNullable, node_modify_self _ inside]
      · rwa [markNullable, node_modify_of_ne _ _ same]
  | @property owner key edge old =>
      by_cases same : id = owner
      · subst same
        rwa [node_wrapProperty_self _ _ inside]
      · rwa [node_wrapProperty_of_ne same inside]
  | @additional owner edge old =>
      by_cases same : id = owner
      · subst same
        rwa [node_wrapAdditional_self _ inside]
      · rwa [node_wrapAdditional_of_ne same inside]

theorem Nulling.grants_last {later : Graph} (step : Nulling start marked graph later) {edge : Edge}
    (grants : (graph.node edge.target).nullable = true ∨ ∃ wrapped, Wraps start graph wrapped edge) :
    (later.node edge.target).nullable = true ∨ ∃ wrapped, Wraps start later wrapped edge :=
  grants.imp step.marks_last fun ⟨wrapped, wraps⟩ => ⟨wrapped, wraps.lasts step.kept⟩

theorem Lenient.step {later : Graph} {owner : Nat} {key : String} (lenient : Lenient start graph owner key)
    (old : owner < start.size) (size_le : start.size ≤ graph.size) (step : Nulling start marked graph later) :
    Lenient start later owner key := by
  obtain ⟨edge, found, grants⟩ := lenient
  have grantsLater := step.grants_last grants
  cases step with
  | @mark other =>
      refine ⟨edge, ?_, grantsLater⟩
      rw [node_markNullable]
      exact found
  | @property other name led =>
      by_cases same : owner = other
      · subst same
        have self := @node_wrapProperty_self graph owner name led (by omega)
        by_cases own : key = name
        · subst own
          refine ⟨(graph.wrapNullable led).1, ?_, .inr ⟨led, wraps_modify size_le old led _⟩⟩
          rw [self]
          obtain ⟨table, listed⟩ := Node.exists_properties (Assoc.mem_of_find? found)
          simp [Node.propertyList, listed, Assoc.find?_insert_self]
        · refine ⟨edge, ?_, grantsLater⟩
          rw [self]
          obtain ⟨table, listed⟩ := Node.exists_properties (Assoc.mem_of_find? found)
          simpa [Node.propertyList, listed, Assoc.find?_insert_of_ne _ _ own] using found
      · refine ⟨edge, ?_, grantsLater⟩
        rwa [node_wrapProperty_of_ne same (by omega)]
  | @additional other led =>
      refine ⟨edge, ?_, grantsLater⟩
      by_cases same : owner = other
      · subst same
        rw [node_wrapAdditional_self _ (by omega)]
        exact found
      · rwa [node_wrapAdditional_of_ne same (by omega)]

theorem Lenient.lasts {later : Graph} {owner : Nat} {key : String} (lenient : Lenient start graph owner key)
    (old : owner < start.size) (nulled : Nulled start marked graph) (decided : Decided start marked graph later) :
    Lenient start later owner key := by
  induction decided with
  | refl => exact lenient
  | tail before step ih => exact ih.step old (Decided.nulled before nulled).size_le step

/-- An optional property of a schema that says nothing about null is granted null when its turn comes. -/
theorem nullProperty_lenient {owner : Nat} {key : String} {edge : Edge} (old : owner < start.size)
    (oldTarget : edge.target < start.size) (optional : key ∉ (start.node owner).required)
    (unsaid : (start.node edge.target).xNullable = none) (nulled : Nulled start marked graph)
    (found : Assoc.find? (graph.node owner).propertyList key = some edge) :
    Lenient start (graph.nullProperty owner (start.node owner).required (key, edge)) owner key := by
  have size_le := nulled.size_le
  have unsaidNow := (nulled.xNullable oldTarget).trans unsaid
  have admitted : ((graph.node edge.target).xNullable.getD (!(start.node owner).required.contains key)) = true := by
    simpa [unsaidNow] using optional
  simp only [nullProperty, admitted, Bool.not_true, Bool.false_eq_true, if_false]
  split
  · refine ⟨edge, ?_, .inl ?_⟩
    · rw [node_markNullable]
      exact found
    · rw [markNullable, node_modify_self _ (by omega)]
  · refine ⟨(graph.wrapNullable edge).1, ?_, .inr ⟨edge, wraps_modify size_le old edge _⟩⟩
    obtain ⟨table, listed⟩ := Node.exists_properties (Assoc.mem_of_find? found)
    have self := @node_wrapProperty_self graph owner key edge (by omega)
    unfold wrapProperty at self
    rw [self]
    simp [Node.propertyList, listed, Assoc.find?_insert_self]

/-- The property of a schema as it was before any decision, whose schema says nothing about null. -/
structure Unsaid (start : Graph) (owner : Nat) (key : String) (edge : Edge) : Prop where
  old : owner < start.size
  oldTarget : edge.target < start.size
  declared : Assoc.find? (start.node owner).propertyList key = some edge
  optional : key ∉ (start.node owner).required
  unsaid : (start.node edge.target).xNullable = none

theorem Unsaid.lenient_or_found {owner : Nat} {key : String} {edge : Edge} (unsaid : Unsaid start owner key edge)
    (nulled : Nulled start marked graph) :
    Lenient start graph owner key ∨ Assoc.find? (graph.node owner).propertyList key = some edge := by
  rcases (nulled.adapted owner unsaid.old).found key with same | ⟨_, wrapped, wrapper, _, found, wraps⟩
  · exact .inr (same.trans unsaid.declared)
  · exact .inl ⟨wrapper, found, .inr ⟨wrapped, wraps⟩⟩

theorem Unsaid.foldl_lenient {owner : Nat} {key : String} {edge : Edge} (unsaid : Unsaid start owner key edge)
    (among : owner ∈ objects) {properties : Assoc Edge} (known : ∀ property ∈ properties, Known start owner property)
    (member : (key, edge) ∈ properties) (nulled : Nulled start (Marked start objects parameters) graph) :
    Lenient start (properties.foldl (nullProperty owner (start.node owner).required) graph) owner key := by
  induction properties generalizing graph with
  | nil => cases member
  | cons property rest ih =>
      have first := nullProperty_decided among unsaid.old (known property List.mem_cons_self) nulled
      have knownRest : ∀ other ∈ rest, Known start owner other :=
        fun other later => known other (List.mem_cons_of_mem _ later)
      rcases List.mem_cons.mp member with rfl | later
      · have granted : Lenient start (graph.nullProperty owner (start.node owner).required (key, edge)) owner key := by
          rcases unsaid.lenient_or_found nulled with lenient | found
          · exact lenient.lasts unsaid.old nulled first
          · exact nullProperty_lenient unsaid.old unsaid.oldTarget unsaid.optional unsaid.unsaid nulled found
        exact granted.lasts unsaid.old (first.nulled nulled)
          (decided_foldl (fun other among' _ => nullProperty_decided among unsaid.old (knownRest other among'))
            (first.nulled nulled))
      · exact ih knownRest later (first.nulled nulled)

theorem Unsaid.nullObject_lenient {owner : Nat} {key : String} {edge : Edge} (unsaid : Unsaid start owner key edge)
    (among : owner ∈ objects) (nulled : Nulled start (Marked start objects parameters) graph) :
    Lenient start (graph.nullObject owner) owner key := by
  have whole := nullObject_decided among unsaid.old nulled
  rcases unsaid.lenient_or_found nulled with lenient | found
  · exact lenient.lasts unsaid.old nulled whole
  · have known : ∀ property ∈ (graph.node owner).propertyList, Known start owner property :=
      fun property member => (nulled.adapted owner unsaid.old).known member
    have properties := decided_foldl (fun property member _ => nullProperty_decided among unsaid.old
      (known property member)) nulled
    have granted := unsaid.foldl_lenient among known (Assoc.mem_of_find? found) nulled
    simp only [nullObject, nulled.required unsaid.old]
    exact granted.lasts unsaid.old (properties.nulled nulled)
      (nullAdditional_decided among unsaid.old (properties.nulled nulled))

/-- What the turn of an owner brings about, and later decisions keep, holds when all owners had their turns. -/
theorem foldl_nullObject (holds : Graph → Prop) {owner : Nat}
    (turn : ∀ graph, Nulled start (Marked start objects parameters) graph → holds (graph.nullObject owner))
    (lasts : ∀ graph later, Nulled start (Marked start objects parameters) graph →
      Decided start (Marked start objects parameters) graph later → holds graph → holds later)
    {owners : List Nat} (known : ∀ other ∈ owners, other ∈ objects ∧ other < start.size) (member : owner ∈ owners)
    (nulled : Nulled start (Marked start objects parameters) graph) : holds (owners.foldl nullObject graph) := by
  induction owners generalizing graph with
  | nil => cases member
  | cons other rest ih =>
      obtain ⟨among, inside⟩ := known other List.mem_cons_self
      have knownRest : ∀ other ∈ rest, other ∈ objects ∧ other < start.size :=
        fun other later => known other (List.mem_cons_of_mem _ later)
      have first := nullObject_decided among inside nulled
      rcases List.mem_cons.mp member with rfl | later
      · exact lasts _ _ (first.nulled nulled)
          (decided_foldl (fun other member _ => nullObject_decided (knownRest other member).1
            (knownRest other member).2) (first.nulled nulled)) (turn graph nulled)
      · exact ih knownRest later (first.nulled nulled)

theorem Unsaid.objects_lenient {owner : Nat} {key : String} {edge : Edge} (unsaid : Unsaid start owner key edge)
    {owners : List Nat} (known : ∀ other ∈ owners, other ∈ objects ∧ other < start.size) (member : owner ∈ owners)
    (nulled : Nulled start (Marked start objects parameters) graph) :
    Lenient start (owners.foldl nullObject graph) owner key :=
  foldl_nullObject (fun graph => Lenient start graph owner key)
    (fun _ nulled => unsaid.nullObject_lenient (known owner member).1 nulled)
    (fun _ _ nulled decided lenient => lenient.lasts unsaid.old nulled decided) known member nulled

/-! ## What owners grant undeclared keys -/

/-- The schema for undeclared keys is marked, or it is a wrapper. -/
def LenientBeyond (start graph : Graph) (owner : Nat) : Prop :=
  ∃ edge, (graph.node owner).additional = some (.schema edge) ∧
    ((graph.node edge.target).nullable = true ∨ ∃ wrapped, Wraps start graph wrapped edge)

/-- The schema for undeclared keys as it was before any decision, which was referred to or does not refuse null. -/
structure Unrefused (start : Graph) (owner : Nat) (edge : Edge) : Prop where
  old : owner < start.size
  oldTarget : edge.target < start.size
  declared : (start.node owner).additional = some (.schema edge)
  unrefused : edge.viaRef = true ∨ (start.node edge.target).xNullable ≠ some false

theorem LenientBeyond.step {later : Graph} {owner : Nat} (lenient : LenientBeyond start graph owner)
    (old : owner < start.size) (size_le : start.size ≤ graph.size) (step : Nulling start marked graph later) :
    LenientBeyond start later owner := by
  obtain ⟨edge, found, grants⟩ := lenient
  have grantsLater := step.grants_last grants
  cases step with
  | @mark other =>
      refine ⟨edge, ?_, grantsLater⟩
      rw [node_markNullable]
      exact found
  | @property other key led =>
      refine ⟨edge, ?_, grantsLater⟩
      by_cases same : owner = other
      · subst same
        rw [node_wrapProperty_self _ _ (by omega)]
        exact found
      · rwa [node_wrapProperty_of_ne same (by omega)]
  | @additional other led =>
      by_cases same : owner = other
      · subst same
        refine ⟨(graph.wrapNullable led).1, ?_, .inr ⟨led, wraps_modify size_le old led _⟩⟩
        rw [node_wrapAdditional_self _ (by omega)]
      · refine ⟨edge, ?_, grantsLater⟩
        rwa [node_wrapAdditional_of_ne same (by omega)]

theorem LenientBeyond.lasts {later : Graph} {owner : Nat} (lenient : LenientBeyond start graph owner)
    (old : owner < start.size) (nulled : Nulled start marked graph) (decided : Decided start marked graph later) :
    LenientBeyond start later owner := by
  induction decided with
  | refl => exact lenient
  | tail before step ih => exact ih.step old (Decided.nulled before nulled).size_le step

theorem Unrefused.nullAdditional_lenient {owner : Nat} {edge : Edge} (unrefused : Unrefused start owner edge)
    (among : owner ∈ objects) (nulled : Nulled start (Marked start objects parameters) graph) :
    LenientBeyond start (graph.nullAdditional owner) owner := by
  have size_le := nulled.size_le
  have old := unrefused.old
  have oldTarget := unrefused.oldTarget
  rcases (nulled.adapted owner old).additional with same | ⟨wrapped, wrapper, _, led, wraps, _⟩
  · have led := same.trans unrefused.declared
    have said := nulled.xNullable oldTarget
    simp only [nullAdditional, led]
    split
    · refine ⟨(graph.wrapNullable edge).1, ?_, .inr ⟨edge, wraps_modify size_le old edge _⟩⟩
      rw [node_modify_self _ (by rw [size_wrapNullable]; omega)]
    next inline =>
      have admits := unrefused.unrefused.resolve_left inline
      rw [if_neg (by simpa [said] using admits)]
      refine ⟨edge, ?_, .inl ?_⟩
      · rw [node_markNullable]
        exact led
      · rw [markNullable, node_modify_self _ (by omega)]
  · have lenient : LenientBeyond start graph owner := ⟨wrapper, led, .inr ⟨wrapped, wraps⟩⟩
    exact lenient.lasts old nulled (nullAdditional_decided among old nulled)

theorem Unrefused.nullObject_lenient {owner : Nat} {edge : Edge} (unrefused : Unrefused start owner edge)
    (among : owner ∈ objects) (nulled : Nulled start (Marked start objects parameters) graph) :
    LenientBeyond start (graph.nullObject owner) owner := by
  simp only [nullObject, nulled.required unrefused.old]
  refine unrefused.nullAdditional_lenient among (Decided.nulled (decided_foldl ?_ nulled) nulled)
  exact fun _ member _ =>
    nullProperty_decided among unrefused.old ((nulled.adapted owner unrefused.old).known member)

theorem Unrefused.objects_lenient {owner : Nat} {edge : Edge} (unrefused : Unrefused start owner edge)
    {owners : List Nat} (known : ∀ other ∈ owners, other ∈ objects ∧ other < start.size) (member : owner ∈ owners)
    (nulled : Nulled start (Marked start objects parameters) graph) :
    LenientBeyond start (owners.foldl nullObject graph) owner :=
  foldl_nullObject (fun graph => LenientBeyond start graph owner)
    (fun _ nulled => unrefused.nullObject_lenient (known owner member).1 nulled)
    (fun _ _ nulled decided lenient => lenient.lasts unrefused.old nulled decided) known member nulled

end Graph

end ApiContract.Schema

namespace ApiContract.Draft

open Schema.Graph

/-- The schemas that the nullability of a draft may mark. -/
abbrev Marks (draft : Draft) (id : Nat) : Prop :=
  Marked draft.graph draft.catalog.collections.objects (draft.operations.flatMap (·.parameters)) id

theorem nulled_refl (draft : Draft) : Nulled draft.graph draft.Marks draft.graph :=
  ⟨Nat.le_refl _, fun id _ => .refl _ _ id⟩

/-- The decisions that the objects make come first, and all others after them. -/
theorem admitNull_decided (draft : Draft)
    (inside : ∀ id ∈ draft.catalog.collections.objects, id < draft.graph.size) :
    Decided draft.graph draft.Marks draft.graph (draft.catalog.collections.objects.foldl nullObject draft.graph) ∧
      Decided draft.graph draft.Marks (draft.catalog.collections.objects.foldl nullObject draft.graph)
        draft.admitNull.graph := by
  have first : Decided draft.graph draft.Marks draft.graph
      (draft.catalog.collections.objects.foldl nullObject draft.graph) :=
    decided_foldl (fun owner member _ => nullObject_decided member (inside owner member)) draft.nulled_refl
  refine ⟨first, ?_⟩
  generalize objects : draft.catalog.collections.objects.foldl nullObject draft.graph = graph at *
  have nulledObjects := first.nulled draft.nulled_refl
  have second : Decided draft.graph draft.Marks graph (draft.catalog.collections.arrays.foldl nullItems graph) :=
    decided_foldl (fun owner _ graph => nullItems_decided graph owner) nulledObjects
  have third : Decided draft.graph draft.Marks (draft.catalog.collections.arrays.foldl nullItems graph)
      draft.admitNull.graph := by
    rw [← objects]
    exact decided_foldl (fun parameter member graph _ => nullParameter_decided member graph)
      (objects ▸ second.nulled nulledObjects)
  exact second.trans third

theorem admitNull_nulled (draft : Draft) (inside : ∀ id ∈ draft.catalog.collections.objects, id < draft.graph.size) :
    Nulled draft.graph draft.Marks draft.admitNull.graph ∧
      (∀ owner ∈ draft.catalog.collections.objects, ∀ key edge, Unsaid draft.graph owner key edge →
        Lenient draft.graph draft.admitNull.graph owner key) ∧
      ∀ owner ∈ draft.catalog.collections.objects, ∀ edge, Unrefused draft.graph owner edge →
        LenientBeyond draft.graph draft.admitNull.graph owner := by
  obtain ⟨first, others⟩ := draft.admitNull_decided inside
  have nulledObjects := first.nulled draft.nulled_refl
  have known : ∀ other ∈ draft.catalog.collections.objects,
      other ∈ draft.catalog.collections.objects ∧ other < draft.graph.size :=
    fun other among => ⟨among, inside other among⟩
  refine ⟨others.nulled nulledObjects, ?_, ?_⟩
  · intro owner member key edge unsaid
    exact (unsaid.objects_lenient known member draft.nulled_refl).lasts unsaid.old nulledObjects others
  · intro owner member edge unrefused
    exact (unrefused.objects_lenient known member draft.nulled_refl).lasts unrefused.old nulledObjects others

end ApiContract.Draft
