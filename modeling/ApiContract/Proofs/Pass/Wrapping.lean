import ApiContract.Proofs.Pass.Heritage
import ApiContract.Proofs.Pass.Places
import ApiContract.Proofs.Schema.Rendering

/-!
What nullability adds to a graph: wrappers of references to schemas that were there before, and markers (`Graft`). Nothing
but the edge of its owner leads to a wrapper, so finished graphs can be written back (`Stages.exportable`).
-/

namespace ApiContract

namespace Schema.Graph

variable {start graph later : Graph} {marked : Nat → Prop} {id : Nat} {edge : Edge}

/-- A schema that was added: a wrapper of a reference to a schema that was there before, or a marker. -/
inductive Graft (start graph : Graph) (id : Nat) : Prop
  | wrapper {edge : Edge} : Wraps start graph edge (.inline id) → edge.viaRef = true → edge.target < start.size →
      Graft start graph id
  | marker : (∃ source, graph.node id = { Node.nullMarker source with nullable := (graph.node id).nullable }) →
      Graft start graph id

/-- All schemas beyond those that were there are wrappers and markers. -/
def Grafted (start graph : Graph) : Prop := ∀ id, start.size ≤ id → id < graph.size → Graft start graph id

theorem Graft.lasts (graft : Graft start graph id) (added : start.size ≤ id) (inside : id < graph.size)
    (kept : ∀ id, start.size ≤ id → id < graph.size →
      later.node id = { graph.node id with nullable := (later.node id).nullable }) : Graft start later id := by
  cases graft with
  | wrapper wraps reference old => exact .wrapper (wraps.lasts kept) reference old
  | marker shape =>
      obtain ⟨source, shape⟩ := shape
      refine .marker ⟨source, ?_⟩
      rw [kept id added inside, shape]

theorem node_wrapNullable_marker (graph : Graph) (edge : Edge) :
    (graph.wrapNullable edge).2.node graph.size = Node.nullMarker (graph.node edge.target).source := by
  simp only [wrapNullable]
  rw [node_add_of_ne _ (by rw [size_add]; omega), node_add_self]

/-- A wrapper and its marker, of which nothing changes but an owner that was there before. -/
theorem Grafted.wrap {owner : Nat} {change : Node → Node} (grafted : Grafted start graph) (size_le : start.size ≤ graph.size)
    (old : owner < start.size) (reference : edge.viaRef = true) (below : edge.target < start.size) :
    Grafted start ((graph.wrapNullable edge).2.modify owner change) := by
  intro id added inside
  rw [size_modify, size_wrapNullable] at inside
  have other (place : Nat) (beyond : start.size ≤ place) : ((graph.wrapNullable edge).2.modify owner change).node place =
      (graph.wrapNullable edge).2.node place := node_modify_of_ne _ _ (by omega)
  by_cases earlier : id < graph.size
  · refine (grafted id added earlier).lasts added earlier ?_
    intro place beyond early
    rw [other place beyond, node_wrapNullable_of_lt early]
  by_cases first : id = graph.size
  · subst first
    refine .marker ⟨(graph.node edge.target).source, ?_⟩
    rw [other _ added, node_wrapNullable_marker]
  · obtain rfl : id = graph.size + 1 := by omega
    have wraps := wraps_modify size_le old edge change
    have place : (graph.wrapNullable edge).1 = .inline (graph.size + 1) := by simp [wrapNullable]
    exact .wrapper (place ▸ wraps) reference below

theorem Nulling.grafted (below : ∀ owner edge, (start.node owner).Holds edge → edge.target < start.size)
    (size_le : start.size ≤ graph.size) (grafted : Grafted start graph) (step : Nulling start marked graph later) :
    Grafted start later := by
  cases step with
  | mark =>
      intro id added inside
      rw [markNullable, size_modify] at inside
      exact (grafted id added inside).lasts added inside fun place _ _ => node_markNullable graph _ place
  | property old declared _ reference =>
      exact grafted.wrap size_le old reference (below _ _ (.property declared))
  | additional old declared reference => exact grafted.wrap size_le old reference (below _ _ (.additional declared))

theorem Decided.grafted (below : ∀ owner edge, (start.node owner).Holds edge → edge.target < start.size)
    (decided : Decided start marked start graph) : Grafted start graph := by
  have none : Grafted start start := fun id added inside => absurd inside (Nat.not_lt.mpr added)
  have nulled : Nulled start marked start := ⟨Nat.le_refl _, fun id _ => .refl _ _ id⟩
  induction decided with
  | refl => exact none
  | tail before step ih => exact step.grafted below (Decided.nulled before nulled).size_le ih

end Schema.Graph

namespace Schema

variable {node other : Node} {edge : Edge}

theorem Node.Holds.leadsTo (holds : node.Holds edge) : node.LeadsTo edge.target := by
  cases holds with
  | property member => exact .property member
  | items listed => exact .items listed
  | allOf member => exact .allOf member
  | anyOf member => exact .anyOf member
  | oneOf member => exact .oneOf member
  | additional said => exact .additional said

theorem Node.Holds.apart (holds : node.Holds edge) (apart : node = { other with
    typeName := node.typeName
    nullable := node.nullable
    properties := node.properties
    additional := node.additional }) :
    other.Holds edge ∨ (∃ key, (key, edge) ∈ node.propertyList) ∨ node.additional = some (.schema edge) := by
  cases holds with
  | property member => exact .inr (.inl ⟨_, member⟩)
  | additional said => exact .inr (.inr said)
  | items listed => exact .inl (.items (by rwa [apart] at listed))
  | allOf member => exact .inl (.allOf (by rwa [apart] at member))
  | anyOf member => exact .inl (.anyOf (by rwa [apart] at member))
  | oneOf member => exact .inl (.oneOf (by rwa [apart] at member))

namespace Graph

variable {start graph : Graph} {id : Nat}

theorem holds_nullMarker {source : SourceLocation} {nullable : Bool} :
    ¬({ Node.nullMarker source with nullable } : Node).Holds edge := by
  intro holds
  cases holds with
  | property member | allOf member | anyOf member | oneOf member => cases member
  | items listed | additional listed => cases listed

theorem not_holds_of_size_le (outside : graph.size ≤ id) : ¬(graph.node id).Holds edge := by
  rw [node_of_size_le outside]
  intro holds
  cases holds with
  | property member | allOf member | anyOf member | oneOf member => cases member
  | items listed | additional listed => cases listed

/-- A wrapper holds the reference that it wraps, and leads to a marker, which leads nowhere. -/
theorem Graft.holds (graft : Graft start graph id) (holds : (graph.node id).Holds edge) :
    edge.viaRef = true ∧ edge.target < start.size ∨
      edge.viaRef = false ∧ edge.target < graph.size ∧ edge.target ≠ id ∧
        ∀ inner, ¬(graph.node edge.target).Holds inner := by
  cases graft with
  | marker shape =>
      obtain ⟨source, shape⟩ := shape
      rw [shape] at holds
      exact absurd holds holds_nullMarker
  | @wrapper wrapped wraps reference old =>
      obtain ⟨source, marker, _, shape, marks⟩ := wraps.shape
      have leaf (inner : Edge) : ¬(graph.node marker).Holds inner := by
        rw [marks]
        exact holds_nullMarker
      have inside : marker < graph.size := by
        refine Nat.lt_of_not_le fun outside => ?_
        rw [node_of_size_le outside] at marks
        cases congrArg Node.typeName marks
      have apart : marker ≠ id := by
        rintro rfl
        exact leaf edge holds
      change graph.node id = _ at shape
      rw [shape] at holds
      cases holds with
      | property member | allOf member | oneOf member => cases member
      | items listed | additional listed => cases listed
      | anyOf member =>
          rcases List.mem_cons.mp member with rfl | second
          · exact .inl ⟨reference, old⟩
          · obtain rfl := List.mem_singleton.mp second
            exact .inr ⟨rfl, inside, apart, leaf⟩

theorem Graft.tagMap (graft : Graft start graph id) : (graph.node id).tagMap = none := by
  cases graft with
  | marker shape =>
      obtain ⟨_, shape⟩ := shape
      rw [shape]
      rfl
  | wrapper wraps =>
      obtain ⟨_, _, _, shape, _⟩ := wraps.shape
      change graph.node id = _ at shape
      rw [shape]
      rfl

end Graph

end Schema

namespace Draft

open Schema Schema.Graph

variable {documents : DocumentSet} {written tagged merged closed nulled final : Draft} {id : Nat} {edge : Edge}

namespace Finish

variable (finish : Finish merged closed nulled final)

include finish

theorem closed_holds (holds : (closed.graph.node id).Holds edge) : (merged.graph.node id).Holds edge := by
  by_cases old : id < merged.graph.size
  · have closing := finish.closing old
    have apart : closed.graph.node id = { merged.graph.node id with
        typeName := (closed.graph.node id).typeName
        nullable := (closed.graph.node id).nullable
        properties := (closed.graph.node id).properties
        additional := (closed.graph.node id).additional } := by rw [closing.1]
    rcases holds.apart apart with before | ⟨key, member⟩ | said
    · exact before
    · exact .property (by rwa [(finish.propertyList old).2] at member)
    · rcases closing.2 with same | ⟨shut, _⟩
      · exact .additional (same.symm.trans said)
      · cases shut.symm.trans said
  · rw [← Nat.not_le, Decidable.not_not] at old
    exact absurd holds (not_holds_of_size_le (finish.closedBut.size.symm ▸ old))

/-- The edges of a schema that was there before are its own, or lead to wrappers. -/
theorem holds (old : id < merged.graph.size) (holds : (final.graph.node id).Holds edge) :
    (merged.graph.node id).Holds edge ∨ ∃ wrapped, Wraps merged.graph final.graph wrapped edge := by
  have ends := finish.ends old
  rcases holds.apart ends.apart with before | ⟨key, member⟩ | said
  · exact .inl before
  · rw [(finish.propertyList old).1] at member
    rcases (finish.adapted old).entries _ member with declared | ⟨_, wrapped, _, wraps⟩
    · exact .inl (finish.closed_holds (.property declared))
    · exact .inr ⟨wrapped, finish.wraps wraps⟩
  · rcases ends.additional with same | ⟨shut, _⟩ | ⟨wrapped, wrapper, _, led, wraps, _⟩
    · exact .inl (.additional (same.symm.trans said))
    · cases shut.symm.trans said
    · cases led.symm.trans said
      exact .inr ⟨wrapped, wraps⟩

theorem grafted (below : ∀ owner edge, (merged.graph.node owner).Holds edge → edge.target < merged.graph.size) :
    Grafted merged.graph final.graph := by
  have same := finish.closedBut.size
  have inside : ∀ id ∈ closed.catalog.collections.objects, id < closed.graph.size := by
    intro id member
    rw [finish.closedBut.collections] at member
    exact same.symm ▸ finish.inside id member
  obtain ⟨first, others⟩ := closed.admitNull_decided inside
  have grafts : Grafted closed.graph nulled.graph := by
    rw [← finish.granted]
    refine Decided.grafted ?_ (first.trans others)
    exact fun owner edge holds => same.symm ▸ below owner edge (finish.closed_holds holds)
  intro id added bound
  have graft := grafts id (same.symm ▸ added) (finish.finalBut.size ▸ bound)
  cases graft with
  | wrapper wraps reference old => exact .wrapper (finish.wraps wraps) reference (same ▸ old)
  | marker shape => exact .marker ((finish.node_of_added added).symm ▸ shape)

end Finish

namespace Stages

variable (stages : Stages documents written tagged merged final)

include stages

theorem finishing : Finish merged merged.closeObjects merged.closeObjects.admitNull final :=
  ⟨fun _ member => stages.inside member, rfl, rfl, stages.finish.symm⟩

theorem grafted : Grafted merged.graph final.graph :=
  stages.finishing.grafted fun _ _ holds => stages.leadsTo_lt holds.leadsTo

theorem holds (old : id < merged.graph.size) (holds : (final.graph.node id).Holds edge) :
    edge.target < merged.graph.size ∨ ∃ wrapped, Wraps merged.graph final.graph wrapped edge :=
  (stages.finishing.holds old holds).imp_left fun before => stages.leadsTo_lt before.leadsTo

theorem named (old : id < merged.graph.size) : final.graph.Named id := by
  have signed := stages.read.signed
  have apart := (stages.last.ends id old).apart
  have identity : (final.graph.node id).identity = (written.graph.node id).identity := by
    rw [apart, stages.merged_node id]
  have source : (final.graph.node id).source = (written.graph.node id).source := by
    rw [stages.final_source old, stages.merged_node id]
  rw [Named, Graph.lookup, stages.unmoved.locations, identity, source]
  refine (signed.located _ id).mpr ⟨stages.size ▸ old, ?_⟩
  cases known : (written.graph.node id).identity with
  | none => rfl
  | some location => exact (signed.named id location known).symm

/-- References lead to schemas that were read. Wrappers are led to by their owners alone, and their markers by them. -/
theorem exportable : final.graph.Exportable := by
  have size_le := stages.last.size_le
  have added {id : Nat} (new : merged.graph.size ≤ id) {edge : Edge} (holds : (final.graph.node id).Holds edge) :
      edge.viaRef = true ∧ edge.target < merged.graph.size ∨
        edge.viaRef = false ∧ edge.target < final.graph.size ∧ edge.target ≠ id ∧
          ∀ inner, ¬(final.graph.node edge.target).Holds inner := by
    have inside : id < final.graph.size := Nat.lt_of_not_le fun outside => not_holds_of_size_le outside holds
    exact (stages.grafted id new inside).holds holds
  refine ⟨?_, ?_, ?_, ?_⟩
  · intro id edge holds
    rcases Nat.lt_or_ge id merged.graph.size with old | new
    · rcases stages.holds old holds with below | ⟨_, wraps⟩
      · omega
      · exact wraps.inside
    · rcases added new holds with ⟨_, below⟩ | ⟨_, inside, _⟩
      · omega
      · exact inside
  · intro id edge holds reference
    rcases Nat.lt_or_ge id merged.graph.size with old | new
    · rcases stages.holds old holds with below | ⟨_, wraps⟩
      · exact stages.named below
      · cases wraps.inline.symm.trans reference
    · rcases added new holds with ⟨_, below⟩ | ⟨inline, _⟩
      · exact stages.named below
      · cases inline.symm.trans reference
  · intro id table tag variant mapped among
    rcases Nat.lt_or_ge id merged.graph.size with old | new
    · rw [(stages.last.ends id old).apart] at mapped
      exact stages.named (stages.inside (stages.mapped mapped among).1)
    · rcases Nat.lt_or_ge id final.graph.size with inside | outside
      · cases (stages.grafted id new inside).tagMap.symm.trans mapped
      · rw [node_of_size_le outside] at mapped
        cases mapped
  · intro id edge unnamed holds inline
    have new : merged.graph.size ≤ id := Nat.le_of_not_lt fun old => unnamed (stages.named old)
    rcases added new holds with ⟨reference, _⟩ | ⟨_, _, apart, leaf⟩
    · cases inline.symm.trans reference
    · exact ⟨apart, leaf⟩

end Stages

end Draft

end ApiContract
