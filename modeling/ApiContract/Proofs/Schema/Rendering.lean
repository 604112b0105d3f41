import Mathlib.Data.List.Nodup
import Mathlib.Data.List.Perm.Subperm
import ApiContract.Proofs.Schema.Graph
import ApiContract.Schema.Rendering

/-!
Schemas that are written back. The schemas that are being written all differ, so writing ends before its fuel does
(`render_eq_toValue`); and where references lead to schemas that are found, so do those that are written
(`toValue_exports`).
-/

namespace ApiContract.Schema

open Json (Value)

/-- The edges of a schema, tags apart. -/
inductive Node.Holds (node : Node) (edge : Edge) : Prop
  | property {key : String} : (key, edge) ∈ node.propertyList → Holds node edge
  | items : node.items = some edge → Holds node edge
  | allOf : edge ∈ node.allOf.getD [] → Holds node edge
  | anyOf : edge ∈ node.anyOf.getD [] → Holds node edge
  | oneOf : edge ∈ node.oneOf.getD [] → Holds node edge
  | additional : node.additional = some (.schema edge) → Holds node edge

namespace Graph

variable {graph : Graph} {id fuel more : Nat} {stack : List Nat}

/-- The schema is found under the location that references to it are written with. -/
def Named (graph : Graph) (id : Nat) : Prop :=
  graph.lookup ((graph.node id).identity.getD (graph.node id).source.location) = some id

/-- A reference by a location under which the schema is found. -/
def Refers (graph : Graph) (target : Nat) (value : Value) : Prop :=
  ∃ location, value = .object [("$ref", .string location)] ∧ graph.lookup location = some target

theorem Named.refers (named : graph.Named id) : graph.Refers id (graph.referenceTo id) := ⟨_, rfl, named⟩

/-- What is written of a schema below others that are being written: its keywords, with references in the place of edges
that were references, that lead back, or that are tags, and with what is written of their targets in the place of the
other edges. -/
inductive Exports (graph : Graph) : List Nat → Nat → Value → Prop
  | node {stack : List Nat} {id : Nat} {write : Edge → Value}
      (references : ∀ edge, (graph.node id).Holds edge → edge.viaRef = true ∨ edge.target ∈ id :: stack →
        graph.Refers edge.target (write edge))
      (parts : ∀ edge, (graph.node id).Holds edge → edge.viaRef = false → edge.target ∉ id :: stack →
        Exports graph (id :: stack) edge.target (write edge))
      (tags : ∀ table tag variant, (graph.node id).tagMap = some table → (tag, some variant) ∈ table →
        graph.Refers variant (graph.referenceTo variant)) :
      Exports graph stack id (.object (Assoc.ofList (graph.fields (graph.node id) write)))

/-- References lead to schemas that are found. A schema that is not found is never led back to: what it leads to by
itself is another one that leads nowhere. -/
structure Exportable (graph : Graph) : Prop where
  inside : ∀ id edge, (graph.node id).Holds edge → edge.target < graph.size
  references : ∀ id edge, (graph.node id).Holds edge → edge.viaRef = true → graph.Named edge.target
  variants : ∀ id table tag variant, (graph.node id).tagMap = some table → (tag, some variant) ∈ table →
    graph.Named variant
  hidden : ∀ id edge, ¬graph.Named id → (graph.node id).Holds edge → edge.viaRef = false →
    edge.target ≠ id ∧ ∀ inner, ¬(graph.node edge.target).Holds inner

theorem fields_congr {node : Node} {write other : Edge → Value} (same : ∀ edge, node.Holds edge → write edge = other edge) :
    graph.fields node write = graph.fields node other := by
  have branches (listed : Option (List Edge)) (held : ∀ edge ∈ listed.getD [], node.Holds edge) :
      listed.map (fun edges => Value.array (edges.map write)) = listed.map fun edges => Value.array (edges.map other) := by
    cases listed with
    | none => rfl
    | some edges => exact congrArg (some ∘ Value.array) (List.map_congr_left fun edge member => same edge (held edge member))
  have properties : (node.properties.map fun table => Value.object (table.map fun entry => (entry.1, write entry.2))) =
      node.properties.map fun table => Value.object (table.map fun entry => (entry.1, other entry.2)) := by
    cases listed : node.properties with
    | none => rfl
    | some table =>
        refine congrArg (some ∘ Value.object) (List.map_congr_left ?_)
        intro entry member
        rw [same entry.2 (.property (by rwa [Node.propertyList, listed]))]
  have items : node.items.map write = node.items.map other := by
    cases listed : node.items with
    | none => rfl
    | some edge => exact congrArg some (same edge (.items listed))
  unfold fields
  dsimp only
  rw [properties, items, branches node.allOf fun _ => .allOf, branches node.anyOf fun _ => .anyOf,
    branches node.oneOf fun _ => .oneOf]
  cases said : node.additional with
  | none => rfl
  | some additional =>
      cases additional with
      | allowed flag => rfl
      | schema edge => simp only [Option.map_some, same edge (.additional said)]

theorem length_lt_size (distinct : (id :: stack).Nodup) (inside : ∀ other ∈ id :: stack, other < graph.size) :
    stack.length < graph.size := by
  have part : id :: stack ⊆ List.range graph.size := fun other member => List.mem_range.mpr (inside other member)
  have bound := (distinct.subperm part).length_le
  rwa [List.length_range, List.length_cons] at bound

namespace Exportable

variable (exportable : graph.Exportable)

include exportable

/-- What is not found has nothing below it that could lead back. -/
theorem named_of_referred {edge : Edge} (above : (∀ other ∈ stack, graph.Named other) ∨ ∀ edge, ¬(graph.node id).Holds edge)
    (holds : (graph.node id).Holds edge) (referred : edge.viaRef = true ∨ edge.target ∈ id :: stack) :
    graph.Named edge.target := by
  by_cases reference : edge.viaRef = true
  · exact exportable.references id edge holds reference
  · have among := referred.resolve_left reference
    have named := above.resolve_right fun leaf => leaf edge holds
    rcases List.mem_cons.mp among with own | later
    · by_contra unnamed
      have apart := exportable.hidden id edge (own ▸ unnamed) holds (Bool.eq_false_iff.mpr reference)
      exact apart.1 own
    · exact named _ later

/-- The stack holds schemas that differ, so fuel lasts until all of them are on it. -/
theorem render_exports (distinct : (id :: stack).Nodup) (inside : ∀ other ∈ id :: stack, other < graph.size)
    (enough : graph.size < fuel + stack.length)
    (above : (∀ other ∈ stack, graph.Named other) ∨ ∀ edge, ¬(graph.node id).Holds edge) :
    graph.Exports stack id (graph.render fuel stack id) := by
  induction fuel generalizing stack id with
  | zero =>
      have bound := length_lt_size distinct inside
      omega
  | succ fuel ih =>
      rw [render]
      refine .node ?_ ?_ ?_
      · intro edge holds referred
        have written : (edge.viaRef || (id :: stack).contains edge.target) = true := by simpa using referred
        rw [if_pos written]
        exact (exportable.named_of_referred above holds referred).refers
      · intro edge holds inline fresh
        have written : ¬(edge.viaRef || (id :: stack).contains edge.target) = true := by simpa [inline] using fresh
        rw [if_neg written]
        refine ih (List.nodup_cons.mpr ⟨fresh, distinct⟩) ?_ ?_ ?_
        · exact List.forall_mem_cons.mpr ⟨exportable.inside id edge holds, inside⟩
        · rw [List.length_cons]
          omega
        · by_cases named : graph.Named id
          · have others := above.resolve_right fun leaf => leaf edge holds
            exact .inl (List.forall_mem_cons.mpr ⟨named, others⟩)
          · exact .inr (exportable.hidden id edge named holds inline).2
      · intro table tag variant mapped member
        exact (exportable.variants id table tag variant mapped member).refers

theorem render_stable (distinct : (id :: stack).Nodup) (inside : ∀ other ∈ id :: stack, other < graph.size)
    (enough : graph.size < fuel + stack.length) (le : fuel ≤ more) :
    graph.render more stack id = graph.render fuel stack id := by
  induction fuel generalizing stack id more with
  | zero =>
      have bound := length_lt_size distinct inside
      omega
  | succ fuel ih =>
      obtain ⟨rest, rfl⟩ : ∃ rest, more = rest + 1 := ⟨more - 1, by omega⟩
      rw [render, render]
      refine congrArg (fun entries => Value.object (Assoc.ofList entries)) (fields_congr ?_)
      intro edge holds
      by_cases written : (edge.viaRef || (id :: stack).contains edge.target) = true
      · rw [if_pos written, if_pos written]
      · rw [if_neg written, if_neg written]
        have fresh : edge.target ∉ id :: stack := by
          intro member
          simp [member] at written
        refine ih (List.nodup_cons.mpr ⟨fresh, distinct⟩) ?_ ?_ (Nat.le_of_succ_le_succ le)
        · exact List.forall_mem_cons.mpr ⟨exportable.inside id edge holds, inside⟩
        · rw [List.length_cons]
          omega

theorem toValue_exports (inside : id < graph.size) : graph.Exports [] id (graph.toValue id) := by
  refine exportable.render_exports (List.nodup_singleton id) ?_ (Nat.lt_succ_self _) (.inl fun _ none => nomatch none)
  exact fun other member => List.mem_singleton.mp member ▸ inside

theorem render_eq_toValue (inside : id < graph.size) (enough : graph.size < fuel) :
    graph.render fuel [] id = graph.toValue id := by
  refine exportable.render_stable (List.nodup_singleton id) ?_ (Nat.lt_succ_self _) enough
  exact fun other member => List.mem_singleton.mp member ▸ inside

end Exportable

end Graph

end ApiContract.Schema
