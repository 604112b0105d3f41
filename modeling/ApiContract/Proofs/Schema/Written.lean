import ApiContract.Pass.Inheritance
import ApiContract.Proofs.Schema.Growth

/-!
What holds of every graph that was read: nothing has been decided about its schemas yet, they are
collected by their types, and only collected ones have subschemas.
-/

namespace ApiContract.Schema

/-- No subschema is attached. -/
structure Node.Childless (node : Node) : Prop where
  properties : node.properties = none
  items : node.items = none
  additional : node.additional = none
  allOf : node.allOf = none
  anyOf : node.anyOf = none
  oneOf : node.oneOf = none

theorem Node.Childless.not_leadsTo {node : Node} (childless : node.Childless) (unmapped : node.tagMap = none)
    {target : Nat} : ¬node.LeadsTo target := by
  rintro (member | additional | items | member | member | member | ⟨routes, _⟩)
  · simp [Node.propertyList, childless.properties] at member
  · cases childless.additional.symm.trans additional
  · cases childless.items.symm.trans items
  · simp [childless.allOf] at member
  · simp [childless.anyOf] at member
  · simp [childless.oneOf] at member
  · simp [Node.routing?, unmapped] at routes

theorem inherits_iff_kind (typeName : Option String) :
    typeName.all (· == "object") = true ↔ Kind.ofType typeName = .object := by
  rcases typeName with _ | name
  · simp [Kind.ofType]
  · by_cases object : name = "object"
    · simp [Kind.ofType, object]
    · by_cases array : name = "array" <;> simp [Kind.ofType, object, array]

namespace Reading

/-- A node as it is written, without any decision of a later pass. -/
structure Written (collections : Collections) (id : Nat) (node : Node) : Prop where
  kind : node.kind = Kind.ofType node.typeName
  nullable : node.nullable = false
  skipErrors : node.skipErrors = false
  tagMap : node.tagMap = none
  collected : id ∈ collections.ofKind node.kind ∨ node.Childless

theorem written_default (collections : Collections) (id : Nat) : Written collections id default :=
  ⟨rfl, rfl, rfl, rfl, .inr ⟨rfl, rfl, rfl, rfl, rfl, rfl⟩⟩

theorem Written.mono {collections later : Collections} {id : Nat} {node : Node}
    (written : Written collections id node)
    (kept : ∀ kind, collections.ofKind kind ⊆ later.ofKind kind) : Written later id node :=
  ⟨written.kind, written.nullable, written.skipErrors, written.tagMap,
    written.collected.imp_left fun member => kept _ member⟩

theorem Written.attach {collections : Collections} {id : Nat} {node : Node}
    (written : Written collections id node) (member : id ∈ collections.ofKind node.kind)
    (attachment : Attachment) : Written collections id (attachment.attach node) := by
  cases attachment <;>
    exact ⟨written.kind, written.nullable, written.skipErrors, written.tagMap, .inl member⟩

theorem Written.identify {collections : Collections} {id : Nat} {node : Node}
    (written : Written collections id node) (identity : Option String) :
    Written collections id (if node.identity.isNone then { node with identity } else node) := by
  split
  · refine ⟨written.kind, written.nullable, written.skipErrors, written.tagMap, written.collected.imp_right ?_⟩
    exact fun childless => ⟨childless.properties, childless.items, childless.additional, childless.allOf,
      childless.anyOf, childless.oneOf⟩
  · exact written

theorem Built.written {catalog : Catalog} (built : Built catalog) (id : Nat) :
    Written catalog.collections id (catalog.graph.node id) := by
  induction built generalizing id with
  | refl => exact written_default {} id
  | @tail before after _ step ih =>
      cases step with
      | @placeholder url pointer identity free =>
          by_cases own : id = before.graph.size
          · subst own
            rw [node_place_self]
            exact ⟨rfl, rfl, rfl, rfl, .inr ⟨rfl, rfl, rfl, rfl, rfl, rfl⟩⟩
          · rw [node_place_of_ne own]
            exact (ih id).mono fun _ => List.Subset.refl _
      | @schema url pointer identity raw free =>
          rw [Catalog.collect]
          by_cases own : id = before.graph.size
          · subst own
            rw [node_place_self]
            exact ⟨rfl, rfl, rfl, rfl, .inl (mem_ofKind_add.mpr (.inr ⟨rfl, rfl⟩))⟩
          · rw [node_place_of_ne own]
            exact (ih id).mono fun _ _ member => mem_ofKind_add.mpr (.inl member)
      | @identify other identity =>
          rw [node_change]
          split
          · exact (ih id).identify identity
          · exact ih id
      | @attach other attachment inside member leads =>
          rw [node_change]
          split
          next own =>
            rw [own.1]
            exact (ih other).attach member attachment
          · exact ih id
      | spoil => exact ih id

theorem leadsTo_attach {attachment : Attachment} {node : Node} {target : Nat}
    (leads : (attachment.attach node).LeadsTo target) :
    (∃ edge ∈ attachment.edges, edge.target = target) ∨ node.LeadsTo target := by
  cases leads with
  | @property key edge member =>
      cases attachment with
      | properties entries => exact .inl ⟨edge, List.mem_map.mpr ⟨_, member, rfl⟩, rfl⟩
      | _ => exact .inr (.property member)
  | @additional edge same =>
      cases attachment with
      | additional others =>
          cases same
          exact .inl ⟨edge, List.mem_singleton_self _, rfl⟩
      | _ => exact .inr (.additional same)
  | @items edge same =>
      cases attachment with
      | items other =>
          cases same
          exact .inl ⟨edge, List.mem_singleton_self _, rfl⟩
      | _ => exact .inr (.items same)
  | @allOf edge member =>
      cases attachment with
      | allOf edges => exact .inl ⟨edge, member, rfl⟩
      | _ => exact .inr (.allOf member)
  | @anyOf edge member =>
      cases attachment with
      | anyOf edges => exact .inl ⟨edge, member, rfl⟩
      | _ => exact .inr (.anyOf member)
  | @oneOf edge member =>
      cases attachment with
      | oneOf edges => exact .inl ⟨edge, member, rfl⟩
      | _ => exact .inr (.oneOf member)
  | variant routes member =>
      have same : (attachment.attach node).routing? = node.routing? := by cases attachment <;> rfl
      exact .inr (.variant (same.symm.trans routes) member)

theorem Built.leadsTo_lt {catalog : Catalog} (built : Built catalog) {id target : Nat}
    (leads : (catalog.graph.node id).LeadsTo target) : target < catalog.graph.size := by
  induction built generalizing id with
  | refl =>
      have childless : Node.Childless default := ⟨rfl, rfl, rfl, rfl, rfl, rfl⟩
      exact absurd leads (childless.not_leadsTo rfl)
  | @tail before after reached step ih =>
      have grown := step.size_le
      cases step with
      | @placeholder url pointer identity free =>
          by_cases own : id = before.graph.size
          · subst own
            rw [node_place_self] at leads
            exact absurd leads (Node.Childless.not_leadsTo ⟨rfl, rfl, rfl, rfl, rfl, rfl⟩ rfl)
          · rw [node_place_of_ne own] at leads
            exact Nat.lt_of_lt_of_le (ih leads) grown
      | @schema url pointer identity raw free =>
          rw [Catalog.collect] at leads grown
          by_cases own : id = before.graph.size
          · subst own
            rw [node_place_self] at leads
            exact absurd leads (Node.Childless.not_leadsTo ⟨rfl, rfl, rfl, rfl, rfl, rfl⟩ rfl)
          · rw [node_place_of_ne own] at leads
            exact Nat.lt_of_lt_of_le (ih leads) grown
      | @identify other identity =>
          have earlier : (before.graph.node id).LeadsTo target := by
            rw [node_change] at leads
            split at leads
            · split at leads
              · cases leads with
                | property member => exact .property member
                | additional same => exact .additional same
                | items same => exact .items same
                | allOf member => exact .allOf member
                | anyOf member => exact .anyOf member
                | oneOf member => exact .oneOf member
                | variant routes member => exact .variant routes member
              · exact leads
            · exact leads
          exact Nat.lt_of_lt_of_le (ih earlier) grown
      | @attach other attachment inside member inRange =>
          refine Nat.lt_of_lt_of_le ?_ grown
          rw [node_change] at leads
          split at leads
          · rcases leadsTo_attach leads with ⟨edge, among, rfl⟩ | before
            · exact inRange edge among
            · exact ih before
          · exact ih leads
      | spoil => exact ih leads

theorem Built.ofKind {catalog : Catalog} (built : Built catalog) {kind : Kind} {id : Nat}
    (member : id ∈ catalog.collections.ofKind kind) :
    id < catalog.graph.size ∧ (catalog.graph.node id).kind = kind := by
  induction built generalizing id with
  | refl => cases kind <;> exact absurd member List.not_mem_nil
  | @tail before after _ step ih =>
      have grown := step.size_le
      cases step with
      | placeholder =>
          obtain ⟨inside, kinds⟩ := ih member
          exact ⟨Nat.lt_of_lt_of_le inside grown, by rwa [node_place_of_ne (Nat.ne_of_lt inside)]⟩
      | schema =>
          rw [Catalog.collect] at grown ⊢
          rcases mem_ofKind_add.mp member with earlier | ⟨kinds, rfl⟩
          · obtain ⟨inside, kinds⟩ := ih earlier
            exact ⟨Nat.lt_of_lt_of_le inside grown, by rwa [node_place_of_ne (Nat.ne_of_lt inside)]⟩
          · refine ⟨by simp [Catalog.place], ?_⟩
            rw [node_place_self]
            exact kinds
      | identify =>
          obtain ⟨inside, kinds⟩ := ih member
          refine ⟨Nat.lt_of_lt_of_le inside grown, ?_⟩
          rw [node_change]
          split
          · split <;> exact kinds
          · exact kinds
      | attach attachment =>
          obtain ⟨inside, kinds⟩ := ih member
          refine ⟨Nat.lt_of_lt_of_le inside grown, ?_⟩
          rw [node_change]
          split
          · rw [kind_attach]
            exact kinds
          · exact kinds
      | spoil => exact ih member

/-- Schemas with subschemas that may inherit are among the collected objects. -/
theorem Built.mem_objects {catalog : Catalog} (built : Built catalog) {id : Nat}
    (parent : ¬(catalog.graph.node id).Childless) (inherits : (catalog.graph.node id).inherits = true) :
    id ∈ catalog.collections.objects := by
  have written := built.written id
  have member := written.collected.resolve_right parent
  rw [written.kind, (inherits_iff_kind _).mp inherits] at member
  exact member

theorem Built.inherits_of_mem {catalog : Catalog} (built : Built catalog) {id : Nat}
    (member : id ∈ catalog.collections.objects) : (catalog.graph.node id).inherits = true := by
  have collected : id ∈ catalog.collections.ofKind .object := member
  obtain ⟨_, kinds⟩ := built.ofKind collected
  exact (inherits_iff_kind _).mpr ((built.written id).kind.symm.trans kinds)

end Reading

end ApiContract.Schema
