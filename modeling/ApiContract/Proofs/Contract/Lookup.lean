import ApiContract.Proofs.Pass.Computed
import ApiContract.Proofs.Pass.Lookup

/-!
What a sequence of searches for roots answers (`rootOf_queries`). Where references of branches come back to where they
started, a schema may be told that it has no root although a first search would have found one
(`kinship_forgotten`).
-/

namespace ApiContract

open Relation

namespace Schema

namespace RootSearch

variable {graph : Graph} {before after : RootSearch}

theorem mapM_rootOf_answers (graph : Graph) (ids : List Nat) (before : RootSearch) :
    ∃ answers after, (ids.mapM (rootOf graph)).run before = some (answers, after) := by
  have each id : Answers (fun _ => True) (rootOf graph id) := by
    intro before _
    obtain ⟨answer, after, ran⟩ := rootOf_answers graph id before
    exact ⟨answer, after, ran, trivial⟩
  obtain ⟨answers, after, ran, _⟩ := Answers.mapM (fun id _ => each id) before trivial
  exact ⟨answers, after, ran⟩

/-- What searches leave behind tells what they answered. -/
theorem threaded_tells {ids : List Nat} {answers : List (Option Nat)}
    (run : Threaded (fun id before answer after => (rootOf graph id).run before = some (answer, after))
      ids before answers after) : Extends before after ∧ answers = ids.map (tells graph after) := by
  induction run with
  | nil => exact ⟨.refl _, rfl⟩
  | cons first _ ih =>
      obtain ⟨extended, rfl⟩ := ih
      refine ⟨(findRoot_extends first).trans extended, ?_⟩
      rw [List.map_cons, ← findRoot_tells first extended]

/-- What every search of a sequence keeps. -/
structure Sharing (graph : Graph) (search : RootSearch) : Prop where
  grounded : Grounded graph search
  faithful : Faithful graph [] search

theorem Sharing.start (graph : Graph) (bases : List Nat) : Sharing graph { bases } :=
  ⟨grounded_start graph bases, faithful_start graph bases⟩

theorem Sharing.step (sharing : Sharing graph before) {id : Nat} {answer : Option Nat}
    (ran : (rootOf graph id).run before = some (answer, after)) :
    Sharing graph after ∧
      (∀ top, answer = some top → (graph.node top).discriminator ≠ none ∧ ReflTransGen graph.HasParent id top) ∧
      (graph.Unlooped id → RootIs graph id answer) := by
  have climbs := findRoot_climbs sharing.grounded ran
  obtain ⟨faithful, rooted⟩ := findRoot_faithful sharing.faithful (fun _ none => nomatch none) ran
  exact ⟨⟨climbs.grounded, faithful⟩, fun top answered => (climbs.ascends top answered).leads, rooted⟩

/-- What a sequence of searches answers, one after the other. -/
theorem threaded_results {ids : List Nat} {answers : List (Option Nat)} (sharing : Sharing graph before)
    (run : Threaded (fun id before answer after => (rootOf graph id).run before = some (answer, after))
      ids before answers after) :
    ∀ id ∈ ids, ∃ answer ∈ answers,
      answer = tells graph after id ∧
      (∀ top, answer = some top → (graph.node top).discriminator ≠ none ∧ ReflTransGen graph.HasParent id top) ∧
      (graph.Unlooped id → RootIs graph id answer) := by
  induction run with
  | nil => exact fun _ none => nomatch none
  | cons first later ih =>
      obtain ⟨sharingMiddle, found⟩ := sharing.step first
      have extended := (threaded_tells later).1
      rw [List.forall_mem_cons]
      refine ⟨⟨_, List.mem_cons_self, findRoot_tells first extended, found⟩, ?_⟩
      intro id member
      obtain ⟨answer, among, rest⟩ := ih sharingMiddle id member
      exact ⟨answer, List.mem_cons_of_mem _ among, rest⟩

end RootSearch

namespace Graph

variable {graph : Graph} {id : Nat}

theorem ownRoot?_isSome_iff (graph : Graph) (id : Nat) : (graph.ownRoot? id).isSome = true ↔ graph.LeadsToRoot id := by
  obtain ⟨answer, after, ran⟩ := RootSearch.rootOf_answers graph id {}
  rw [ownRoot?, ran]
  exact RootSearch.first_rootOf_iff ran

theorem leads_of_ownRoot? {top : Nat} (answered : graph.ownRoot? id = some top) :
    (graph.node top).discriminator ≠ none ∧ ReflTransGen graph.HasParent id top := by
  obtain ⟨answer, after, ran⟩ := RootSearch.rootOf_answers graph id {}
  rw [Graph.ownRoot?, ran] at answered
  exact ((RootSearch.Sharing.start graph []).step ran).2.1 top answered

theorem Unlooped.ownRoot? (unlooped : graph.Unlooped id) : RootIs graph id (graph.ownRoot? id) := by
  obtain ⟨answer, after, ran⟩ := RootSearch.rootOf_answers graph id {}
  rw [Graph.ownRoot?, ran]
  exact ((RootSearch.Sharing.start graph []).step ran).2.2 unlooped

end Graph

/-- However many roots are looked up in a graph, whatever its references, every search answers; the same schema always
gets the same answer; a root that is answered declares a discriminator, and references of branches lead to it. The
answer is the one of a first search for every schema whose references enter no cycle; and a first search answers with a
root exactly where references lead to one, whether there are cycles or not. -/
theorem rootOf_queries (graph : Graph) (bases ids : List Nat) :
    (∃ root after, (ids.mapM (RootSearch.rootOf graph)).run { bases } = some (ids.map root, after) ∧
      ∀ id ∈ ids,
        (∀ top, root id = some top →
          (graph.node top).discriminator ≠ none ∧ ReflTransGen graph.HasParent id top) ∧
        (graph.Unlooped id →
          root id = graph.ownRoot? id ∧ ((root id).isSome = true ↔ graph.LeadsToRoot id))) ∧
      ∀ id, (graph.ownRoot? id).isSome = true ↔ graph.LeadsToRoot id := by
  obtain ⟨answers, after, ran⟩ := RootSearch.mapM_rootOf_answers graph ids { bases }
  have run := (Threaded.of_mapM _ _ _ _ _).mp ran
  obtain ⟨_, rfl⟩ := RootSearch.threaded_tells run
  refine ⟨⟨RootSearch.tells graph after, after, ran, ?_⟩, graph.ownRoot?_isSome_iff⟩
  intro id member
  obtain ⟨_, _, rfl, leads, rooted⟩ := RootSearch.threaded_results (.start graph bases) run id member
  refine ⟨leads, fun unlooped => ?_⟩
  have same := (rooted unlooped).unique unlooped.ownRoot?
  exact ⟨same, same ▸ graph.ownRoot?_isSome_iff id⟩

end Schema

namespace Draft

open Schema

/-- Employees are persons, and managers too as they are employees; but employees claim to be managers as well. -/
def staffDocuments : DocumentSet := .ofDefinitions [
  ("Employee", .object [("allOf", .array [.toDefinition "Manager", .toDefinition "Person"]),
    ("properties", .object [("desk", .ofType "integer")])]),
  ("Manager", .object [("allOf", .array [.toDefinition "Employee"]),
    ("properties", .object [("staff", .ofType "integer")])]),
  ("Person", .object [("type", .string "object"), ("discriminator", .string "kind"),
    ("properties", .object [("kind", .ofType "string")])]),
  ("Guest", .object [("allOf", .array [.toDefinition "Person"])])]

theorem staff_read :
    let graph := (readOf staffDocuments).graph
    (readOf staffDocuments).catalog.collections.objects = [0, 2, 4, 6] ∧ graph.parents 2 = [0] ∧
      graph.parents 0 = [2, 4] ∧ graph.parents 6 = [4] ∧ (graph.node 4).discriminator ≠ none := by
  decide +kernel

/-- Guests are persons, whatever was looked up before. -/
theorem rootOf_queries_staff :
    (readOf staffDocuments).graph.Unlooped 6 ∧
      ∃ root after, ([0, 2, 4, 6].mapM (RootSearch.rootOf (readOf staffDocuments).graph)).run {} =
          some ([0, 2, 4, 6].map root, after) ∧
        root 6 = (readOf staffDocuments).graph.ownRoot? 6 ∧ (root 6).isSome = true := by
  obtain ⟨_, _, _, guest, person⟩ := staff_read
  have unlooped : (readOf staffDocuments).graph.Unlooped 6 := by
    refine .of_parents fun parent asks => .of_parents fun grandparent asksParent => ?_
    have member : parent ∈ (readOf staffDocuments).graph.parents 6 := asks.2
    rw [guest, List.mem_singleton] at member
    exact absurd (member ▸ asksParent.1) person
  obtain ⟨⟨root, after, ran, each⟩, _⟩ := rootOf_queries (readOf staffDocuments).graph [] [0, 2, 4, 6]
  obtain ⟨same, rooted⟩ := (each 6 (by simp)).2 unlooped
  exact ⟨unlooped, root, after, ran, same, rooted.mpr ⟨4, .single (by simp [Graph.HasParent, guest]), person⟩⟩

/-- Managers are persons, and a first search finds that out. After employees were looked up they have no root any more,
so no tag leads from persons to managers. -/
theorem kinship_forgotten :
    let graph := (readOf staffDocuments).graph
    graph.LeadsToRoot 2 ∧ graph.ownRoot? 2 = some 4 ∧
      (((readOf staffDocuments).catalog.collections.objects.mapM (RootSearch.rootOf graph)).run {}).map Prod.fst =
        some [some 4, none, some 4, some 4] ∧
      ((finalOf staffDocuments).graph.node 4).tagMap =
        some [("Person", none), ("Employee", some 0), ("Guest", some 6)] := by
  obtain ⟨_, manager, employee, _, person⟩ := staff_read
  refine ⟨⟨4, ?_, person⟩, by decide +kernel⟩
  have claimed : (readOf staffDocuments).graph.HasParent 2 0 := by simp [Graph.HasParent, manager]
  have born : (readOf staffDocuments).graph.HasParent 0 4 := by simp [Graph.HasParent, employee]
  exact .head claimed (.single born)

end Draft

end ApiContract
