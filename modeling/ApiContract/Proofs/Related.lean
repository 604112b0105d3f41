import Mathlib.Data.Finset.Card
import Mathlib.Data.List.Forall2
import Mathlib.Logic.Relation

/-!
Relations: between optional values and between lists, position by position, and along edges that lead no node back to
itself. Where only finitely many nodes have edges, each edge leads to a node from which fewer nodes can be reached.
-/

theorem Option.Rel.imp {α β : Type} {related more : α → β → Prop} {left : Option α} {right : Option β}
    (weaker : ∀ value other, related value other → more value other) (alike : Option.Rel related left right) :
    Option.Rel more left right := by
  cases alike with
  | none => exact .none
  | some values => exact .some (weaker _ _ values)

theorem Option.Rel.flip {α β : Type} {related : α → β → Prop} {turned : β → α → Prop} {left : Option α} {right : Option β}
    (turns : ∀ value other, related value other → turned other value) (alike : Option.Rel related left right) :
    Option.Rel turned right left := by
  cases alike with
  | none => exact .none
  | some values => exact .some (turns _ _ values)

theorem Option.Rel.meet {α β γ : Type} {first : α → β → Prop} {second : α → γ → Prop} {both : β → γ → Prop}
    (joins : ∀ shared left right, first shared left → second shared right → both left right)
    {shared : Option α} {left : Option β} {right : Option γ} (one : Option.Rel first shared left)
    (other : Option.Rel second shared right) : Option.Rel both left right := by
  cases one with
  | none =>
      cases other
      exact .none
  | some values =>
      rcases other with ⟨others⟩
      exact .some (joins _ _ _ values others)

theorem Option.Rel.square {α β γ δ : Type} {across : α → β → Prop} {down : α → γ → Prop} {downToo : β → δ → Prop}
    {below : γ → δ → Prop} {first : Option α} {second : Option β} {third : Option γ} {fourth : Option δ}
    (closes : ∀ one two three four, across one two → down one three → downToo two four → below three four)
    (top : Option.Rel across first second) (left : Option.Rel down first third) (right : Option.Rel downToo second fourth) :
    Option.Rel below third fourth := by
  cases top with
  | none =>
      cases left
      cases right
      exact .none
  | some values =>
      rcases left with ⟨held⟩
      rcases right with ⟨heldToo⟩
      exact .some (closes _ _ _ _ values held heldToo)

theorem Option.Rel.exists_right {α β : Type} {related : α → β → Prop} {value : α} {right : Option β}
    (alike : Option.Rel related (.some value) right) : ∃ other, right = .some other ∧ related value other := by
  cases alike with
  | some values => exact ⟨_, rfl, values⟩

theorem Option.Rel.exists_left {α β : Type} {related : α → β → Prop} {left : Option α} {other : β}
    (alike : Option.Rel related left (.some other)) : ∃ value, left = .some value ∧ related value other := by
  cases alike with
  | some values => exact ⟨_, rfl, values⟩

theorem Option.Rel.none_or_some {α β : Type} {related : α → β → Prop} {left : Option α} {right : Option β}
    (alike : Option.Rel related left right) :
    left = .none ∧ right = .none ∨
      ∃ value other, left = .some value ∧ right = .some other ∧ related value other := by
  cases alike with
  | none => exact .inl ⟨rfl, rfl⟩
  | some values => exact .inr ⟨_, _, rfl, rfl, values⟩

theorem Option.Rel.getD_nil {α β : Type} {related : α → β → Prop} {left : Option (List α)} {right : Option (List β)}
    (alike : Option.Rel (List.Forall₂ related) left right) : List.Forall₂ related (left.getD []) (right.getD []) := by
  cases alike with
  | none => exact .nil
  | some lists => exact lists

theorem List.Forall₂.findSome? {α β γ δ : Type} {related : α → β → Prop} {found : γ → δ → Prop} {left : List α}
    {right : List β} {visit : α → Option γ} {visitToo : β → Option δ} (alike : List.Forall₂ related left right)
    (each : ∀ value ∈ left, ∀ other, related value other → Option.Rel found (visit value) (visitToo other)) :
    Option.Rel found (left.findSome? visit) (right.findSome? visitToo) := by
  induction alike with
  | nil => exact .none
  | cons head _ ih =>
      rw [List.findSome?_cons, List.findSome?_cons]
      rcases (each _ List.mem_cons_self _ head).none_or_some with ⟨none, noneToo⟩ | ⟨_, _, some, someToo, values⟩
      · rw [none, noneToo]
        exact ih fun value later => each value (List.mem_cons_of_mem _ later)
      · rw [some, someToo]
        exact .some values

theorem List.Forall₂.find? {α β : Type} {related : α → β → Prop} {left : List α} {right : List β} {keeps : α → Bool}
    {keepsToo : β → Bool} (alike : List.Forall₂ related left right)
    (each : ∀ value ∈ left, ∀ other, related value other → keeps value = keepsToo other) :
    Option.Rel related (left.find? keeps) (right.find? keepsToo) := by
  induction alike with
  | nil => exact .none
  | cons head _ ih =>
      rw [List.find?_cons, List.find?_cons, ← each _ List.mem_cons_self _ head]
      split
      · exact .some head
      · exact ih fun value later => each value (List.mem_cons_of_mem _ later)

theorem List.Forall₂.meet {α β γ : Type} {first : α → β → Prop} {second : α → γ → Prop} {both : β → γ → Prop}
    (joins : ∀ shared left right, first shared left → second shared right → both left right)
    {shared : List α} {left : List β} {right : List γ} (one : List.Forall₂ first shared left)
    (other : List.Forall₂ second shared right) : List.Forall₂ both left right := by
  induction one generalizing right with
  | nil =>
      cases other
      exact .nil
  | cons head _ ih =>
      rcases other with _ | ⟨otherHead, otherTail⟩
      exact .cons (joins _ _ _ head otherHead) (ih otherTail)

theorem List.Forall₂.square {α β γ δ : Type} {across : α → β → Prop} {down : α → γ → Prop} {downToo : β → δ → Prop}
    {below : γ → δ → Prop} {first : List α} {second : List β} {third : List γ} {fourth : List δ}
    (closes : ∀ one two three four, across one two → down one three → downToo two four → below three four)
    (top : List.Forall₂ across first second) (left : List.Forall₂ down first third)
    (right : List.Forall₂ downToo second fourth) : List.Forall₂ below third fourth := by
  induction top generalizing third fourth with
  | nil =>
      cases left
      cases right
      exact .nil
  | cons head _ ih =>
      rcases left with _ | ⟨held, rest⟩
      rcases right with _ | ⟨heldToo, restToo⟩
      exact .cons (closes _ _ _ _ head held heldToo) (ih rest restToo)

theorem List.Forall₂.exists_right {α β : Type} {related : α → β → Prop} {left : List α} {right : List β}
    (alike : List.Forall₂ related left right) {value : α} (member : value ∈ left) :
    ∃ other ∈ right, related value other := by
  induction alike with
  | nil => contradiction
  | cons head _ ih =>
      rcases List.mem_cons.mp member with rfl | later
      · exact ⟨_, List.mem_cons_self, head⟩
      · obtain ⟨other, otherMember, values⟩ := ih later
        exact ⟨other, List.mem_cons_of_mem _ otherMember, values⟩

theorem List.Forall₂.exists_left {α β : Type} {related : α → β → Prop} {left : List α} {right : List β}
    (alike : List.Forall₂ related left right) {other : β} (member : other ∈ right) :
    ∃ value ∈ left, related value other :=
  alike.flip.exists_right member

theorem List.Forall₂.map_eq {α β γ : Type} {related : α → β → Prop} {left : List α} {right : List β} {first : α → γ}
    {second : β → γ} (alike : List.Forall₂ related left right)
    (same : ∀ value other, related value other → second other = first value) : right.map second = left.map first := by
  induction alike with
  | nil => rfl
  | cons head _ ih => exact congrArg₂ List.cons (same _ _ head) ih

theorem List.Forall₂.of_getElem? {α β : Type} {related : α → β → Prop} {left : List α} {right : List β}
    (alike : List.Forall₂ related left right) {place : Nat} {value : α} {other : β} (found : left[place]? = some value)
    (foundToo : right[place]? = some other) : related value other := by
  induction alike generalizing place with
  | nil => cases found
  | cons head _ ih =>
      cases place with
      | zero =>
          cases found
          cases foundToo
          exact head
      | succ place => exact ih found foundToo

namespace ApiContract

open Relation

def IsAcyclic (edge : Nat → Nat → Prop) : Prop :=
  ∀ node, ¬TransGen edge node node

variable {edge : Nat → Nat → Prop}

theorem IsAcyclic.of_descending (height : Nat → Nat)
    (descends : ∀ node next, edge node next → height next < height node) : IsAcyclic edge := by
  have below node next (reaches : TransGen edge node next) : height next < height node := by
    induction reaches with
    | single step => exact descends _ _ step
    | tail _ step ih => exact Nat.lt_trans (descends _ _ step) ih
  exact fun node cycle => Nat.lt_irrefl _ (below node node cycle)

theorem IsAcyclic.mono {fewer : Nat → Nat → Prop} (acyclic : IsAcyclic edge)
    (among : ∀ node next, fewer node next → edge node next) : IsAcyclic fewer :=
  fun node cycle => acyclic node (TransGen.mono among node node cycle)

section

open Classical

/-- The number of nodes below a size that a node leads to. -/
noncomputable def reach (edge : Nat → Nat → Prop) (size node : Nat) : Nat :=
  ((Finset.range size).filter (ReflTransGen edge node)).card

theorem reach_le (edge : Nat → Nat → Prop) (size node : Nat) : reach edge size node ≤ size :=
  (Finset.card_filter_le _ _).trans_eq (Finset.card_range _)

theorem IsAcyclic.reach_lt (acyclic : IsAcyclic edge) {size node next : Nat} (inside : node < size)
    (step : edge node next) : reach edge size next < reach edge size node := by
  apply Finset.card_lt_card
  refine Finset.ssubset_iff_of_subset ?_ |>.mpr ⟨node, ?_, ?_⟩
  · intro reached member
    rw [Finset.mem_filter] at member ⊢
    exact ⟨member.1, .head step member.2⟩
  · exact Finset.mem_filter.mpr ⟨Finset.mem_range.mpr inside, .refl⟩
  · intro member
    exact acyclic node (.head' step (Finset.mem_filter.mp member).2)

end

end ApiContract
