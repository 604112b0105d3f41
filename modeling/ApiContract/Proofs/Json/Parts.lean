import Mathlib.Logic.Relation
import ApiContract.Proofs.Assoc
import ApiContract.Proofs.Json.Place

/-!
The values inside a value. There are as many as it weighs, none is nested deeper than the whole, and a pointer leads to
one of them.
-/

namespace ApiContract.Json.Value

open Relation (ReflTransGen TransGen)

mutual

def parts : Value → List Value
  | .array items => .array items :: partsOfItems items
  | .object entries => .object entries :: partsOfEntries entries
  | value => [value]

def partsOfItems : List Value → List Value
  | [] => []
  | item :: rest => parts item ++ partsOfItems rest

def partsOfEntries : List (String × Value) → List Value
  | [] => []
  | (_, value) :: rest => parts value ++ partsOfEntries rest

end

theorem mem_partsOfItems {items : List Value} {part : Value} :
    part ∈ partsOfItems items ↔ ∃ item ∈ items, part ∈ item.parts := by
  induction items with
  | nil => simp [partsOfItems]
  | cons item rest ih => simp [partsOfItems, ih]

theorem mem_partsOfEntries {entries : Assoc Value} {part : Value} :
    part ∈ partsOfEntries entries ↔ ∃ key value, (key, value) ∈ entries ∧ part ∈ value.parts := by
  induction entries with
  | nil => simp [partsOfEntries]
  | cons entry rest ih =>
      obtain ⟨name, first⟩ := entry
      rw [partsOfEntries, List.mem_append, ih]
      constructor
      · rintro (inFirst | ⟨key, value, member, inside⟩)
        · exact ⟨name, first, List.mem_cons_self, inFirst⟩
        · exact ⟨key, value, List.mem_cons_of_mem _ member, inside⟩
      · rintro ⟨key, value, member, inside⟩
        rcases List.mem_cons.mp member with same | later
        · cases same
          exact .inl inside
        · exact .inr ⟨key, value, later, inside⟩

theorem mem_parts_self (value : Value) : value ∈ value.parts := by
  cases value <;> simp [parts]

/-- One value stands directly in another. -/
inductive Holds : Value → Value → Prop
  | item {items item} : item ∈ items → Holds (.array items) item
  | entry {entries key value} : (key, value) ∈ entries → Holds (.object entries) value

theorem Holds.depth_lt {value inner : Value} (holds : value.Holds inner) : inner.depth < value.depth := by
  cases holds with
  | item member => exact depth_lt_of_mem_items member
  | entry member => exact depth_lt_of_mem_entries member

theorem depth_lt_of_transGen {value inner : Value} (holds : TransGen Holds value inner) :
    inner.depth < value.depth := by
  induction holds with
  | single direct => exact direct.depth_lt
  | tail _ direct ih => exact Nat.lt_trans direct.depth_lt ih

theorem mem_parts_of_holds {value inner part : Value} (holds : value.Holds inner) (member : part ∈ inner.parts) :
    part ∈ value.parts := by
  cases holds with
  | item among =>
      rw [parts]
      exact List.mem_cons_of_mem _ (mem_partsOfItems.mpr ⟨_, among, member⟩)
  | entry among =>
      rw [parts]
      exact List.mem_cons_of_mem _ (mem_partsOfEntries.mpr ⟨_, _, among, member⟩)

theorem exists_holds_of_mem_parts {value part : Value} (member : part ∈ value.parts) :
    part = value ∨ ∃ inner, value.Holds inner ∧ part ∈ inner.parts := by
  cases value with
  | array items =>
      rw [parts] at member
      refine (List.mem_cons.mp member).imp_right fun later => ?_
      obtain ⟨item, among, inside⟩ := mem_partsOfItems.mp later
      exact ⟨item, .item among, inside⟩
  | object entries =>
      rw [parts] at member
      refine (List.mem_cons.mp member).imp_right fun later => ?_
      obtain ⟨key, inner, among, inside⟩ := mem_partsOfEntries.mp later
      exact ⟨inner, .entry among, inside⟩
  | null | bool flag | number n | string text => exact .inl (List.mem_singleton.mp member)

theorem mem_parts_iff {value part : Value} : part ∈ value.parts ↔ ReflTransGen Holds value part := by
  constructor
  · intro member
    induction bound : value.depth using Nat.strongRecOn generalizing value with
    | _ depth ih =>
        subst bound
        rcases exists_holds_of_mem_parts member with rfl | ⟨inner, holds, inside⟩
        · exact .refl
        · exact .head holds (ih _ holds.depth_lt inside rfl)
  · intro reaches
    induction reaches using ReflTransGen.head_induction_on with
    | refl => exact mem_parts_self part
    | head holds _ ih => exact mem_parts_of_holds holds ih

theorem depth_le_of_mem_parts {value part : Value} (member : part ∈ value.parts) : part.depth ≤ value.depth := by
  have reaches := mem_parts_iff.mp member
  induction reaches with
  | refl => exact Nat.le_refl _
  | tail reaches holds ih => exact Nat.le_trans (Nat.le_of_lt holds.depth_lt) (ih (mem_parts_iff.mpr reaches))

theorem holds_of_find? {entries : Assoc Value} {key : String} {value : Value}
    (found : Assoc.find? entries key = some value) : (Value.object entries).Holds value :=
  .entry (Assoc.mem_of_find? found)

theorem holds_of_step? {value inner : Value} {segment : String} (found : value.step? segment = some inner) :
    value.Holds inner := by
  cases value with
  | object entries => exact holds_of_find? found
  | array items =>
      obtain ⟨position, _, at_⟩ := Option.bind_eq_some_iff.mp found
      exact .item (List.mem_of_getElem? at_)
  | null | bool flag | number n | string text => cases found

theorem follow?_mem_parts {value found : Value} {segments : List String}
    (leads : value.follow? segments = some found) : found ∈ value.parts := by
  induction segments generalizing value with
  | nil =>
      cases leads
      exact mem_parts_self _
  | cons segment rest ih =>
      obtain ⟨inner, stepped, later⟩ := Option.bind_eq_some_iff.mp leads
      exact mem_parts_of_holds (holds_of_step? stepped) (ih later)

mutual

theorem length_parts : ∀ value : Value, value.parts.length = value.weight
  | .array items => by rw [parts, weight, List.length_cons, length_partsOfItems items]
  | .object entries => by rw [parts, weight, List.length_cons, length_partsOfEntries entries]
  | .null | .bool _ | .number _ | .string _ => rfl

theorem length_partsOfItems : ∀ items : List Value, (partsOfItems items).length = weightItems items
  | [] => rfl
  | item :: rest => by
      rw [partsOfItems, weightItems, List.length_append, length_parts item, length_partsOfItems rest]

theorem length_partsOfEntries : ∀ entries : List (String × Value),
    (partsOfEntries entries).length = weightEntries entries
  | [] => rfl
  | (_, value) :: rest => by
      rw [partsOfEntries, weightEntries, List.length_append, length_parts value, length_partsOfEntries rest]

end

mutual

theorem depth_le_weight : ∀ value : Value, value.depth ≤ value.weight
  | .array items => by
      rw [depth, weight]
      exact Nat.succ_le_succ (depthItems_le_weight items)
  | .object entries => by
      rw [depth, weight]
      exact Nat.succ_le_succ (depthEntries_le_weight entries)
  | .null | .bool _ | .number _ | .string _ => Nat.zero_le 1

theorem depthItems_le_weight : ∀ items : List Value, depthItems items ≤ weightItems items
  | [] => Nat.le_refl _
  | item :: rest => by
      rw [depthItems, weightItems]
      have first := depth_le_weight item
      have later := depthItems_le_weight rest
      omega

theorem depthEntries_le_weight : ∀ entries : List (String × Value), depthEntries entries ≤ weightEntries entries
  | [] => Nat.le_refl _
  | (_, value) :: rest => by
      rw [depthEntries, weightEntries]
      have first := depth_le_weight value
      have later := depthEntries_le_weight rest
      omega

end

end ApiContract.Json.Value
