import Mathlib.Data.List.Nodup
import Std.Data.String.ToNat
import ApiContract.Pointer

/-!
Places of a value. A path of the payload is built key by key, and in a value whose objects repeat
no key it leads to one place only (`Occurs.unique`).
-/

namespace ApiContract

namespace Pointer

theorem slash_notMem_escapeChars (text : List Char) : '/' ∉ escapeChars text := by
  intro member
  obtain ⟨c, _, inside⟩ := List.mem_flatMap.mp member
  by_cases tilde : c = '~'
  · simp [escapeChar, tilde] at inside
  · by_cases slash : c = '/'
    · simp [escapeChar, slash] at inside
    · simp only [escapeChar, tilde, slash, if_false, List.mem_singleton] at inside
      exact slash inside.symm

theorem slash_notMem_escape (key : String) : '/' ∉ (escape key).toList := by
  simpa [escape] using slash_notMem_escapeChars key.toList

theorem unescape_escape (key : String) : unescape (escape key) = key := by
  simp [unescape, escape, unescapeChars_escapeChars]

theorem escape_injective {key other : String} (same : escape key = escape other) : key = other := by
  rw [← unescape_escape key, same, unescape_escape]

theorem slash_notMem_repr (position : Nat) : '/' ∉ (Nat.repr position).toList := by
  intro member
  have digits : '/' ∈ Nat.toDigits 10 position := by simpa [Nat.repr] using member
  have digit := Nat.isDigit_of_mem_toDigits (by decide) (by decide) digits
  exact absurd digit (by decide)

theorem append_segment_inj {path other segment last : String}
    (plain : '/' ∉ segment.toList) (plainLast : '/' ∉ last.toList)
    (same : path ++ "/" ++ segment = other ++ "/" ++ last) : path = other ∧ segment = last := by
  have chars := congrArg (fun text => text.toList.reverse) same
  simp only [String.toList_append, List.reverse_append, List.append_assoc] at chars
  have cut {text : List Char} (rest : List Char) (free : '/' ∉ text) :
      ((text.reverse ++ '/' :: rest).takeWhile (· ≠ '/')) = text.reverse := by
    rw [List.takeWhile_append_of_pos]
    · simp
    · intro c member
      simp only [ne_eq, decide_eq_true_eq]
      rintro rfl
      exact free (List.mem_reverse.mp member)
  have ends : segment.toList.reverse = last.toList.reverse := by
    have left := cut path.toList.reverse plain
    have right := cut other.toList.reverse plainLast
    rw [← left, ← right]
    exact congrArg (List.takeWhile (· ≠ '/')) (by simpa using chars)
  rw [ends] at chars
  have starts := List.append_cancel_left chars
  refine ⟨?_, ?_⟩
  · apply String.toList_injective
    exact List.reverse_injective (by simpa using starts)
  · exact String.toList_injective (List.reverse_injective ends)

theorem append_segment_ne_empty (path segment : String) : path ++ "/" ++ segment ≠ "" := by
  intro same
  have chars := congrArg (fun text => text.toList.length) same
  simp at chars

theorem child_inj {path other key last : String} (same : child path key = child other last) :
    path = other ∧ key = last := by
  obtain ⟨paths, segments⟩ :=
    append_segment_inj (slash_notMem_escape key) (slash_notMem_escape last) same
  exact ⟨paths, escape_injective segments⟩

theorem item_inj {path other : String} {position last : Nat}
    (same : item path position = item other last) : path = other ∧ position = last := by
  obtain ⟨paths, segments⟩ :=
    append_segment_inj (slash_notMem_repr position) (slash_notMem_repr last) same
  exact ⟨paths, Nat.repr_injective segments⟩

theorem path_eq_of_child_eq_item {path other key : String} {position : Nat}
    (same : child path key = item other position) : path = other :=
  (append_segment_inj (slash_notMem_escape key) (slash_notMem_repr position) same).1

theorem child_ne_empty (path key : String) : child path key ≠ "" :=
  append_segment_ne_empty path (escape key)

theorem item_ne_empty (path : String) (position : Nat) : item path position ≠ "" :=
  append_segment_ne_empty path (Nat.repr position)

end Pointer

namespace Json.Value

mutual

/-- No object inside the value, itself included, repeats a key. -/
def hasUniqueKeys : Value → Bool
  | .array items => itemsHaveUniqueKeys items
  | .object entries => decide (Assoc.keys entries).Nodup && entriesHaveUniqueKeys entries
  | _ => true

def itemsHaveUniqueKeys : List Value → Bool
  | [] => true
  | item :: rest => hasUniqueKeys item && itemsHaveUniqueKeys rest

def entriesHaveUniqueKeys : List (String × Value) → Bool
  | [] => true
  | (_, value) :: rest => hasUniqueKeys value && entriesHaveUniqueKeys rest

end

theorem hasUniqueKeys_of_mem_items {items : List Value} (unique : itemsHaveUniqueKeys items = true)
    {item : Value} (member : item ∈ items) : item.hasUniqueKeys = true := by
  induction items with
  | nil => contradiction
  | cons first rest ih =>
      simp only [itemsHaveUniqueKeys, Bool.and_eq_true] at unique
      rcases List.mem_cons.mp member with same | later
      · exact same ▸ unique.1
      · exact ih unique.2 later

theorem hasUniqueKeys_of_mem_entries {entries : Assoc Value}
    (unique : entriesHaveUniqueKeys entries = true) {key : String} {value : Value}
    (member : (key, value) ∈ entries) : value.hasUniqueKeys = true := by
  induction entries with
  | nil => contradiction
  | cons first rest ih =>
      obtain ⟨name, other⟩ := first
      simp only [entriesHaveUniqueKeys, Bool.and_eq_true] at unique
      rcases List.mem_cons.mp member with same | later
      · cases same
        exact unique.1
      · exact ih unique.2 later

theorem depth_lt_of_mem_entries {entries : Assoc Value} {key : String} {value : Value}
    (member : (key, value) ∈ entries) : value.depth < (Value.object entries).depth := by
  rw [depth, Nat.lt_succ_iff]
  induction entries with
  | nil => contradiction
  | cons first rest ih =>
      obtain ⟨name, other⟩ := first
      rw [depthEntries]
      rcases List.mem_cons.mp member with same | later
      · cases same
        exact Nat.le_max_left _ _
      · exact Nat.le_trans (ih later) (Nat.le_max_right _ _)

theorem depth_lt_of_mem_items {items : List Value} {item : Value} (member : item ∈ items) :
    item.depth < (Value.array items).depth := by
  rw [depth, Nat.lt_succ_iff]
  induction items with
  | nil => contradiction
  | cons first rest ih =>
      rw [depthItems]
      rcases List.mem_cons.mp member with same | later
      · exact same ▸ Nat.le_max_left _ _
      · exact Nat.le_trans (ih later) (Nat.le_max_right _ _)

/-- A value stands at a place of the whole. -/
inductive Occurs (whole : Value) : String → Value → Prop
  | root : Occurs whole "" whole
  | member {path entries key value} : Occurs whole path (.object entries) →
      (key, value) ∈ entries → Occurs whole (Pointer.child path key) value
  | item {path items position value} : Occurs whole path (.array items) →
      items[position]? = some value → Occurs whole (Pointer.item path position) value

namespace Occurs

variable {whole : Value}

theorem hasUniqueKeys {path : String} {value : Value} (occurs : Occurs whole path value)
    (unique : whole.hasUniqueKeys = true) : value.hasUniqueKeys = true := by
  induction occurs with
  | root => exact unique
  | member _ member ih =>
      rw [Value.hasUniqueKeys, Bool.and_eq_true] at ih
      exact hasUniqueKeys_of_mem_entries ih.2 member
  | item _ found ih =>
      rw [Value.hasUniqueKeys] at ih
      exact hasUniqueKeys_of_mem_items ih (List.mem_of_getElem? found)

theorem unique {path : String} {value other : Value} (keys : whole.hasUniqueKeys = true)
    (occurs : Occurs whole path value) (otherOccurs : Occurs whole path other) : value = other := by
  induction occurs generalizing other with
  | root =>
      generalize empty : "" = path at otherOccurs
      cases otherOccurs with
      | root => rfl
      | member => exact absurd empty.symm (Pointer.child_ne_empty _ _)
      | item => exact absurd empty.symm (Pointer.item_ne_empty _ _)
  | @member path entries key value above member ih =>
      generalize whence : Pointer.child path key = full at otherOccurs
      cases otherOccurs with
      | root => exact absurd whence (Pointer.child_ne_empty _ _)
      | member otherAbove otherMember =>
          obtain ⟨rfl, rfl⟩ := Pointer.child_inj whence
          cases ih otherAbove
          have distinct := above.hasUniqueKeys keys
          rw [Value.hasUniqueKeys, Bool.and_eq_true, decide_eq_true_eq] at distinct
          exact congrArg Prod.snd
            (List.inj_on_of_nodup_map distinct.1 member otherMember rfl)
      | item otherAbove _ =>
          obtain rfl := Pointer.path_eq_of_child_eq_item whence
          cases ih otherAbove
  | @item path items position value above found ih =>
      generalize whence : Pointer.item path position = full at otherOccurs
      cases otherOccurs with
      | root => exact absurd whence (Pointer.item_ne_empty _ _)
      | member otherAbove _ =>
          obtain rfl := Pointer.path_eq_of_child_eq_item whence.symm
          cases ih otherAbove
      | item otherAbove otherFound =>
          obtain ⟨rfl, rfl⟩ := Pointer.item_inj whence
          cases ih otherAbove
          exact Option.some.inj (found.symm.trans otherFound)

end Occurs

end Json.Value

end ApiContract
