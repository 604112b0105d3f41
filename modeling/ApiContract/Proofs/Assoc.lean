import Mathlib.Data.List.Nodup
import ApiContract.Assoc

/-!
Which entries the operations on tables find.
-/

namespace ApiContract.Assoc

variable {α : Type}

theorem mem_of_find? {entries : Assoc α} {key : String} {value : α} (found : find? entries key = some value) :
    (key, value) ∈ entries := by
  induction entries with
  | nil => contradiction
  | cons entry rest ih =>
      obtain ⟨name, first⟩ := entry
      by_cases same : name = key
      · simp only [find?, same, if_true, Option.some.injEq] at found
        simp [same, found]
      · simp only [find?, same, if_false] at found
        exact List.mem_cons_of_mem _ (ih found)

theorem find?_of_mem {entries : Assoc α} (distinct : (keys entries).Nodup) {key : String} {value : α}
    (member : (key, value) ∈ entries) : find? entries key = some value := by
  induction entries with
  | nil => cases member
  | cons entry rest ih =>
      obtain ⟨name, first⟩ := entry
      obtain ⟨fresh, distinctRest⟩ := List.nodup_cons.mp distinct
      rcases List.mem_cons.mp member with same | later
      · cases same
        simp [find?]
      · have different : name ≠ key := fun same => fresh (List.mem_map.mpr ⟨_, later, same.symm⟩)
        rw [find?, if_neg different, ih distinctRest later]

theorem contains_iff_mem_keys (entries : Assoc α) (key : String) :
    contains entries key = true ↔ key ∈ keys entries := by
  induction entries with
  | nil => simp [contains, keys]
  | cons entry rest ih =>
      obtain ⟨name, first⟩ := entry
      unfold contains keys at ih ⊢
      by_cases same : name = key
      · simp [find?, same]
      · rw [find?, if_neg same, ih, List.map_cons, List.mem_cons]
        exact ⟨.inr, fun either => either.resolve_left (Ne.symm same)⟩

theorem keys_insert_of_mem {entries : Assoc α} {key : String} (value : α) (present : key ∈ keys entries) :
    keys (insert entries key value) = keys entries := by
  induction entries with
  | nil => cases present
  | cons entry rest ih =>
      obtain ⟨name, first⟩ := entry
      by_cases same : name = key
      · simp [insert, same, keys]
      · rw [insert, if_neg same]
        have later : key ∈ keys rest := (List.mem_cons.mp present).resolve_left (Ne.symm same)
        exact congrArg (name :: ·) (ih later)

theorem mem_insert {entries : Assoc α} {key : String} {value : α} {entry : String × α}
    (member : entry ∈ insert entries key value) : entry ∈ entries ∨ entry = (key, value) := by
  induction entries with
  | nil => exact .inr (by simpa [insert] using member)
  | cons first rest ih =>
      obtain ⟨name, old⟩ := first
      by_cases same : name = key
      · rw [insert, if_pos same, same] at member
        rcases List.mem_cons.mp member with rfl | later
        · exact .inr rfl
        · exact .inl (List.mem_cons_of_mem _ later)
      · rw [insert, if_neg same] at member
        rcases List.mem_cons.mp member with rfl | later
        · exact .inl List.mem_cons_self
        · exact (ih later).imp_left (List.mem_cons_of_mem _)

theorem nodup_keys_insert {entries : Assoc α} {key : String} (value : α) (distinct : (keys entries).Nodup) :
    (keys (insert entries key value)).Nodup := by
  induction entries with
  | nil => simp [insert, keys]
  | cons entry rest ih =>
      obtain ⟨name, first⟩ := entry
      by_cases same : name = key
      · rw [insert, if_pos same]
        exact distinct
      · obtain ⟨fresh, distinctRest⟩ := List.nodup_cons.mp distinct
        rw [insert, if_neg same]
        refine List.nodup_cons.mpr ⟨?_, ih distinctRest⟩
        intro member
        obtain ⟨other, inserted, named⟩ := List.mem_map.mp member
        rcases mem_insert inserted with old | rfl
        · exact fresh (List.mem_map.mpr ⟨other, old, named⟩)
        · exact same named.symm

theorem find?_append (entries later : Assoc α) (key : String) :
    find? (entries ++ later) key = (find? entries key).or (find? later key) := by
  induction entries with
  | nil => rfl
  | cons entry rest ih =>
      obtain ⟨name, value⟩ := entry
      by_cases same : name = key
      · simp [find?, same]
      · simp [find?, same, ih]

theorem find?_insertNew (entries : Assoc α) (name key : String) (value : α) :
    find? (insertNew entries name value) key = (find? entries key).or (find? [(name, value)] key) := by
  unfold insertNew
  split
  next present =>
    by_cases same : name = key
    · subst same
      obtain ⟨old, found⟩ := Option.isSome_iff_exists.mp present
      simp [found]
    · simp [find?, same]
  · exact find?_append entries _ key

theorem mem_insertNew {entries : Assoc α} {name : String} {value : α} {entry : String × α}
    (member : entry ∈ insertNew entries name value) : entry ∈ entries ∨ entry = (name, value) := by
  unfold insertNew at member
  split at member
  · exact .inl member
  · simpa using member

theorem nodup_keys_insertNew {entries : Assoc α} (name : String) (value : α) (distinct : (keys entries).Nodup) :
    (keys (insertNew entries name value)).Nodup := by
  unfold insertNew
  split
  · exact distinct
  next absent =>
    have fresh : name ∉ keys entries := mt (contains_iff_mem_keys entries name).mpr absent
    rw [keys, List.map_append]
    exact List.nodup_append_comm.mp (List.nodup_cons.mpr ⟨fresh, distinct⟩)

theorem keys_modify (entries : Assoc α) (key : String) (change : α → α) :
    keys (modify entries key change) = keys entries := by
  rw [keys, keys, modify, List.map_map]
  refine List.map_congr_left fun entry _ => ?_
  rw [Function.comp_apply]
  split <;> rfl

theorem find?_modify_self (entries : Assoc α) (key : String) (change : α → α) :
    find? (modify entries key change) key = (find? entries key).map change := by
  induction entries with
  | nil => rfl
  | cons entry rest ih =>
      obtain ⟨name, value⟩ := entry
      unfold modify at ih ⊢
      by_cases same : name = key
      · simp [find?, same]
      · simp [find?, same, ih]

theorem find?_modify_of_ne (entries : Assoc α) {key other : String} (change : α → α) (different : other ≠ key) :
    find? (modify entries key change) other = find? entries other := by
  induction entries with
  | nil => rfl
  | cons entry rest ih =>
      obtain ⟨name, value⟩ := entry
      unfold modify at ih ⊢
      by_cases same : name = key
      · simp [find?, same, Ne.symm different, ih]
      · simp [find?, same, ih]

theorem mem_modify {entries : Assoc α} {key : String} {change : α → α} {entry : String × α}
    (member : entry ∈ modify entries key change) : ∃ old ∈ entries, entry = old ∨ entry = (old.1, change old.2) := by
  obtain ⟨old, among, same⟩ := List.mem_map.mp member
  refine ⟨old, among, ?_⟩
  split at same
  · exact .inr same.symm
  · exact .inl same.symm

theorem mem_swapRemove {entries : Assoc α} {key : String} {entry : String × α}
    (member : entry ∈ swapRemove entries key) : entry ∈ entries := by
  unfold swapRemove at member
  split at member
  · cases member
  next last ends =>
    split at member
    · split at member
      · exact List.dropLast_subset entries member
      · obtain ⟨old, among, same⟩ := List.mem_map.mp member
        split at same
        · exact same ▸ List.mem_of_getLast? ends
        · exact same ▸ List.dropLast_subset entries among
    · exact member

theorem nodup_keys_swapRemove {entries : Assoc α} (key : String) (distinct : (keys entries).Nodup) :
    (keys (swapRemove entries key)).Nodup := by
  unfold swapRemove
  split
  · exact List.nodup_nil
  next last ends =>
    have shorter : (keys entries.dropLast).Nodup := ((List.dropLast_sublist entries).map Prod.fst).nodup distinct
    split
    · split
      · exact shorter
      · -- the key is renamed to that of the last entry, which no other entry has
        have fresh : last.1 ∉ keys entries.dropLast := by
          have whole := List.dropLast_append_getLast? last ends
          rw [← whole, keys, List.map_append] at distinct
          exact fun member => (List.nodup_append.mp distinct).2.2 _ member last.1 (by simp) rfl
        have renamed : keys (entries.dropLast.map fun entry => if entry.1 = key then last else entry) =
            (keys entries.dropLast).map fun name => if name = key then last.1 else name := by
          rw [keys, keys, List.map_map, List.map_map]
          refine List.map_congr_left fun entry _ => ?_
          rw [Function.comp_apply, Function.comp_apply]
          split <;> rfl
        rw [renamed]
        refine List.Nodup.map_on (fun name member other memberToo same => ?_) shorter
        by_cases own : name = key <;> by_cases ownToo : other = key
        · exact own.trans ownToo.symm
        · rw [if_pos own, if_neg ownToo] at same
          exact absurd (same ▸ memberToo) fresh
        · rw [if_neg own, if_pos ownToo] at same
          exact absurd (same ▸ member) fresh
        · rwa [if_neg own, if_neg ownToo] at same
    · exact distinct

theorem mem_swapRemove_of_ne {entries : Assoc α} {key : String} {entry : String × α} (member : entry ∈ entries)
    (different : entry.1 ≠ key) : entry ∈ swapRemove entries key := by
  unfold swapRemove
  split
  next empty => simp [List.getLast?_eq_none_iff.mp empty] at member
  next last ends =>
    rw [← List.dropLast_append_getLast? last ends] at member
    split
    next present =>
      split
      next own =>
        rcases List.mem_append.mp member with earlier | final
        · exact earlier
        · exact absurd (List.mem_singleton.mp final ▸ own) different
      next other =>
        rcases List.mem_append.mp member with earlier | final
        · exact List.mem_map.mpr ⟨entry, earlier, if_neg different⟩
        · -- the last entry stands where the removed one stood
          obtain ⟨old, among, named⟩ := List.mem_map.mp ((contains_iff_mem_keys entries key).mp present)
          rw [← List.dropLast_append_getLast? last ends] at among
          rcases List.mem_append.mp among with earlier | own
          · exact List.mem_map.mpr ⟨old, earlier, by rw [if_pos named, List.mem_singleton.mp final]⟩
          · exact absurd (List.mem_singleton.mp own ▸ named) other
    · rwa [List.dropLast_append_getLast? last ends] at member

theorem find?_swapRemove_of_ne {entries : Assoc α} {key other : String} {value : α} (distinct : (keys entries).Nodup)
    (different : other ≠ key) (found : find? entries other = some value) :
    find? (swapRemove entries key) other = some value :=
  find?_of_mem (nodup_keys_swapRemove key distinct) (mem_swapRemove_of_ne (mem_of_find? found) different)

theorem find?_foldl_insertNew (added entries : Assoc α) (key : String) :
    find? (added.foldl (fun table entry => insertNew table entry.1 entry.2) entries) key =
      (find? entries key).or (find? added key) := by
  induction added generalizing entries with
  | nil => simp
  | cons entry rest ih =>
      obtain ⟨name, value⟩ := entry
      rw [List.foldl_cons, ih, find?_insertNew, Option.or_assoc]
      congr 1
      by_cases same : name = key <;> simp [find?, same]

/-- A table that entries are written to one by one has no others. -/
theorem mem_foldl {write : Assoc α → String → α → Assoc α}
    (mem_write : ∀ entries key value entry, entry ∈ write entries key value → entry ∈ entries ∨ entry = (key, value))
    {added entries : Assoc α} {entry : String × α}
    (member : entry ∈ added.foldl (fun table entry => write table entry.1 entry.2) entries) :
    entry ∈ entries ∨ entry ∈ added := by
  induction added generalizing entries with
  | nil => exact .inl member
  | cons first rest ih =>
      rcases ih member with earlier | later
      · rcases mem_write _ _ _ _ earlier with old | rfl
        · exact .inl old
        · exact .inr List.mem_cons_self
      · exact .inr (List.mem_cons_of_mem _ later)

theorem mem_foldl_insertNew {added entries : Assoc α} {entry : String × α}
    (member : entry ∈ added.foldl (fun table entry => insertNew table entry.1 entry.2) entries) :
    entry ∈ entries ∨ entry ∈ added :=
  mem_foldl (fun _ _ _ _ => mem_insertNew) member

theorem mem_of_mem_ofList {pairs : List (String × α)} {entry : String × α} (member : entry ∈ ofList pairs) :
    entry ∈ pairs :=
  (mem_foldl (fun _ _ _ _ => mem_insert) member).resolve_left List.not_mem_nil

theorem nodup_keys_ofList (pairs : List (String × α)) : (keys (ofList pairs)).Nodup := by
  have kept (table : Assoc α) (distinct : (keys table).Nodup) :
      (keys (pairs.foldl (fun table pair => insert table pair.1 pair.2) table)).Nodup := by
    induction pairs generalizing table with
    | nil => exact distinct
    | cons pair rest ih => exact ih _ (nodup_keys_insert pair.2 distinct)
  exact kept [] List.nodup_nil

theorem insert_of_notMem {entries : Assoc α} {key : String} (value : α) (fresh : key ∉ keys entries) :
    insert entries key value = entries ++ [(key, value)] := by
  induction entries with
  | nil => rfl
  | cons entry rest ih =>
      obtain ⟨different, freshRest⟩ := not_or.mp (mt List.mem_cons.mpr fresh)
      rw [insert, if_neg (Ne.symm different), ih freshRest]
      rfl

theorem ofList_of_nodup {entries : Assoc α} (distinct : (keys entries).Nodup) : ofList entries = entries := by
  have kept (table added : Assoc α) (distinct : (keys (table ++ added)).Nodup) :
      added.foldl (fun table entry => insert table entry.1 entry.2) table = table ++ added := by
    induction added generalizing table with
    | nil => simp
    | cons entry rest ih =>
        have fresh : entry.1 ∉ keys table := by
          intro member
          rw [keys, List.map_append] at distinct
          exact (List.nodup_append.mp distinct).2.2 _ member entry.1 List.mem_cons_self rfl
        rw [List.foldl_cons, insert_of_notMem entry.2 fresh, ih]
        · simp
        · simpa using distinct
  exact kept [] entries distinct

theorem find?_eq_none_iff {entries : Assoc α} {key : String} : find? entries key = none ↔ key ∉ keys entries := by
  rw [← contains_iff_mem_keys, contains, Bool.not_eq_true, Option.isSome_eq_false_iff, Option.isNone_iff_eq_none]

theorem find?_of_perm {first second : Assoc α} (perm : first.Perm second) (distinct : (keys first).Nodup) (key : String) :
    find? first key = find? second key := by
  have distinctToo : (keys second).Nodup := (perm.map Prod.fst).nodup_iff.mp distinct
  cases found : find? second key with
  | some value => exact find?_of_mem distinct (perm.mem_iff.mpr (mem_of_find? found))
  | none =>
      refine Option.eq_none_iff_forall_ne_some.mpr ?_
      intro value other
      cases found.symm.trans (find?_of_mem distinctToo (perm.mem_iff.mp (mem_of_find? other)))

end ApiContract.Assoc
