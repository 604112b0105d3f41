import Mathlib.Data.List.Forall2
import ApiContract.Operation.Assembly
import ApiContract.Proofs.Assoc
import ApiContract.Proofs.Unicode.Case

/-!
What coercion makes of values (`changes_iff`), and that slots of values are read the same again (`coerce_coerce`) and in
whatever order the coercions come (`inOrder_eq_coerce`).
-/

namespace ApiContract

open Json (Value Number)

namespace Coercion

variable {coercion : Coercion} {value read : Value} {text : String}

/-- A text that is written as a value of the type. -/
inductive Writes : Coercion → String → Value → Prop where
  | number {text : String} {number : Number} (written : Number.ofLiteral? (Unicode.trim text).toList = some number) :
      Writes .number text (.number number)
  | true {text : String} (written : text.toList.map Char.toLower = "true".toList) : Writes .boolean text (.bool true)
  | false {text : String} (written : text.toList.map Char.toLower = "false".toList) : Writes .boolean text (.bool false)

/-- A text that is written as a value becomes this value, and all else stays as it is. -/
inductive Reads (coercion : Coercion) : Value → Value → Prop where
  | text {text : String} {value : Value} (writes : coercion.Writes text value) : Reads coercion (.string text) value
  | other {value : Value} (plain : ∀ text read, value = .string text → ¬coercion.Writes text read) :
      Reads coercion value value

/-- Texts are read where they stand by themselves or as items of an array. -/
inductive Changes (coercion : Coercion) : Value → Value → Prop where
  | single {value read : Value} (single : ∀ items, value ≠ .array items) (reads : coercion.Reads value read) :
      Changes coercion value read
  | items {before after : List Value} (reads : List.Forall₂ coercion.Reads before after) :
      Changes coercion (.array before) (.array after)

theorem Writes.read_eq (writes : coercion.Writes text value) : coercion.read text = value := by
  cases writes with
  | number written => rw [read, written]
  | true written | false written =>
      rw [read, written]
      rfl

theorem read_cases (coercion : Coercion) (text : String) :
    coercion.Writes text (coercion.read text) ∨
      coercion.read text = .string text ∧ ∀ value, ¬coercion.Writes text value := by
  cases coercion with
  | number =>
      rw [read]
      split
      next number written => exact .inl (.number written)
      next unwritten =>
        refine .inr ⟨rfl, ?_⟩
        intro value writes
        cases writes with
        | number written => cases unwritten.symm.trans written
  | boolean =>
      have spelled {word : String} (same : String.ofList (text.toList.map Char.toLower) = word) :
          text.toList.map Char.toLower = word.toList := by
        rw [← same, String.toList_ofList]
      rw [read]
      split
      next same => exact .inl (.true (spelled same))
      next same => exact .inl (.false (spelled same))
      next notTrue notFalse =>
        refine .inr ⟨rfl, ?_⟩
        intro value writes
        cases writes with
        | true written => exact notTrue (by rw [written, String.ofList_toList])
        | false written => exact notFalse (by rw [written, String.ofList_toList])

theorem reads_iff : coercion.Reads value read ↔ read = coercion.readString value := by
  constructor
  · intro reads
    cases reads with
    | text writes => exact writes.read_eq.symm
    | other plain =>
        cases value with
        | string text =>
            rcases coercion.read_cases text with writes | ⟨same, _⟩
            · exact absurd writes (plain text _ rfl)
            · exact same.symm
        | null | bool | number | array | object => rfl
  · rintro rfl
    cases value with
    | string text =>
        rcases coercion.read_cases text with writes | ⟨same, unwritten⟩
        · exact .text writes
        · rw [readString, same]
          refine .other ?_
          rintro _ read ⟨⟩
          exact unwritten read
    | null | bool | number | array | object => exact .other fun _ _ none => nomatch none

theorem forall₂_reads_iff {before after : List Value} :
    List.Forall₂ coercion.Reads before after ↔ after = before.map coercion.readString := by
  constructor
  · intro reads
    induction reads with
    | nil => rfl
    | cons head _ ih => rw [List.map_cons, reads_iff.mp head, ih]
  · rintro rfl
    exact List.forall₂_map_right_iff.mpr (List.forall₂_same.mpr fun value _ => reads_iff.mpr rfl)

theorem changes_iff : coercion.Changes value read ↔ read = coercion.apply value := by
  cases value with
  | array items =>
      rw [apply]
      constructor
      · rintro (⟨single, _⟩ | reads)
        · exact absurd rfl (single items)
        · rw [forall₂_reads_iff.mp reads]
      · rintro rfl
        exact .items (forall₂_reads_iff.mpr rfl)
  | null | bool | number | string | object =>
      constructor
      · rintro ⟨_, reads⟩
        exact reads_iff.mp reads
      · intro same
        exact .single (fun _ => nofun) (reads_iff.mpr same)

theorem read_settled (coercion : Coercion) (text : String) :
    coercion.readString (coercion.read text) = coercion.read text ∧
      coercion.apply (coercion.read text) = coercion.read text := by
  rcases coercion.read_cases text with writes | ⟨same, _⟩
  · generalize coercion.read text = read at writes
    cases writes <;> exact ⟨rfl, rfl⟩
  · rw [same, readString, apply, same]
    exact ⟨rfl, rfl⟩

theorem apply_apply (coercion : Coercion) (value : Value) : coercion.apply (coercion.apply value) = coercion.apply value := by
  cases value with
  | string text => exact (coercion.read_settled text).2
  | array items =>
      rw [apply, apply, List.map_map]
      congr 1
      refine List.map_congr_left ?_
      intro value _
      cases value with
      | string text => exact (coercion.read_settled text).1
      | null | bool | number | array | object => rfl
  | null | bool | number | object => rfl

def table (tables : Assoc (Assoc Coercion)) (slot : String) : Assoc Coercion :=
  (Assoc.find? tables slot).getD []

/-- Reads the values of a slot by one coercion after the other. -/
def inOrder (order : Assoc Coercion) (values : Assoc Value) : Assoc Value :=
  order.foldl (fun values entry => Assoc.modify values entry.1 entry.2.apply) values

end Coercion

namespace MessageValidator

variable {validator : MessageValidator} {slot : String} {values : Assoc Value}

theorem keys_coerce (validator : MessageValidator) (slot : String) (values : Assoc Value) :
    Assoc.keys (validator.coerce slot values) = Assoc.keys values := by
  rw [coerce, Assoc.keys, Assoc.keys, List.map_map]
  refine List.map_congr_left ?_
  intro entry _
  rw [Function.comp_apply]
  split <;> rfl

theorem coerce_coerce (validator : MessageValidator) (slot : String) (values : Assoc Value) :
    validator.coerce slot (validator.coerce slot values) = validator.coerce slot values := by
  rw [coerce, coerce, List.map_map]
  refine List.map_congr_left ?_
  intro entry _
  rw [Function.comp_apply]
  cases found : Assoc.find? ((Assoc.find? validator.coercions slot).getD []) entry.1 with
  | none => simp [found]
  | some coercion => simp [found, coercion.apply_apply]

/-- The coercions of a slot may come in any order. -/
theorem inOrder_eq_coerce (distinct : (Assoc.keys (Coercion.table validator.coercions slot)).Nodup)
    {order : Assoc Coercion} (perm : order.Perm (Coercion.table validator.coercions slot)) (values : Assoc Value) :
    Coercion.inOrder order values = validator.coerce slot values := by
  have looked (name : String) : Assoc.find? (Coercion.table validator.coercions slot) name = Assoc.find? order name :=
    (Assoc.find?_of_perm perm ((perm.map Prod.fst).nodup_iff.mpr distinct) name).symm
  have distinct : (Assoc.keys order).Nodup := (perm.map Prod.fst).nodup_iff.mpr distinct
  have each : validator.coerce slot values = values.map fun entry =>
      (Assoc.find? order entry.1).elim entry fun coercion => (entry.1, coercion.apply entry.2) := by
    refine List.map_congr_left ?_
    intro entry _
    rw [← looked, Coercion.table]
    split
    next found => rw [found, Option.elim_some]
    next absent => rw [absent, Option.elim_none]
  rw [each, Coercion.inOrder]
  clear looked each perm
  induction order generalizing values with
  | nil => simp
  | cons first rest ih =>
      obtain ⟨name, coercion⟩ := first
      obtain ⟨fresh, distinctRest⟩ := List.nodup_cons.mp distinct
      rw [List.foldl_cons, ih _ distinctRest, Assoc.modify, List.map_map]
      refine List.map_congr_left ?_
      intro entry _
      rw [Function.comp_apply]
      by_cases same : entry.1 = name
      · have once : Assoc.find? rest entry.1 = none := by
          rw [Assoc.find?_eq_none_iff, same]
          exact fresh
        simp [Assoc.find?, same, same ▸ once]
      · simp [Assoc.find?, same, Ne.symm same]

end MessageValidator

theorem lowerKeys_lowered {headers : Assoc Value} (distinct : (Assoc.keys headers).Nodup)
    (lowered : ∀ name ∈ Assoc.keys headers, Unicode.lower name = name) : lowerKeys headers = headers := by
  have same : headers.map (fun entry => (Unicode.lower entry.1, entry.2)) = headers := by
    refine (List.map_congr_left ?_).trans (List.map_id headers)
    intro entry member
    rw [lowered _ (List.mem_map_of_mem member)]
    rfl
  rw [lowerKeys, same, Assoc.ofList_of_nodup distinct]

theorem nodup_keys_lowerKeys (headers : Assoc Value) : (Assoc.keys (lowerKeys headers)).Nodup :=
  Assoc.nodup_keys_ofList _

theorem lower_of_mem_lowerKeys {headers : Assoc Value} {name : String} (member : name ∈ Assoc.keys (lowerKeys headers)) :
    Unicode.lower name = name := by
  obtain ⟨entry, among, rfl⟩ := List.mem_map.mp member
  obtain ⟨header, _, rfl⟩ := List.mem_map.mp (Assoc.mem_of_mem_ofList among)
  exact Unicode.lower_lower header.1

end ApiContract
