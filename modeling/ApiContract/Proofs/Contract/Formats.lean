import ApiContract.Format
import ApiContract.Json.Literal
import ApiContract.Proofs.Binary64

/-!
The integer formats. `integer_formats`: of the numbers, `int32` accepts the integers of its range, whatever their
representation, and `int64` every integer, those beyond its range too.
-/

namespace ApiContract

open Json (Value Number Literal)

namespace Json.Number

def value : Number → ℚ
  | .int n => n
  | .float x => x.value

def Fits : Number → Prop
  | .int n => minInt ≤ n ∧ n ≤ maxInt
  | .float _ => True

instance (number : Number) : Decidable number.Fits := by
  cases number <;> unfold Fits <;> infer_instance

def IsInteger (number : Number) : Prop := ∃ k : ℤ, number.value = k

def IsIntegerWithin (number : Number) (least greatest : ℤ) : Prop :=
  ∃ k : ℤ, number.value = k ∧ least ≤ k ∧ k ≤ greatest

theorem value_int_eq_iff {n k : ℤ} : (Number.int n).value = k ↔ n = k :=
  Int.cast_inj

theorem fits_of_literal {text : List Char} {number : Number} (read : Number.ofLiteral? text = some number) :
    number.Fits := by
  unfold Number.ofLiteral? at read
  obtain ⟨literal, -, read⟩ := Option.bind_eq_some_iff.mp read
  have float (read : literal.toFloat?.map Number.float = some number) : number.Fits := by
    obtain ⟨x, -, rfl⟩ := Option.map_eq_some_iff.mp read
    trivial
  unfold Literal.toNumber? at read
  split at read
  next =>
    dsimp only at read
    split at read
    next =>
      split at read
      next bounds =>
        cases read
        obtain ⟨above, below⟩ := bounds
        simp only [Nat.pow_eq] at below
        simp only [Fits, minInt, maxInt]
        omega
      next => exact float read
    next =>
      split at read
      next below =>
        cases read
        simp only [Nat.pow_eq] at below
        simp only [Fits, minInt, maxInt]
        omega
      next => exact float read
  next => exact float read

theorem isIntegral_iff (number : Number) : number.isIntegral ↔ number.IsInteger := by
  cases number with
  | int n => exact iff_of_true rfl ⟨n, rfl⟩
  | float x => exact x.isIntegral_iff

theorem isIntegerWithin_iff (number : Number) (least greatest : ℤ) :
    number.IsIntegerWithin least greatest ↔ number.IsInteger ∧ least ≤ number.value ∧ number.value ≤ greatest := by
  constructor
  · rintro ⟨k, denotes, above, below⟩
    refine ⟨⟨k, denotes⟩, ?_⟩
    rw [denotes]
    exact ⟨Int.cast_le.mpr above, Int.cast_le.mpr below⟩
  · rintro ⟨⟨k, denotes⟩, above, below⟩
    rw [denotes] at above below
    exact ⟨k, denotes, Int.cast_le.mp above, Int.cast_le.mp below⟩

/-- The nearest floating-point number lies on the same side of a bound of up to 53 bits. -/
theorem nearest_sides {number : Number} (fits : number.Fits) (bound : ℤ) (small : bound.natAbs < 2 ^ 53) :
    ((bound : ℚ) ≤ number.toBinary64.value ↔ bound ≤ number.value) ∧
      (number.toBinary64.value ≤ bound ↔ number.value ≤ bound) := by
  cases number with
  | float x => exact ⟨Iff.rfl, Iff.rfl⟩
  | int n =>
      have bits : n.natAbs < 2 ^ 64 := by
        simp only [Fits, minInt, maxInt] at fits
        omega
      simp only [value, Int.cast_le]
      exact Binary64.value_ofInt_sides bits small

end Json.Number

namespace Format

theorem isInt32_iff {number : Number} (fits : number.Fits) :
    isInt32 number ↔ number.IsIntegerWithin (-2 ^ 31) (2 ^ 31 - 1) := by
  have least := (Number.nearest_sides fits (-2147483648) (by decide)).1
  have greatest := (Number.nearest_sides fits 2147483647 (by decide)).2
  have bounds : ((-2 : ℤ) ^ 31 = -2147483648) ∧ (2 : ℤ) ^ 31 - 1 = 2147483647 := by decide
  rw [Number.isIntegerWithin_iff]
  simp only [isInt32, Bool.and_eq_true, Number.isIntegral_iff, Binary64.le_value_iff, Binary64.value_le_iff, least,
    greatest, bounds, and_assoc]
  norm_num

theorem int64_isInteger (number : Number) : (ofName "int64").accepts (.number number) ↔ number.IsInteger :=
  number.isIntegral_iff

/-- For `int64` the law of the range fails for exactly the integers that are out of it. -/
theorem integer_formats (value : Value) (fits : ∀ number, value = .number number → number.Fits) :
    (∀ number, value = .number number →
      ((ofName "int32").accepts value ↔ number.IsIntegerWithin (-2 ^ 31) (2 ^ 31 - 1)) ∧
      ((ofName "int64").accepts value ↔ number.IsInteger) ∧
      (((ofName "int64").accepts value ↔ number.IsIntegerWithin (-2 ^ 63) (2 ^ 63 - 1)) ↔
        ∀ k : ℤ, number.value = k → -2 ^ 63 ≤ k ∧ k ≤ 2 ^ 63 - 1)) ∧
    ((∀ number, value ≠ .number number) → (ofName "int32").accepts value ∧ (ofName "int64").accepts value) := by
  constructor
  · rintro number rfl
    refine ⟨isInt32_iff (fits number rfl), int64_isInteger number, ?_⟩
    rw [int64_isInteger]
    constructor
    · intro law k denotes
      obtain ⟨other, same, bounds⟩ := law.mp ⟨k, denotes⟩
      have : k = other := by exact_mod_cast denotes.symm.trans same
      exact this ▸ bounds
    · intro inside
      constructor
      · rintro ⟨k, denotes⟩
        exact ⟨k, denotes, inside k denotes⟩
      · rintro ⟨k, denotes, -⟩
        exact ⟨k, denotes⟩
  · intro other
    cases value with
    | number number => exact absurd rfl (other number)
    | null | bool | string | array | object => exact ⟨rfl, rfl⟩

/-- The greatest unsigned integer is too great for `int32` and is taken by `int64`, as the law of its range is not. -/
theorem integer_formats_maxInt :
    (ofName "int32").accepts (.number (.int Number.maxInt)) = false ∧
      (ofName "int64").accepts (.number (.int Number.maxInt)) = true ∧
      (ofName "int64").accepts (.string "18446744073709551615") = true := by
  have fits number (same : Value.number (.int Number.maxInt) = .number number) : number.Fits := by
    cases same
    decide
  obtain ⟨int32, int64, -⟩ := (integer_formats (.number (.int Number.maxInt)) fits).1 _ rfl
  have others := (integer_formats (.string "18446744073709551615") (by simp)).2 (by simp)
  refine ⟨?_, int64.mpr ⟨Number.maxInt, rfl⟩, others.2⟩
  rw [Bool.eq_false_iff, ne_eq, int32]
  rintro ⟨k, denotes, -, below⟩
  obtain rfl := Number.value_int_eq_iff.mp denotes
  exact absurd below (by decide)

theorem int64_beyond_range :
    ¬((ofName "int64").accepts (.number (.int 9223372036854775808)) ↔
      (Number.int 9223372036854775808).IsIntegerWithin (-2 ^ 63) (2 ^ 63 - 1)) := by
  intro law
  obtain ⟨k, denotes, -, below⟩ := law.mp rfl
  obtain rfl := Number.value_int_eq_iff.mp denotes
  exact absurd below (by decide)

end Format

end ApiContract
