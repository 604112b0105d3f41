import Mathlib.Order.FixedPoints
import ApiContract.Proofs.Assoc
import ApiContract.Proofs.Evaluation.Answer

/-!
What clauses mean, without places, marks or an order of visits: the rules that a relation between
clauses and values may be closed under, and the greatest relation that is (`Valid`).
-/

namespace ApiContract

open Json (Value)

/-- A list of mutabilities goes before the read-only flag. -/
def Access.permits (access : Access) (direction : Direction) : Bool :=
  let written := match access.mutability, direction with
    | some mutability, .request => mutability.inRequest
    | some mutability, .response => mutability.inResponse
    | none, .request => !access.readOnly
    | none, .response => true
  written && !(access.secret && direction.isResponse)

namespace Validator

namespace Clause

def Permits (clause : Clause) (direction : Direction) (value : Value) : Prop :=
  value.isNull = true ∨ clause.access.permits direction = true

/-- The value is listed, or the list is open and does not have it in another case. -/
def Lists (clause : Clause) (value : Value) : Prop :=
  ∀ listed, clause.enumValues = some listed →
    (∃ entry ∈ listed, entry.same value = true) ∨
    clause.enumAsString = true ∧
      ∀ text other, value = .string text → .string other ∈ listed → sameIgnoringCase other text = false

/-- The value is one that the enum, the format and the checks accept. -/
structure Suits (clause : Clause) (value : Value) : Prop where
  listed : clause.Lists value
  formatted : ∀ format, clause.format = some format → format.accepts value = true
  checked : ∀ check ∈ clause.checks, check.accepts value = true

/-- A key whose value the response may leave out. -/
def MayLack (clause : Clause) (clauses : Array Clause) (direction : Direction) (key : String) : Prop :=
  direction = .response ∧
    ∃ child, clause.property? key = some child ∧ (clauses.getD child {}).access.unreadable = true

/-- The keys are those that the clause asks for. -/
structure Keyed (clause : Clause) (clauses : Array Clause) (direction : Direction)
    (entries : Assoc Value) : Prop where
  required : ∀ key ∈ clause.required, key ∈ Assoc.keys entries ∨ clause.MayLack clauses direction key
  dependent : ∀ rule ∈ clause.dependencies, rule.1 ∈ Assoc.keys entries →
    ∀ name ∈ rule.2, name ∈ Assoc.keys entries

def Distinct (clause : Clause) (items : List Value) : Prop :=
  clause.uniqueItems = true → items.Pairwise fun earlier later => later.same earlier = false

/-- Where neither clause says what is asked of undeclared keys, the chosen one declares all keys, unless
the root declares none. -/
def Closes (root chosen : Clause) (entries : Assoc Value) : Prop :=
  ∀ declared, chosen.properties = some declared → chosen.undeclared = none → root.undeclared = none →
    root.properties.getD [] ≠ [] → ∀ key ∈ Assoc.keys entries, key ∈ Assoc.keys declared

end Clause

/-- Which values are accepted by which clauses. -/
abbrev Relation := Nat → Value → Prop

section

variable (clauses : Array Clause) (direction : Direction) (accepted routed : Relation)

/-- The variant that the tag of an object names accepts it, and closure holds for the clause chosen. -/
def Dispatches (accepted : Relation) : Relation := fun index value =>
  ∀ dispatch entries, (clauses.getD index {}).dispatch = some dispatch → value = .object entries →
    match Clause.variant? dispatch entries with
    | some chosen =>
        accepted chosen value ∧ (clauses.getD index {}).Closes (clauses.getD chosen {}) entries
    | none => (clauses.getD index {}).Closes (clauses.getD index {}) entries

/-- What a clause asks of a value of its type. -/
structure Meets (clause : Clause) (value : Value) : Prop where
  suits : clause.Suits value
  keyed : ∀ entries, value = .object entries → clause.Keyed clauses direction entries
  members : ∀ entries, value = .object entries → ∀ entry ∈ entries,
    clause.forbids entry.1 = false ∧ ∀ child, clause.clauseFor? entry.1 = some child → accepted child entry.2
  items : ∀ elements, value = .array elements → clause.Distinct elements ∧
    ∀ child, clause.items = some child → ∀ element ∈ elements, accepted child element
  allOf : ∀ branch ∈ clause.allOf, accepted branch value
  anyOf : clause.anyOf = [] ∨ ∃ branch ∈ clause.anyOf, accepted branch value

/-- The rules for one clause and one value, for given answers to what they ask about others. -/
inductive Rule : Relation
  | null {index value} : (clauses.getD index {}).admitsNull value = true → Rule index value
  | excused {index value} : (clauses.getD index {}).Permits direction value →
      (clauses.getD index {}).admitsType value = false →
      (clauses.getD index {}).excuses direction value = true → Rule index value
  | met {index value} : (clauses.getD index {}).Permits direction value →
      (clauses.getD index {}).admitsType value = true →
      Meets clauses direction accepted (clauses.getD index {}) value → routed index value →
      Rule index value

end

variable {clauses : Array Clause} {direction : Direction} {accepted more routed moreRouted : Relation}

theorem Dispatches.mono (weaker : accepted ≤ more) : Dispatches clauses accepted ≤ Dispatches clauses more := by
  intro index value dispatches dispatch entries routes object
  have found := dispatches dispatch entries routes object
  rcases tagged : Clause.variant? dispatch entries with _ | chosen
  · rw [tagged] at found
    exact found
  · rw [tagged] at found
    exact ⟨weaker chosen value found.1, found.2⟩

theorem Meets.mono (weaker : accepted ≤ more) {clause : Clause} {value : Value}
    (meets : Meets clauses direction accepted clause value) : Meets clauses direction more clause value where
  suits := meets.suits
  keyed := meets.keyed
  members entries object entry member :=
    ⟨(meets.members entries object entry member).1,
      fun child found => weaker child _ ((meets.members entries object entry member).2 child found)⟩
  items elements array :=
    ⟨(meets.items elements array).1,
      fun child found element member => weaker child _ ((meets.items elements array).2 child found element member)⟩
  allOf branch member := weaker branch value (meets.allOf branch member)
  anyOf := meets.anyOf.imp id fun ⟨branch, member, accepts⟩ => ⟨branch, member, weaker branch value accepts⟩

theorem Rule.mono (weaker : accepted ≤ more) (weakerRouted : routed ≤ moreRouted) :
    Rule clauses direction accepted routed ≤ Rule clauses direction more moreRouted := by
  intro index value rule
  cases rule with
  | null null => exact .null null
  | excused permits mistyped excuses => exact .excused permits mistyped excuses
  | met permits typed meets routes => exact .met permits typed (meets.mono weaker) (weakerRouted _ _ routes)

/-- The rules, with what dispatch leads to taken as given. -/
def rulesGiven (clauses : Array Clause) (direction : Direction) (routed : Relation) : Relation →o Relation where
  toFun accepted := Rule clauses direction accepted routed
  monotone' _ _ weaker := Rule.mono weaker le_rfl

def rules (clauses : Array Clause) (direction : Direction) : Relation →o Relation where
  toFun accepted := Rule clauses direction accepted (Dispatches clauses accepted)
  monotone' _ _ weaker := Rule.mono weaker (Dispatches.mono weaker)

/-- The greatest relation that is closed under the rules. -/
def Valid (clauses : Array Clause) (direction : Direction) : Relation := (rules clauses direction).gfp

/-- Coinduction: a relation whose pairs all follow by the rules holds of valid pairs only. -/
theorem Valid.of_closed (closed : ∀ index value, accepted index value →
    Rule clauses direction accepted (Dispatches clauses accepted) index value) :
    accepted ≤ Valid clauses direction :=
  (rules clauses direction).le_gfp closed

theorem Valid.rule {index : Nat} {value : Value} (valid : Valid clauses direction index value) :
    Rule clauses direction (Valid clauses direction) (Dispatches clauses (Valid clauses direction)) index
      value := by
  have fixed := (rules clauses direction).map_gfp
  rw [Valid, ← fixed] at valid
  exact valid

/-! ## No failures -/

namespace Clause

variable (clause : Clause) (direction : Direction) (value : Value) (path : String)

theorem denials_eq_nil_iff : clause.denials direction value path = [] ↔ clause.Permits direction value := by
  unfold denials Permits
  cases null : value.isNull with
  | true => simp
  | false =>
      simp only [accessFailures, Access.permits, Bool.false_eq_true, if_false, false_or,
        List.append_eq_nil_iff]
      rcases clause.access.mutability with _ | mutability <;> cases direction <;>
        simp [Direction.isResponse]

theorem mistypedFailures_eq_nil_iff :
    clause.mistypedFailures direction value path = [] ↔ clause.excuses direction value = true := by
  simp [mistypedFailures, typeFailures]

omit clause direction path in
/-- The value is a text, and a text of the list is the same in some case. -/
theorem otherCase_iff (listed : List Value) :
    (value.asString?.any fun text => (listed.filterMap Value.asString?).any (sameIgnoringCase · text)) = true ↔
      ∃ text other, value = .string text ∧ .string other ∈ listed ∧ sameIgnoringCase other text = true := by
  cases value with
  | string text =>
      simp only [Value.asString?, Option.any_some, List.any_eq_true, List.mem_filterMap, Value.string.injEq]
      constructor
      · rintro ⟨other, ⟨entry, member, named⟩, same⟩
        cases entry <;> cases named
        exact ⟨text, other, rfl, member, same⟩
      · rintro ⟨_, other, rfl, member, same⟩
        exact ⟨other, ⟨.string other, member, rfl⟩, same⟩
  | null | bool flag | number n | array items | object entries => simp [Value.asString?]

theorem enumFailures_eq_nil_iff : clause.enumFailures value path = [] ↔ clause.Lists value := by
  unfold enumFailures Lists
  rcases clause.enumValues with _ | listed
  · simp
  · have otherCase : (value.asString?.any fun text =>
        (listed.filterMap Value.asString?).any (sameIgnoringCase · text)) = false ↔
        ∀ text other, value = .string text → .string other ∈ listed →
          sameIgnoringCase other text = false := by
      rw [Bool.eq_false_iff, ne_eq, otherCase_iff]
      simp only [not_exists, not_and, Bool.not_eq_true]
    simp only [Option.some.injEq, forall_eq', ← otherCase]
    generalize (value.asString?.any fun text =>
      (listed.filterMap Value.asString?).any (sameIgnoringCase · text)) = mismatch
    by_cases found : (listed.any fun entry => entry.same value) = true
    · simp [found, List.any_eq_true.mp found]
    · have absent : ¬∃ entry ∈ listed, entry.same value = true := mt List.any_eq_true.mpr found
      simp only [found, absent, false_or]
      cases mismatch <;> cases clause.enumAsString <;> simp

theorem scalarFailures_eq_nil_iff : clause.scalarFailures value path = [] ↔ clause.Suits value := by
  have formatted : clause.formatFailures value path = [] ↔
      ∀ format, clause.format = some format → format.accepts value = true := by
    unfold formatFailures
    rcases clause.format with _ | format <;> simp
  have checked : clause.checkFailures value path = [] ↔
      ∀ check ∈ clause.checks, check.accepts value = true := by
    simp [checkFailures]
  rw [scalarFailures, List.append_eq_nil_iff, List.append_eq_nil_iff, enumFailures_eq_nil_iff, formatted,
    checked]
  constructor
  · rintro ⟨⟨listed, formatted⟩, checked⟩
    exact ⟨listed, formatted, checked⟩
  · intro suits
    exact ⟨⟨suits.listed, suits.formatted⟩, suits.checked⟩

theorem keyed_iff (clauses : Array Clause) (entries : Assoc Value) :
    clause.requiredFailures clauses direction entries path = [] ∧
        clause.dependencyFailures entries path = [] ↔
      clause.Keyed clauses direction entries := by
  have lacks (key : String) : (direction.isResponse && (clause.property? key).any fun child =>
      (clauses.getD child {}).access.unreadable) = true ↔ clause.MayLack clauses direction key := by
    unfold MayLack
    rw [Bool.and_eq_true, Option.any_eq_true]
    cases direction <;> simp [Direction.isResponse]
  have required : clause.requiredFailures clauses direction entries path = [] ↔ ∀ key ∈ clause.required,
      key ∈ Assoc.keys entries ∨ clause.MayLack clauses direction key := by
    simp only [requiredFailures, List.map_eq_nil_iff, List.filter_eq_nil_iff, ← lacks,
      ← Assoc.contains_iff_mem_keys]
    refine forall₂_congr fun key _ => ?_
    rw [Bool.and_eq_true, not_and_or, Bool.not_eq_true', Bool.not_eq_true', Bool.not_eq_false,
      Bool.not_eq_false]
  have dependent : clause.dependencyFailures entries path = [] ↔ ∀ rule ∈ clause.dependencies,
      rule.1 ∈ Assoc.keys entries → ∀ name ∈ rule.2, name ∈ Assoc.keys entries := by
    simp [dependencyFailures, ← Assoc.contains_iff_mem_keys]
  rw [required, dependent]
  exact ⟨fun ⟨required, dependent⟩ => ⟨required, dependent⟩, fun keyed => ⟨keyed.required, keyed.dependent⟩⟩

theorem lastRepeat?_eq_none_iff (items : List Value) :
    lastRepeat? items = none ↔ items.Pairwise fun earlier later => later.same earlier = false := by
  simp only [lastRepeat?, List.findSome?_eq_none_iff, List.mem_reverse, Option.map_eq_none_iff,
    List.find?_eq_none, Bool.not_eq_true, Prod.forall, List.mem_zipIdx_iff_getElem?]
  rw [List.pairwise_iff_getElem]
  constructor
  · intro none first second firstBound secondBound before
    refine none items[second] second (List.getElem?_eq_getElem secondBound) items[first] first ?_
    rw [List.getElem?_take_of_lt before, List.getElem?_eq_getElem firstBound]
  · intro distinct item position found earlier first foundEarlier
    obtain ⟨bound, rfl⟩ := List.getElem?_eq_some_iff.mp found
    obtain ⟨firstBound, rfl⟩ := List.getElem?_eq_some_iff.mp foundEarlier
    rw [List.length_take] at firstBound
    rw [List.getElem_take]
    exact distinct first position (by omega) bound (by omega)

theorem uniqueFailures_eq_nil_iff (items : List Value) :
    clause.uniqueFailures items path = [] ↔ clause.Distinct items := by
  unfold uniqueFailures Distinct
  rw [← lastRepeat?_eq_none_iff]
  cases clause.uniqueItems <;> cases lastRepeat? items <;> simp

theorem insideFailures_eq_nil_iff (clauses : Array Clause) (visited : List Failure) :
    clause.insideFailures clauses direction value path visited = [] ↔
      visited = [] ∧ (∀ entries, value = .object entries → clause.Keyed clauses direction entries) ∧
        ∀ elements, value = .array elements → clause.Distinct elements := by
  cases value with
  | object entries =>
      simp only [insideFailures, List.append_eq_nil_iff, keyed_iff, Value.object.injEq, forall_eq',
        reduceCtorEq, false_implies, implies_true, and_true]
      exact and_comm
  | array elements =>
      simp only [insideFailures, List.append_eq_nil_iff, uniqueFailures_eq_nil_iff, Value.array.injEq,
        forall_eq', reduceCtorEq, false_implies, implies_true, true_and]
  | null | bool flag | number n | string text => simp [insideFailures]

theorem closureFailures_eq_nil_iff (chosen : Clause) (entries : Assoc Value) :
    clause.closureFailures chosen entries path = [] ↔ clause.Closes chosen entries := by
  unfold closureFailures Closes
  rcases chosen.properties with _ | declared
  · simp
  · simp only [Option.some.injEq, forall_eq', ← Assoc.contains_iff_mem_keys declared]
    rcases chosen.undeclared with _ | others
    · rcases clause.undeclared with _ | others
      · by_cases bare : clause.properties.getD [] = []
        · simp [bare]
        · simp [bare]
      · simp
    · simp

end Clause

end Validator

end ApiContract
