import ApiContract.Unicode.Case

/-!
Lower case. A text in lower case stays as it is when it is put into lower case again (`lower_lower`), and
the letters of ASCII come from letters of ASCII, two of them apart (`lowerFrom_eq_iff`).
-/

namespace ApiContract.Unicode

variable {rows : Array CaseRow} {code : Nat} {before chars after text : List Char} {c d : Char}

/-- A character that no row covers stays as it is. -/
theorem mapCase_cases (rows : Array CaseRow) (code : Nat) :
    (mapCase rows code = code ∧ ∀ row ∈ rows, row.covers code = false) ∨
      ∃ row ∈ rows, row.covers code = true ∧ mapCase rows code = (code + row.distance).toNat := by
  unfold mapCase
  split
  next row found =>
    have covers := Array.find?_some found
    exact .inr ⟨row, Array.mem_of_find?_eq_some found, covers, rfl⟩
  next none =>
    refine .inl ⟨rfl, ?_⟩
    intro row listed
    simpa using Array.find?_eq_none.mp none row listed

theorem mapCase_of_uncovered (uncovered : ∀ row ∈ rows, row.covers code = false) : mapCase rows code = code := by
  rcases mapCase_cases rows code with ⟨same, _⟩ | ⟨row, listed, covers, _⟩
  · exact same
  · rw [uncovered row listed] at covers
    cases covers

/-- No character from `low` to `high` is covered by the row; `double` says that only every second one counts. -/
def CaseRow.misses (low high : Nat) (double : Bool) (row : CaseRow) : Bool :=
  match Nat.ble row.first high, Nat.ble low row.last with
  | true, true => double && row.step == 2 && (low + row.first) % 2 == 1
  | _, _ => true

/-- The row leads to characters that stay as they are, of which only the letter k is one of ASCII. -/
def CaseRow.settles (row : CaseRow) (low : Nat) : Bool :=
  let high := low + (row.last - row.first)
  (128 ≤ low || (low == 107 && high == 107)) && (high < 0x130 || 0x130 < low) && (high < 0x3A3 || 0x3A3 < low) &&
    (high < 0xD800 || (0xE000 ≤ low && high < 0x110000)) &&
    lowerRows.toList.all (misses low high (row.step == 2 || row.first == row.last))

/-- Rows beyond ASCII lead to characters in lower case. -/
def CaseRow.leadsDown (row : CaseRow) : Bool :=
  match row.first + row.distance with
  | .ofNat low => row.settles low
  | .negSucc _ => false

theorem lowerRows_leadDown : (lowerRows.toList.all fun row => row.last < 128 || row.leadsDown) = true := by
  decide +kernel

theorem CaseRow.covers_eq_false {row other : CaseRow} {low code : Nat}
    (misses : other.misses low (low + (row.last - row.first)) (row.step == 2 || row.first == row.last) = true)
    (covers : row.covers code = true) : other.covers (low + (code - row.first)) = false := by
  simp only [CaseRow.covers, Bool.and_eq_true, decide_eq_true_eq, beq_iff_eq] at covers
  obtain ⟨⟨above, below⟩, stepped⟩ := covers
  apply Bool.eq_false_iff.mpr
  intro covered
  simp only [CaseRow.covers, Bool.and_eq_true, decide_eq_true_eq, beq_iff_eq] at covered
  obtain ⟨⟨aboveToo, belowToo⟩, steppedToo⟩ := covered
  have early : Nat.ble other.first (low + (row.last - row.first)) = true := Nat.ble_eq.mpr (by omega)
  have late : Nat.ble low other.last = true := Nat.ble_eq.mpr (by omega)
  simp only [CaseRow.misses, early, late, Bool.and_eq_true, Bool.or_eq_true, beq_iff_eq] at misses
  obtain ⟨⟨double | single, doubleToo⟩, odd⟩ := misses
  · rw [double] at stepped
    rw [doubleToo] at steppedToo
    omega
  · rw [doubleToo] at steppedToo
    omega

theorem mapCase_lowerRows (beyond : 128 ≤ code) (covered : ∃ row ∈ lowerRows, row.covers code = true) :
    let lower := mapCase lowerRows code
    lower.isValidChar ∧ (lower < 128 → lower = 107) ∧ lower ≠ 0x130 ∧ lower ≠ 0x3A3 ∧ mapCase lowerRows lower = lower := by
  intro lower
  rcases mapCase_cases lowerRows code with ⟨_, uncovered⟩ | ⟨row, listed, covers, same⟩
  · obtain ⟨row, listed, covers⟩ := covered
    rw [uncovered row listed] at covers
    cases covers
  have checked := List.all_eq_true.mp lowerRows_leadDown row (Array.mem_toList_iff.mpr listed)
  have inside := covers
  simp only [CaseRow.covers, Bool.and_eq_true, decide_eq_true_eq] at inside
  have early : ¬row.last < 128 := by omega
  rw [Bool.or_eq_true, decide_eq_true_eq, or_iff_right early] at checked
  unfold CaseRow.leadsDown at checked
  split at checked
  next low start =>
    simp only [CaseRow.settles, Bool.and_eq_true, Bool.or_eq_true, decide_eq_true_eq, beq_iff_eq,
      List.all_eq_true] at checked
    obtain ⟨⟨⟨⟨small, dotted⟩, sigma⟩, valid⟩, misses⟩ := checked
    have place : lower = low + (code - row.first) := by
      change mapCase lowerRows code = _
      rw [same]
      rw [Int.ofNat_eq_natCast] at start
      omega
    refine ⟨?_, ?_, ?_, ?_, ?_⟩
    · unfold Nat.isValidChar
      omega
    · omega
    · omega
    · omega
    · rw [place]
      refine mapCase_of_uncovered ?_
      intro other listedToo
      exact CaseRow.covers_eq_false (misses other (Array.mem_toList_iff.mpr listedToo)) covers
  · cases checked

/-- The small sigmas and the dot above have no lower-case form of their own. -/
theorem mapCase_of_mark : ∀ code ∈ [0x307, 0x3C2, 0x3C3], mapCase lowerRows code = code := by
  have uncovered : ([0x307, 0x3C2, 0x3C3].all fun code => lowerRows.toList.all fun row => !row.covers code) = true := by
    decide +kernel
  intro code listed
  refine mapCase_of_uncovered ?_
  intro row among
  have checked := List.all_eq_true.mp (List.all_eq_true.mp uncovered code listed) row (Array.mem_toList_iff.mpr among)
  simpa using checked

theorem toLower_ascii : ∀ code < 128, (Char.ofNat code).toLower.toNat < 128 ∧
    (Char.ofNat code).toLower.toLower = (Char.ofNat code).toLower := by
  decide +kernel

theorem toLower_of_ascii (ascii : c.toNat < 128) : c.toLower.toNat < 128 ∧ c.toLower.toLower = c.toLower := by
  have checked := toLower_ascii c.toNat ascii
  rwa [Char.ofNat_toNat] at checked

theorem toLower_of_beyond (beyond : 128 ≤ c.toNat) : c.toLower = c := by
  refine dif_neg ?_
  rintro ⟨_, below⟩
  have bound : c.toNat ≤ 90 := UInt32.le_iff_toNat_le.mp below
  omega

/-- The character is in lower case, wherever it stands. -/
def IsLowered (c : Char) : Prop := ∀ before after, lowerChar before c after = [c]

theorem isLowered_of_ascii (ascii : c.toNat < 128) (settled : c.toLower = c) : IsLowered c := by
  intro before after
  rw [lowerChar, if_pos ascii, settled]

theorem isLowered_of_beyond (beyond : 128 ≤ c.toNat) (dotted : c.toNat ≠ 0x130) (sigma : c.toNat ≠ 0x3A3)
    (settled : mapCase lowerRows c.toNat = c.toNat) : IsLowered c := by
  intro before after
  rw [lowerChar, if_neg (Nat.not_lt.mpr beyond), if_neg dotted, if_neg sigma, settled, Char.ofNat_toNat]

theorem isLowered_of_mark {code : Nat} (listed : code ∈ [0x307, 0x3C2, 0x3C3]) :
    IsLowered (Char.ofNat code) ∧ 128 ≤ (Char.ofNat code).toNat := by
  have plain : ∀ code ∈ [0x307, 0x3C2, 0x3C3], (Char.ofNat code).toNat = code ∧ 128 ≤ code ∧ code ≠ 0x130 ∧
      code ≠ 0x3A3 := by decide
  obtain ⟨same, beyond, undotted, unsigma⟩ := plain code listed
  have settled := mapCase_of_mark code listed
  refine ⟨isLowered_of_beyond ?_ ?_ ?_ ?_, ?_⟩
  all_goals rwa [same]

/-- What a single character comes to: its ASCII form, a letter i or k, or characters beyond ASCII. -/
theorem lowerChar_cases (before : List Char) (c : Char) (after : List Char) :
    (c.toNat < 128 ∧ lowerChar before c after = [c.toLower]) ∨
      128 ≤ c.toNat ∧ lowerChar before c after ≠ [] ∧
        ∀ d ∈ lowerChar before c after, IsLowered d ∧ (d.toNat < 128 → d = 'i' ∨ d = 'k') := by
  by_cases ascii : c.toNat < 128
  · exact .inl ⟨ascii, by rw [lowerChar, if_pos ascii]⟩
  have beyond : 128 ≤ c.toNat := Nat.le_of_not_lt ascii
  refine .inr ⟨beyond, ?_⟩
  rw [lowerChar, if_neg ascii]
  by_cases dotted : c.toNat = 0x130
  · obtain ⟨lowered, mark⟩ := isLowered_of_mark (show 0x307 ∈ [0x307, 0x3C2, 0x3C3] by decide)
    rw [if_pos dotted]
    simp only [ne_eq, reduceCtorEq, not_false_eq_true, List.forall_mem_cons, true_and]
    refine ⟨⟨isLowered_of_ascii (by decide) (by decide), fun _ => .inl trivial⟩, ⟨lowered, ?_⟩, fun _ none => nomatch none⟩
    exact fun small => absurd small (Nat.not_lt.mpr mark)
  rw [if_neg dotted]
  by_cases sigma : c.toNat = 0x3A3
  · obtain ⟨code, listed, same⟩ : ∃ code ∈ [0x307, 0x3C2, 0x3C3],
        (if isFinalSigma before after then [Char.ofNat 0x3C2] else [Char.ofNat 0x3C3]) = [Char.ofNat code] := by
      split
      · exact ⟨0x3C2, by decide, rfl⟩
      · exact ⟨0x3C3, by decide, rfl⟩
    obtain ⟨lowered, small⟩ := isLowered_of_mark listed
    rw [if_pos sigma, same]
    refine ⟨List.cons_ne_nil _ _, ?_⟩
    intro d member
    rw [List.mem_singleton.mp member]
    exact ⟨lowered, fun ascii => absurd ascii (Nat.not_lt.mpr small)⟩
  rw [if_neg sigma]
  refine ⟨List.cons_ne_nil _ _, ?_⟩
  intro d member
  rw [List.mem_singleton.mp member]
  rcases mapCase_cases lowerRows c.toNat with ⟨same, _⟩ | ⟨row, listed, covers, _⟩
  · rw [same, Char.ofNat_toNat]
    exact ⟨isLowered_of_beyond beyond dotted sigma same, fun small => absurd small ascii⟩
  · obtain ⟨valid, letter, undotted, unsigma, settled⟩ := mapCase_lowerRows beyond ⟨row, listed, covers⟩
    generalize mapCase lowerRows c.toNat = lower at valid letter undotted unsigma settled
    have code : (Char.ofNat lower).toNat = lower := by
      rw [Char.ofNat, dif_pos valid]
      rfl
    by_cases small : lower < 128
    · rw [letter small]
      exact ⟨isLowered_of_ascii (by decide) (by decide), fun _ => .inr rfl⟩
    · rw [code]
      refine ⟨isLowered_of_beyond ?_ ?_ ?_ ?_, fun absurdly => absurd absurdly small⟩
      all_goals rw [code]
      · exact Nat.le_of_not_lt small
      · exact undotted
      · exact unsigma
      · exact settled

theorem isLowered_of_mem_lowerChar (member : d ∈ lowerChar before c after) : IsLowered d := by
  rcases lowerChar_cases before c after with ⟨ascii, same⟩ | ⟨_, _, all⟩
  · rw [same, List.mem_singleton] at member
    obtain ⟨small, settled⟩ := toLower_of_ascii ascii
    rw [member]
    exact isLowered_of_ascii small settled
  · exact (all d member).1

theorem isLowered_of_mem_lowerFrom (member : d ∈ lowerFrom before chars) : IsLowered d := by
  induction chars generalizing before with
  | nil => cases member
  | cons c rest ih =>
      rcases List.mem_append.mp member with own | later
      · exact isLowered_of_mem_lowerChar own
      · exact ih later

theorem lowerFrom_of_isLowered (lowered : ∀ d ∈ chars, IsLowered d) : lowerFrom before chars = chars := by
  induction chars generalizing before with
  | nil => rfl
  | cons c rest ih =>
      rw [lowerFrom, lowered c List.mem_cons_self, ih fun d member => lowered d (List.mem_cons_of_mem _ member)]
      rfl

theorem lower_lower (text : String) : lower (lower text) = lower text := by
  have settled : lowerFrom [] (lowerFrom [] text.toList) = lowerFrom [] text.toList :=
    lowerFrom_of_isLowered fun d member => isLowered_of_mem_lowerFrom member
  rw [lower, lower, String.toList_ofList, settled]

/-- A text of ASCII without the letters i and k is the lower-case form of texts of ASCII alone. -/
theorem lowerFrom_eq_iff (plain : ∀ d ∈ text, d.toNat < 128 ∧ d ≠ 'i' ∧ d ≠ 'k') :
    lowerFrom before chars = text ↔ chars.map Char.toLower = text := by
  induction chars generalizing before text with
  | nil => exact Iff.rfl
  | cons c rest ih =>
      rw [lowerFrom, List.map_cons]
      rcases lowerChar_cases before c rest with ⟨_, same⟩ | ⟨beyond, some, all⟩
      · rw [same, List.singleton_append]
        cases text with
        | nil => simp
        | cons head tail =>
            rw [List.cons.injEq, List.cons.injEq, ih fun d member => plain d (List.mem_cons_of_mem _ member)]
      · constructor
        · intro same
          obtain ⟨first, own⟩ := List.exists_mem_of_ne_nil _ some
          have among : first ∈ text := by
            rw [← same]
            exact List.mem_append_left _ own
          obtain ⟨ascii, noI, noK⟩ := plain first among
          exact absurd ((all first own).2 ascii) (not_or.mpr ⟨noI, noK⟩)
        · intro same
          have among : c ∈ text := by simp [← same, toLower_of_beyond beyond]
          exact absurd (plain c among).1 (Nat.not_lt.mpr beyond)

end ApiContract.Unicode
