import Mathlib.Data.List.TakeWhile
import ApiContract.Text.Segments
import ApiContract.Unicode.Classes

/-!
Parts of texts: what stands before a separator, what a text contains, and what is left of it without the white space at
its ends.
-/

namespace ApiContract

namespace Text

theorem headD_split (separator : Char) (text : List Char) :
    (split separator text).headD [] = text.takeWhile (· ≠ separator) := by
  induction text with
  | nil => rfl
  | cons c rest ih =>
      rw [split, List.takeWhile_cons]
      split
      next same => simp [same]
      next other =>
        rw [if_pos (by simpa using other), ← ih]
        split
        next none => exact absurd none (split_ne_nil separator rest)
        next piece pieces listed => rw [listed, List.headD_cons, List.headD_cons]

theorem contains_iff_isInfix (mark text : List Char) : contains mark text ↔ mark <:+: text := by
  unfold contains
  induction text with
  | nil => by_cases empty : mark = [] <;> simp [cutAt?, empty]
  | cons c rest ih =>
      rw [cutAt?, List.infix_cons_iff]
      split
      next starts => simp [List.isPrefixOf_iff_prefix.mp starts]
      next differs =>
        have absent : ¬mark <+: c :: rest := fun starts => differs (List.isPrefixOf_iff_prefix.mpr starts)
        rw [Option.isSome_map, ih, or_iff_right absent]

end Text

namespace Unicode

theorem readNumbers_eq (lines : List String) : readNumbers lines =
    (lines.foldl (fun state (line : String) => line.toList.foldl NumberReading.read state) {}).numbers.reverse := by
  simp only [readNumbers, String.foldl_eq_foldl_toList]

theorem blanks_eq : blanks = .ofBoundaries #[9, 14, 32, 33, 133, 134, 160, 161, 5760, 5761, 8192, 8203, 8232, 8234, 8239,
    8240, 8287, 8288, 12288, 12289] := by
  rw [blanks, CodePointSet.ofLines, readNumbers_eq]
  decide +kernel

theorem trim_isInfix (text : String) : (trim text).toList <:+: text.toList := by
  have front := (List.dropWhile_suffix isBlank (l := text.toList)).isInfix
  have back := List.dropWhile_suffix isBlank (l := (text.toList.dropWhile isBlank).reverse)
  rw [← List.reverse_prefix, List.reverse_reverse] at back
  rw [trim, String.toList_ofList]
  exact back.isInfix.trans front

/-- The visible characters of ASCII are no white space. -/
theorem isBlank_of_visible {c : Char} (visible : 32 < c.toNat ∧ c.toNat < 127) : isBlank c = false := by
  have each : ∀ code < 127, 32 < code → blanks.containsCode code = false := by
    rw [blanks_eq]
    decide +kernel
  exact each c.toNat visible.2 visible.1

/-- All characters of the text are visible ones of ASCII. -/
def isVisible (text : String) : Bool := text.toList.all fun c => 32 < c.toNat && c.toNat < 127

theorem trim_of_visible {text : String} (visible : isVisible text = true) : trim text = text := by
  have kept {chars : List Char} (among : ∀ c ∈ chars, c ∈ text.toList) : chars.dropWhile isBlank = chars := by
    cases chars with
    | nil => rfl
    | cons c rest =>
        have range := List.all_eq_true.mp visible c (among c List.mem_cons_self)
        rw [Bool.and_eq_true, decide_eq_true_eq, decide_eq_true_eq] at range
        have plain := isBlank_of_visible range
        rw [List.dropWhile_cons, plain, if_neg Bool.false_ne_true]
  rw [trim, kept fun _ => id, kept fun c member => List.mem_reverse.mp member, List.reverse_reverse,
    String.ofList_toList]

end Unicode

end ApiContract
