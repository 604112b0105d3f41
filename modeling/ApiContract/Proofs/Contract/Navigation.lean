import ApiContract.Proofs.Json.Parts
import ApiContract.Proofs.Json.Route

/-!
Pointers lead back to what they were built for. Escaping is two replacements, one after the other, and unescaping is the
two opposite ones; each pair does in one pass what the model does (`Pointer.escapeChars_eq`, `Pointer.unescapeChars_eq`).
A pointer that is built step by step from the start of a document is followed to where the steps lead
(`pointers_lead_back`), unless the first step is to the empty key: the slash in front of it is all that spells it, and
slashes at the start only say that the pointer starts (`empty_key_passed_over`).
-/

namespace ApiContract

open Json (Value)

namespace Text

/-- Writes another text for a mark, once some characters are passed; an occurrence starts after the one before it. -/
def replaceAfter (mark other : List Char) : Nat → List Char → List Char
  | _, [] => []
  | passed + 1, _ :: rest => replaceAfter mark other passed rest
  | 0, c :: rest =>
      if mark.isPrefixOf (c :: rest) then other ++ replaceAfter mark other (mark.length - 1) rest
      else c :: replaceAfter mark other 0 rest

def replace (mark other text : List Char) : List Char := replaceAfter mark other 0 text

theorem replace_cons_of_apart {mark : List Char} {c : Char} {text : List Char} (other : List Char)
    (differs : ¬mark <+: c :: text) : replace mark other (c :: text) = c :: replace mark other text := by
  rw [replace, replaceAfter, if_neg fun starts => differs (List.isPrefixOf_iff_prefix.mp starts), replace]

/-- A mark of one character is looked for in every one. -/
theorem replace_singleton (mark : Char) (other text : List Char) :
    replace [mark] other text = text.flatMap fun c => if c = mark then other else [c] := by
  induction text with
  | nil => rfl
  | cons c rest ih =>
      rw [List.flatMap_cons]
      by_cases same : c = mark
      · rw [if_pos same, ← ih, same]
        simp [replace, replaceAfter]
      · rw [if_neg same, ← ih]
        refine replace_cons_of_apart other fun starts => same ?_
        exact (List.cons_prefix_cons.mp starts).1.symm

theorem replace_pair (first second : Char) (other text : List Char) :
    replace [first, second] other (first :: second :: text) = other ++ replace [first, second] other text := by
  simp [replace, replaceAfter]

theorem pair_apart {first second c : Char} {text : List Char} (differs : c = first → text.head? ≠ some second) :
    ¬[first, second] <+: c :: text := by
  intro starts
  obtain ⟨same, rest⟩ := List.cons_prefix_cons.mp starts
  obtain ⟨later, whole⟩ := rest
  exact differs same.symm (by rw [← whole]; rfl)

/-- What a text starts with after a mark of two characters was replaced. -/
theorem head?_replace_pair {first second : Char} {other text : List Char} :
    (replace [first, second] other text).head? =
      if [first, second] <+: text then (other ++ replace [first, second] other (text.drop 2)).head? else text.head? := by
  cases text with
  | nil => rfl
  | cons c rest =>
      split
      next starts =>
        obtain ⟨later, whole⟩ := starts
        rw [← whole]
        exact congrArg List.head? (replace_pair first second other later)
      next differs => rw [replace_cons_of_apart other differs, List.head?_cons, List.head?_cons]

end Text

namespace Pointer

theorem escapeChars_eq (text : List Char) :
    escapeChars text = Text.replace ['/'] ['~', '1'] (Text.replace ['~'] ['~', '0'] text) := by
  rw [Text.replace_singleton, Text.replace_singleton, List.flatMap_assoc, escapeChars]
  refine List.flatMap_congr fun c _ => ?_
  by_cases tilde : c = '~'
  · subst tilde
    decide
  · simp [escapeChar, tilde]

theorem unescapeChars_eq (text : List Char) :
    unescapeChars text = Text.replace ['~', '0'] ['~'] (Text.replace ['~', '1'] ['/'] text) := by
  fun_induction unescapeChars text with
  | case1 rest ih =>
      have slash : Text.replace ['~', '1'] ['/'] ('~' :: '1' :: rest) = '/' :: Text.replace ['~', '1'] ['/'] rest :=
        Text.replace_pair _ _ _ _
      rw [slash, ih, Text.replace_cons_of_apart]
      exact Text.pair_apart fun absurd => by cases absurd
  | case2 rest ih =>
      have kept : Text.replace ['~', '1'] ['/'] ('~' :: '0' :: rest) =
          '~' :: '0' :: Text.replace ['~', '1'] ['/'] rest := by
        rw [Text.replace_cons_of_apart, Text.replace_cons_of_apart]
        · exact Text.pair_apart fun absurd => by cases absurd
        · exact Text.pair_apart fun _ same => by cases same
      rw [kept, Text.replace_pair, ih, List.singleton_append]
  | case3 c rest slash tilde ih =>
      have kept : Text.replace ['~', '1'] ['/'] (c :: rest) = c :: Text.replace ['~', '1'] ['/'] rest := by
        refine Text.replace_cons_of_apart _ (Text.pair_apart fun same starts => ?_)
        obtain ⟨later, whole⟩ := List.head?_eq_some_iff.mp starts
        exact slash later same whole
      rw [kept, ih, Text.replace_cons_of_apart]
      -- No zero comes to stand behind a tilde: what the first replacement writes is a slash.
      refine Text.pair_apart fun same starts => ?_
      rw [Text.head?_replace_pair] at starts
      split at starts
      · cases starts
      · obtain ⟨later, whole⟩ := List.head?_eq_some_iff.mp starts
        exact tilde later same whole
  | case4 => rfl

end Pointer

namespace Turn

theorem holds_of_take? {turn : Turn} {value inner : Value} (taken : turn.take? value = some inner) : value.Holds inner := by
  cases turn with
  | key name =>
      cases value with
      | object entries => exact .entry (Assoc.mem_of_find? taken)
      | null | bool flag | number n | string text | array items => cases taken
  | position index =>
      cases value with
      | array items => exact .item (List.mem_of_getElem? taken)
      | null | bool flag | number n | string text | object entries => cases taken

/-- A step is taken under its text, if a position is a machine word. -/
theorem step?_text {turn : Turn} {value inner : Value} (taken : turn.take? value = some inner)
    (words : ∀ items, value = .array items → items.length ≤ Nat.pow 2 64) : value.step? turn.text = some inner := by
  cases turn with
  | key name =>
      cases value with
      | object entries => exact taken
      | null | bool flag | number n | string text | array items => cases taken
  | position index =>
      cases value with
      | array items =>
          have below : index < Nat.pow 2 64 :=
            Nat.lt_of_lt_of_le (List.getElem?_eq_some_iff.mp taken).1 (words items rfl)
          rw [text, Value.step?, Pointer.position?_repr, if_pos below]
          exact taken
      | null | bool flag | number n | string text | object entries => cases taken

end Turn

/-- The arrays in a value are no longer than machine words can count. -/
def Json.Value.FitsMemory (value : Value) : Prop := ∀ items, .array items ∈ value.parts → items.length ≤ Nat.pow 2 64

namespace Route

/-- The texts of its steps lead where a route leads. -/
theorem follow?_of_walk? {route : Route} {value inner : Value} (fits : value.FitsMemory)
    (walked : route.walk? value = some inner) : value.follow? (route.map Turn.text) = some inner := by
  induction route generalizing value with
  | nil =>
      cases walked
      rfl
  | cons turn rest ih =>
      rw [walk?, List.foldlM_cons] at walked
      obtain ⟨next, taken, onward⟩ := Option.bind_eq_some_iff.mp walked
      have stepped : value.step? turn.text = some next :=
        turn.step?_text taken fun items same => fits items (same ▸ Value.mem_parts_self value)
      have fitsNext : next.FitsMemory := fun items inside =>
        fits items (Value.mem_parts_iff.mpr (.head (turn.holds_of_take? taken) (Value.mem_parts_iff.mp inside)))
      rw [List.map_cons, Value.follow?, stepped, Option.bind_some]
      exact ih fitsNext onward

end Route

namespace Pointer

/-- A number sign in front of a pointer says nothing more. -/
theorem segments_number_sign (pointer : String) : segments ("#" ++ pointer) = segments pointer := by
  have opening : ("#" ++ pointer).toList.dropWhile (· = '#') = pointer.toList.dropWhile (· = '#') := by simp
  rw [segments, segments, opening]

/-- Escaping is two replacements and unescaping the opposite two, which give back every key. From the start of a document,
a pointer that was built step by step with escaped keys and positions leads where the steps lead, if the first step is
not to the empty key. -/
theorem pointers_lead_back :
    (∀ key, escape key = String.ofList (Text.replace ['/'] ['~', '1'] (Text.replace ['~'] ['~', '0'] key.toList))) ∧
      (∀ segment, unescape segment =
        String.ofList (Text.replace ['~', '0'] ['~'] (Text.replace ['~', '1'] ['/'] segment.toList))) ∧
      (∀ key, unescape (escape key) = key) ∧
      ∀ (document : Value) (route : Route) (inner : Value), document.FitsMemory → route.IsProper →
        route.walk? document = some inner → document.at? ("#" ++ route.spell) = some inner := by
  refine ⟨fun key => ?_, fun segment => ?_, unescape_escape, fun document route inner fits proper walked => ?_⟩
  · rw [escape, escapeChars_eq]
  · rw [unescape, unescapeChars_eq]
  · rw [Value.at?, segments_number_sign, Route.segments_spell proper]
    exact Route.follow?_of_walk? fits walked

/-- Keys with slashes and tildes, some of which look escaped, and an empty one further down. -/
def cabinet : Value :=
  .object [("a/b", .array [.null, .object [("~1", .object [("", .string "found")])]]), ("~01", .bool true)]

theorem cabinet_fits : cabinet.FitsMemory := by
  have lengths : ∀ part ∈ cabinet.parts, (part.asArray?.getD []).length ≤ 2 := by decide +kernel
  intro items inside
  exact Nat.le_trans (lengths _ inside) (by decide)

theorem cabinet_leads_back : cabinet.FitsMemory ∧ Route.IsProper [.key "a/b", .position 1, .key "~1", .key ""] ∧
    Route.walk? [.key "a/b", .position 1, .key "~1", .key ""] cabinet = some (.string "found") ∧
    "#" ++ Route.spell [.key "a/b", .position 1, .key "~1", .key ""] = "#/a~1b/1/~01/" ∧
    cabinet.at? ("#" ++ Route.spell [.key "a/b", .position 1, .key "~1", .key ""]) = some (.string "found") := by
  have proper : Route.IsProper [.key "a/b", .position 1, .key "~1", .key ""] := by simp [Route.IsProper]
  exact ⟨cabinet_fits, proper, rfl, by decide +kernel, pointers_lead_back.2.2.2 cabinet _ _ cabinet_fits proper rfl⟩

/-- The pointer to the value under the empty key of a document leads to the whole document. -/
theorem empty_key_passed_over : (Value.object [("", .string "inner")]).FitsMemory ∧
    Route.walk? [.key ""] (.object [("", .string "inner")]) = some (.string "inner") ∧
    "#" ++ Route.spell [.key ""] = "#/" ∧
    (Value.object [("", .string "inner")]).at? ("#" ++ Route.spell [.key ""]) ≠ some (.string "inner") ∧
    (Value.object [("", .string "inner")]).at? ("#" ++ Route.spell [.key ""]) =
      some (.object [("", .string "inner")]) := by
  have whole : (Value.object [("", .string "inner")]).at? ("#" ++ Route.spell [.key ""]) =
      some (.object [("", .string "inner")]) := rfl
  refine ⟨fun items inside => ?_, rfl, by decide +kernel, fun same => ?_, whole⟩
  · simp [Value.parts, Value.partsOfEntries] at inside
  · cases whole.symm.trans same

end Pointer

end ApiContract
