import Mathlib.Data.List.Induction
import ApiContract.Proofs.Assoc
import ApiContract.Proofs.Json.Place
import ApiContract.DocumentSet

/-!
Routes into values. A pointer navigates by segments, and different pointers may navigate the same way: number signs and
slashes at its start count once, and a position of an array may have a plus sign or zeros before it. Each route has one
spelling that is the pointer built step by step (`Route.segments_spell`, `Value.route?_eq_of_walk`).
-/

namespace ApiContract

open Json (Value)

namespace Text

theorem split_of_notMem {separator : Char} {piece : List Char} (free : separator ∉ piece) :
    split separator piece = [piece] := by
  induction piece with
  | nil => rfl
  | cons c rest ih =>
      have other : c ≠ separator := fun same => free (same ▸ List.mem_cons_self)
      rw [split, if_neg other, ih fun member => free (List.mem_cons_of_mem _ member)]

theorem split_append_cons {separator : Char} {piece : List Char} (free : separator ∉ piece) (rest : List Char) :
    split separator (piece ++ separator :: rest) = piece :: split separator rest := by
  induction piece with
  | nil => simp [split]
  | cons c piece ih =>
      have other : c ≠ separator := fun same => free (same ▸ List.mem_cons_self)
      rw [List.cons_append, split, if_neg other, ih fun member => free (List.mem_cons_of_mem _ member)]

theorem split_append (separator : Char) (front back : List Char) :
    split separator (front ++ separator :: back) = split separator front ++ split separator back := by
  induction front with
  | nil => simp [split]
  | cons c front ih =>
      rw [List.cons_append, split, split, ih]
      split
      · rfl
      · cases pieces : split separator front with
        | nil => exact absurd pieces (split_ne_nil separator front)
        | cons piece more => rfl

theorem length_split (separator : Char) (text : List Char) :
    (split separator text).length = text.count separator + 1 := by
  induction text with
  | nil => rfl
  | cons c rest ih =>
      rw [split]
      split
      next same => simp [same, ih]
      next other =>
        split
        next absurd => exact (split_ne_nil separator rest absurd).elim
        next piece pieces found =>
          rw [found] at ih
          simpa [other] using ih

end Text

namespace Pointer

theorem unescapeChars_of_notMem {text : List Char} (plain : '~' ∉ text) : unescapeChars text = text := by
  induction text with
  | nil => rfl
  | cons c rest ih =>
      have other : c ≠ '~' := fun same => plain (same ▸ List.mem_cons_self)
      rw [unescapeChars, ih fun member => plain (List.mem_cons_of_mem _ member)]
      · exact fun _ same => absurd same other
      · exact fun _ same => absurd same other

theorem tilde_notMem_repr (position : Nat) : '~' ∉ (Nat.repr position).toList := by
  intro member
  have digits : '~' ∈ Nat.toDigits 10 position := by simpa [Nat.repr] using member
  have digit := Nat.isDigit_of_mem_toDigits (by decide) (by decide) digits
  exact absurd digit (by decide)

/-- A position is read back from its digits, within 64 bits. -/
theorem position?_repr (index : Nat) : position? (Nat.repr index) = if index < Nat.pow 2 64 then some index else none := by
  have digits : (Nat.repr index).toList = Nat.toDigits 10 index := by simp [Nat.repr]
  have digit {c : Char} (member : c ∈ Nat.toDigits 10 index) : c.isDigit = true :=
    Nat.isDigit_of_mem_toDigits (by decide) (by decide) member
  have all : (Nat.toDigits 10 index).all Char.isDigit = true := List.all_eq_true.mpr fun _ => digit
  have value : (Nat.toDigits 10 index).foldl (fun total c => 10 * total + (c.toNat - 48)) 0 = index :=
    Nat.ofDigitChars_toDigits (by decide) (by decide)
  rw [position?, digits]
  split
  next rest signed => exact absurd (digit (signed ▸ List.mem_cons_self)) (by decide)
  · dsimp only
    rw [if_pos ⟨Nat.toDigits_ne_nil, all⟩, value]

end Pointer

/-- One step of a route. -/
inductive Turn where
  | key (name : String)
  | position (index : Nat)
deriving DecidableEq, Repr

namespace Turn

def text : Turn → String
  | key name => name
  | position index => Nat.repr index

def onto (pointer : String) : Turn → String
  | key name => Pointer.child pointer name
  | position index => Pointer.item pointer index

/-- What the step adds to a pointer, its slash apart. -/
def segment : Turn → List Char
  | key name => Pointer.escapeChars name.toList
  | position index => (Nat.repr index).toList

def take? : Turn → Value → Option Value
  | key name, .object entries => Assoc.find? entries name
  | position index, .array items => items[index]?
  | _, _ => none

theorem hasUniqueKeys_of_take? {turn : Turn} {value inner : Value} (taken : turn.take? value = some inner)
    (unique : value.hasUniqueKeys = true) : inner.hasUniqueKeys = true := by
  cases turn with
  | key name =>
      cases value with
      | object entries =>
          rw [Json.Value.hasUniqueKeys, Bool.and_eq_true] at unique
          exact Json.Value.hasUniqueKeys_of_mem_entries unique.2 (Assoc.mem_of_find? taken)
      | null | bool flag | number n | string text | array items => cases taken
  | position index =>
      cases value with
      | array items =>
          rw [Json.Value.hasUniqueKeys] at unique
          exact Json.Value.hasUniqueKeys_of_mem_items unique (List.mem_of_getElem? taken)
      | null | bool flag | number n | string text | object entries => cases taken

theorem toList_onto (pointer : String) (turn : Turn) :
    (turn.onto pointer).toList = pointer.toList ++ '/' :: turn.segment := by
  cases turn <;> simp [onto, segment, Pointer.child, Pointer.item, Pointer.escape]

theorem slash_notMem_segment (turn : Turn) : '/' ∉ turn.segment := by
  cases turn with
  | key name => exact Pointer.slash_notMem_escapeChars _
  | position index => exact Pointer.slash_notMem_repr _

theorem unescape_segment (turn : Turn) : String.ofList (Pointer.unescapeChars turn.segment) = turn.text := by
  cases turn with
  | key name => simp [segment, text, Pointer.unescapeChars_escapeChars]
  | position index =>
      rw [segment, Pointer.unescapeChars_of_notMem (Pointer.tilde_notMem_repr index), text, String.ofList_toList]

theorem segment_ne_nil {turn : Turn} (proper : turn ≠ .key "") : turn.segment ≠ [] := by
  intro empty
  have text := turn.unescape_segment
  rw [empty] at text
  cases turn with
  | key name => exact proper (congrArg Turn.key text.symm)
  | position index =>
      have digits : Nat.toDigits 10 index = [] := by
        rwa [segment, Nat.repr, String.toList_ofList] at empty
      exact Nat.toDigits_ne_nil digits

end Turn

/-- The steps from a whole value to one inside it. -/
abbrev Route := List Turn

namespace Route

def spell (route : Route) : String := route.foldl Turn.onto ""

/-- The first step is not to the empty key: the slash that would lead there is taken for a start. -/
def IsProper (route : Route) : Prop := route.head? ≠ some (.key "")

theorem spell_concat (route : Route) (turn : Turn) : spell (route ++ [turn]) = turn.onto (spell route) := by
  simp [spell]

theorem toList_spell (route : Route) : route.spell.toList = route.flatMap fun turn => '/' :: turn.segment := by
  induction route using List.reverseRecOn with
  | nil => rfl
  | append_singleton route turn ih => rw [spell_concat, Turn.toList_onto, ih]; simp

theorem split_spelled (turn : Turn) (rest : Route) :
    Text.split '/' (turn.segment ++ rest.flatMap fun turn => '/' :: turn.segment) =
      (turn :: rest).map Turn.segment := by
  induction rest generalizing turn with
  | nil => simpa using Text.split_of_notMem turn.slash_notMem_segment
  | cons next rest ih =>
      rw [List.flatMap_cons, List.cons_append, Text.split_append_cons turn.slash_notMem_segment, ih]
      rfl

theorem segments_spell {route : Route} (proper : route.IsProper) :
    Pointer.segments route.spell = route.map Turn.text := by
  cases route with
  | nil => rfl
  | cons turn rest =>
      have named : turn ≠ .key "" := fun same => proper (congrArg some same)
      obtain ⟨c, others, segment⟩ := List.exists_cons_of_ne_nil (Turn.segment_ne_nil named)
      have start : c ≠ '/' := by
        rintro rfl
        exact turn.slash_notMem_segment (segment ▸ List.mem_cons_self)
      have spelled : (spell (turn :: rest)).toList =
          '/' :: (turn.segment ++ rest.flatMap fun turn => '/' :: turn.segment) := by
        rw [toList_spell, List.flatMap_cons, List.cons_append]
      have opening : (spell (turn :: rest)).toList.dropWhile (· = '#') = (spell (turn :: rest)).toList := by
        rw [spelled]
        exact List.dropWhile_cons_of_neg (by decide)
      have path : (spell (turn :: rest)).toList.dropWhile (· = '/') =
          turn.segment ++ rest.flatMap fun turn => '/' :: turn.segment := by
        rw [spelled, List.dropWhile_cons_of_pos (by decide), segment, List.cons_append,
          List.dropWhile_cons_of_neg (by simpa using start)]
      have long : ¬((spell (turn :: rest)).toList = [] ∨ (spell (turn :: rest)).toList = ['/']) := by
        rw [spelled, segment]
        simp
      rw [Pointer.segments, opening, if_neg long, path, split_spelled, List.map_map]
      exact List.map_congr_left fun turn _ => turn.unescape_segment

theorem isProper_concat {route : Route} {turn : Turn} (proper : route.IsProper)
    (named : route.spell ≠ "" ∨ turn ≠ .key "") : (route ++ [turn]).IsProper := by
  cases route with
  | nil => exact fun starts => named.elim (fun long => long rfl) fun other => other (Option.some.inj starts)
  | cons first rest => exact proper

def walk? (route : Route) (value : Value) : Option Value := route.foldlM (fun inner turn => turn.take? inner) value

theorem walk?_concat (route : Route) (turn : Turn) (value : Value) :
    (route ++ [turn]).walk? value = (route.walk? value).bind turn.take? := by
  rw [walk?, List.foldlM_append, ← walk?]
  cases route.walk? value with
  | none => rfl
  | some inner => simp

theorem hasUniqueKeys_of_walk? {route : Route} {value inner : Value} (walked : route.walk? value = some inner)
    (unique : value.hasUniqueKeys = true) : inner.hasUniqueKeys = true := by
  induction route generalizing value with
  | nil =>
      cases walked
      exact unique
  | cons turn rest ih =>
      rw [walk?, List.foldlM_cons] at walked
      obtain ⟨next, taken, onward⟩ := Option.bind_eq_some_iff.mp walked
      exact ih onward (turn.hasUniqueKeys_of_take? taken unique)

end Route

namespace Json.Value

/-- The step that a segment of a pointer takes, and where it leads. -/
def turn? (value : Value) (segment : String) : Option (Turn × Value) :=
  match value with
  | .object entries => (Assoc.find? entries segment).map fun inner => (.key segment, inner)
  | .array items => (Pointer.position? segment).bind fun index => (items[index]?).map fun inner => (.position index, inner)
  | _ => none

/-- The route that segments of a pointer take, and where it leads. -/
def route? (value : Value) : List String → Option (Route × Value)
  | [] => some ([], value)
  | segment :: rest =>
      (value.turn? segment).bind fun first =>
        (first.2.route? rest).map fun later => (first.1 :: later.1, later.2)

theorem turn?_snd (value : Value) (segment : String) : (value.turn? segment).map Prod.snd = value.step? segment := by
  cases value with
  | object entries =>
      cases found : Assoc.find? entries segment <;> simp [turn?, step?, found]
  | array items =>
      cases found : Pointer.position? segment <;> simp [turn?, step?, found, Function.comp_def]
  | null | bool flag | number n | string text => rfl

theorem turn?_of_find? {value inner : Value} {key : String} (found : value.find? key = some inner) :
    value.turn? key = some (.key key, inner) := by
  cases value with
  | object entries =>
      rw [find?] at found
      rw [turn?, found, Option.map_some]
  | null | bool flag | number n | string text | array items => cases found

theorem route?_entry {value inner : Value} {above key : String} {entries : Assoc Value}
    (found : value.objectAt? above = some entries) (member : Assoc.find? entries key = some inner) :
    value.route? [above, key] = some ([.key above, .key key], inner) := by
  obtain ⟨table, held, object⟩ := Option.bind_eq_some_iff.mp found
  cases table with
  | object others =>
      cases object
      have entry : (Value.object entries).turn? key = some (.key key, inner) := turn?_of_find? member
      rw [route?, turn?_of_find? held, Option.bind_some, route?, entry]
      rfl
  | null | bool flag | number n | string text | array items => cases object

theorem route?_snd (value : Value) (segments : List String) :
    (value.route? segments).map Prod.snd = value.follow? segments := by
  induction segments generalizing value with
  | nil => rfl
  | cons segment rest ih =>
      rw [route?, follow?, ← turn?_snd]
      cases value.turn? segment with
      | none => rfl
      | some first => simpa [Function.comp_def] using ih first.2

theorem take?_of_turn? {value inner : Value} {segment : String} {turn : Turn}
    (taken : value.turn? segment = some (turn, inner)) : turn.take? value = some inner := by
  cases value with
  | object entries =>
      obtain ⟨_, found, same⟩ := Option.map_eq_some_iff.mp taken
      cases same
      exact found
  | array items =>
      obtain ⟨index, _, later⟩ := Option.bind_eq_some_iff.mp taken
      obtain ⟨_, found, same⟩ := Option.map_eq_some_iff.mp later
      cases same
      exact found
  | null | bool flag | number n | string text => cases taken

theorem walk?_of_route? {value inner : Value} {segments : List String} {route : Route}
    (found : value.route? segments = some (route, inner)) : route.walk? value = some inner := by
  induction segments generalizing value route with
  | nil =>
      cases found
      rfl
  | cons segment rest ih =>
      obtain ⟨⟨turn, next⟩, taken, later⟩ := Option.bind_eq_some_iff.mp found
      obtain ⟨⟨onward, last⟩, followed, same⟩ := Option.map_eq_some_iff.mp later
      cases same
      rw [Route.walk?, List.foldlM_cons, take?_of_turn? taken]
      exact ih followed

theorem turn?_text {value inner next : Value} {turn other : Turn} (taken : turn.take? value = some inner)
    (spelled : value.turn? turn.text = some (other, next)) : other = turn ∧ next = inner := by
  cases turn with
  | key name =>
      cases value with
      | object entries =>
          rw [Turn.take?] at taken
          rw [Turn.text, turn?, taken] at spelled
          cases spelled
          exact ⟨rfl, rfl⟩
      | null | bool flag | number n | string text | array items => cases taken
  | position index =>
      cases value with
      | array items =>
          rw [Turn.take?] at taken
          rw [Turn.text, turn?, Pointer.position?_repr] at spelled
          split at spelled
          · rw [Option.bind_some, taken] at spelled
            cases spelled
            exact ⟨rfl, rfl⟩
          · cases spelled
      | null | bool flag | number n | string text | object entries => cases taken

/-- The segments that spell a route take no other. -/
theorem route?_text {value inner last : Value} {route other : Route} (walked : route.walk? value = some inner)
    (spelled : value.route? (route.map Turn.text) = some (other, last)) : other = route ∧ last = inner := by
  induction route generalizing value other with
  | nil =>
      cases walked
      cases spelled
      exact ⟨rfl, rfl⟩
  | cons turn rest ih =>
      rw [Route.walk?, List.foldlM_cons] at walked
      obtain ⟨next, taken, onward⟩ := Option.bind_eq_some_iff.mp walked
      rw [List.map_cons, route?] at spelled
      obtain ⟨⟨first, middle⟩, turned, later⟩ := Option.bind_eq_some_iff.mp spelled
      obtain ⟨⟨onwardToo, _⟩, followed, same⟩ := Option.map_eq_some_iff.mp later
      cases same
      obtain ⟨rfl, rfl⟩ := turn?_text taken turned
      obtain ⟨rfl, rfl⟩ := ih onward followed
      exact ⟨rfl, rfl⟩

theorem length_of_route? {value inner : Value} {segments : List String} {route : Route}
    (found : value.route? segments = some (route, inner)) : route.length = segments.length := by
  induction segments generalizing value route with
  | nil =>
      cases found
      rfl
  | cons segment rest ih =>
      obtain ⟨⟨turn, next⟩, _, later⟩ := Option.bind_eq_some_iff.mp found
      obtain ⟨⟨onward, last⟩, followed, same⟩ := Option.map_eq_some_iff.mp later
      cases same
      exact congrArg Nat.succ (ih followed)

theorem route?_concat (value : Value) (segments : List String) (segment : String) :
    value.route? (segments ++ [segment]) = (value.route? segments).bind fun found =>
      (found.2.turn? segment).map fun last => (found.1 ++ [last.1], last.2) := by
  induction segments generalizing value with
  | nil =>
      rw [List.nil_append, route?, route?, Option.bind_some]
      cases value.turn? segment <;> rfl
  | cons first rest ih =>
      rw [List.cons_append, route?, route?]
      cases value.turn? first with
      | none => rfl
      | some step =>
          rw [Option.bind_some, Option.bind_some, ih]
          cases step.2.route? rest with
          | none => rfl
          | some found => cases turned : found.2.turn? segment <;> simp [turned]

end Json.Value

namespace Route

theorem count_slash (route : Route) : (route.flatMap fun turn => '/' :: turn.segment).count '/' = route.length := by
  induction route with
  | nil => rfl
  | cons turn rest ih =>
      simp [ih, List.count_eq_zero.mpr turn.slash_notMem_segment]

/-- A pointer that spells the route it takes does not start with the empty key: the slash of that key and the one after it
are both taken for the start, so that there are fewer segments than steps. -/
theorem isProper_of_route? {value inner : Value} {route : Route}
    (found : value.route? (Pointer.segments route.spell) = some (route, inner)) : route.IsProper := by
  intro starts
  have lengths := Json.Value.length_of_route? found
  have spelled := route.toList_spell
  rw [Pointer.segments] at lengths
  rcases route with _ | ⟨turn, _ | ⟨next, rest⟩⟩
  · cases starts
  · cases starts
    cases lengths
  · cases starts
    have chars : (spell (.key "" :: next :: rest)).toList =
        '/' :: '/' :: (next.segment ++ rest.flatMap fun turn => '/' :: turn.segment) := spelled
    have opening : (spell (.key "" :: next :: rest)).toList.dropWhile (· = '#') =
        (spell (.key "" :: next :: rest)).toList := by
      rw [chars]
      exact List.dropWhile_cons_of_neg (by decide)
    have slashes : (next.segment ++ rest.flatMap fun turn => '/' :: turn.segment).count '/' = rest.length := by
      rw [List.count_append, count_slash, List.count_eq_zero.mpr next.slash_notMem_segment, Nat.zero_add]
    have fewer : ((next.segment ++ rest.flatMap fun turn => '/' :: turn.segment).dropWhile (· = '/')).count '/' ≤
        rest.length :=
      Nat.le_trans ((List.dropWhile_sublist _).count_le _) (Nat.le_of_eq slashes)
    rw [opening, chars, if_neg (by simp), List.length_map, List.dropWhile_cons_of_pos (by decide),
      List.dropWhile_cons_of_pos (by decide), Text.length_split, List.length_cons, List.length_cons] at lengths
    omega

end Route

end ApiContract
