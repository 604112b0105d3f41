import ApiContract.Proofs.Json.Route

/-!
What a JSON Pointer denotes by the standard, apart from how documents are navigated: a tilde starts one of two escapes, no
slash counts twice, and positions of arrays have no zeros before them. The place of a value denotes it
(`Occurs.denoted?_eq`).
-/

namespace ApiContract

open Json (Value)

namespace Pointer

/-- The text of a reference token; a tilde has to start an escape. -/
def decodeChars? : List Char → Option (List Char)
  | '~' :: '0' :: rest => (decodeChars? rest).map ('~' :: ·)
  | '~' :: '1' :: rest => (decodeChars? rest).map ('/' :: ·)
  | '~' :: _ => none
  | c :: rest => (decodeChars? rest).map (c :: ·)
  | [] => some []

def decode? (token : String) : Option String := (decodeChars? token.toList).map String.ofList

/-- A pointer is empty, or each of its tokens follows a slash. -/
def tokens? (pointer : String) : Option (List String) :=
  match pointer.toList with
  | [] => some []
  | '/' :: rest => (Text.split '/' rest).mapM fun token => decode? (String.ofList token)
  | _ => none

/-- A position of an array: digits of which only a single one may be a zero at the start. -/
def index? (token : String) : Option Nat :=
  match token.toList with
  | [] => none
  | '0' :: rest => if rest = [] then some 0 else none
  | digits => if digits.all Char.isDigit then some (Nat.ofDigitChars 10 digits 0) else none

theorem decode?_of_notMem {token : String} (plain : '~' ∉ token.toList) : decode? token = some token := by
  have chars : ∀ text : List Char, '~' ∉ text → decodeChars? text = some text := by
    intro text
    induction text with
    | nil => exact fun _ => rfl
    | cons c rest ih =>
        intro plain
        have other : c ≠ '~' := fun same => plain (same ▸ List.mem_cons_self)
        rw [decodeChars?, ih fun member => plain (List.mem_cons_of_mem _ member), Option.map_some]
        all_goals simp [other]
  rw [decode?, chars _ plain, Option.map_some, String.ofList_toList]

theorem decode?_escape (key : String) : decode? (escape key) = some key := by
  have chars : ∀ text : List Char, decodeChars? (escapeChars text) = some text := by
    intro text
    induction text with
    | nil => rfl
    | cons c rest ih =>
        rw [escapeChars, List.flatMap_cons, ← escapeChars, escapeChar]
        split
        next same => rw [same, List.cons_append, List.cons_append, List.nil_append, decodeChars?, ih, Option.map_some]
        · split
          next same => rw [same, List.cons_append, List.cons_append, List.nil_append, decodeChars?, ih, Option.map_some]
          next tilde slash =>
            rw [List.cons_append, List.nil_append, decodeChars?, ih, Option.map_some]
            all_goals simp [tilde]
  rw [decode?, escape, String.toList_ofList, chars, Option.map_some, String.ofList_toList]

theorem zero_ne_head_toDigits {n : Nat} (positive : 0 < n) (rest : List Char) : Nat.toDigits 10 n ≠ '0' :: rest := by
  induction n using Nat.strongRecOn generalizing rest with
  | _ n ih =>
      intro same
      by_cases small : n < 10
      · rw [Nat.toDigits_of_lt_base small] at same
        have zero := Nat.digitChar_eq_zero.mp (List.cons.inj same).1
        omega
      · rw [Nat.toDigits_of_base_le (by decide) (by omega)] at same
        obtain ⟨c, front, front_eq⟩ := List.exists_cons_of_ne_nil (Nat.toDigits_ne_nil (n := n / 10) (b := 10))
        rw [front_eq, List.cons_append] at same
        obtain ⟨rfl, _⟩ := List.cons.inj same
        exact ih (n / 10) (by omega) (by omega) front front_eq

theorem index?_repr (position : Nat) : index? (Nat.repr position) = some position := by
  have digits : (Nat.repr position).toList = Nat.toDigits 10 position := by simp [Nat.repr]
  rw [index?, digits]
  split
  next none => exact absurd none Nat.toDigits_ne_nil
  next rest zero =>
    by_cases positive : 0 < position
    · exact absurd zero (zero_ne_head_toDigits positive rest)
    · obtain rfl : position = 0 := by omega
      cases zero
      rfl
  next =>
    have all : (Nat.toDigits 10 position).all Char.isDigit = true :=
      List.all_eq_true.mpr fun _ member => Nat.isDigit_of_mem_toDigits (by decide) (by decide) member
    rw [if_pos all, Nat.ofDigitChars_toDigits (by decide) (by decide)]

theorem tokens?_append {pointer token key : String} {tokens : List String} (read : tokens? pointer = some tokens)
    (plain : '/' ∉ token.toList) (decoded : decode? token = some key) :
    tokens? (pointer ++ "/" ++ token) = some (tokens ++ [key]) := by
  have last : (Text.split '/' token.toList).mapM (fun token => decode? (String.ofList token)) = some [key] := by
    rw [Text.split_of_notMem plain, List.mapM_cons, String.ofList_toList, decoded]
    rfl
  have chars : (pointer ++ "/" ++ token).toList = pointer.toList ++ '/' :: token.toList := by simp
  rw [tokens?] at read ⊢
  rw [chars]
  split at read
  next empty =>
    cases read
    rw [empty]
    exact last
  next rest spelled =>
    have longer : (Text.split '/' (rest ++ '/' :: token.toList)).mapM (fun token => decode? (String.ofList token)) =
        some (tokens ++ [key]) := by
      rw [Text.split_append, List.mapM_append, read, last]
      rfl
    rw [spelled]
    exact longer
  next => cases read

end Pointer

namespace Json.Value

/-- The value that a token of a pointer leads to. -/
def member? (value : Value) (token : String) : Option Value :=
  match value with
  | .object entries => Assoc.find? entries token
  | .array items => (Pointer.index? token).bind (items[·]?)
  | _ => none

def denoted? (whole : Value) (pointer : String) : Option Value :=
  (Pointer.tokens? pointer).bind fun tokens => tokens.foldlM member? whole

theorem denoted?_append {whole value inner : Value} {pointer token key : String}
    (denoted : whole.denoted? pointer = some value) (plain : '/' ∉ token.toList)
    (decoded : Pointer.decode? token = some key) (stepped : value.member? key = some inner) :
    whole.denoted? (pointer ++ "/" ++ token) = some inner := by
  obtain ⟨tokens, read, followed⟩ := Option.bind_eq_some_iff.mp denoted
  rw [denoted?, Pointer.tokens?_append read plain decoded, Option.bind_some, List.foldlM_append, followed]
  simpa using stepped

theorem Occurs.denoted?_eq {whole value : Value} {path : String} (occurs : Occurs whole path value)
    (unique : whole.hasUniqueKeys = true) : whole.denoted? path = some value := by
  induction occurs with
  | root => rfl
  | @member path entries key value above member ih =>
      have distinct := above.hasUniqueKeys unique
      rw [Value.hasUniqueKeys, Bool.and_eq_true, decide_eq_true_eq] at distinct
      exact denoted?_append ih (Pointer.slash_notMem_escape key) (Pointer.decode?_escape key)
        (Assoc.find?_of_mem distinct.1 member)
  | @item path items position value _ found ih =>
      refine denoted?_append ih (Pointer.slash_notMem_repr position)
        (Pointer.decode?_of_notMem (Pointer.tilde_notMem_repr position)) ?_
      rw [member?, Pointer.index?_repr]
      exact found

end Json.Value

end ApiContract
