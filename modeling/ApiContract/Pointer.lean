import ApiContract.Json.Value
import ApiContract.Text.Segments

/-!
JSON Pointers: places inside a document, spelled as escaped keys and array positions after slashes.
-/

namespace ApiContract

namespace Pointer

def escapeChar (c : Char) : List Char :=
  if c = '~' then ['~', '0'] else if c = '/' then ['~', '1'] else [c]

def escapeChars (text : List Char) : List Char := text.flatMap escapeChar

def unescapeChars : List Char → List Char
  | '~' :: '1' :: rest => '/' :: unescapeChars rest
  | '~' :: '0' :: rest => '~' :: unescapeChars rest
  | c :: rest => c :: unescapeChars rest
  | [] => []

/-- A key as a segment of a pointer: a tilde becomes `~0` and a slash `~1`. -/
def escape (key : String) : String := String.ofList (escapeChars key.toList)

def unescape (segment : String) : String := String.ofList (unescapeChars segment.toList)

/-- Extends a pointer by one key. -/
def child (pointer key : String) : String := pointer ++ "/" ++ escape key

/-- Extends a pointer by one array position. -/
def item (pointer : String) (position : Nat) : String := pointer ++ "/" ++ Nat.repr position

/-- The text after the last slash. -/
def lastSegment (text : String) : String :=
  String.ofList (text.toList.reverse.takeWhile (· ≠ '/')).reverse

/-- An array position: digits after an optional plus sign, within 64 bits. -/
def position? (segment : String) : Option Nat :=
  let digits := match segment.toList with
    | '+' :: rest => rest
    | all => all
  if digits ≠ [] ∧ digits.all Char.isDigit then
    let value := digits.foldl (fun total c => 10 * total + (c.toNat - 48)) 0
    if value < Nat.pow 2 64 then some value else none
  else none

/-- The unescaped segments; leading number signs and slashes count as one start. -/
def segments (pointer : String) : List String :=
  let path := pointer.toList.dropWhile (· = '#')
  if path = [] ∨ path = ['/'] then []
  else (Text.split '/' (path.dropWhile (· = '/'))).map fun segment =>
    String.ofList (unescapeChars segment)

theorem unescapeChars_escapeChars (text : List Char) : unescapeChars (escapeChars text) = text := by
  induction text with
  | nil => rfl
  | cons c rest ih =>
      simp only [escapeChars, List.flatMap_cons] at *
      by_cases tilde : c = '~'
      · subst tilde; simp [escapeChar, unescapeChars, ih]
      · by_cases slash : c = '/'
        · subst slash; simp [escapeChar, unescapeChars, ih]
        · simp only [escapeChar, tilde, slash, if_false, List.singleton_append]
          rw [unescapeChars, ih]
          · intro _ same; exact absurd same (by simp [tilde])
          · intro _ same; exact absurd same (by simp [tilde])

end Pointer

namespace Json.Value

/-- One step into a value: a key of an object or a position of an array. -/
def step? (value : Value) (segment : String) : Option Value :=
  match value with
  | .object entries => Assoc.find? entries segment
  | .array items => (Pointer.position? segment).bind (items[·]?)
  | _ => none

def follow? (value : Value) : List String → Option Value
  | [] => some value
  | segment :: rest => (value.step? segment).bind (follow? · rest)

/-- The value at a pointer. -/
def at? (value : Value) (pointer : String) : Option Value :=
  value.follow? (Pointer.segments pointer)

end Json.Value

end ApiContract
