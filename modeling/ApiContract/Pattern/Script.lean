import ApiContract.Pattern.Notation

/-!
Patterns of the script dialect, in terms of the richer notation. Escaped control letters become the
characters that they name, and the shorthand classes become sets of ASCII, or of the dialect's own
white space. A pattern with look-around or back references stays as it is from there on.
-/

namespace ApiContract.Pattern

namespace Script

/-- The white space of the dialect. -/
def blanks : List Char := [' ', '\t', '\n', '\r', '\x0b', '\x0c', '\u00a0', '\ufeff', '\u2003', '\u2029']

def members : Shorthand → List Char
  | .digit => "0-9".toList
  | .word => "A-Za-z0-9_".toList
  | .blank => blanks

/-- The brackets that stand for a shorthand. -/
def brackets (shorthand : PlacedShorthand) : List Char :=
  '[' :: (if shorthand.negated then ['^'] else []) ++ members shorthand.kind ++ [']']

/-- Puts brackets in the places of shorthands, which take two characters each. The text that is left
starts at an offset. -/
def expand (offset : Nat) (text : List Char) : List PlacedShorthand → List Char
  | [] => text
  | shorthand :: rest =>
      let count := shorthand.offset - offset
      text.take count ++ brackets shorthand
        ++ expand (offset + count + 2) (text.drop (count + 2)) rest

/-- The character that a letter names after `\c`. -/
def controlChar (letter : Char) : Char := Char.ofNat (letter.toNat % 32)

/-- The pattern with one escaped control letter less, whose backslash is at an offset. -/
def withControl? (text : List Char) (offset : Nat) : Option (List Char) :=
  match text.drop (offset + 2) with
  | letter :: rest =>
      if letter.isAlpha then some (text.take offset ++ controlChar letter :: rest) else none
  | [] => none

def convertFrom : Nat → List Char → Option (List Char)
  | 0, _ => none
  | fuel + 1, text =>
      match Syntax.read text with
      | .ok pattern => if pattern.hasAlert then none else some (expand 0 text pattern.shorthands)
      | .error .lookAround => some text
      | .error .backReference => some text
      | .error (.unknownEscape 'c' offset) => do convertFrom fuel (← withControl? text offset)
      | .error _ => none

/-- A pattern of the dialect in the richer notation; none when it is malformed. -/
def convert? (text : List Char) : Option (List Char) := convertFrom (text.length + 1) text

end Script

end ApiContract.Pattern
