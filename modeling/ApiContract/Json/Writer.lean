import ApiContract.Json.Value

/-!
JSON text of a value: compact, or indented by two spaces. Entries are written in their order.
Control characters are escaped; the slash, DEL and everything beyond ASCII stand as they are.
-/

namespace ApiContract.Json

def hexDigit (n : Nat) : Char := (Nat.toDigits 16 (n % 16)).headD '0'

def escapeChar (c : Char) : List Char :=
  match c with
  | '"' => ['\\', '"']
  | '\\' => ['\\', '\\']
  | '\n' => ['\\', 'n']
  | '\r' => ['\\', 'r']
  | '\t' => ['\\', 't']
  | c =>
      if c.toNat = 8 then ['\\', 'b']
      else if c.toNat = 12 then ['\\', 'f']
      else if c.toNat < 32 then ['\\', 'u', '0', '0', hexDigit (c.toNat / 16), hexDigit c.toNat]
      else [c]

def quote (text : String) : String :=
  String.ofList ('"' :: text.toList.flatMap escapeChar ++ ['"'])

namespace Value

mutual

def compact : Value → String
  | .null => "null"
  | .bool true => "true"
  | .bool false => "false"
  | .number n => n.text
  | .string text => quote text
  | .array items => "[" ++ ",".intercalate (compactItems items) ++ "]"
  | .object entries => "\x7b" ++ ",".intercalate (compactEntries entries) ++ "\x7d"

def compactItems : List Value → List String
  | [] => []
  | item :: rest => compact item :: compactItems rest

def compactEntries : List (String × Value) → List String
  | [] => []
  | (key, value) :: rest => (quote key ++ ":" ++ compact value) :: compactEntries rest

end

def indentation (level : Nat) : String :=
  String.ofList (List.replicate (2 * level) ' ')

def indentedBlock (opening closing : String) (level : Nat) (lines : List String) : String :=
  if lines.isEmpty then opening ++ closing
  else
    let inner := "\n" ++ indentation (level + 1)
    opening ++ inner ++ ("," ++ inner).intercalate lines ++ "\n" ++ indentation level ++ closing

mutual

def indentedAt (level : Nat) : Value → String
  | .array items => indentedBlock "[" "]" level (indentedItems (level + 1) items)
  | .object entries => indentedBlock "\x7b" "\x7d" level (indentedEntries (level + 1) entries)
  | .null => "null"
  | .bool true => "true"
  | .bool false => "false"
  | .number n => n.text
  | .string text => quote text

def indentedItems (level : Nat) : List Value → List String
  | [] => []
  | item :: rest => indentedAt level item :: indentedItems level rest

def indentedEntries (level : Nat) : List (String × Value) → List String
  | [] => []
  | (key, value) :: rest =>
      (quote key ++ ": " ++ indentedAt level value) :: indentedEntries level rest

end

/-- One entry or item a line, indented by two spaces a level. -/
def indented (value : Value) : String := indentedAt 0 value

end Value

end ApiContract.Json
