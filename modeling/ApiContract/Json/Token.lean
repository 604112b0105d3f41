import ApiContract.Json.Literal

/-!
The tokens of JSON text. The lexer is an automaton over characters: one step reads one character
and may finish tokens, so that the tokens of a text are a fold over it.
-/

namespace ApiContract.Json

inductive Token where
  | openArray
  | closeArray
  | openObject
  | closeObject
  | comma
  | colon
  | null
  | bool (flag : Bool)
  | number (value : Number)
  | string (text : String)
deriving Repr

/-- What the lexer is inside of. Characters of an unfinished token are kept in reverse. -/
inductive LexState where
  | between
  | word (reversed : List Char)
  | text (reversed : List Char)
  | escape (reversed : List Char)
  | unit (reversed : List Char) (high : Option Nat) (count : Nat) (value : Nat)
  | pairSlash (reversed : List Char) (high : Nat)
  | pairUnit (reversed : List Char) (high : Nat)
deriving Repr

namespace Token

def isBlank (c : Char) : Bool := c = ' ' ∨ c = '\n' ∨ c = '\t' ∨ c = '\r'

/-- Characters of literals and numbers; anything else ends such a token. -/
def isWordChar (c : Char) : Bool :=
  c.isAlphanum || c = '-' || c = '+' || c = '.'

def ofWord? (word : List Char) : Option Token :=
  if word = "null".toList then some .null
  else if word = "true".toList then some (.bool true)
  else if word = "false".toList then some (.bool false)
  else (Number.ofLiteral? word).map .number

def ofPunctuation? (c : Char) : Option Token :=
  match c with
  | '[' => some .openArray
  | ']' => some .closeArray
  | '\x7b' => some .openObject
  | '\x7d' => some .closeObject
  | ',' => some .comma
  | ':' => some .colon
  | _ => none

def ofEscape? (c : Char) : Option Char :=
  match c with
  | '"' => some '"'
  | '\\' => some '\\'
  | '/' => some '/'
  | 'b' => some (Char.ofNat 8)
  | 'f' => some (Char.ofNat 12)
  | 'n' => some '\n'
  | 'r' => some '\r'
  | 't' => some '\t'
  | _ => none

def hexValue? (c : Char) : Option Nat :=
  if c.isDigit then some (c.toNat - 48)
  else if 'a' ≤ c ∧ c ≤ 'f' then some (c.toNat - 87)
  else if 'A' ≤ c ∧ c ≤ 'F' then some (c.toNat - 55)
  else none

def isHighSurrogate (n : Nat) : Bool := 0xD800 ≤ n && n < 0xDC00
def isLowSurrogate (n : Nat) : Bool := 0xDC00 ≤ n && n < 0xE000

/-- Ends an escape of four digits: a high surrogate waits for its low one, a lone one is refused. -/
def finishUnit (reversed : List Char) (high : Option Nat) (value : Nat) : Option LexState :=
  match high with
  | some first =>
      if isLowSurrogate value then
        some (.text (Char.ofNat (0x10000 + (first - 0xD800) * 0x400 + (value - 0xDC00)) :: reversed))
      else none
  | none =>
      if isHighSurrogate value then some (.pairSlash reversed value)
      else if isLowSurrogate value then none
      else some (.text (Char.ofNat value :: reversed))

/-- Reads a character between tokens. -/
def start (c : Char) : Option (LexState × List Token) :=
  if isBlank c then some (.between, [])
  else if c = '"' then some (.text [], [])
  else if isWordChar c then some (.word [c], [])
  else (ofPunctuation? c).map (.between, [·])

/-- One character; none when the text is refused. -/
def step (state : LexState) (c : Char) : Option (LexState × List Token) :=
  match state with
  | .between => start c
  | .word reversed =>
      if isWordChar c then some (.word (c :: reversed), [])
      else do
        let token ← ofWord? reversed.reverse
        let (next, tokens) ← start c
        return (next, token :: tokens)
  | .text reversed =>
      if c = '"' then some (.between, [.string (String.ofList reversed.reverse)])
      else if c = '\\' then some (.escape reversed, [])
      else if c.toNat < 32 then none
      else some (.text (c :: reversed), [])
  | .escape reversed =>
      if c = 'u' then some (.unit reversed none 0 0, [])
      else (ofEscape? c).map fun char => (.text (char :: reversed), [])
  | .unit reversed high count value => do
      let digit ← hexValue? c
      let value := 16 * value + digit
      if count < 3 then return (.unit reversed high (count + 1) value, [])
      else
        let next ← finishUnit reversed high value
        return (next, [])
  | .pairSlash reversed high => if c = '\\' then some (.pairUnit reversed high, []) else none
  | .pairUnit reversed high => if c = 'u' then some (.unit reversed (some high) 0 0, []) else none

/-- The tokens from a state on, the ones already finished in reverse. -/
def scanFrom : LexState → List Token → List Char → Option (List Token)
  | .between, done, [] => some done.reverse
  | .word reversed, done, [] => (ofWord? reversed.reverse).map fun token => (token :: done).reverse
  | _, _, [] => none
  | state, done, c :: rest => do
      let (next, tokens) ← step state c
      scanFrom next (tokens.reverse ++ done) rest

def scan (text : List Char) : Option (List Token) := scanFrom .between [] text

end Token

end ApiContract.Json
