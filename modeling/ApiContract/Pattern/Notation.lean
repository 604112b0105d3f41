import ApiContract.Pattern.Syntax
import ApiContract.Unicode.Classes

/-!
Reading patterns. The characters are read from left to right; open groups and open brackets wait on
stacks. What is not part of the notation is told apart by kind, because a richer notation takes over
where look-around or back references appear, and mends one kind of escape.
-/

namespace ApiContract.Pattern

inductive NotationError where
  | lookAround
  | backReference
  /-- An escape of a letter that has no meaning; the offset is that of its backslash. -/
  | unknownEscape (letter : Char) (offset : Nat)
  | malformed
deriving DecidableEq, Repr

abbrev Reading := Except NotationError

/-- Drops white space and comments, which run from a number sign to the end of the line. -/
def skipBlanks (inComment : Bool) : List Char → List Char
  | [] => []
  | c :: rest =>
      if inComment then skipBlanks (c != '\n') rest
      else if c == '#' then skipBlanks true rest
      else if Unicode.isBlank c then skipBlanks false rest
      else c :: rest

/-- White space and comments do not count in verbose patterns. -/
def skip (verbose : Bool) (text : List Char) : List Char :=
  if verbose then skipBlanks false text else text

def hexValue? (c : Char) : Option Nat :=
  if c.isDigit then some (c.toNat - 48)
  else if 'a' ≤ c ∧ c ≤ 'f' then some (c.toNat - 87)
  else if 'A' ≤ c ∧ c ≤ 'F' then some (c.toNat - 55)
  else none

def hexNumber? (digits : List Char) : Option Nat :=
  digits.foldlM (fun total c => (hexValue? c).map (16 * total + ·)) 0

def charOfCode? (code : Nat) : Option Char :=
  if code.isValidChar then some (Char.ofNat code) else none

/-- The character with a hexadecimal code. -/
def hexChar? (digits : List Char) : Option Char :=
  if digits = [] then none else (hexNumber? digits).bind charOfCode?

namespace Notation

/-- What one escape or one plain character stands for. -/
inductive Primitive where
  | literal (item : Literal)
  | assertion (kind : Assertion)
  | property (negated : Bool) (query : Unicode.PropertyQuery)
  | shorthand (negated : Bool) (kind : Shorthand) (offset : Nat)

def orMalformed {α : Type} (value : Option α) : Except NotationError α :=
  value.elim (.error .malformed) .ok

/-! ## Escapes -/

/-- So many hexadecimal digits; blanks may stand between them in verbose patterns. -/
def takeHexDigits (verbose : Bool) : Nat → List Char → Option (List Char × List Char)
  | 0, text => some ([], text)
  | count + 1, c :: rest => do
      let _ ← hexValue? c
      let (digits, rest) ← takeHexDigits verbose count (skip verbose rest)
      return (c :: digits, rest)
  | _ + 1, [] => none

/-- The characters up to a closing brace, less the blanks of verbose patterns. -/
def takeBraced (verbose : Bool) : Nat → List Char → Option (List Char × List Char)
  | 0, _ => none
  | fuel + 1, text =>
      match skip verbose text with
      | [] => none
      | '\x7d' :: rest => some ([], rest)
      | c :: rest => do
          let (inside, rest) ← takeBraced verbose fuel rest
          return (c :: inside, rest)

/-- A character by its code: a fixed number of digits, or any number between braces. -/
def readHex (verbose : Bool) (width : Nat) (text : List Char) : Reading (Literal × List Char) :=
  match skip verbose text with
  | '\x7b' :: rest => do
      let (digits, rest) ← orMalformed (takeBraced verbose (rest.length + 1) rest)
      return (⟨← orMalformed (hexChar? digits), .plain⟩, skip verbose rest)
  | text => do
      let (digits, rest) ← orMalformed (takeHexDigits verbose width text)
      return (⟨← orMalformed (hexChar? digits), if width = 2 then .byte else .plain⟩, rest)

/-- The text before and after the first place where another text stands. -/
def cutAt? (mark : List Char) : List Char → Option (List Char × List Char)
  | [] => none
  | c :: rest =>
      if mark.isPrefixOf (c :: rest) then some ([], (c :: rest).drop mark.length)
      else (cutAt? mark rest).map fun (before, after) => (c :: before, after)

/-- A property between braces: a name, or a name and a value with `!=`, `:` or `=` between them. An
inequality reads like an equality. -/
def propertyQuery (inside : List Char) : Unicode.PropertyQuery :=
  match (cutAt? ['!', '='] inside).or ((cutAt? [':'] inside).or (cutAt? ['='] inside)) with
  | some (property, value) => .value (String.ofList property) (String.ofList value)
  | none => .name (String.ofList inside)

/-- What follows `\p` or `\P`. -/
def readProperty (verbose negated : Bool) (text : List Char) : Reading (Primitive × List Char) :=
  match skip verbose text with
  | [] => .error .malformed
  | '\x7b' :: rest => do
      let (inside, rest) ← orMalformed (takeBraced verbose (rest.length + 1) rest)
      return (.property negated (propertyQuery inside), rest)
  | '\\' :: _ => .error .malformed
  | c :: rest => .ok (.property negated (.name c.toString), skip verbose rest)

def isEdgeNameChar (c : Char) : Bool := c.isAlpha || c == '-'

/-- The letters and hyphens at the start of a text, and what follows them. -/
def takeEdgeName (verbose : Bool) : Nat → List Char → List Char × List Char
  | 0, text => ([], text)
  | fuel + 1, c :: rest =>
      if isEdgeNameChar c then
        let (name, rest) := takeEdgeName verbose fuel (skip verbose rest)
        (c :: name, rest)
      else ([], c :: rest)
  | _ + 1, [] => ([], [])

/-- What follows `\b`. A brace before a letter or hyphen names an edge of a word; any other brace
belongs to a repetition. -/
def readBoundary (verbose : Bool) (text : List Char) : Reading (Primitive × List Char) :=
  match text with
  | '\x7b' :: rest =>
      match skip verbose rest with
      | [] => .error .malformed
      | c :: inside =>
          if !isEdgeNameChar c then .ok (.assertion .wordBoundary, text)
          else
            let (name, rest) := takeEdgeName verbose (inside.length + 1) (c :: inside)
            match rest, String.ofList name with
            | '\x7d' :: rest, "start" => .ok (.assertion .wordStart, rest)
            | '\x7d' :: rest, "end" => .ok (.assertion .wordEnd, rest)
            | '\x7d' :: rest, "start-half" => .ok (.assertion .wordStartHalf, rest)
            | '\x7d' :: rest, "end-half" => .ok (.assertion .wordEndHalf, rest)
            | _, _ => .error .malformed
  | text => .ok (.assertion .wordBoundary, text)

/-- What follows a backslash. ASCII characters other than letters and digits stand for themselves. -/
def readEscape (verbose : Bool) (offset : Nat) (text : List Char) : Reading (Primitive × List Char) :=
  let code (n : Nat) (rest : List Char) (spelling : Spelling) : Reading (Primitive × List Char) :=
    .ok (.literal ⟨Char.ofNat n, spelling⟩, rest)
  match text with
  | [] => .error .malformed
  | 'd' :: rest => .ok (.shorthand false .digit offset, rest)
  | 's' :: rest => .ok (.shorthand false .blank offset, rest)
  | 'w' :: rest => .ok (.shorthand false .word offset, rest)
  | 'D' :: rest => .ok (.shorthand true .digit offset, rest)
  | 'S' :: rest => .ok (.shorthand true .blank offset, rest)
  | 'W' :: rest => .ok (.shorthand true .word offset, rest)
  | 'x' :: rest => do
      let (item, rest) ← readHex verbose 2 rest
      return (.literal item, rest)
  | 'u' :: rest => do
      let (item, rest) ← readHex verbose 4 rest
      return (.literal item, rest)
  | 'U' :: rest => do
      let (item, rest) ← readHex verbose 8 rest
      return (.literal item, rest)
  | 'p' :: rest => readProperty verbose false rest
  | 'P' :: rest => readProperty verbose true rest
  | 'a' :: rest => code 7 rest .alert
  | 'f' :: rest => code 12 rest .plain
  | 't' :: rest => code 9 rest .plain
  | 'n' :: rest => code 10 rest .plain
  | 'r' :: rest => code 13 rest .plain
  | 'v' :: rest => code 11 rest .plain
  | 'A' :: rest => .ok (.assertion .textStart, rest)
  | 'z' :: rest => .ok (.assertion .textEnd, rest)
  | 'b' :: rest => readBoundary verbose rest
  | 'B' :: rest => .ok (.assertion .noWordBoundary, rest)
  | '<' :: rest => .ok (.assertion .wordStart, rest)
  | '>' :: rest => .ok (.assertion .wordEnd, rest)
  | c :: rest =>
      if c.isDigit then .error .backReference
      else if c.toNat < 128 && !c.isAlpha then code c.toNat rest .plain
      else .error (.unknownEscape c offset)

/-! ## Brackets -/

/-- The classes that may be named between colons inside brackets. -/
def namedRanges? (name : String) : Option (List (Nat × Nat)) :=
  match name with
  | "alnum" => some [(48, 57), (65, 90), (97, 122)]
  | "alpha" => some [(65, 90), (97, 122)]
  | "ascii" => some [(0, 127)]
  | "blank" => some [(9, 9), (32, 32)]
  | "cntrl" => some [(0, 31), (127, 127)]
  | "digit" => some [(48, 57)]
  | "graph" => some [(33, 126)]
  | "lower" => some [(97, 122)]
  | "print" => some [(32, 126)]
  | "punct" => some [(33, 47), (58, 64), (91, 96), (123, 126)]
  | "space" => some [(9, 13), (32, 32)]
  | "upper" => some [(65, 90)]
  | "word" => some [(48, 57), (65, 90), (95, 95), (97, 122)]
  | "xdigit" => some [(48, 57), (65, 70), (97, 102)]
  | _ => none

/-- A class name between colons, such as `[:alpha:]`; the opening bracket is already read. -/
def namedClass? (text : List Char) : Option (SetSyntax × List Char) :=
  match text with
  | ':' :: rest =>
      let (negated, rest) := match rest with
        | '^' :: rest => (true, rest)
        | rest => (false, rest)
      match rest.dropWhile (· ≠ ':') with
      | ':' :: ']' :: after => do
          let ranges ← namedRanges? (String.ofList (rest.takeWhile (· ≠ ':')))
          return (.named negated ranges, after)
      | _ => none
  | _ => none

def unionOf : List SetSyntax → SetSyntax
  | [item] => item
  | items => .union items

/-- An open bracket: the operand before the last operator, and the items after it in reverse. -/
structure OpenSet where
  negated : Bool
  pending : Option (SetOperator × SetSyntax) := none
  items : List SetSyntax := []

namespace OpenSet

def body (frame : OpenSet) : SetSyntax :=
  let last := unionOf frame.items.reverse
  match frame.pending with
  | some (operator, left) => .operation operator left last
  | none => last

def add (frame : OpenSet) (item : SetSyntax) : OpenSet := { frame with items := item :: frame.items }

def operate (frame : OpenSet) (operator : SetOperator) : OpenSet :=
  { frame with pending := some (operator, frame.body), items := [] }

end OpenSet

/-- Hyphens at the start of a bracket are literal. -/
def leadingHyphens (verbose : Bool) : Nat → List Char → Nat × List Char
  | fuel + 1, '-' :: rest =>
      let (count, rest) := leadingHyphens verbose fuel (skip verbose rest)
      (count + 1, rest)
  | _, text => (0, text)

/-- The start of a bracket: a caret negates it, and hyphens or one closing bracket are literal. -/
def openBracket (verbose : Bool) (text : List Char) : Option (OpenSet × List Char) :=
  let (negated, text) := match skip verbose text with
    | '^' :: rest => (true, skip verbose rest)
    | text => (false, text)
  let (hyphens, text) := leadingHyphens verbose text.length text
  let frame : OpenSet := { negated, items := List.replicate hyphens (.literal ⟨'-', .plain⟩) }
  let (frame, text) := match hyphens, text with
    | 0, ']' :: rest => (frame.add (.literal ⟨']', .plain⟩), skip verbose rest)
    | _, text => (frame, text)
  if text = [] then none else some (frame, text)

/-- One item of a class: a character or an escape. -/
def readSetItem (verbose : Bool) (size : Nat) (text : List Char) : Reading (Primitive × List Char) :=
  match text with
  | '\\' :: rest => readEscape verbose (size - text.length) rest
  | c :: rest => .ok (.literal ⟨c, .plain⟩, rest)
  | [] => .error .malformed

def Primitive.toSetItem : Primitive → Except NotationError SetSyntax
  | .literal item => .ok (.literal item)
  | .property negated query => .ok (.property negated query)
  | .shorthand negated kind offset => .ok (.shorthand negated kind offset)
  | .assertion _ => .error .malformed

/-- The first character that does not count as blank after one that does count. A comment is not
passed over: its first character counts. -/
def peekBlanks (inComment : Bool) : List Char → Option Char
  | [] => none
  | c :: rest =>
      if Unicode.isBlank c then peekBlanks inComment rest
      else if !inComment && c == '#' then peekBlanks true rest
      else some c

def peek (verbose : Bool) (text : List Char) : Option Char :=
  if verbose then (peekBlanks false text).or text.head? else text.head?

/-- An item or a range of items. -/
def readSetRange (verbose : Bool) (size : Nat) (text : List Char) : Reading (SetSyntax × List Char) := do
  let (first, rest) ← readSetItem verbose size text
  let rest := skip verbose rest
  match rest with
  | '-' :: after =>
      let following := peek verbose after
      if following == some ']' || following == some '-' then return (← first.toSetItem, rest)
      else
        let (second, rest) ← readSetItem verbose size (skip verbose after)
        match first, second with
        | .literal low, .literal high =>
            if low.char.toNat ≤ high.char.toNat then return (.range low high, rest)
            else .error .malformed
        | _, _ => .error .malformed
  | [] => .error .malformed
  | rest => return (← first.toSetItem, rest)

/-- Reads on from inside a bracket until the outermost one is closed. -/
def readSet (verbose : Bool) (size : Nat) :
    Nat → OpenSet → List OpenSet → List Char → Reading (Syntax × List Char)
  | 0, _, _, _ => .error .malformed
  | fuel + 1, frame, outer, text =>
      match skip verbose text with
      | [] => .error .malformed
      | '[' :: rest =>
          match namedClass? rest with
          | some (item, rest) => readSet verbose size fuel (frame.add item) outer rest
          | none => do
              let (inner, rest) ← orMalformed (openBracket verbose rest)
              readSet verbose size fuel inner (frame :: outer) rest
      | ']' :: rest =>
          match outer with
          | [] => .ok (.set frame.negated frame.body, rest)
          | parent :: others =>
              readSet verbose size fuel (parent.add (.bracket frame.negated frame.body)) others rest
      | '&' :: '&' :: rest => readSet verbose size fuel (frame.operate .intersection) outer rest
      | '-' :: '-' :: rest => readSet verbose size fuel (frame.operate .difference) outer rest
      | '~' :: '~' :: rest =>
          readSet verbose size fuel (frame.operate .symmetricDifference) outer rest
      | text => do
          let (item, rest) ← readSetRange verbose size text
          readSet verbose size fuel (frame.add item) outer rest

/-- A class; its opening bracket is already read. -/
def readBracket (verbose : Bool) (size : Nat) (text : List Char) : Reading (Syntax × List Char) := do
  let (frame, rest) ← orMalformed (openBracket verbose text)
  readSet verbose size (text.length + 1) frame [] rest

/-! ## Repetition counts -/

/-- The decimal digits at the start of a text; blanks may stand between them in verbose patterns. -/
def takeDigits (verbose : Bool) : Nat → List Char → List Char × List Char
  | 0, text => ([], text)
  | fuel + 1, c :: rest =>
      if c.isDigit then
        let (digits, rest) := takeDigits verbose fuel (skip verbose rest)
        (c :: digits, rest)
      else ([], c :: rest)
  | _ + 1, [] => ([], [])

/-- A decimal number of 32 bits, with white space around it. -/
def readDecimal (verbose : Bool) (text : List Char) : Reading (Nat × List Char) :=
  let text := text.dropWhile Unicode.isBlank
  let (digits, rest) := takeDigits verbose text.length text
  let value := digits.foldl (fun total c => 10 * total + (c.toNat - 48)) 0
  if digits = [] ∨ value ≥ 4294967296 then .error .malformed
  else .ok (value, rest.dropWhile Unicode.isBlank)

/-- The counts after an opening brace, with the closing one. -/
def readCounts (verbose : Bool) (text : List Char) : Reading ((Nat × Option Nat) × List Char) := do
  let (least, rest) ← readDecimal verbose (skip verbose text)
  match rest with
  | '\x7d' :: rest => return ((least, some least), rest)
  | ',' :: rest =>
      match skip verbose rest with
      | '\x7d' :: rest => return ((least, none), rest)
      | rest =>
          let (most, rest) ← readDecimal verbose rest
          match rest with
          | '\x7d' :: rest =>
              if least ≤ most then return ((least, some most), rest) else .error .malformed
          | _ => .error .malformed
  | _ => .error .malformed

/-! ## Groups -/

def concatOf : List Syntax → Syntax
  | [] => .empty
  | [item] => item
  | items => .concat items

/-- A group that is being read: its finished alternatives and the items of the current one, both in
reverse. -/
structure Level where
  alternatives : List Syntax := []
  items : List Syntax := []

namespace Level

def add (level : Level) (item : Syntax) : Level := { level with items := item :: level.items }

def nextAlternative (level : Level) : Level :=
  { alternatives := concatOf level.items.reverse :: level.alternatives }

def close (level : Level) : Syntax :=
  let last := concatOf level.items.reverse
  match level.alternatives with
  | [] => last
  | finished => .alternation (last :: finished).reverse

/-- Repeats the last item; flags cannot be repeated. -/
def repeatLast (level : Level) (least : Nat) (most : Option Nat) (greedy : Bool) : Option Level :=
  match level.items with
  | [] => none
  | .flags _ :: _ => none
  | item :: others => some { level with items := .repetition item least most greedy :: others }

end Level

/-- An open group: the level around it, its kind, and whether the pattern was verbose before it. -/
structure OpenGroup where
  around : Level
  kind : GroupKind
  verbose : Bool

structure State where
  verbose : Bool := false
  captures : Nat := 0
  names : List (List Char) := []
  level : Level := {}
  outer : List OpenGroup := []

namespace State

def add (state : State) (item : Syntax) : State := { state with level := state.level.add item }

def openGroup (state : State) (kind : GroupKind) (verbose : Bool) : State :=
  { state with verbose, level := {}, outer := ⟨state.level, kind, state.verbose⟩ :: state.outer }

def openCapture (state : State) : State :=
  { state with captures := state.captures + 1 }.openGroup (.capture (state.captures + 1))
    state.verbose

def closeGroup? (state : State) : Option State :=
  match state.outer with
  | [] => none
  | group :: others =>
      some { state with
        verbose := group.verbose
        level := group.around.add (.group group.kind state.level.close)
        outer := others }

end State

def flag? (c : Char) : Option Flag :=
  match c with
  | 'i' => some .ignoreCase
  | 'm' => some .multiLine
  | 's' => some .dotAll
  | 'U' => some .swapGreed
  | 'u' => some .unicode
  | 'R' => some .carriageReturns
  | 'x' => some .verbose
  | _ => none

/-- Flag letters, each at most once; those after a hyphen are switched off, and there is one at least. -/
def readFlags (value : Bool) (seen : List FlagSetting) : List Char → Option (List FlagSetting)
  | [] => some seen.reverse
  | ['-'] => none
  | '-' :: rest => if value then readFlags false seen rest else none
  | c :: rest => do
      let flag ← flag? c
      if seen.any (·.flag == flag) then none else readFlags value (⟨flag, value⟩ :: seen) rest

/-- Whether the pattern is verbose under some settings. -/
def verboseUnder (verbose : Bool) (settings : List FlagSetting) : Bool :=
  ((settings.find? (·.flag == .verbose)).map FlagSetting.value).getD verbose

def isNameStart (c : Char) : Bool := c == '_' || Unicode.isLetter c

def isNameChar (c : Char) : Bool :=
  c == '_' || c == '.' || c == '[' || c == ']' || Unicode.isAlphanumeric c

/-- The name of a group up to its closing angle bracket. No two groups share one. -/
def readName (state : State) (text : List Char) : Reading (State × List Char) :=
  let name := text.takeWhile (· ≠ '>')
  match name, text.dropWhile (· ≠ '>') with
  | first :: others, _ :: rest =>
      if isNameStart first && others.all isNameChar && !state.names.contains name then
        .ok ({ state with names := name :: state.names }.openCapture, rest)
      else .error .malformed
  | _, _ => .error .malformed

/-- What follows an opening parenthesis. -/
def readOpening (state : State) (text : List Char) : Reading (State × List Char) :=
  match skip state.verbose text with
  | '?' :: '=' :: _ => .error .lookAround
  | '?' :: '!' :: _ => .error .lookAround
  | '?' :: '<' :: '=' :: _ => .error .lookAround
  | '?' :: '<' :: '!' :: _ => .error .lookAround
  | '?' :: 'P' :: '<' :: rest => readName state rest
  | '?' :: '<' :: rest => readName state rest
  | '?' :: rest => do
      let letters := rest.takeWhile fun c => c ≠ ':' ∧ c ≠ ')'
      let settings ← orMalformed (readFlags true [] letters)
      let verbose := verboseUnder state.verbose settings
      match rest.dropWhile fun c => c ≠ ':' ∧ c ≠ ')' with
      | ':' :: rest => return (state.openGroup (.plain settings) verbose, rest)
      | ')' :: rest =>
          if settings = [] then .error .malformed
          else return ({ state.add (.flags settings) with verbose }, rest)
      | _ => .error .malformed
  | text => .ok (state.openCapture, text)

def repeatLast (state : State) (least : Nat) (most : Option Nat) (rest : List Char) :
    Reading (State × List Char) := do
  let (greedy, rest) := match rest with
    | '?' :: rest => (false, rest)
    | rest => (true, rest)
  let level ← orMalformed (state.level.repeatLast least most greedy)
  return ({ state with level }, rest)

def Primitive.toSyntax : Primitive → Syntax
  | .literal item => .literal item
  | .assertion kind => .assertion kind
  | .property negated query => .property negated query
  | .shorthand negated kind offset => .shorthand negated kind offset

/-- Reads one token of a pattern. -/
def readToken (size : Nat) (state : State) (c : Char) (rest : List Char) :
    Reading (State × List Char) :=
  match c with
  | '(' => readOpening state rest
  | ')' => do return (← orMalformed state.closeGroup?, rest)
  | '|' => .ok ({ state with level := state.level.nextAlternative }, rest)
  | '[' => do
      let (item, rest) ← readBracket state.verbose size rest
      return (state.add item, rest)
  | '*' => repeatLast state 0 none rest
  | '+' => repeatLast state 1 none rest
  | '?' => repeatLast state 0 (some 1) rest
  | '\x7b' => do
      if state.level.items = [] then .error .malformed
      else
        let ((least, most), rest) ← readCounts state.verbose rest
        repeatLast state least most (skip state.verbose rest)
  | '.' => .ok (state.add .dot, rest)
  | '^' => .ok (state.add (.assertion .caret), rest)
  | '$' => .ok (state.add (.assertion .dollar), rest)
  | '\\' => do
      let (item, rest) ← readEscape state.verbose (size - rest.length - 1) rest
      return (state.add item.toSyntax, rest)
  | c => .ok (state.add (.literal ⟨c, .plain⟩), rest)

def readFrom (size : Nat) : Nat → State → List Char → Except NotationError Syntax
  | 0, _, _ => .error .malformed
  | fuel + 1, state, text =>
      match skip state.verbose text with
      | [] => if state.outer.isEmpty then .ok state.level.close else .error .malformed
      | c :: rest => do
          let (state, rest) ← readToken size state c rest
          readFrom size fuel state rest

end Notation

/-- The deepest nesting of a pattern. -/
def maxDepth : Nat := 250

/-- Reads a pattern. -/
def Syntax.read (text : List Char) : Except NotationError Syntax := do
  let pattern ← Notation.readFrom text.length (text.length + 1) {} text
  if pattern.depth ≤ maxDepth then return pattern else .error .malformed

end ApiContract.Pattern
