import ApiContract.Pattern.Backtracking.Tree
import ApiContract.Pattern.Notation
import ApiContract.Unicode.Classes

/-!
Reading the richer notation. Flags that are set inside a numbered group go on after it; a group that
sets flags before a colon restores them at its end. A brace that begins no counts is literal, and
comments may stand wherever blanks may in verbose patterns.
-/

namespace ApiContract.Pattern.Backtracking

structure Flags where
  ignoreCase : Bool := false
  multiLine : Bool := false
  dotAll : Bool := false
  swapGreed : Bool := false
  verbose : Bool := false
deriving DecidableEq, Repr

namespace Flags

/-- The flags with the one of a letter set; none for another letter. -/
def set? (flags : Flags) (letter : Char) (value : Bool) : Option Flags :=
  match letter with
  | 'i' => some { flags with ignoreCase := value }
  | 'm' => some { flags with multiLine := value }
  | 's' => some { flags with dotAll := value }
  | 'U' => some { flags with swapGreed := value }
  | 'x' => some { flags with verbose := value }
  | 'u' => if value then some flags else none
  | _ => none

end Flags

/-- What is still to be read, and what was met so far: flags, the number of groups, their names, the
groups that are referred to, and whether some are by number. -/
structure Reading where
  rest : List Char
  flags : Flags := {}
  groups : Nat := 0
  names : List (List Char × Nat) := []
  referenced : List Nat := []
  refersByNumber : Bool := false

abbrev Read := StateT Reading Option

namespace Read

/-! ## Blanks and comments -/

/-- What follows the end of a comment in parentheses; a backslash hides the character after it. -/
def afterComment? : List Char → Option (List Char)
  | [] => none
  | ')' :: rest => some rest
  | ['\\'] => none
  | '\\' :: _ :: rest => afterComment? rest
  | _ :: rest => afterComment? rest

def isVerboseBlank (c : Char) : Bool := c == ' ' || c == '\r' || c == '\n' || c == '\t'

/-- Drops comments, and in verbose patterns blanks and comments that run to the end of their line. -/
def skipFrom (verbose : Bool) : Nat → List Char → Option (List Char)
  | 0, text => some text
  | fuel + 1, text =>
      match text with
      | '(' :: '?' :: '#' :: rest => do skipFrom verbose fuel (← afterComment? rest)
      | c :: rest =>
          if verbose && c == '#' then skipFrom verbose fuel ((rest.dropWhile (· ≠ '\n')).drop 1)
          else if verbose && isVerboseBlank c then skipFrom verbose fuel rest
          else some text
      | [] => some []

def skipped? (flags : Flags) (text : List Char) : Option (List Char) :=
  skipFrom flags.verbose (text.length + 1) text

def rest : Read (List Char) := do return (← get).rest

def goTo (rest : List Char) : Read Unit := modify fun state => { state with rest }

/-- Passes over blanks and comments and answers what follows them. -/
def skip : Read (List Char) := do
  let rest ← monadLift (skipped? (← get).flags (← get).rest)
  goTo rest
  return rest

/-! ## Numbers and names -/

/-- Numbers are of 64 bits. -/
def maxNumber : Nat := 18446744073709551615

/-- The decimal number at the start of a text. -/
def decimal? (text : List Char) : Option (Nat × List Char) :=
  let digits := text.takeWhile Char.isDigit
  let value := digits.foldl (fun total c => 10 * total + (c.toNat - 48)) 0
  if digits = [] ∨ value > maxNumber then none else some (value, text.dropWhile Char.isDigit)

/-- The counts between braces, with blanks and comments around them. The largest number stands for
no limit, as a missing one does. -/
def counts? (flags : Flags) (text : List Char) : Option ((Nat × Option Nat) × List Char) := do
  let text ← skipped? flags text
  let (least, text) ← if text.head? = some ',' then some (0, text) else decimal? text
  let limit (n : Nat) : Option Nat := if n = maxNumber then none else some n
  match ← skipped? flags text with
  | '\x7d' :: rest => return ((least, limit least), rest)
  | ',' :: rest =>
      let rest ← skipped? flags rest
      let (most, rest) := ((decimal? rest).map fun (n, rest) => (limit n, rest)).getD (none, rest)
      match ← skipped? flags rest with
      | '\x7d' :: rest => return ((least, most), rest)
      | _ => none
  | _ => none

def isNameChar (c : Char) : Bool := c == '_' || Unicode.isAlphanumeric c

/-- A name up to a closing mark. -/
def name? (closing : Char) (text : List Char) : Option (List Char × List Char) :=
  let name := text.takeWhile isNameChar
  match text.dropWhile isNameChar with
  | c :: rest => if c = closing ∧ name ≠ [] then some (name, rest) else none
  | [] => none

/-- A reference by name or number up to a closing mark. A number after a hyphen counts the groups
back from the last one that was opened. -/
def reference? (state : Reading) (closing : Char) (relative : Bool) (text : List Char) :
    Option (Nat × List Char) :=
  let number? (digits : List Char) : Option Nat :=
    match decimal? digits with
    | some (n, []) => some n
    | _ => none
  match text with
  | '-' :: rest => do
      if !relative then none
      else
        let (digits, rest) ← name? closing rest
        let back ← number? digits
        if back ≤ state.groups + 1 then return (state.groups + 1 - back, rest) else none
  | text => do
      let (name, rest) ← name? closing text
      let group ← ((state.names.find? (·.1 == name)).map (·.2)).or (number? name)
      return (group, rest)

def refer (group : Nat) : Read Tree := do
  modify fun state => { state with referenced := group :: state.referenced }
  return .backReference group

def readReference (closing : Char) (relative : Bool) (text : List Char) : Read Tree := do
  let (group, rest) ← monadLift (reference? (← get) closing relative text)
  goTo rest
  refer group

/-- A reference by number, which is less than half the size of the pattern. -/
def readNumber (size : Nat) (text : List Char) : Read Tree := do
  let (group, rest) ← monadLift (decimal? text)
  if group < size / 2 then
    modify fun state => { state with refersByNumber := true }
    goTo rest
    refer group
  else failure

/-! ## Escapes -/

def takeHex? : Nat → List Char → Option (List Char × List Char)
  | 0, text => some ([], text)
  | count + 1, c :: rest => do
      let _ ← hexValue? c
      let (digits, rest) ← takeHex? count rest
      return (c :: digits, rest)
  | _ + 1, [] => none

/-- A character by its code, of so many digits or of one to eight between braces. -/
def hexChar? (width : Nat) (text : List Char) : Option (Char × List Char) :=
  match takeHex? width text with
  | some (digits, rest) => do return (← Pattern.hexChar? digits, rest)
  | none =>
      match text with
      | '\x7b' :: rest =>
          let digits := rest.takeWhile fun c => (hexValue? c).isSome
          match rest.drop digits.length with
          | '\x7d' :: rest =>
              if digits.length ≤ 8 then (Pattern.hexChar? digits).map (·, rest) else none
          | _ => none
      | _ => none

def readHex (width : Nat) (text : List Char) : Read Tree := do
  let (c, rest) ← monadLift (hexChar? width text)
  goTo rest
  return .char c (← get).flags.ignoreCase

/-- The text of a property after its letter: one character, or all up to a closing brace. -/
def propertyText? : List Char → Option (List Char × List Char)
  | [] => none
  | '\x7b' :: rest =>
      match rest.dropWhile (· ≠ '\x7d') with
      | [] => none
      | brace :: after => some ('\x7b' :: rest.takeWhile (· ≠ '\x7d') ++ [brace], after)
  | c :: rest => some ([c], rest)

/-- The control characters with an escape of one letter. -/
def controlChar? : Char → Option Char
  | 'a' => some '\x07'
  | 'b' => some '\x08'
  | 'f' => some '\x0c'
  | 'n' => some '\n'
  | 'r' => some '\r'
  | 't' => some '\t'
  | 'v' => some '\x0b'
  | 'e' => some '\x1b'
  | _ => none

/-- The letters that stand for themselves inside brackets, because their escapes mean something
outside them alone. -/
def literalLetters : List Char := ['k', 'A', 'z', 'B', 'K', 'G']

/-- An escape that means the same inside brackets and outside them. -/
def readPlainEscape (c : Char) (rest : List Char) : Read Tree := do
  let ignoreCase := (← get).flags.ignoreCase
  let one (text : String) (ignoreCase : Bool) : Read Tree := do
    goTo rest
    return .one text.toList ignoreCase
  match c with
  | 'd' | 'D' | 's' | 'S' | 'w' | 'W' => one ("\\" ++ c.toString) ignoreCase
  | 'h' => one "[0-9A-Fa-f]" false
  | 'H' => one "[^0-9A-Fa-f]" false
  | 'x' => readHex 2 rest
  | 'u' => readHex 4 rest
  | 'U' => readHex 8 rest
  | 'p' | 'P' => do
      let (name, rest) ← monadLift (propertyText? rest)
      goTo rest
      return .one ('\\' :: c :: name) ignoreCase
  | c => do
      goTo rest
      match controlChar? c with
      | some control => return .char control false
      | none => if c.isAlpha && !literalLetters.contains c then failure else return .char c false

/-- What follows a backslash outside brackets. -/
def readEscape (size : Nat) (text : List Char) : Read Tree := do
  let anchor (kind : Anchor) (rest : List Char) : Read Tree := do
    goTo rest
    return .anchor kind
  match text with
  | [] => failure
  | 'k' :: '\'' :: rest => readReference '\'' true rest
  | 'k' :: '<' :: rest => readReference '>' true rest
  | 'k' :: _ => failure
  | 'A' :: rest => anchor .textStart rest
  | 'z' :: rest => anchor .textEnd rest
  | 'b' :: '\x7b' :: _ => failure
  | 'B' :: '\x7b' :: _ => failure
  | 'b' :: rest => anchor (.wordBoundary false) rest
  | 'B' :: rest => anchor (.noWordBoundary false) rest
  | '<' :: rest => anchor (.wordStart false) rest
  | '>' :: rest => anchor (.wordEnd false) rest
  | 'K' :: rest => do
      goTo rest
      return .keep
  | 'G' :: rest => do
      goTo rest
      return .searchStart
  | c :: rest => if c.isDigit then readNumber size (c :: rest) else readPlainEscape c rest

/-! ## Brackets -/

/-- The text of a class in the plain notation, from inside so many brackets. Escapes are written
anew, because the plain notation has fewer of them. -/
def classText : Nat → Nat → Read (List Char)
  | 0, _ => failure
  | fuel + 1, depth => do
      match ← rest with
      | [] => failure
      | '\\' :: c :: after => do
          if c.isDigit then failure
          else
            let escape ← match ← readPlainEscape c after with
              | .char c _ => pure (Tree.quote Tree.insideMarks c)
              | .one text _ => pure text
              | _ => failure
            return escape ++ (← classText fuel depth)
      | ['\\'] => failure
      | '[' :: after => do
          goTo after
          return '[' :: (← classText fuel (depth + 1))
      | ']' :: after => do
          goTo after
          if depth = 1 then return [']'] else return ']' :: (← classText fuel (depth - 1))
      | c :: after => do
          goTo after
          return c :: (← classText fuel depth)

/-- A class after its opening bracket. A closing bracket at its start is literal. -/
def readClass (text : List Char) : Read Tree := do
  let ignoreCase := (← get).flags.ignoreCase
  let (caret, text) := match text with
    | '^' :: rest => (['^'], rest)
    | text => ([], text)
  let (bracket, text) := match text with
    | ']' :: rest => ([']'], rest)
    | text => ([], text)
  goTo text
  let body ← classText (text.length + 1) 1
  return .one ('[' :: caret ++ bracket ++ body) ignoreCase

/-! ## Groups -/

/-- Groups are nested less deeply than this. -/
def maxDepth : Nat := 64

def close : Read Unit := do
  match ← skip with
  | ')' :: rest => goTo rest
  | _ => failure

def openGroup : Read Nat := do
  modify fun state => { state with groups := state.groups + 1 }
  return (← get).groups

/-- The name of a group up to its closing angle bracket; a later group may take over a name. -/
def openNamed (text : List Char) : Read Nat := do
  let number ← openGroup
  let (name, rest) ← monadLift (name? '>' text)
  modify fun state => { state with rest, names := (name, number) :: state.names }
  return number

/-- Reads flags up to a colon or a parenthesis, and answers whether a colon follows. The flag tells
whether letters set or clear; right after the opening, or after a hyphen there, nothing may close. -/
def readFlags : Nat → Nat → Bool → Read Bool
  | 0, _, _ => failure
  | fuel + 1, start, value => do
      let text ← skip
      let atStart := text.length == start || (!value && text.length + 1 == start)
      match text with
      | [] => failure
      | '-' :: rest =>
          if value then
            goTo rest
            readFlags fuel start false
          else failure
      | ')' :: rest =>
          if atStart then failure
          else
            goTo rest
            return false
      | ':' :: rest =>
          if !value && text.length + 1 == start then failure
          else
            goTo rest
            return true
      | c :: rest => do
          let flags ← monadLift ((← get).flags.set? c value)
          modify fun state => { state with rest, flags }
          readFlags fuel start value

def concatOf : List Tree → Tree
  | [] => .empty
  | [item] => item
  | items => .concat items

/-- A condition and what depends on it: the first alternative, and the others if it fails. -/
def conditionalOf (condition : Tree) : Tree → Tree
  | .alternation (yes :: no) =>
      let no := match no with
        | [only] => only
        | others => .alternation others
      if yes.isEmpty && no.isEmpty then condition else .conditional condition yes no
  | yes => if yes.isEmpty then condition else .conditional condition yes .empty

/-- A reference as a condition asks whether its group has matched. -/
def conditionOf : Tree → Tree
  | .backReference group => .groupMatched group
  | condition => condition

/-- The quantifier at the start of a text. -/
def quantifier? (flags : Flags) : List Char → Option ((Nat × Option Nat) × List Char)
  | '?' :: rest => some ((0, some 1), rest)
  | '*' :: rest => some ((0, none), rest)
  | '+' :: rest => some ((1, none), rest)
  | '\x7b' :: rest => counts? flags rest
  | _ => none

mutual

/-- Alternatives. Names and numbers are not mixed in one pattern. -/
def readAlternatives (size : Nat) : Nat → Nat → Read Tree
  | 0, _ => failure
  | fuel + 1, depth => do
      let first ← readSequence size fuel depth []
      match ← skip with
      | '|' :: _ => return .alternation (first :: (← readMore size fuel depth))
      | _ =>
          let state ← get
          if state.refersByNumber && !state.names.isEmpty then failure else return first

/-- The alternatives after the first. -/
def readMore (size : Nat) : Nat → Nat → Read (List Tree)
  | 0, _ => failure
  | fuel + 1, depth => do
      match ← skip with
      | '|' :: rest => do
          goTo rest
          let item ← readSequence size fuel depth []
          return item :: (← readMore size fuel depth)
      | _ => return []

/-- The parts of a sequence, after some in reverse. -/
def readSequence (size : Nat) : Nat → Nat → List Tree → Read Tree
  | 0, _, _ => failure
  | fuel + 1, depth, items => do
      let before := (← rest).length
      if before = 0 then return concatOf items.reverse
      else
        let item ← readPiece size fuel depth
        if (← rest).length = before then return concatOf items.reverse
        else readSequence size fuel depth (if item.isEmpty then items else item :: items)

/-- A part with its quantifier. A plus sign after a quantifier makes it atomic. -/
def readPiece (size : Nat) : Nat → Nat → Read Tree
  | 0, _ => failure
  | fuel + 1, depth => do
      let item ← readAtom size fuel depth
      let flags := (← get).flags
      match quantifier? flags (← skip) with
      | none => return item
      | some ((least, most), rest) =>
          if !item.isRepeatable then failure
          else do
            goTo rest
            let (isLazy, rest) := match ← skip with
              | '?' :: rest => (true, rest)
              | rest => (false, rest)
            goTo rest
            let repeated := Tree.repetition item least most (isLazy == flags.swapGreed)
            match rest with
            | '+' :: rest => do
                goTo rest
                return .atomic repeated
            | _ => return repeated

def readAtom (size : Nat) : Nat → Nat → Read Tree
  | 0, _ => failure
  | fuel + 1, depth => do
      let text ← skip
      let flags := (← get).flags
      match text with
      | [] => return .empty
      | '.' :: rest => do
          goTo rest
          return .any flags.dotAll
      | '^' :: rest => do
          goTo rest
          return .anchor (if flags.multiLine then .lineStart false else .textStart)
      | '$' :: rest => do
          goTo rest
          return .anchor (if flags.multiLine then .lineEnd false else .textEnd)
      | '(' :: rest => do
          goTo rest
          if depth + 1 < maxDepth then readGroup size fuel (depth + 1) else failure
      | '\\' :: rest => readEscape size rest
      | '[' :: rest => readClass rest
      | c :: rest =>
          if ['+', '*', '?', '|', ')'].contains c then return .empty
          else do
            goTo rest
            return .char c flags.ignoreCase

/-- What follows an opening parenthesis. -/
def readGroup (size : Nat) : Nat → Nat → Read Tree
  | 0, _ => failure
  | fuel + 1, depth => do
      let body (make : Tree → Tree) (rest : List Char) : Read Tree := do
        goTo rest
        let item ← readAlternatives size fuel depth
        close
        return make item
      match ← skip with
      | '?' :: '=' :: rest => body (.look false false) rest
      | '?' :: '!' :: rest => body (.look false true) rest
      | '?' :: '<' :: '=' :: rest => body (.look true false) rest
      | '?' :: '<' :: '!' :: rest => body (.look true true) rest
      | '?' :: '<' :: rest => do
          let number ← openNamed rest
          body (.group number) (← Read.rest)
      | '?' :: 'P' :: '<' :: rest => do
          let number ← openNamed rest
          body (.group number) (← Read.rest)
      | '?' :: 'P' :: '=' :: rest => readReference ')' false rest
      | '?' :: '>' :: rest => body .atomic rest
      | '?' :: '(' :: rest => readConditional size fuel depth rest
      | '?' :: rest => do
          let flags := (← get).flags
          goTo rest
          if ← readFlags (rest.length + 1) rest.length true then
            let item ← readAlternatives size fuel depth
            match ← Read.rest with
            | ')' :: rest => do
                modify fun state => { state with rest, flags }
                return item
            | _ => failure
          else return .empty
      | rest => do
          let number ← openGroup
          body (.group number) rest

/-- What follows the parenthesis of a condition. -/
def readConditional (size : Nat) : Nat → Nat → List Char → Read Tree
  | 0, _, _ => failure
  | fuel + 1, depth, text => do
      let condition ← match text with
        | [] => failure
        | '\'' :: rest => readReference '\'' true rest
        | '<' :: rest => readReference '>' true rest
        | c :: rest =>
            if c.isDigit then readNumber size (c :: rest)
            else do
              goTo text
              readAlternatives size fuel depth
      close
      let before := (← rest).length
      let branches ← readAlternatives size fuel depth
      if (← rest).length = before then
        match condition with
        | .backReference group => do
            close
            return .groupMatched group
        | _ => failure
      else
        close
        return conditionalOf (conditionOf condition) branches

end

end Read

/-- A pattern that was read, with the groups that it refers to. -/
structure Parsed where
  tree : Tree
  referenced : List Nat

/-- Reads a pattern. -/
def Parsed.read? (text : List Char) : Option Parsed := do
  let size := (String.ofList text).utf8ByteSize
  let (tree, state) ← (Read.readAlternatives size (8 * text.length + 8) 0).run { rest := text }
  if state.rest = [] then some ⟨tree, state.referenced⟩ else none

end ApiContract.Pattern.Backtracking
