import ApiContract.Yaml.Cursor

/-!
The texts of YAML scalars in their five styles: plain, single and double quoted, literal and folded.
-/

namespace ApiContract.Yaml

/-- A scalar that was read, and whether a plain one ended on a later line than its last word. -/
structure ScalarText where
  text : List Char
  brokenAfter : Bool := false
deriving Repr

/-! ## Plain scalars -/

def isFlowIndicator (c : Char) : Bool := c = ',' || c = '[' || c = ']' || c = '\x7b' || c = '\x7d'

/-- The length of the word at the start of a text; inside brackets a colon before an indicator is refused. -/
def wordLength (inFlow : Bool) : List Char → Option Nat
  | [] => some 0
  | c :: rest =>
      if isBlank c || isBreak c then some 0
      else if c = ':' && inFlow && (rest.head?.map fun d => isFlowIndicator d || d = '?').getD false then none
      else if c = ':' && endsWord rest.head? then some 0
      else if inFlow && isFlowIndicator c then some 0
      else (wordLength inFlow rest).map (· + 1)

/-- Reads words and gaps from a cursor until the scalar ends. -/
def scanPlain (inFlow : Bool) (leastColumn : Nat) :
    Nat → List Char → Gap → Cursor → Option (ScalarText × Cursor)
  | 0, _, _, _ => none
  | fuel + 1, text, gap, cursor =>
      if cursor.atDocumentEdge || cursor.peek = some '#' then some (⟨text, gap.broken⟩, cursor)
      else do
        let length ← wordLength inFlow cursor.rest
        let text := if length = 0 then text else text ++ gap.folded ++ cursor.rest.take length
        let gap := if length = 0 then gap else {}
        let cursor := cursor.advance length
        match cursor.peek with
        | none => return (⟨text, gap.broken⟩, cursor)
        | some c =>
            if !(isBlank c || isBreak c) then return (⟨text, gap.broken⟩, cursor)
            else
              let (gap, cursor) ← Gap.scan leastColumn cursor.rest.length gap cursor
              if !inFlow && cursor.column < leastColumn then return (⟨text, gap.broken⟩, cursor)
              else scanPlain inFlow leastColumn fuel text gap cursor

/-! ## Quoted scalars -/

def hexNumber? (digits : List Char) : Option Nat :=
  digits.foldlM (fun total c => (hexDigit? c).map (16 * total + ·)) 0

/-- A character given by its code in so many hexadecimal digits. -/
def codedChar? (width : Nat) (text : List Char) : Option (List Char × Nat) :=
  if text.length < width then none
  else do
    let code ← hexNumber? (text.take width)
    if code.isValidChar then return ([Char.ofNat code], width + 2) else none

/-- What a backslash and the characters after it stand for, and how many characters that takes. -/
def escaped? (text : List Char) : Option (List Char × Nat) :=
  let code (n : Nat) : Option (List Char × Nat) := some ([Char.ofNat n], 2)
  match text with
  | '0' :: _ => code 0
  | 'a' :: _ => code 7
  | 'b' :: _ => code 8
  | 't' :: _ => code 9
  | '\t' :: _ => code 9
  | 'n' :: _ => code 10
  | 'v' :: _ => code 11
  | 'f' :: _ => code 12
  | 'r' :: _ => code 13
  | 'e' :: _ => code 27
  | ' ' :: _ => code 32
  | '"' :: _ => code 34
  | '/' :: _ => code 47
  | '\\' :: _ => code 92
  | 'N' :: _ => code 0x85
  | '_' :: _ => code 0xA0
  | 'L' :: _ => code 0x2028
  | 'P' :: _ => code 0x2029
  | 'x' :: rest => codedChar? 2 rest
  | 'u' :: rest => codedChar? 4 rest
  | 'U' :: rest => codedChar? 8 rest
  | _ => none

/-- How the word part of a quoted scalar ended. -/
inductive WordEnd where
  | gap
  | escapedBreak

/-- Reads one word of a quoted scalar: up to a blank, a break or the closing quote. -/
def scanQuotedWord (single : Bool) :
    Nat → List Char → Cursor → Option (List Char × WordEnd × Cursor)
  | 0, text, cursor => some (text, .gap, cursor)
  | fuel + 1, text, cursor =>
      match cursor.rest with
      | [] => some (text, .gap, cursor)
      | c :: rest =>
          if isBlank c || isBreak c then some (text, .gap, cursor)
          else if single then
            if c = '\'' then
              if rest.head? = some '\'' then
                scanQuotedWord single fuel (text ++ ['\'']) (cursor.advance 2)
              else some (text, .gap, cursor)
            else scanQuotedWord single fuel (text ++ [c]) (cursor.advance 1)
          else if c = '"' then some (text, .gap, cursor)
          else if c = '\\' then
            if (rest.head?.map isBreak).getD false then
              some (text, .escapedBreak, (cursor.advance 1).breakLine.2)
            else do
              let (chars, length) ← escaped? rest
              scanQuotedWord single fuel (text ++ chars) (cursor.advance length)
          else scanQuotedWord single fuel (text ++ [c]) (cursor.advance 1)

/-- Reads on inside a quoted scalar; no document may begin or end inside it. -/
def scanQuotedFrom (single : Bool) : Nat → List Char → Cursor → Option (List Char × Cursor)
  | 0, _, _ => none
  | fuel + 1, text, cursor =>
      if cursor.atDocumentEdge || cursor.rest.isEmpty then none
      else do
        let (text, wordEnd, cursor) ← scanQuotedWord single cursor.rest.length text cursor
        let quote := if single then '\'' else '"'
        if cursor.peek = some quote then return (text, cursor.advance 1)
        else
          let broken := match wordEnd with
            | .gap => false
            | .escapedBreak => true
          let (gap, cursor) ← Gap.scan 0 cursor.rest.length { broken } cursor
          scanQuotedFrom single fuel (text ++ gap.folded) cursor

/-- A quoted scalar, from its opening quote. -/
def scanQuoted (single : Bool) (cursor : Cursor) : Option (List Char × Cursor) :=
  scanQuotedFrom single (cursor.rest.length + 1) [] (cursor.advance 1)

/-! ## Block scalars -/

inductive Chomping where
  | clip
  | strip
  | keep
deriving DecidableEq, Repr

structure BlockHeader where
  chomping : Chomping
  increment : Nat
deriving Repr

def chomping? (c : Char) : Option Chomping :=
  if c = '+' then some .keep else if c = '-' then some .strip else none

/-- The indicators after `|` or `>`, in either order; an indentation of zero is refused. -/
def scanBlockHeader (cursor : Cursor) : Option (BlockHeader × Cursor) :=
  let digit? (cursor : Cursor) : Option Char := cursor.peek.filter Char.isDigit
  match cursor.peek.bind chomping? with
  | some chomping =>
      let cursor := cursor.advance 1
      match digit? cursor with
      | some '0' => none
      | some d => some (⟨chomping, d.toNat - 48⟩, cursor.advance 1)
      | none => some (⟨chomping, 0⟩, cursor)
  | none =>
      match digit? cursor with
      | some '0' => none
      | some d =>
          let cursor := cursor.advance 1
          match cursor.peek.bind chomping? with
          | some chomping => some (⟨chomping, d.toNat - 48⟩, cursor.advance 1)
          | none => some (⟨.clip, d.toNat - 48⟩, cursor)
      | none => some (⟨.clip, 0⟩, cursor)

/-- Skips indentation and empty lines; answers the breaks and the widest indentation. With
indentation zero every leading space is indentation. -/
def scanBreaks (indent : Nat) : Nat → Nat → List Char → Cursor → Option (List Char × Nat × Cursor)
  | 0, widest, breaks, cursor => some (breaks, widest, cursor)
  | fuel + 1, widest, breaks, cursor =>
      let spaces := (cursor.rest.takeWhile (· = ' ')).length
      let count := if indent = 0 then spaces else min spaces (indent - cursor.column)
      let cursor := cursor.advance count
      let widest := max widest cursor.column
      match cursor.peek with
      | some c =>
          if c = '\t' && (indent = 0 || cursor.column < indent) then none
          else if isBreak c then
            let (text, next) := cursor.breakLine
            scanBreaks indent fuel widest (breaks ++ text) next
          else some (breaks, widest, cursor)
      | none => some (breaks, widest, cursor)

/-- The lines of a block scalar; a folded one joins lines that do not begin with a blank. -/
def scanLines (literal : Bool) (chomping : Chomping) (indent : Nat) :
    Nat → List Char → List Char → List Char → Bool → Cursor → Option (List Char × Cursor)
  | 0, _, _, _, _, _ => none
  | fuel + 1, text, firstBreak, otherBreaks, blankBefore, cursor =>
      if cursor.column = indent && !cursor.rest.isEmpty then do
        let blankHere := (cursor.peek.map isBlank).getD false
        let joint :=
          if !literal && firstBreak = ['\n'] && !blankBefore && !blankHere then
            (if otherBreaks.isEmpty then [' '] else []) ++ otherBreaks
          else firstBreak ++ otherBreaks
        let line := cursor.rest.takeWhile fun c => !isBreak c
        let (lineBreak, cursor) := (cursor.advance line.length).breakLine
        let (others, _, cursor) ← scanBreaks indent (cursor.rest.length + 1) 0 [] cursor
        scanLines literal chomping indent fuel (text ++ joint ++ line) lineBreak others blankHere cursor
      else
        let tail := match chomping with
          | .strip => []
          | .clip => firstBreak
          | .keep => firstBreak ++ otherBreaks
        some (text ++ tail, cursor)

/-- A block scalar, from its `|` or `>`, inside a collection of the given indentation. -/
def scanBlock (literal : Bool) (parentIndent : Int) (cursor : Cursor) : Option (List Char × Cursor) := do
  let (header, cursor) ← scanBlockHeader (cursor.advance 1)
  let cursor := cursor.skipWhile isBlank
  let cursor := if cursor.peek = some '#' then cursor.skipWhile fun c => !isBreak c else cursor
  if !((cursor.peek.map isBreak).getD true) then none
  else
    let cursor := cursor.breakLine.2
    let given := if header.increment = 0 then 0 else (max parentIndent 0).toNat + header.increment
    let (breaks, widest, cursor) ← scanBreaks given (cursor.rest.length + 1) 0 [] cursor
    let indent := if given = 0 then max (max widest (parentIndent + 1).toNat) 1 else given
    scanLines literal header.chomping indent (cursor.rest.length + 2) [] [] breaks false cursor

end ApiContract.Yaml
