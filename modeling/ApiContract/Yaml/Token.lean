import ApiContract.Text.Segments
import ApiContract.Yaml.Scalar
import ApiContract.Yaml.Tag

/-!
The tokens of YAML text. Indentation opens and closes block collections, and a key is recognised
only at the colon after it, so its token is inserted where the key began. A key must lie on one line
and within 1024 bytes before its colon.
-/

namespace ApiContract.Yaml

inductive Token where
  | version (major minor : Nat)
  | tagHandle (handle : String) (start : Tag)
  | documentStart
  | documentEnd
  | blockSequence
  | blockMapping
  | blockEnd
  | flowSequence
  | flowSequenceEnd
  | flowMapping
  | flowMappingEnd
  | blockEntry
  | flowEntry
  | key
  | value
  | alias (name : String)
  | anchor (name : String)
  | tag (handle : String) (suffix : Tag)
  | scalar (plain : Bool) (text : String)
deriving DecidableEq, Repr, Inhabited

/-- A place that becomes a key if a colon follows in time. -/
structure PossibleKey where
  required : Bool
  position : Nat
  index : Nat
  line : Nat
  column : Nat
deriving Repr

/-- A scan part way: one possible key for each level of brackets, the innermost first. -/
structure Scan where
  cursor : Cursor
  tokens : Array Token := #[]
  flowLevel : Nat := 0
  indent : Int := -1
  outerIndents : List Int := []
  keyAllowed : Bool := true
  keys : List (Option PossibleKey) := [none]
deriving Repr

namespace Scan

def emit (scan : Scan) (token : Token) : Scan := { scan with tokens := scan.tokens.push token }

def move (scan : Scan) (count : Nat) : Scan := { scan with cursor := scan.cursor.advance count }

/-- The possible key of the innermost level, unless it lies too far back; a required key that does is an error. -/
def currentKey (scan : Scan) : Option (Option PossibleKey) :=
  match scan.keys.head?.bind id with
  | none => some none
  | some key =>
      if key.line < scan.cursor.line ∨ key.index + 1024 < scan.cursor.index then
        if key.required then none else some none
      else some (some key)

/-- Gives up every possible key that lies too far back. -/
def dropStaleKeys (scan : Scan) : Option Scan := do
  let keys ← scan.keys.mapM fun entry =>
    match entry with
    | none => some none
    | some key =>
        if key.line < scan.cursor.line ∨ key.index + 1024 < scan.cursor.index then
          if key.required then none else some none
        else some (some key)
  return { scan with keys }

/-- Gives up the possible key of the innermost level; a required one must not be given up. -/
def removeKey (scan : Scan) : Option Scan :=
  match scan.keys with
  | some key :: others => if key.required then none else some { scan with keys := none :: others }
  | _ => some scan

/-- Remembers that a key may begin here. -/
def saveKey (scan : Scan) : Option Scan :=
  if scan.keyAllowed then do
    let scan ← scan.removeKey
    let key : PossibleKey :=
      { required := scan.flowLevel = 0 && scan.indent = scan.cursor.column
        position := scan.tokens.size
        index := scan.cursor.index
        line := scan.cursor.line
        column := scan.cursor.column }
    return { scan with keys := some key :: scan.keys.drop 1 }
  else some scan

/-- Opens a block collection at a column right of the current one, before the token at a position. -/
def indentTo (scan : Scan) (column : Nat) (position : Nat) (token : Token) : Scan :=
  if scan.flowLevel = 0 && scan.indent < column then
    { scan with
      outerIndents := scan.indent :: scan.outerIndents
      indent := column
      tokens := scan.tokens.insertIdxIfInBounds position token }
  else scan

/-- Closes the block collections right of a column. -/
def outdentTo (column : Int) : Nat → Scan → Scan
  | 0, scan => scan
  | fuel + 1, scan =>
      if scan.flowLevel = 0 && column < scan.indent then
        outdentTo column fuel
          { (scan.emit .blockEnd) with
            indent := scan.outerIndents.headD (-1)
            outerIndents := scan.outerIndents.drop 1 }
      else scan

def outdent (scan : Scan) (column : Int) : Scan :=
  outdentTo column (scan.outerIndents.length + 1) scan

/-- Skips blanks, comments, breaks and a mark at the start of a line. Where a key may begin, a tab is no
blank. -/
def skipToToken : Nat → Scan → Scan
  | 0, scan => scan
  | fuel + 1, scan =>
      let tabs := scan.flowLevel > 0 || !scan.keyAllowed
      let cursor := scan.cursor
      let cursor :=
        if cursor.column = 0 ∧ cursor.peek = some byteOrderMark then cursor.advance 1 else cursor
      let cursor := cursor.skipWhile fun c => c = ' ' || (tabs && c = '\t')
      let cursor := if cursor.peek = some '#' then cursor.skipWhile fun c => !isBreak c else cursor
      if (cursor.peek.map isBreak).getD false then
        let next := { scan with cursor := cursor.breakLine.2 }
        skipToToken fuel (if scan.flowLevel = 0 then { next with keyAllowed := true } else next)
      else { scan with cursor }

/-! ## One kind of token each -/

/-- A line may end with blanks and a comment. -/
def endOfLine? (cursor : Cursor) : Option Cursor :=
  let cursor := cursor.skipWhile isBlank
  let cursor := if cursor.peek = some '#' then cursor.skipWhile fun c => !isBreak c else cursor
  if (cursor.peek.map isBreak).getD true then some cursor.breakLine.2 else none

def digitsValue (digits : List Char) : Nat :=
  digits.foldl (fun total c => 10 * total + (c.toNat - 48)) 0

def versionDirective (cursor : Cursor) : Option (Token × Cursor) := do
  let cursor := cursor.skipWhile isBlank
  let major := cursor.rest.takeWhile Char.isDigit
  let cursor := cursor.advance major.length
  let minor := (cursor.rest.drop 1).takeWhile Char.isDigit
  if major = [] ∨ major.length > 9 ∨ cursor.peek ≠ some '.' ∨ minor = [] ∨ minor.length > 9 then none
  else return (.version (digitsValue major) (digitsValue minor), cursor.advance (minor.length + 1))

/-- A handle: an exclamation mark, name characters, and a second mark if there is one. -/
def handleLength (text : List Char) : Nat :=
  match text with
  | '!' :: rest =>
      let name := (rest.takeWhile isNameChar).length
      if rest[name]? = some '!' then name + 2 else name + 1
  | _ => 0

def tagDirective (cursor : Cursor) : Option (Token × Cursor) := do
  let cursor := cursor.skipWhile isBlank
  let length := handleLength cursor.rest
  let handle := cursor.rest.take length
  let cursor := cursor.advance length
  if length = 0 ∨ (handle ≠ ['!'] ∧ (length = 1 ∨ handle.getLast? ≠ some '!'))
      ∨ !((cursor.peek.map isBlank).getD false) then none
  else
    let (start, cursor) ← (cursor.skipWhile isBlank).readTag true
    if start.isEmpty || !endsWord cursor.peek then none
    else return (.tagHandle (String.ofList handle) start.cut, cursor)

def directive (scan : Scan) : Option Scan := do
  let scan ← (scan.outdent (-1)).removeKey
  let cursor := scan.cursor.advance 1
  let name := cursor.rest.takeWhile isNameChar
  let cursor := cursor.advance name.length
  if !endsWord cursor.peek then none
  else
    let (token, cursor) ←
      if name = "YAML".toList then versionDirective cursor
      else if name = "TAG".toList then tagDirective cursor
      else none
    let cursor ← endOfLine? cursor
    return { scan.emit token with cursor, keyAllowed := false }

def documentMark (scan : Scan) (token : Token) : Option Scan := do
  let scan ← (scan.outdent (-1)).removeKey
  return { (scan.emit token).move 3 with keyAllowed := false }

def openFlow (scan : Scan) (token : Token) : Option Scan := do
  let scan ← scan.saveKey
  return { (scan.emit token).move 1 with
    flowLevel := scan.flowLevel + 1, keys := none :: scan.keys, keyAllowed := true }

def closeFlow (scan : Scan) (token : Token) : Option Scan := do
  let scan ← scan.removeKey
  let inner := if scan.flowLevel = 0 then scan else
    { scan with flowLevel := scan.flowLevel - 1, keys := scan.keys.drop 1 }
  return { (inner.emit token).move 1 with keyAllowed := false }

def flowEntry (scan : Scan) : Option Scan := do
  let scan ← scan.removeKey
  return { (scan.emit .flowEntry).move 1 with keyAllowed := true }

/-- In block context an entry or a key may begin only where a key may. -/
def openBlock (scan : Scan) (token : Token) : Option Scan :=
  if scan.flowLevel > 0 then some scan
  else if scan.keyAllowed then some (scan.indentTo scan.cursor.column scan.tokens.size token)
  else none

def blockEntry (scan : Scan) : Option Scan := do
  let scan ← (← scan.openBlock .blockSequence).removeKey
  return { (scan.emit .blockEntry).move 1 with keyAllowed := true }

def explicitKey (scan : Scan) : Option Scan := do
  let scan ← (← scan.openBlock .blockMapping).removeKey
  return { (scan.emit .key).move 1 with keyAllowed := scan.flowLevel = 0 }

def valueMark (scan : Scan) : Option Scan := do
  match ← scan.currentKey with
  | some key =>
      let keyed := { scan with
        tokens := scan.tokens.insertIdxIfInBounds key.position .key, keys := none :: scan.keys.drop 1 }
      let opened := keyed.indentTo key.column key.position .blockMapping
      return { (opened.emit .value).move 1 with keyAllowed := false }
  | none =>
      let opened ← scan.openBlock .blockMapping
      return { (opened.emit .value).move 1 with keyAllowed := scan.flowLevel = 0 }

/-- The name of an anchor or alias, which ends at a blank or an indicator. -/
def anchorName (make : String → Token) (scan : Scan) : Option Scan := do
  let scan ← scan.saveKey
  let cursor := scan.cursor.advance 1
  let name := cursor.rest.takeWhile isNameChar
  let cursor := cursor.advance name.length
  let ends := endsWord cursor.peek || (cursor.peek.map "?:,]\x7d%@`".toList.contains).getD false
  if name = [] ∨ !ends then none
  else return { scan.emit (make (String.ofList name)) with cursor, keyAllowed := false }

/-- A tag between angle brackets, with a handle, or with the plain exclamation mark. -/
def tagToken (cursor : Cursor) : Option (Token × Cursor) := do
  if cursor.peek 1 = some '<' then
    let (tag, cursor) ← (cursor.advance 2).readTag true
    if tag.isEmpty || cursor.peek != some '>' then none
    else return (.tag "" tag.cut, cursor.advance 1)
  else
    let length := handleLength cursor.rest
    let handle := String.ofList (cursor.rest.take length)
    let (more, last) ← (cursor.advance length).readTag false
    if length ≥ 2 ∧ Text.endsWith handle "!" then
      if more.isEmpty then none else return (.tag handle more.cut, last)
    else
      let suffix := ((Tag.ofText (String.ofList (handle.toList.drop 1))).append more).cut
      if suffix.isEmpty then return (.tag "" (.ofText "!"), last) else return (.tag "!" suffix, last)

def tag (scan : Scan) : Option Scan := do
  let scan ← scan.saveKey
  let (token, cursor) ← tagToken scan.cursor
  if endsWord cursor.peek || (scan.flowLevel > 0 && cursor.peek = some ',') then
    return { scan.emit token with cursor, keyAllowed := false }
  else none

def blockScalar (scan : Scan) (literal : Bool) : Option Scan := do
  let scan ← scan.removeKey
  let (text, cursor) ← scanBlock literal scan.indent scan.cursor
  return { scan.emit (.scalar false (String.ofList text)) with cursor, keyAllowed := true }

def quotedScalar (scan : Scan) (single : Bool) : Option Scan := do
  let scan ← scan.saveKey
  let (text, cursor) ← scanQuoted single scan.cursor
  return { scan.emit (.scalar false (String.ofList text)) with cursor, keyAllowed := false }

def plainScalar (scan : Scan) : Option Scan := do
  let scan ← scan.saveKey
  let (scalar, cursor) ←
    scanPlain (scan.flowLevel > 0) (scan.indent + 1).toNat (scan.cursor.rest.length + 1) [] {} scan.cursor
  return { scan.emit (.scalar true (String.ofList scalar.text)) with
    cursor, keyAllowed := scalar.brokenAfter }

/-- A plain scalar begins with no indicator, or with one of three that no blank follows. -/
def startsPlain (scan : Scan) (c : Char) : Bool :=
  let next := scan.cursor.peek 1
  !(isBlank c || isBreak c || "-?:,[]\x7b\x7d#&*!|>'\"%@`".toList.contains c)
    || (c = '-' && !((next.map isBlank).getD false))
    || (scan.flowLevel = 0 && (c = '?' || c = ':') && !endsWord next)

/-- Reads the token that begins with a character. -/
def token (scan : Scan) (c : Char) : Option Scan :=
  let inFlow := scan.flowLevel > 0
  let spaced := endsWord (scan.cursor.peek 1)
  if scan.cursor.column = 0 && c = '%' then scan.directive
  else if scan.cursor.atDocumentMark '-' then scan.documentMark .documentStart
  else if scan.cursor.atDocumentMark '.' then scan.documentMark .documentEnd
  else match c with
    | '[' => scan.openFlow .flowSequence
    | '\x7b' => scan.openFlow .flowMapping
    | ']' => scan.closeFlow .flowSequenceEnd
    | '\x7d' => scan.closeFlow .flowMappingEnd
    | ',' => scan.flowEntry
    | '*' => scan.anchorName .alias
    | '&' => scan.anchorName .anchor
    | '!' => scan.tag
    | '\'' => scan.quotedScalar true
    | '"' => scan.quotedScalar false
    | c =>
        if c = '-' && spaced then scan.blockEntry
        else if c = '?' && (inFlow || spaced) then scan.explicitKey
        else if c = ':' && (inFlow || spaced) then scan.valueMark
        else if c = '|' && !inFlow then scan.blockScalar true
        else if c = '>' && !inFlow then scan.blockScalar false
        else if scan.startsPlain c then scan.plainScalar
        else none

def finish (scan : Scan) : Option (List Token) := do
  let scan ← (scan.outdent (-1)).removeKey
  return scan.tokens.toList

def run : Nat → Scan → Option (List Token)
  | 0, _ => none
  | fuel + 1, scan => do
      let scan ← (skipToToken (scan.cursor.rest.length + 1) scan).dropStaleKeys
      match scan.cursor.peek with
      | none => scan.finish
      | some c => run fuel (← (scan.outdent scan.cursor.column).token c)

end Scan

/-- The tokens of a text; none when it is no YAML. -/
def tokens? (text : String) : Option (List Token) :=
  let chars := text.toList
  if chars.all isPrintable then Scan.run (chars.length + 1) { cursor := { rest := chars } } else none

end ApiContract.Yaml
