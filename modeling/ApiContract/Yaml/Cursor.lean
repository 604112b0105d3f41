/-!
A place in YAML text with its line and column, and the gaps of blanks and line breaks between words.
-/

namespace ApiContract.Yaml

structure Cursor where
  rest : List Char
  /-- The number of bytes before. -/
  index : Nat := 0
  line : Nat := 0
  column : Nat := 0
deriving Repr

def isBreak (c : Char) : Bool :=
  c = '\n' || c = '\r' || c.toNat = 0x85 || c.toNat = 0x2028 || c.toNat = 0x2029

def isBlank (c : Char) : Bool := c = ' ' || c = '\t'

/-- A blank, a break or the end of the text. -/
def endsWord (c : Option Char) : Bool :=
  match c with
  | none => true
  | some c => isBlank c || isBreak c

/-- Characters of anchors, handles and directive names. -/
def isNameChar (c : Char) : Bool := c.isAlphanum || c = '_' || c = '-'

/-- A mark that may begin a line. It is passed over there and takes a column. -/
def byteOrderMark : Char := Char.ofNat 0xFEFF

/-- Characters that YAML text may hold. -/
def isPrintable (c : Char) : Bool :=
  let code := c.toNat
  code = 9 || code = 10 || code = 13 || (32 ≤ code && code ≤ 126) || code = 0x85
    || (0xA0 ≤ code && code ≤ 0xD7FF) || (0xE000 ≤ code && code ≤ 0xFFFD)
    || 0x10000 ≤ code

def hexDigit? (c : Char) : Option Nat :=
  if c.isDigit then some (c.toNat - 48)
  else if 'a' ≤ c ∧ c ≤ 'f' then some (c.toNat - 87)
  else if 'A' ≤ c ∧ c ≤ 'F' then some (c.toNat - 55)
  else none

namespace Cursor

def peek (cursor : Cursor) (offset : Nat := 0) : Option Char := cursor.rest[offset]?

/-- The number of bytes of the next characters. -/
def bytesOf (cursor : Cursor) (count : Nat) : Nat :=
  (cursor.rest.take count).foldl (fun total c => total + c.utf8Size) 0

/-- Moves over characters of the same line. -/
def advance (cursor : Cursor) (count : Nat) : Cursor :=
  { cursor with
    rest := cursor.rest.drop count
    index := cursor.index + cursor.bytesOf count
    column := cursor.column + count }

/-- Moves over one line break and tells how it reads: all but two kinds read as a line feed. -/
def breakLine (cursor : Cursor) : List Char × Cursor :=
  let past (count : Nat) : Cursor :=
    { rest := cursor.rest.drop count
      index := cursor.index + cursor.bytesOf count
      line := cursor.line + 1
      column := 0 }
  match cursor.rest with
  | [] => ([], cursor)
  | '\r' :: '\n' :: _ => (['\n'], past 2)
  | c :: _ => (if c.toNat = 0x2028 ∨ c.toNat = 0x2029 then [c] else ['\n'], past 1)

def skipWhile (cursor : Cursor) (accepts : Char → Bool) : Cursor :=
  cursor.advance (cursor.rest.takeWhile accepts).length

/-- A line of three hyphens or points that ends or begins a document. -/
def atDocumentMark (cursor : Cursor) (mark : Char) : Bool :=
  cursor.column = 0 && cursor.rest.take 3 = [mark, mark, mark] && endsWord (cursor.peek 3)

def atDocumentEdge (cursor : Cursor) : Bool :=
  cursor.atDocumentMark '-' || cursor.atDocumentMark '.'

end Cursor

/-- What lies between two words of a scalar: blanks of one line, or a first break and the others. -/
structure Gap where
  blanks : List Char := []
  broken : Bool := false
  firstBreak : List Char := []
  otherBreaks : List Char := []
deriving Repr

namespace Gap

/-- A single break reads as a space, and of several all but the first are kept. -/
def folded (gap : Gap) : List Char :=
  if !gap.broken then gap.blanks
  else if gap.firstBreak = ['\n'] then
    if gap.otherBreaks.isEmpty then [' '] else gap.otherBreaks
  else gap.firstBreak ++ gap.otherBreaks

/-- Reads blanks and breaks. After a break, a tab left of the least column is refused. -/
def scan (leastColumn : Nat) : Nat → Gap → Cursor → Option (Gap × Cursor)
  | 0, gap, cursor => some (gap, cursor)
  | fuel + 1, gap, cursor =>
      match cursor.peek with
      | none => some (gap, cursor)
      | some c =>
          if isBlank c then
            if gap.broken && c = '\t' && cursor.column < leastColumn then none
            else
              let gap := if gap.broken then gap else { gap with blanks := gap.blanks ++ [c] }
              scan leastColumn fuel gap (cursor.advance 1)
          else if isBreak c then
            let (text, next) := cursor.breakLine
            let gap :=
              if gap.broken then { gap with otherBreaks := gap.otherBreaks ++ text }
              else { gap with blanks := [], broken := true, firstBreak := text }
            scan leastColumn fuel gap next
          else some (gap, cursor)

end Gap

end ApiContract.Yaml
