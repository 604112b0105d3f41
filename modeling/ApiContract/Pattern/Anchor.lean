import ApiContract.Unicode.Classes

/-!
Conditions on a position of a text: its ends, the ends of its lines, and the edges of its words.
-/

namespace ApiContract.Pattern

/-- Conditions on a position. Line anchors may take carriage returns for line ends too, and words
may be words of ASCII alone. -/
inductive Anchor where
  | textStart
  | textEnd
  | lineStart (carriageReturns : Bool)
  | lineEnd (carriageReturns : Bool)
  | wordBoundary (ascii : Bool)
  | noWordBoundary (ascii : Bool)
  | wordStart (ascii : Bool)
  | wordEnd (ascii : Bool)
  | wordStartHalf (ascii : Bool)
  | wordEndHalf (ascii : Bool)
deriving DecidableEq, Repr

namespace Anchor

def isWord (ascii : Bool) (c : Char) : Bool :=
  if ascii then c.isAlphanum || c == '_' else Unicode.isWordChar c

def wordBefore (ascii : Bool) (text : Array Char) (position : Nat) : Bool :=
  position > 0 && (text[position - 1]?.map (isWord ascii)).getD false

def wordAfter (ascii : Bool) (text : Array Char) (position : Nat) : Bool :=
  (text[position]?.map (isWord ascii)).getD false

def holds (anchor : Anchor) (text : Array Char) (position : Nat) : Bool :=
  let before := if position = 0 then none else text[position - 1]?
  let after := text[position]?
  match anchor with
  | .textStart => position == 0
  | .textEnd => position == text.size
  | .lineStart false => position == 0 || before == some '\n'
  | .lineStart true =>
      position == 0 || before == some '\n' || (before == some '\r' && after != some '\n')
  | .lineEnd false => position == text.size || after == some '\n'
  | .lineEnd true =>
      position == text.size || after == some '\r' || (after == some '\n' && before != some '\r')
  | .wordBoundary ascii => wordBefore ascii text position != wordAfter ascii text position
  | .noWordBoundary ascii => wordBefore ascii text position == wordAfter ascii text position
  | .wordStart ascii => !wordBefore ascii text position && wordAfter ascii text position
  | .wordEnd ascii => wordBefore ascii text position && !wordAfter ascii text position
  | .wordStartHalf ascii => !wordBefore ascii text position
  | .wordEndHalf ascii => !wordAfter ascii text position

end Anchor

end ApiContract.Pattern
