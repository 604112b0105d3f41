import ApiContract.Pattern.Regular
import ApiContract.Pattern.Syntax
import ApiContract.Unicode.Case
import ApiContract.Unicode.Classes

/-!
What a pattern means. Flags hold from where they are set to the end of the group around them. A
pattern that could match part of a character has no meaning, nor has one that names an unknown property.
-/

namespace ApiContract.Pattern

open Unicode (CodePointSet)

structure Flags where
  ignoreCase : Bool := false
  multiLine : Bool := false
  dotAll : Bool := false
  swapGreed : Bool := false
  /-- Off, classes and words are those of ASCII. -/
  unicode : Bool := true
  carriageReturns : Bool := false
deriving DecidableEq, Repr

namespace Flags

def apply (flags : Flags) (setting : FlagSetting) : Flags :=
  match setting.flag with
  | .ignoreCase => { flags with ignoreCase := setting.value }
  | .multiLine => { flags with multiLine := setting.value }
  | .dotAll => { flags with dotAll := setting.value }
  | .swapGreed => { flags with swapGreed := setting.value }
  | .unicode => { flags with unicode := setting.value }
  | .carriageReturns => { flags with carriageReturns := setting.value }
  | .verbose => flags

/-- A set with the characters that differ from its own in case alone, when case is ignored. -/
def foldCase (flags : Flags) (chars : CodePointSet) : CodePointSet :=
  if !flags.ignoreCase then chars
  else if flags.unicode then Unicode.closeUnderCase chars
  else Unicode.closeUnderAsciiCase chars

/-- A set and its complement. A complement reaches beyond ASCII. -/
def negateIf (flags : Flags) (negated : Bool) (chars : CodePointSet) : Option CodePointSet :=
  if !negated then some chars
  else if flags.unicode then some chars.complement
  else none

/-- The set of a class written with the letter of its name. -/
def shorthandSet (flags : Flags) : Shorthand → CodePointSet
  | .digit => if flags.unicode then Unicode.decimalDigits else .range 48 57
  | .blank => if flags.unicode then Unicode.blanks else .ofRanges [(9, 13), (32, 32)]
  | .word =>
      if flags.unicode then Unicode.wordChars
      else .ofRanges [(48, 57), (65, 90), (95, 95), (97, 122)]

def shorthand (flags : Flags) (negated : Bool) (kind : Shorthand) : Option CodePointSet :=
  flags.negateIf negated (flags.shorthandSet kind)

def property (flags : Flags) (negated : Bool) (query : Unicode.PropertyQuery) : Option CodePointSet := do
  if !flags.unicode then none
  else flags.negateIf negated (flags.foldCase (← query.set?))

/-- The code of a character of a class. -/
def setCode (flags : Flags) (item : Literal) : Option Nat :=
  let code := item.char.toNat
  if flags.unicode || code < 128 then some code else none

def anchor (flags : Flags) : Assertion → Anchor
  | .caret => if flags.multiLine then .lineStart flags.carriageReturns else .textStart
  | .dollar => if flags.multiLine then .lineEnd flags.carriageReturns else .textEnd
  | .textStart => .textStart
  | .textEnd => .textEnd
  | .wordBoundary => .wordBoundary (!flags.unicode)
  | .noWordBoundary => .noWordBoundary (!flags.unicode)
  | .wordStart => .wordStart (!flags.unicode)
  | .wordEnd => .wordEnd (!flags.unicode)
  | .wordStartHalf => .wordStartHalf (!flags.unicode)
  | .wordEndHalf => .wordEndHalf (!flags.unicode)

/-- A literal character. A byte beyond ASCII is not a character unless bytes stand for code points. -/
def literal (flags : Flags) (item : Literal) : Option Regular :=
  if !flags.unicode ∧ item.spelling = .byte ∧ item.char.toNat ≥ 128 then none
  else if flags.ignoreCase then some (.ofSet (flags.foldCase (.single item.char)))
  else some (.char item.char)

def dot (flags : Flags) : Option Regular :=
  if !flags.unicode then none
  else if flags.dotAll then some (.set (CodePointSet.complement .empty))
  else if flags.carriageReturns then some (.set (CodePointSet.complement (.ofCodes [10, 13])))
  else some (.set (CodePointSet.complement (.range 10 10)))

end Flags

def SetOperator.apply : SetOperator → CodePointSet → CodePointSet → CodePointSet
  | .intersection => .inter
  | .difference => .sdiff
  | .symmetricDifference => .symmDiff

mutual

def SetSyntax.meaning (flags : Flags) : SetSyntax → Option CodePointSet
  | .literal item => do
      let code ← flags.setCode item
      return .range code code
  | .range first last => do return .range (← flags.setCode first) (← flags.setCode last)
  | .named negated ranges => flags.negateIf negated (flags.foldCase (.ofRanges ranges))
  | .property negated query => flags.property negated query
  | .shorthand negated kind _ => flags.shorthand negated kind
  | .bracket negated body => do flags.negateIf negated (flags.foldCase (← body.meaning flags))
  | .union items => (SetSyntax.meaningOfAll flags items).map (CodePointSet.unionAll 20)
  | .operation operator left right => do
      return operator.apply (flags.foldCase (← left.meaning flags)) (flags.foldCase (← right.meaning flags))

def SetSyntax.meaningOfAll (flags : Flags) : List SetSyntax → Option (List CodePointSet)
  | [] => some []
  | item :: rest => do return (← item.meaning flags) :: (← SetSyntax.meaningOfAll flags rest)

end

mutual

/-- What a pattern means under some flags, and the flags that hold after it. -/
def Syntax.meaning (flags : Flags) : Syntax → Option (Regular × Flags)
  | .empty => some (.empty, flags)
  | .flags settings => some (.empty, settings.foldl Flags.apply flags)
  | .literal item => (flags.literal item).map (·, flags)
  | .dot => flags.dot.map (·, flags)
  | .assertion kind => some (.anchor (flags.anchor kind), flags)
  | .property negated query => (flags.property negated query).map (Regular.ofSet ·, flags)
  | .shorthand negated kind _ => (flags.shorthand negated kind).map (Regular.ofSet ·, flags)
  | .set negated body => do
      let chars ← flags.negateIf negated (flags.foldCase (← body.meaning flags))
      return (.ofSet chars, flags)
  | .repetition body least most greedy => do
      let (body, after) ← body.meaning flags
      return (.repeated body least most (greedy != after.swapGreed), after)
  | .group (.capture number) body => do
      let (body, _) ← body.meaning flags
      return (.capture number body, flags)
  | .group (.plain settings) body => do
      let (body, _) ← body.meaning (settings.foldl Flags.apply flags)
      return (body, flags)
  | .alternation items => do
      let (items, after) ← Syntax.meaningOfAll flags items
      return (.alternation items, after)
  | .concat items => do
      let (items, after) ← Syntax.meaningOfAll flags items
      return (.concat items, after)

def Syntax.meaningOfAll (flags : Flags) : List Syntax → Option (List Regular × Flags)
  | [] => some ([], flags)
  | item :: rest => do
      let (first, after) ← item.meaning flags
      let (others, last) ← Syntax.meaningOfAll after rest
      return (first :: others, last)

end

end ApiContract.Pattern
