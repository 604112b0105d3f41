import ApiContract.Unicode.Property

/-!
Patterns as they are written, before their flags are taken into account.
-/

namespace ApiContract.Pattern

/-- How a literal character was written, as far as that matters: as a byte of two hexadecimal
digits, as the alert character, or any other way. -/
inductive Spelling where
  | plain
  | byte
  | alert
deriving DecidableEq, Repr

structure Literal where
  char : Char
  spelling : Spelling := .plain
deriving DecidableEq, Repr

/-- The classes with an escape of one letter. -/
inductive Shorthand where
  | digit
  | blank
  | word
deriving DecidableEq, Repr

inductive SetOperator where
  | intersection
  | difference
  | symmetricDifference
deriving DecidableEq, Repr

/-- What stands between brackets. A shorthand knows its place in the pattern. -/
inductive SetSyntax where
  | literal (item : Literal)
  | range (first last : Literal)
  | named (negated : Bool) (ranges : List (Nat × Nat))
  | property (negated : Bool) (query : Unicode.PropertyQuery)
  | shorthand (negated : Bool) (kind : Shorthand) (offset : Nat)
  | bracket (negated : Bool) (body : SetSyntax)
  | union (items : List SetSyntax)
  | operation (operator : SetOperator) (left right : SetSyntax)
deriving Repr

inductive Flag where
  | ignoreCase
  | multiLine
  | dotAll
  | swapGreed
  | unicode
  | carriageReturns
  | verbose
deriving DecidableEq, Repr

structure FlagSetting where
  flag : Flag
  value : Bool
deriving DecidableEq, Repr

/-- Assertions as written: what a caret and a dollar sign mean depends on flags. -/
inductive Assertion where
  | caret
  | dollar
  | textStart
  | textEnd
  | wordBoundary
  | noWordBoundary
  | wordStart
  | wordEnd
  | wordStartHalf
  | wordEndHalf
deriving DecidableEq, Repr

inductive GroupKind where
  /-- The first group to open in a pattern has number one. -/
  | capture (number : Nat)
  | plain (settings : List FlagSetting)
deriving DecidableEq, Repr

inductive Syntax where
  | empty
  /-- Flags for the rest of the group. -/
  | flags (settings : List FlagSetting)
  | literal (item : Literal)
  | dot
  | assertion (kind : Assertion)
  | property (negated : Bool) (query : Unicode.PropertyQuery)
  | shorthand (negated : Bool) (kind : Shorthand) (offset : Nat)
  | set (negated : Bool) (body : SetSyntax)
  | repetition (body : Syntax) (least : Nat) (most : Option Nat) (greedy : Bool)
  | group (kind : GroupKind) (body : Syntax)
  | alternation (items : List Syntax)
  | concat (items : List Syntax)
deriving Repr, Inhabited

/-! ## How deep a pattern is nested -/

mutual

def SetSyntax.depth : SetSyntax → Nat
  | .bracket _ body => body.depth + 1
  | .union [] => 0
  | .union items => SetSyntax.depthOfAll items + 1
  | .operation _ left right => max left.depth right.depth + 1
  | _ => 0

def SetSyntax.depthOfAll : List SetSyntax → Nat
  | [] => 0
  | item :: rest => max item.depth (SetSyntax.depthOfAll rest)

end

mutual

def Syntax.depth : Syntax → Nat
  | .set _ body => body.depth + 1
  | .repetition body _ _ _ => body.depth + 1
  | .group _ body => body.depth + 1
  | .alternation items => Syntax.depthOfAll items + 1
  | .concat items => Syntax.depthOfAll items + 1
  | _ => 0

def Syntax.depthOfAll : List Syntax → Nat
  | [] => 0
  | item :: rest => max item.depth (Syntax.depthOfAll rest)

end

/-! ## The shorthands in a pattern, with their places -/

structure PlacedShorthand where
  offset : Nat
  negated : Bool
  kind : Shorthand
deriving DecidableEq, Repr

mutual

def SetSyntax.shorthands : SetSyntax → List PlacedShorthand
  | .shorthand negated kind offset => [⟨offset, negated, kind⟩]
  | .bracket _ body => body.shorthands
  | .union items => SetSyntax.shorthandsOfAll items
  | .operation _ left right => left.shorthands ++ right.shorthands
  | _ => []

def SetSyntax.shorthandsOfAll : List SetSyntax → List PlacedShorthand
  | [] => []
  | item :: rest => item.shorthands ++ SetSyntax.shorthandsOfAll rest

end

mutual

/-- In the order in which they are written. -/
def Syntax.shorthands : Syntax → List PlacedShorthand
  | .shorthand negated kind offset => [⟨offset, negated, kind⟩]
  | .set _ body => body.shorthands
  | .repetition body _ _ _ => body.shorthands
  | .group _ body => body.shorthands
  | .alternation items => Syntax.shorthandsOfAll items
  | .concat items => Syntax.shorthandsOfAll items
  | _ => []

def Syntax.shorthandsOfAll : List Syntax → List PlacedShorthand
  | [] => []
  | item :: rest => item.shorthands ++ Syntax.shorthandsOfAll rest

end

mutual

/-- The alert character is written by its escape outside brackets. -/
def Syntax.hasAlert : Syntax → Bool
  | .literal item => item.spelling == .alert
  | .repetition body _ _ _ => body.hasAlert
  | .group _ body => body.hasAlert
  | .alternation items => Syntax.anyHasAlert items
  | .concat items => Syntax.anyHasAlert items
  | _ => false

def Syntax.anyHasAlert : List Syntax → Bool
  | [] => false
  | item :: rest => item.hasAlert || Syntax.anyHasAlert rest

end

end ApiContract.Pattern
