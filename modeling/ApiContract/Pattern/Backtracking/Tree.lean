import ApiContract.Pattern.Anchor

/-!
Patterns of the richer notation, with look-around, back references, atomic groups and conditions,
and what is known of their matches without matching: the least size, whether all are of one size,
and whether a pattern is regular.
-/

namespace ApiContract.Pattern.Backtracking

inductive Tree where
  | empty
  | char (c : Char) (ignoreCase : Bool)
  | any (newlines : Bool)
  | anchor (kind : Anchor)
  /-- One character of a class, as the plain notation writes it. -/
  | one (text : List Char) (ignoreCase : Bool)
  | concat (items : List Tree)
  | alternation (items : List Tree)
  | group (number : Nat) (body : Tree)
  | repetition (body : Tree) (least : Nat) (most : Option Nat) (greedy : Bool)
  | look (behind negative : Bool) (body : Tree)
  /-- The first match of a body is the only one. -/
  | atomic (body : Tree)
  | backReference (group : Nat)
  /-- A group has taken part in the match so far. -/
  | groupMatched (group : Nat)
  | conditional (condition yes no : Tree)
  /-- The match is reported from here on. -/
  | keep
  /-- The place where the search starts. -/
  | searchStart
deriving Inhabited

namespace Tree

def isEmpty : Tree → Bool
  | .empty => true
  | _ => false

/-- Quantifiers apply to what may consume characters. -/
def isRepeatable : Tree → Bool
  | .look _ _ _ => false
  | .empty => false
  | .anchor _ => false
  | _ => true

mutual

def leastSize : Tree → Nat
  | .char _ _ => 1
  | .any _ => 1
  | .one _ _ => 1
  | .concat items => sumOfSizes items
  | .alternation [] => 0
  | .alternation (item :: rest) => leastOfSizes item.leastSize rest
  | .group _ body => body.leastSize
  | .repetition body least _ _ => body.leastSize * least
  | .atomic body => body.leastSize
  | .conditional condition yes no => condition.leastSize + min yes.leastSize no.leastSize
  | _ => 0

def sumOfSizes : List Tree → Nat
  | [] => 0
  | item :: rest => item.leastSize + sumOfSizes rest

def leastOfSizes (size : Nat) : List Tree → Nat
  | [] => size
  | item :: rest => leastOfSizes (min size item.leastSize) rest

end

mutual

/-- All matches are of one size. -/
def hasOneSize : Tree → Bool
  | .concat items => allHaveOneSize items
  | .alternation [] => true
  | .alternation (item :: rest) => item.hasOneSize && allHaveSize item.leastSize rest
  | .group _ body => body.hasOneSize
  | .repetition body least most _ => body.hasOneSize && most == some least
  | .atomic body => body.hasOneSize
  | .backReference _ => false
  | .conditional condition yes no =>
      condition.hasOneSize && yes.hasOneSize && no.hasOneSize
        && condition.leastSize + yes.leastSize == no.leastSize
  | _ => true

def allHaveOneSize : List Tree → Bool
  | [] => true
  | item :: rest => item.hasOneSize && allHaveOneSize rest

def allHaveSize (size : Nat) : List Tree → Bool
  | [] => true
  | item :: rest =>
      item.hasOneSize && item.leastSize == size && allHaveSize (min size item.leastSize) rest

end

def isWordAnchor : Anchor → Bool
  | .wordBoundary _ | .noWordBoundary _ | .wordStart _ | .wordEnd _ => true
  | _ => false

mutual

/-- Without anything that only backtracking can match. Groups that are referred to count as such,
because the text that they match matters. -/
def isRegular (referenced : List Nat) : Tree → Bool
  | .anchor kind => !isWordAnchor kind
  | .concat items => allRegular referenced items
  | .alternation items => allRegular referenced items
  | .group number body => !referenced.contains number && body.isRegular referenced
  | .repetition body _ _ _ => body.isRegular referenced
  | .look _ _ _ | .atomic _ | .backReference _ | .groupMatched _ => false
  | .conditional _ _ _ | .keep | .searchStart => false
  | _ => true

def allRegular (referenced : List Nat) : List Tree → Bool
  | [] => true
  | item :: rest => item.isRegular referenced && allRegular referenced rest

end

mutual

/-- The number of groups that are open or closed after a tree, given that before it; none when a
reference is to a group that is not opened before it. Group zero is the whole pattern. -/
def groupsAfter? (groups : Nat) : Tree → Option Nat
  | .backReference number | .groupMatched number => if number ≤ groups then some groups else none
  | .concat items => groupsAfterAll? groups items
  | .alternation items => groupsAfterAll? groups items
  | .group _ body => body.groupsAfter? (groups + 1)
  | .repetition body _ _ _ | .look _ _ body | .atomic body => body.groupsAfter? groups
  | .conditional condition yes no => do
      no.groupsAfter? (← yes.groupsAfter? (← condition.groupsAfter? groups))
  | _ => some groups

def groupsAfterAll? (groups : Nat) : List Tree → Option Nat
  | [] => some groups
  | item :: rest => do groupsAfterAll? (← item.groupsAfter? groups) rest

end

mutual

/-- The characters of a tree that is literal text in one case. -/
def literal? : Tree → Option (List Char)
  | .char c false => some [c]
  | .concat items => literalOfAll? items
  | _ => none

def literalOfAll? : List Tree → Option (List Char)
  | [] => some []
  | item :: rest => do return (← item.literal?) ++ (← literalOfAll? rest)

end

/-! ## Regular trees in the plain notation -/

/-- The characters that a backslash has to stand before outside brackets. -/
def outsideMarks : List Char := "\\.+*?()|[]\x7b\x7d^$#".toList

/-- The characters that a backslash stands before inside brackets. -/
def insideMarks : List Char := outsideMarks ++ ['&', '-', '~']

def quote (marks : List Char) (c : Char) : List Char := if marks.contains c then ['\\', c] else [c]

/-- What binds tighter than its surroundings stands alone, all else in a group without a number. -/
def wrapIf (wrapped : Bool) (text : List Char) : List Char :=
  if wrapped then "(?:".toList ++ text ++ [')'] else text

def caseless (ignoreCase : Bool) (text : List Char) : List Char :=
  if ignoreCase then "(?i:".toList ++ text ++ [')'] else text

def writeNumber (n : Nat) : List Char := (toString n).toList

def writeCounts : Nat → Option Nat → List Char
  | 0, some 1 => ['?']
  | 0, none => ['*']
  | 1, none => ['+']
  | least, none => '\x7b' :: writeNumber least ++ [',', '\x7d']
  | least, some most =>
      let upper := if least = most then [] else ',' :: writeNumber most
      '\x7b' :: writeNumber least ++ upper ++ ['\x7d']

def writeAnchor : Anchor → List Char
  | .textStart => ['^']
  | .textEnd => ['$']
  | .lineStart _ => "(?m:^)".toList
  | .lineEnd _ => "(?m:$)".toList
  | _ => []

mutual

/-- Writes a regular tree. The binding is that of the surroundings: zero for a whole group, one for
an alternative, two for a part of a sequence and three for the body of a repetition. -/
def write (binding : Nat) : Tree → List Char
  | .char c ignoreCase => caseless ignoreCase (quote outsideMarks c)
  | .any newlines => if newlines then "(?s:.)".toList else ['.']
  | .anchor kind => writeAnchor kind
  | .one text ignoreCase => caseless ignoreCase text
  | .concat items => wrapIf (binding > 1) (writeSequence items)
  | .alternation items => wrapIf (binding > 0) (writeAlternatives items)
  | .group _ body => '(' :: body.write 0 ++ [')']
  | .repetition body least most greedy =>
      let lazyMark := if greedy then [] else ['?']
      wrapIf (binding > 2) (body.write 3 ++ writeCounts least most ++ lazyMark)
  | _ => []

def writeSequence : List Tree → List Char
  | [] => []
  | item :: rest => item.write 2 ++ writeSequence rest

def writeAlternatives : List Tree → List Char
  | [] => []
  | [item] => item.write 1
  | item :: rest => item.write 1 ++ '|' :: writeAlternatives rest

end

end Tree

end ApiContract.Pattern.Backtracking
