import ApiContract.Format.HostMapping
import ApiContract.Format.Punycode
import ApiContract.Text.Segments
import ApiContract.Unicode.Composition
import ApiContract.Unicode.Direction
import ApiContract.Unicode.GeneralCategory
import ApiContract.Unicode.Joining

/-!
Host names: labels of ASCII letters, digits and hyphens with points between them, or labels in any
script, which stand for such labels.
-/

namespace ApiContract.Format

/-! ## Names in ASCII -/

def isLabelChar (c : Char) : Bool := c.isAlphanum || c == '-'

def maxLabelLength : Nat := 63

def maxNameLength : Nat := 253

/-- A label is neither empty nor too long and has no hyphen at either end. -/
def isLabel (label : List Char) : Bool :=
  label != [] && label.length ≤ maxLabelLength && label.all isLabelChar
    && label.head? != some '-' && label.getLast? != some '-'

def isHostname (text : List Char) : Bool :=
  text.length ≤ maxNameLength && (Text.split '.' text).all isLabel

/-! ## Labels in every script -/

def hyphen : Nat := 45

def isMark (code : Nat) : Bool :=
  ((["mn", "mc", "me"].filterMap (Unicode.findSet? Unicode.generalCategories)).any
    (·.containsCode code))

/-- Codes that labels hold: of ASCII, small letters, digits and hyphens alone. -/
def isHostCode (code : Nat) : Bool :=
  if code < 128 then
    (97 ≤ code && code ≤ 122) || (48 ≤ code && code ≤ 57) || code == hyphen
  else hostChars.containsCode code

def zeroWidthNonJoiner : Nat := 0x200C

def zeroWidthJoiner : Nat := 0x200D

/-- A joiner follows a sign that joins consonants; a non-joiner may also stand between letters that
would join. The codes before it are in reverse. -/
def joinersHold (before : List Nat) : List Nat → Bool
  | [] => true
  | code :: after =>
      let isHere : Bool :=
        if code = zeroWidthJoiner ∨ code = zeroWidthNonJoiner then
          before.head?.any Unicode.isVirama
            || (code == zeroWidthNonJoiner
                && (before.find? (!Unicode.isTransparent ·)).any Unicode.joinsNext
                && (after.find? (!Unicode.isTransparent ·)).any Unicode.joinsPrevious)
        else true
      isHere && joinersHold (code :: before) after

/-- A label in composed form, of codes that labels hold, with no hyphen at either end or in both the
third and the fourth place, and no mark at its start. -/
def isHostLabel (label : List Nat) : Bool :=
  label != [] && label.all isHostCode && Unicode.compose label == label
    && label.head? != some hyphen && label.getLast? != some hyphen
    && !(label[2]? == some hyphen && label[3]? == some hyphen)
    && !label.head?.any isMark && joinersHold [] label

/-! ## Direction -/

open Unicode (WritingDirection)

/-- The directions of a label without the marks at its end. -/
def labelDirections (label : List Nat) : List WritingDirection :=
  ((label.map Unicode.direction).reverse.dropWhile (· = .mark)).reverse

/-- A label runs in one direction, which its first character gives. -/
def runsOneWay (label : List Nat) : Bool :=
  let all := label.map Unicode.direction
  let last := (labelDirections label).getLast?
  match all.head? with
  | some .leftToRight =>
      all.all [.leftToRight, .europeanNumber, .neutral, .mark].contains
        && last.any [.leftToRight, .europeanNumber].contains
  | some .rightToLeft =>
      all.all [.rightToLeft, .arabicNumber, .europeanNumber, .neutral, .mark].contains
        && last.any [.rightToLeft, .arabicNumber, .europeanNumber].contains
        && !(all.contains .arabicNumber && all.contains .europeanNumber)
  | _ => false

/-- When some character is written from right to left, every label runs in one direction. -/
def directionsHold (labels : List (List Nat)) : Bool :=
  let turns (code : Nat) : Bool := [.rightToLeft, .arabicNumber].contains (Unicode.direction code)
  !labels.any (·.any turns) || labels.all runsOneWay

/-! ## Characters that depend on their neighbours -/

def never : List Nat :=
  [0x640, 0x7FA, 0x302E, 0x302F, 0x3031, 0x3032, 0x3033, 0x3034, 0x3035, 0x303B]

def isBetween (first last code : Nat) : Bool := first ≤ code && code ≤ last

/-- A middle dot stands between two letters l, a Greek numeral sign before Greek, Hebrew punctuation
after Hebrew, and a joiner after a sign that joins consonants. -/
def neighboursHold (previous : Option Nat) : List Nat → Bool
  | [] => true
  | code :: rest =>
      let isHere : Bool :=
        if never.contains code then false
        else if code = 0xB7 then previous == some 108 && rest.head? == some 108
        else if code = 0x375 then rest.head?.any (isBetween 0x370 0x3FF)
        else if code = 0x5F3 ∨ code = 0x5F4 then previous.any (isBetween 0x590 0x5FF)
        else if code = zeroWidthJoiner then previous.any Unicode.isVirama
        else true
      isHere && neighboursHold (some code) rest

def isJapanese (code : Nat) : Bool :=
  (isBetween 0x3040 0x30FF code && code != 0x30FB) || isBetween 0x4E00 0x9FFF code

/-- A Japanese middle dot needs Japanese letters; the two rows of Arabic digits do not mix. -/
def companyHolds (name : List Nat) : Bool :=
  (!name.contains 0x30FB || name.any isJapanese)
    && !(name.any (isBetween 0x660 0x669) && name.any (isBetween 0x6F0 0x6F9))

/-! ## Names in every script -/

/-- The mark of a label that stands for one beyond ASCII. -/
def encodedMark : List Nat := [120, 110, 45, 45]

def splitLabels : List Nat → List (List Nat)
  | [] => [[]]
  | code :: rest =>
      if code = 46 then [] :: splitLabels rest
      else match splitLabels rest with
        | [] => [[code]]
        | label :: labels => (code :: label) :: labels

/-- What an encoded label stands for, which is beyond ASCII; other labels stand for themselves. -/
def decodeLabel? (label : List Nat) : Option (List Nat) :=
  if encodedMark.isPrefixOf label then do
    let rest := label.drop encodedMark.length
    if rest.any (128 ≤ ·) then none
    else
      let decoded ← Punycode.decode? (rest.map Char.ofNat)
      if decoded.all (· < 128) then none else some decoded
  else some label

def encodedLength (label : List Nat) : Nat :=
  if label.all (· < 128) then label.length
  else encodedMark.length + (Punycode.encode label).length

/-- The labels of a name as people read them. -/
def hostLabels? (text : List Char) : Option (List (List Nat)) := do
  let codes := Unicode.compose (text.flatMap hostCodes)
  let labels ← (splitLabels codes).mapM decodeLabel?
  if labels.all isHostLabel && directionsHold labels then some labels else none

/-- The whole name, in ASCII, is no longer than one of ASCII may be. -/
def lengthsHold (labels : List (List Nat)) : Bool :=
  let lengths := labels.map encodedLength
  lengths.all (· ≤ maxLabelLength) && lengths.foldl (· + ·) (labels.length - 1) ≤ maxNameLength

/-- A host name in any script. -/
def isInternationalHostname (text : List Char) : Bool :=
  match hostLabels? text with
  | none => false
  | some labels =>
      let name := [46].intercalate labels
      lengthsHold labels && neighboursHold none name && companyHolds name

end ApiContract.Format
