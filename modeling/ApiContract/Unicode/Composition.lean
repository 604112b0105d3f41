import ApiContract.Unicode.CombiningClass
import ApiContract.Unicode.Numbers

/-!
Composed texts: marks stand in the order of their classes, and a base with its marks is one character
where there is one. Hangul syllables are composed by arithmetic.
-/

namespace ApiContract.Unicode

/-- A character that is composed of two. -/
structure Composition where
  composed : Nat
  first : Nat
  second : Nat
deriving DecidableEq, Repr

/-- Compositions in ascending order, from the distances of the composed characters and their parts. -/
def compositionsFrom (last : Nat) : List Nat → List Composition
  | distance :: first :: second :: rest =>
      ⟨last + distance, first, second⟩ :: compositionsFrom (last + distance) rest
  | _ => []

def compositions : List Composition := compositionsFrom 0 (readNumbers
  ["hKcNbdOBcNbdPBcNbdQBcNbdRBcNbdWBcNbdYCcPbfBBcRbdOBcRbdPBcRbdQBcRbdWBcVbdOBcVbdPBcVbdQBcVbdWCdA",
   "bdRBdBbdOBdBbdPBdBbdQBdBbdRBdBbdWDdHbdOBdHbdPBdHbdQBdHbdWBdLbdPDdTbdOBdTbdPBdTbdQBdTbdRBdTbdWB",
   "dTbdYCdVbfBBdXbdOBdXbdPBdXbdQBdXbdWBeBbdOBeBbdPBeBbdQBeBbdWCeGbdRBeHbdOBeHbdPBeHbdQBeHbdRBeHbd",
   "WDeNbdOBeNbdPBeNbdQBeNbdWBeRbdPCeRbdWBcNbdSBdTbdSBcNbdUBdTbdUBcNbfCBdTbfCBcPbdPBdVbdPBcPbdQBdV",
   "bdQBcPbdVBdVbdVBcPbeABdVbeABcQbeABdWbeADcRbdSBdXbdSBcRbdUBdXbdUBcRbdVBdXbdVBcRbfCBdXbfCBcRbeAB",
   "dXbeABcTbdQBdZbdQBcTbdUBdZbdUBcTbdVBdZbdVBcTbfBBdZbfBBcUbdQBeAbdQDcVbdRBeBbdRBcVbdSBeBbdSBcVbd",
   "UBeBbdUBcVbfCBeBbfCBcVbdVEcWbdQBeCbdQBcXbfBBeDbfBCcYbdPBeEbdPBcYbfBBeEbfBBcYbeABeEbeAFdAbdPBeG",
   "bdPBdAbfBBeGbfBBdAbeABeGbeAEdBbdSBeHbdSBdBbdUBeHbdUBdBbdZBeHbdZDdEbdPBeKbdPBdEbfBBeKbfBBdEbeAB",
   "eKbeABdFbdPBeLbdPBdFbdQBeLbdQBdFbfBBeLbfBBdFbeABeLbeABdGbfBBeMbfBBdGbeABeMbeADdHbdRBeNbdRBdHbd",
   "SBeNbdSBdHbdUBeNbdUBdHbdYBeNbdYBdHbdZBeNbdZBdHbfCBeNbfCBdJbdQBePbdQBdLbdQBeRbdQBdLbdWBdMbdPBeS",
   "bdPBdMbdVBeSbdVBdMbeABeSbeAbIdBbePBeHbePOdHbePBeNbePbDcNbeABdTbeABcVbeABeBbeABdBbeABeHbeABdHbe",
   "ABeNbeABiMbdSBjSbdSBiMbdPBjSbdPBiMbeABjSbeABiMbdOBjSbdOChObdSBiUbdSBvEbdSBvFbdSBhQbdSBiWbdSDcT",
   "beABdZbeABcXbeABeDbeABdBbfCBeHbfCBsWbdSBsXbdSBqXbeABzIbeABeCbeAEcTbdPBdZbdPDdAbdOBeGbdOBhPbdPB",
   "iVbdPBhQbdPBiWbdPBiIbdPBjObdPBcNbeDBdTbeDBcNbeFBdTbeFBcRbeDBdXbeDBcRbeFBdXbeFBcVbeDBeBbeDBcVbe",
   "FBeBbeFBdBbeDBeHbeDBdBbeFBeHbeFBdEbeDBeKbeDBdEbeFBeKbeFBdHbeDBeNbeDBdHbeFBeNbeFBdFbfABeLbfABdG",
   "bfABeMbfADcUbeABeAbeAHcNbdVBdTbdVBcRbfBBdXbfBBiGbdSBjMbdSBiFbdSBjLbdSBdBbdVBeHbdVBvMbdSBvNbdSB",
   "dLbdSBeRbdSnAgMbdPBbjDbdPCbjHbdPBbjJbdPBbjLbdPCbjRbdPCbjXbdPBbkBbdPBblIbdPbAbjLbdWBbjXbdWBbkJb",
   "dPBbkNbdPBbkPbdPBbkRbdPBblJbdPbAbkRbdWBblDbdWBbkXbdPBblDbdPBblHbdPFblQbdPBblQbdWbSboFbdOBboFbd",
   "WCboDbdPEbnQbdWFboKbdPBboIbdOBboTbdULboIbdUbGbpObdUXbpLbdOBbpLbdWCbpJbdPEbqSbdWFbpQbdPBbpObdOB",
   "bpZbdUYbrWbeDBbrXbeDcWboGbdUBbpMbdUOboAbdUBbpGbdUBboAbdWBbpGbdWDboFbdUBbpLbdUDbvSbdWBbvTbdWBbo",
   "GbdWBbpMbdWBboHbdWBbpNbdWDboIbdSBbpObdSBboIbdWBbpObdWBboObdWBbpUbdWDbwIbdWBbwJbdWBbpDbdWBbqJbd",
   "WBboTbdSBbpZbdSBboTbdWBbpZbdWBboTbdZBbpZbdZBboXbdWBbqDbdWDbpBbdWBbqHbdWlLciPckHBciPckIBcjWckIB",
   "ciPckJBcjYckIfYcpHckICcoNckIRcpEckIxAdmEdmYIdmMdmYDdmPdmYfVdsHdrYBdsHdsXoQehBehQDehBegSBehBehR",
   "cUejYemPcCelYelQBelZelQBelYemPeUeqWerMeQevNewJHevUewJBevUewKCevUevQBevYewJeXfaSfaKBfaTfaKBfaSf",
   "bJfMfgJffUCfgJffZBfgMffUBfgJfgPwMgcZgdIedCkgBkhXCkgDkhXCkgFkhXCkgHkhXCkgJkhXEkgNkhXbPkiCkhXCki",
   "EkhXDkiGkhXBkiHkhXCkiKkhXbaZcNbeZBdTbeZBcObdVBdUbdVBcObeXBdUbeXBcObfLBdUbfLBhRbdPBiXbdPBcQbdVB",
   "dWbdVBcQbeXBdWbeXBcQbfLBdWbfLBcQbfBBdWbfBBcQbfHBdWbfHBkObdOBkPbdOBkObdPBkPbdPBcRbfHBdXbfHBcRbf",
   "KBdXbfKBvGbdUBvHbdUBcSbdVBdYbdVBcTbdSBdZbdSBcUbdVBeAbdVBcUbeXBeAbeXBcUbdWBeAbdWBcUbfBBeAbfBBcU",
   "bfIBeAbfIBcVbfKBeBbfKBhZbdPBjFbdPBcXbdPBeDbdPBcXbeXBeDbeXBcXbfLBeDbfLBcYbeXBeEbeXBllMbdSBllNbd",
   "SBcYbfLBeEbfLBcYbfHBeEbfHBcZbdPBeFbdPBcZbdVBeFbdVBcZbeXBeFbeXBdAbdVBeGbdVBdAbeXBeGbeXBdAbfLBeG",
   "bfLBdAbfHBeGbfHBiFbdPBjLbdPBiFbdWBjLbdWBmUbdOBmVbdOBmUbdPBmVbdPBdCbdPBeIbdPBdCbdVBeIbdVBdEbdVB",
   "eKbdVBdEbeXBeKbeXBlmWbdSBlmXbdSBdEbfLBeKbfLBdFbdVBeLbdVBdFbeXBeLbeXBnIbdVBnJbdVBnObdVBnPbdVBln",
   "EbdVBlnFbdVBdGbdVBeMbdVBdGbeXBeMbeXBdGbfLBeMbfLBdGbfHBeMbfHBdHbeYBeNbeYBdHbfKBeNbfKBdHbfHBeNbf",
   "HBnWbdPBnXbdPBnYbdWBnZbdWBdIbdRBeObdRBdIbeXBeObeXBdJbdOBePbdOBdJbdPBePbdPBdJbdWBePbdWBdJbdVBeP",
   "bdVBdJbeXBePbeXBdKbdVBeQbdVBdKbdWBeQbdWBdLbdVBeRbdVBdMbdQBeSbdQBdMbeXBeSbeXBdMbfLBeSbfLBeAbfLB",
   "eMbdWBePbdYBeRbdYCoTbdVFcNbeXBdTbeXBcNbdXBdTbdXBhMbdPBiSbdPBhMbdOBiSbdOBhMbdXBiSbdXBhMbdRBiSbd",
   "RBlpObdQBlpPbdQBjYbdPBjZbdPBjYbdOBjZbdOBjYbdXBjZbdXBjYbdRBjZbdRBlpObdUBlpPbdUBcRbeXBdXbeXBcRbd",
   "XBdXbdXBcRbdRBdXbdRBhUbdPBjAbdPBhUbdOBjAbdOBhUbdXBjAbdXBhUbdRBjAbdRBlqMbdQBlqNbdQBcVbdXBeBbdXB",
   "cVbeXBeBbeXBdBbeXBeHbeXBdBbdXBeHbdXBiEbdPBjKbdPBiEbdOBjKbdOBiEbdXBjKbdXBiEbdRBjKbdRBlrGbdQBlrH",
   "bdQBqAbdPBqBbdPBqAbdOBqBbdOBqAbdXBqBbdXBqAbdRBqBbdRBqAbeXBqBbeXBdHbeXBeNbeXBdHbdXBeNbdXBqPbdPB",
   "qQbdPBqPbdOBqQbdOBqPbdXBqQbdXBqPbdRBqQbdRBqPbeXBqQbeXBdLbdOBeRbdOBdLbeXBeRbeXBdLbdXBeRbdXBdLbd",
   "RBeRbdRHbkJbeHBbkJbeIBltGbdOBltHbdOBltGbdPBltHbdPBltGbgCBltHbgCBbjDbeHBbjDbeIBltObdOBltPbdOBlt",
   "ObdPBltPbdPBltObgCBltPbgCBbkNbeHBbkNbeIBltWbdOBltXbdOBltWbdPBltXbdPDbjHbeHBbjHbeIBluEbdOBluFbd",
   "OBluEbdPBluFbdPDbkPbeHBbkPbeIBluMbdOBluNbdOBluMbdPBluNbdPBluMbgCBluNbgCBbjJbeHBbjJbeIBluUbdOBl",
   "uVbdOBluUbdPBluVbdPBluUbgCBluVbgCBbkRbeHBbkRbeIBlvCbdOBlvDbdOBlvCbdPBlvDbdPBlvCbgCBlvDbgCBbjLb",
   "eHBbjLbeIBlvKbdOBlvLbdOBlvKbdPBlvLbdPBlvKbgCBlvLbgCBbkXbeHBbkXbeIBlvSbdOBlvTbdOBlvSbdPBlvTbdPD",
   "bjRbeHBbjRbeIBlwAbdOBlwBbdOBlwAbdPBlwBbdPDblDbeHBblDbeIBlwIbdOBlwJbdOBlwIbdPBlwJbdPBlwIbgCBlwJ",
   "bgCCbjXbeIClwRbdOClwRbdPClwRbgCBblHbeHBblHbeIBlwYbdOBlwZbdOBlwYbdPBlwZbdPBlwYbgCBlwZbgCBbkBbeH",
   "BbkBbeIBlxGbdOBlxHbdOBlxGbdPBlxHbdPBlxGbgCBlxHbgCBbkJbdOCbkNbdOCbkPbdOCbkRbdOCbkXbdOCblDbdOCbl",
   "HbdOEltGbgFBltHbgFBltIbgFBltJbgFBltKbgFBltLbgFBltMbgFBltNbgFBltObgFBltPbgFBltQbgFBltRbgFBltSbg",
   "FBltTbgFBltUbgFBltVbgFBluMbgFBluNbgFBluObgFBluPbgFBluQbgFBluRbgFBluSbgFBluTbgFBluUbgFBluVbgFBl",
   "uWbgFBluXbgFBluYbgFBluZbgFBlvAbgFBlvBbgFBlwYbgFBlwZbgFBlxAbgFBlxBbgFBlxCbgFBlxDbgFBlxEbgFBlxFb",
   "gFBlxGbgFBlxHbgFBlxIbgFBlxJbgFBlxKbgFBlxLbgFBlxMbgFBlxNbgFBbkJbdUBbkJbdSBlxObgFBbkJbgFBbkEbgFC",
   "bkJbgCBmaGbgFBbjDbdUBbjDbdSBbjDbdOCbjDbgFFgMbgCBlxSbgFBbkPbgFBbkGbgFCbkPbgCBmaWbgFBbjHbdOCbjJb",
   "dOCbjJbgFBmaPbdOBmaPbdPBmaPbgCBbkRbdUBbkRbdSBblIbdOEbkRbgCBblIbgCBbjLbdUBbjLbdSBbjLbdODmdAbdOB",
   "mdAbdPBmdAbgCBblDbdUBblDbdSBblJbdOCbkZbeHBbkZbeIBblDbgCBblJbgCBbjXbdUBbjXbdSBbjXbdOCbjTbeIBgMb",
   "dOFlyAbgFBblHbgFBblMbgFCblHbgCBmcSbgFBbjRbdOCbkBbdOCbkBbgFpYmsMbfSBmsObfSTmsQbfSbFmuYbfSBmvCbf",
   "SBmvAbfScBmwXbfSFmxCbfSDmxFbfSYmyDbfSCmyFbfSbBmzCbfSDmzJbfSDmzLbfSCmzObfSXcJbfSCnaNbfSLmzTbfSB",
   "cIbfSBcKbfSBnaQbfSBnaRbfSDnbEbfSBnbFbfSDnbIbfSBnbJbfSHnbMbfSBnbNbfSDnbUbfSBnbVbfSDnbYbfSBnbZbf",
   "SbJndAbfSBndGbfSBndHbfSBndJbfSbXnbObfSBnbPbfSBncJbfSBncKbfSHndQbfSBndRbfSBndSbfSBndTbfSfbRshNs",
   "kNCshPskNCshRskNCshTskNCshVskNCshXskNCshZskNCsiBskNCsiDskNCsiFskNCsiHskNCsiJskNDsiMskNCsiOskNC",
   "siQskNHsiXskNBsiXskOCsjAskNBsjAskOCsjDskNBsjDskOCsjGskNBsjGskOCsjJskNBsjJskOXshIskNKskRskNOslF",
   "skNCslHskNCslJskNCslLskNCslNskNCslPskNCslRskNCslTskNCslVskNCslXskNCslZskNCsmBskNDsmEskNCsmGskN",
   "CsmIskNHsmPskNBsmPskOCsmSskNBsmSskOCsmVskNBsmVskOCsmYskNBsmYskOCsnBskNBsnBskOXslAskNDsnVskNBsn",
   "WskNBsnXskNBsnYskNEsoJskNdcpFdvdYbdVbBdveGbdVebMdzgBdzhICdzgDdzhIPdzgNdzhIfBdzlXdzlNBdzlYdzlNu",
   "UeagLeagCBeagLeahBcDeaiSealLCeaiUeakXJeajBealEDeajGealLcAealEealECealEeakUBealEealLjJeauReauSB",
   "eauReauICeauReauVjSebeMebeDBebeNebeDbiJecmVecmQbbgBfdsWfdsWBfdsWfdtHBfdsWfdsXBfdtHfdsXBfdsWfds",
   "YBfdsZfdsXBfdtAfdsXBfdsZfdsYeqQfijVfijVBfijRfijVBfijXfijV"])

/-! ## Hangul -/

def firstSyllable : Nat := 0xAC00

def isSyllable (code : Nat) : Bool := firstSyllable ≤ code && code < firstSyllable + 11172

/-- The leading consonant, the vowel and, unless there is none, the trailing consonant. -/
def syllableParts (code : Nat) : List Nat :=
  let index := code - firstSyllable
  let parts := [0x1100 + index / 588, 0x1161 + index % 588 / 28]
  if index % 28 = 0 then parts else parts ++ [0x11A7 + index % 28]

/-- A leading consonant with a vowel, or a syllable without a trailing consonant with one. -/
def composeSyllable? (first second : Nat) : Option Nat :=
  if 0x1100 ≤ first ∧ first < 0x1113 ∧ 0x1161 ≤ second ∧ second < 0x1176 then
    some (firstSyllable + ((first - 0x1100) * 21 + (second - 0x1161)) * 28)
  else if isSyllable first ∧ (first - firstSyllable) % 28 = 0 ∧ 0x11A8 ≤ second ∧ second < 0x11C3 then
    some (first + (second - 0x11A7))
  else none

/-! ## Decomposition, order and composition -/

/-- The parts of a character, taken apart so many times. -/
def decompose : Nat → Nat → List Nat
  | 0, code => [code]
  | depth + 1, code =>
      if isSyllable code then syllableParts code
      else match compositions.find? (·.composed == code) with
        | some entry => decompose depth entry.first ++ decompose depth entry.second
        | none => [code]

/-- Puts a mark behind the marks of its class and those of lower ones; the text is in reverse. -/
def insertMark (code : Nat) (mark : Nat) : List Nat → List Nat
  | [] => [code]
  | last :: before =>
      if combiningClass last > mark then last :: insertMark code mark before
      else code :: last :: before

/-- A text with the marks after each base in the order of their classes. -/
def orderMarks (codes : List Nat) : List Nat :=
  (codes.foldl (fun before code =>
    let mark := combiningClass code
    if mark = 0 then code :: before else insertMark code mark before) []).reverse

def compose? (first second : Nat) : Option Nat :=
  (composeSyllable? first second).or
    ((compositions.find? fun entry => entry.first == first && entry.second == second).map (·.composed))

/-- The finished characters in reverse, the last base, and the marks after it in reverse. -/
structure Composing where
  done : List Nat := []
  base : Option Nat := none
  marks : List Nat := []

namespace Composing

def text (state : Composing) : List Nat := state.marks ++ state.base.toList ++ state.done

/-- A mark joins the base unless a mark that stayed between them is of its class or a higher one. -/
def add (state : Composing) (code : Nat) : Composing :=
  let mark := combiningClass code
  let isFree : Bool := match state.marks with
    | [] => true
    | last :: _ => combiningClass last < mark
  match state.base.bind fun base => if isFree then compose? base code else none with
  | some composed => { state with base := some composed }
  | none =>
      if mark = 0 then ⟨state.text, some code, []⟩
      else { state with marks := code :: state.marks }

end Composing

/-- A text in composed form. Its characters are decomposed first, but for those that a composed text
never holds. -/
def compose (codes : List Nat) : List Nat :=
  ((orderMarks (codes.flatMap (decompose 8))).foldl Composing.add {}).text.reverse

end ApiContract.Unicode
