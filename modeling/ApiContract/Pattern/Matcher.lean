import ApiContract.Pattern.Backtracking.Machine
import ApiContract.Pattern.Script

/-!
Patterns ready to be searched for: in the plain notation, which programs match, or in the script
dialect, whose patterns need backtracking unless they are regular.
-/

namespace ApiContract.Pattern

inductive Matcher where
  | regular (program : Program)
  | backtracking (plan : Backtracking.Plan)

namespace Matcher

/-- A pattern in the plain notation. -/
def plain? (text : String) : Option Matcher := (Program.ofText? text.toList).map .regular

/-- A pattern in the richer notation. -/
def ofParsed? (pattern : Backtracking.Parsed) : Option Matcher :=
  if pattern.tree.isRegular pattern.referenced then
    (Program.ofText? (pattern.tree.write 0)).map .regular
  else (Backtracking.Plan.ofParsed? pattern).map .backtracking

/-- A pattern in the script dialect. -/
def script? (text : String) : Option Matcher := do
  let text ← Script.convert? text.toList
  ofParsed? (← Backtracking.Parsed.read? text)

/-- Some part of a text matches. -/
def occursIn (matcher : Matcher) (text : String) : Bool :=
  let chars := text.toList.toArray
  match matcher with
  | .regular program => program.occursIn chars
  | .backtracking plan => plan.occursIn chars

end Matcher

end ApiContract.Pattern
