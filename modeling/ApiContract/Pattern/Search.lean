import ApiContract.Pattern.Meaning
import ApiContract.Pattern.Notation
import ApiContract.Pattern.Program
import ApiContract.Pattern.Weight

/-!
Patterns in the plain notation, read all the way: their syntax, their meaning, and its weight.
-/

namespace ApiContract.Pattern

/-- The meaning of a pattern; none when it is malformed, meaningless or too heavy. -/
def Regular.ofText? (text : List Char) : Option Regular := do
  let pattern ← (Syntax.read text).toOption
  let (pattern, _) ← pattern.meaning {}
  if pattern.isLight then some pattern else none

def Program.ofText? (text : List Char) : Option Program := (Regular.ofText? text).map Program.ofRegular

end ApiContract.Pattern
