/-!
Numbers in writing. Tables write numbers in base 26 with letters for digits, the last one of each
number a capital, over any number of lines.
-/

namespace ApiContract.Unicode

/-- The number read so far, and the numbers before it in reverse. -/
structure NumberReading where
  value : Nat := 0
  numbers : List Nat := []

def NumberReading.read (state : NumberReading) (c : Char) : NumberReading :=
  if 'a' ≤ c then { state with value := 26 * (state.value + (c.toNat - 97)) }
  else ⟨0, (state.value + (c.toNat - 65)) :: state.numbers⟩

/-- The numbers of some lines. -/
def readNumbers (lines : List String) : List Nat :=
  (lines.foldl (fun state (line : String) => line.foldl NumberReading.read state) {}).numbers.reverse

end ApiContract.Unicode
