/-!
Cutting texts at a separator and joining them again, on lists of characters.
-/

namespace ApiContract.Text

/-- The pieces between separators; there is one more piece than there are separators. -/
def split (separator : Char) : List Char → List (List Char)
  | [] => [[]]
  | c :: rest =>
      if c = separator then [] :: split separator rest
      else match split separator rest with
        | [] => [[c]]
        | piece :: pieces => (c :: piece) :: pieces

def join (separator : Char) : List (List Char) → List Char
  | [] => []
  | [piece] => piece
  | piece :: pieces => piece ++ separator :: join separator pieces

/-- The text before the first occurrence of a mark, and the text after it. -/
def cutAt? (mark : List Char) : List Char → Option (List Char × List Char)
  | [] => if mark = [] then some ([], []) else none
  | c :: rest =>
      if mark.isPrefixOf (c :: rest) then some ([], (c :: rest).drop mark.length)
      else (cutAt? mark rest).map fun (before, after) => (c :: before, after)

def contains (mark text : List Char) : Bool := (cutAt? mark text).isSome

def startsWith (text start : String) : Bool := start.toList.isPrefixOf text.toList

def endsWith (text ending : String) : Bool := ending.toList.isSuffixOf text.toList

@[simp] theorem split_ne_nil (separator : Char) (text : List Char) : split separator text ≠ [] := by
  cases text with
  | nil => simp [split]
  | cons c rest =>
      simp only [split]
      split
      · simp
      · split <;> simp

theorem join_split (separator : Char) (text : List Char) :
    join separator (split separator text) = text := by
  induction text with
  | nil => rfl
  | cons c rest ih =>
      simp only [split]
      split
      next same =>
        subst same
        cases pieces : split c rest with
        | nil => exact absurd pieces (split_ne_nil c rest)
        | cons piece others =>
            rw [pieces] at ih
            simp [join, ih]
      next different =>
        cases pieces : split separator rest with
        | nil => exact absurd pieces (split_ne_nil separator rest)
        | cons piece others =>
            rw [pieces] at ih
            cases others with
            | nil => simpa [join] using ih
            | cons other others => simpa [join] using ih

end ApiContract.Text
