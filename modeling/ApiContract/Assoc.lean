/-!
Tables with string keys that keep the order in which their keys were first written.
Writing a key again changes its value and not its place; `swapRemove` moves the last
entry into the gap it leaves.
-/

namespace ApiContract

abbrev Assoc (α : Type) := List (String × α)

namespace Assoc

variable {α β : Type}

def find? : Assoc α → String → Option α
  | [], _ => none
  | (name, value) :: rest, key => if name = key then some value else find? rest key

def contains (entries : Assoc α) (key : String) : Bool :=
  (find? entries key).isSome

def keys (entries : Assoc α) : List String :=
  entries.map Prod.fst

def values (entries : Assoc α) : List α :=
  entries.map Prod.snd

/-- A new key goes to the end; a key that is present keeps its place. -/
def insert : Assoc α → String → α → Assoc α
  | [], key, value => [(key, value)]
  | (name, old) :: rest, key, value =>
      if name = key then (name, value) :: rest else (name, old) :: insert rest key value

/-- Writes a key only where it is absent. -/
def insertNew (entries : Assoc α) (key : String) (value : α) : Assoc α :=
  if contains entries key then entries else entries ++ [(key, value)]

def modify (entries : Assoc α) (key : String) (change : α → α) : Assoc α :=
  entries.map fun entry => if entry.1 = key then (entry.1, change entry.2) else entry

/-- Removes a key; the last entry takes the place that becomes free. -/
def swapRemove (entries : Assoc α) (key : String) : Assoc α :=
  match entries.getLast? with
  | none => []
  | some last =>
      if contains entries key then
        if last.1 = key then entries.dropLast
        else entries.dropLast.map fun entry => if entry.1 = key then last else entry
      else entries

def ofList (pairs : List (String × α)) : Assoc α :=
  pairs.foldl (fun table pair => insert table pair.1 pair.2) []

@[simp] theorem find?_nil (key : String) : find? ([] : Assoc α) key = none := rfl

theorem find?_insert_self (entries : Assoc α) (key : String) (value : α) :
    find? (insert entries key value) key = some value := by
  induction entries with
  | nil => simp [insert, find?]
  | cons entry rest ih =>
      by_cases same : entry.1 = key
      · simp [insert, find?, same]
      · simp [insert, find?, same, ih]

theorem find?_insert_of_ne (entries : Assoc α) {key other : String} (value : α)
    (different : other ≠ key) :
    find? (insert entries key value) other = find? entries other := by
  induction entries with
  | nil => simp [insert, find?, Ne.symm different]
  | cons entry rest ih =>
      by_cases same : entry.1 = key
      · subst same; simp [insert, find?, Ne.symm different]
      · by_cases found : entry.1 = other
        · simp [insert, find?, found, different]
        · simp [insert, find?, same, found, ih]

end Assoc

end ApiContract
