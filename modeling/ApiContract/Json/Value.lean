import ApiContract.Assoc
import ApiContract.Json.Number

/-!
JSON values. Objects keep the order of their entries, which decides the order of everything that
is read from them, but two objects are the same value whatever that order is.
-/

namespace ApiContract.Json

inductive Value where
  | null
  | bool (flag : Bool)
  | number (value : Number)
  | string (text : String)
  | array (items : List Value)
  | object (entries : List (String × Value))
deriving Repr, Inhabited

namespace Value

def find? (value : Value) (key : String) : Option Value :=
  match value with
  | .object entries => Assoc.find? entries key
  | _ => none

def entries : Value → Assoc Value
  | .object entries => entries
  | _ => []

def asString? : Value → Option String
  | .string text => some text
  | _ => none

def asBool? : Value → Option Bool
  | .bool flag => some flag
  | _ => none

def asArray? : Value → Option (List Value)
  | .array items => some items
  | _ => none

def asObject? : Value → Option (Assoc Value)
  | .object entries => some entries
  | _ => none

def isNull : Value → Bool
  | .null => true
  | _ => false

def isObject : Value → Bool
  | .object _ => true
  | _ => false

def isArray : Value → Bool
  | .array _ => true
  | _ => false

def stringAt? (value : Value) (key : String) : Option String :=
  (value.find? key).bind asString?

def boolAt? (value : Value) (key : String) : Option Bool :=
  (value.find? key).bind asBool?

def arrayAt? (value : Value) (key : String) : Option (List Value) :=
  (value.find? key).bind asArray?

def objectAt? (value : Value) (key : String) : Option (Assoc Value) :=
  (value.find? key).bind asObject?

/-- A boolean member that is absent or of another type counts as false. -/
def flagAt (value : Value) (key : String) : Bool :=
  (value.boolAt? key).getD false

/-- The name of the JSON type, with every number a `number`. -/
def typeName : Value → String
  | .null => "null"
  | .bool _ => "boolean"
  | .number _ => "number"
  | .string _ => "string"
  | .array _ => "array"
  | .object _ => "object"

/-- The name of the type of an instance: a number without a fraction is an `integer`. -/
def instanceTypeName : Value → String
  | .number n => if n.isIntegral then "integer" else "number"
  | other => other.typeName

mutual

/-- Equality by representation, up to the order of object entries. -/
def same : Value → Value → Bool
  | .null, .null => true
  | .bool a, .bool b => a == b
  | .number a, .number b => a.same b
  | .string a, .string b => a == b
  | .array items, .array others => sameItems items others
  | .object entries, .object others =>
      entries.length == others.length && sameEntries entries others
  | _, _ => false

def sameItems : List Value → List Value → Bool
  | [], [] => true
  | item :: items, other :: others => same item other && sameItems items others
  | _, _ => false

/-- Each entry of the first object has an equal one in the second. -/
def sameEntries : List (String × Value) → List (String × Value) → Bool
  | [], _ => true
  | (key, value) :: rest, others =>
      (match Assoc.find? others key with
        | some other => same value other
        | none => false) && sameEntries rest others

end

mutual

/-- Levels of nesting: scalars have depth 0. -/
def depth : Value → Nat
  | .array items => depthItems items + 1
  | .object entries => depthEntries entries + 1
  | _ => 0

def depthItems : List Value → Nat
  | [] => 0
  | item :: rest => max (depth item) (depthItems rest)

def depthEntries : List (String × Value) → Nat
  | [] => 0
  | (_, value) :: rest => max (depth value) (depthEntries rest)

end

mutual

/-- The number of values in a value, its own included. -/
def weight : Value → Nat
  | .array items => weightItems items + 1
  | .object entries => weightEntries entries + 1
  | _ => 1

def weightItems : List Value → Nat
  | [] => 0
  | item :: rest => weight item + weightItems rest

def weightEntries : List (String × Value) → Nat
  | [] => 0
  | (_, value) :: rest => weight value + weightEntries rest

end

end Value

end ApiContract.Json
