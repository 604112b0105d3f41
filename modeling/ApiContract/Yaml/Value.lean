import ApiContract.Json.Literal
import ApiContract.Json.Value
import ApiContract.Text.Segments
import ApiContract.Yaml.Node

/-!
The JSON value of a YAML document. Plain scalars are read by the core schema; quoted ones are
strings. Tags of the core schema force a type, and local tags are refused, as are keys
that are no scalars, nesting beyond 128 levels, and too many uses of aliases.
-/

namespace ApiContract.Yaml

open Json (Value Number)

/-! ## Plain scalars -/

def isNullWord (text : String) : Bool := ["null", "Null", "NULL", "~"].contains text

def boolWord? (text : String) : Option Bool :=
  if ["true", "True", "TRUE"].contains text then some true
  else if ["false", "False", "FALSE"].contains text then some false
  else none

def digitIn? (base : Nat) (c : Char) : Option Nat :=
  let value :=
    if c.isDigit then c.toNat - 48
    else if 'a' ≤ c ∧ c ≤ 'z' then c.toNat - 87
    else if 'A' ≤ c ∧ c ≤ 'Z' then c.toNat - 55
    else base
  if value < base then some value else none

def natIn? (base : Nat) (digits : List Char) : Option Nat :=
  if digits = [] then none
  else digits.foldlM (fun total c => (digitIn? base c).map (base * total + ·)) 0

/-- Digits that begin with a zero and are more than one are no number. -/
def isPaddedNumber (text : List Char) : Bool :=
  let digits := match text with
    | '-' :: rest => rest
    | '+' :: rest => rest
    | rest => rest
  digits.length > 1 && digits.head? == some '0' && digits.all Char.isDigit

/-- The magnitude of an integer after its sign: with a mark of its base, or decimal. -/
def magnitude? (text : List Char) : Option Nat :=
  match text with
  | '0' :: 'x' :: digits => natIn? 16 digits
  | '0' :: 'o' :: digits => natIn? 8 digits
  | '0' :: 'b' :: digits => natIn? 2 digits
  | digits => if isPaddedNumber digits then none else natIn? 10 digits

def integer? (text : List Char) : Option Int :=
  match text with
  | '-' :: rest => (magnitude? rest).map fun n => -(n : Int)
  | '+' :: rest => (magnitude? rest).map fun n => (n : Int)
  | rest => (magnitude? rest).map fun n => (n : Int)

/-- A decimal with a point or an exponent, as the fraction that it denotes. -/
structure DecimalText where
  negative : Bool
  digits : Nat
  power : Int

def exponent? (text : List Char) : Option Int :=
  match text with
  | [] => some 0
  | c :: rest =>
      if c = 'e' ∨ c = 'E' then
        let (negative, digits) := Json.Literal.exponentSign rest
        (natIn? 10 digits).map fun n => if negative then -(n : Int) else n
      else none

def decimal? (text : List Char) : Option DecimalText :=
  let (negative, text) := match text with
    | '-' :: rest => (true, rest)
    | '+' :: rest => (false, rest)
    | rest => (false, rest)
  let whole := text.takeWhile Char.isDigit
  let (fraction, rest) := match text.dropWhile Char.isDigit with
    | '.' :: rest => (rest.takeWhile Char.isDigit, rest.dropWhile Char.isDigit)
    | rest => ([], rest)
  if whole = [] ∧ fraction = [] then none
  else (exponent? rest).map fun power =>
    ⟨negative, Json.natOfDigits (whole ++ fraction), power - fraction.length⟩

/-- The float nearest to a decimal. Powers far outside the floats are cut off before the division. -/
def DecimalText.toFloat? (decimal : DecimalText) : Option Binary64 :=
  let length : Int := (Nat.repr decimal.digits).length
  if decimal.digits = 0 ∨ decimal.power + length < -400 then some ⟨decimal.negative, 0, 0⟩
  else if decimal.power + length > 400 then none
  else Binary64.ofRatio decimal.negative
    (decimal.digits * Nat.pow 10 decimal.power.toNat) (Nat.pow 10 (-decimal.power).toNat)

def isInfinite (text : String) : Bool :=
  [".inf", ".Inf", ".INF", "+.inf", "+.Inf", "+.INF", "-.inf", "-.Inf", "-.INF",
   ".nan", ".NaN", ".NAN"].contains text

/-- A float; infinities and the lack of a number have no JSON number and become null. -/
def float? (text : String) : Option Value :=
  if isInfinite text then some .null
  else match text.toList with
    | '+' :: '+' :: _ => none
    | '+' :: '-' :: _ => none
    | chars => ((decimal? chars).bind DecimalText.toFloat?).map fun x => .number (.float x)

/-- How an integer is taken up. -/
inductive IntegerReading where
  | value (value : Value)
  /-- Between 64 and 128 bits there is no JSON integer and no fallback. -/
  | tooWide
  | none

def readInteger (text : String) : IntegerReading :=
  match integer? text.toList with
  | none => .none
  | some n =>
      if Json.Number.minInt ≤ n ∧ n ≤ Json.Number.maxInt then .value (.number (.int n))
      else if -(Nat.pow 2 127 : Int) ≤ n ∧ n < (Nat.pow 2 128 : Int) then .tooWide
      else .none

/-- A plain scalar without a tag. -/
def plainValue (text : String) : Option Value :=
  if text = "" ∨ isNullWord text then some .null
  else match boolWord? text with
    | some flag => some (.bool flag)
    | none => match readInteger text with
      | .value value => some value
      | .tooWide => none
      | .none =>
          if isPaddedNumber text.toList then some (.string text)
          else some ((float? text).getD (.string text))

/-- A scalar with its tag: core tags force a type, and a foreign tag is refused. -/
def scalarValue (tag : Option Tag) (plain : Bool) (text : String) : Option Value :=
  match tag with
  | none => if plain then plainValue text else some (.string text)
  | some tag =>
      if tag.isForeign then none
      else if tag = .core "bool" then (boolWord? text).map .bool
      else if tag = .core "int" then
        match readInteger text with
        | .value value => some value
        | _ => none
      else if tag = .core "float" then float? text
      else if tag = .core "null" then if isNullWord text then some .null else none
      else if tag.isLocal && plain then plainValue text
      else some (.string text)

/-! ## Documents -/

def maxDepth : Nat := 128

/-- Nodes are read with a count of the aliases that may still be followed. -/
abbrev Resolve := StateT Nat Option

/-- Follows an alias, at the cost of one use. -/
def followAlias (document : Document) (number : Nat) : Resolve Node := do
  match ← get with
  | 0 => failure
  | uses + 1 =>
      set uses
      match document.anchors.find? number with
      | some node => return node
      | none => failure

/-- A key is any scalar, as it is written. -/
def keyText (document : Document) (key : Node) : Resolve String := do
  match key with
  | .scalar _ _ text => return text
  | .alias number =>
      match ← followAlias document number with
      | .scalar _ _ text => return text
      | _ => failure
  | _ => failure

/-- A collection whose members are read by the given function. -/
def collectionValue (document : Document) (member : Node → Resolve Value) (node : Node) :
    Resolve Value := do
  match node with
  | .sequence tag items =>
      if tag.any Tag.isForeign then failure else return .array (← items.mapM member)
  | .mapping tag entries =>
      if tag.any Tag.isForeign then failure
      else
        let pairs ← entries.mapM fun entry => do
          let key ← keyText document entry.1
          let value ← member entry.2
          return (key, value)
        return .object (Assoc.ofList pairs)
  | _ => failure

/-- The value of a node that may hold so many levels of collections. -/
def nodeValue (document : Document) : Nat → Node → Resolve Value
  | depth, node => do
      let node ← match node with
        | .alias number => followAlias document number
        | node => pure node
      match node, depth with
      | .scalar tag plain text, _ => fun uses => (scalarValue tag plain text).map (·, uses)
      | _, 0 => failure
      | node, depth + 1 => collectionValue document (nodeValue document depth) node

/-- The JSON value of the only document of a text. -/
def value? (text : String) : Option Value := do
  let document ← Document.read? text
  let (value, _) ← (nodeValue document maxDepth document.root).run (document.root.size * 100)
  return value

end ApiContract.Yaml
