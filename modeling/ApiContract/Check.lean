import ApiContract.Format
import ApiContract.Message
import ApiContract.SpecError

/-!
Checks of single keywords with a limit: lengths, counts, number ranges, multiples, patterns and
lists of types. A check applies to values of its own type and passes on all others.
-/

namespace ApiContract

open Json (Value Number)

/-- Why the value of a keyword is refused. -/
inductive LimitFault where
  | notOfType (value : Value) (expected : String)
  | belowZero (value : Value)
  | notPositive (value : Value)
  | notPattern (value : Value)
  | notTypeList (value : Value)

def LimitFault.message : LimitFault → String
  | .notOfType value expected => value.compact ++ " is not of type \"" ++ expected ++ "\""
  | .belowZero value => value.compact ++ " is less than the minimum of 0"
  | .notPositive value => value.compact ++ " is less than or equal to the minimum of 0"
  | .notPattern value => value.compact ++ " is not a \"regex\""
  | .notTypeList value =>
      value.compact ++ " is not valid under any of the schemas listed in the 'anyOf' keyword"

/-- What a check compares its values with. -/
inductive Rule where
  | pattern (matcher : Pattern.Matcher)
  | length (least : Bool) (limit : Nat)
  | bound (least exclusive : Bool) (limit : Number)
  | multiple (divisor : Binary64)
  | items (least : Bool) (limit : Nat)
  | properties (least : Bool) (limit : Nat)
  | types (names : List String)

structure Check where
  keyword : Keyword
  limit : Value
  rule : Rule

namespace Rule

/-- At least, or at most, a limit. -/
def within (least : Bool) (limit count : Nat) : Bool :=
  if least then limit ≤ count else count ≤ limit

def boundHolds (least exclusive : Bool) (limit n : Number) : Bool :=
  match n.compareValue limit with
  | .eq => !exclusive
  | .lt => !least
  | .gt => least

/-- Division by an integral divisor leaves nothing; by another, a negligible fraction. When the
quotient exceeds the floats, the shortest decimals of both numbers are divided exactly. -/
def isMultiple (n : Number) (divisor : Binary64) : Bool :=
  let x := n.toBinary64
  if divisor.isIntegral then x.isIntegral && x.isMultipleOf divisor
  else match x.div divisor with
    | some quotient => quotient.fractionIsNegligible
    | none =>
        let a := x.shortest
        let b := divisor.shortest
        let scale := a.scale - b.scale
        a.digits * Nat.pow 10 scale.toNat % (b.digits * Nat.pow 10 (-scale).toNat) == 0

/-- The types as lists of them name them: an integer is written without point and exponent. -/
def hasType (value : Value) (name : String) : Bool :=
  match name, value with
  | "integer", .number (.int _) => true
  | "integer", _ => false
  | name, value => value.typeName == name

def accepts (rule : Rule) (value : Value) : Bool :=
  match rule, value with
  | .pattern matcher, .string text => matcher.occursIn text
  | .length least limit, .string text => within least limit text.length
  | .bound least exclusive limit, .number n => boundHolds least exclusive limit n
  | .multiple divisor, .number n => isMultiple n divisor
  | .items least limit, .array elements => within least limit elements.length
  | .properties least limit, .object entries => within least limit entries.length
  | .types names, value => names.any (hasType value)
  | _, _ => true

def count? (value : Value) : Except LimitFault Nat :=
  match value with
  | .number (.int n) => if n < 0 then .error (.belowZero value) else .ok n.toNat
  | _ => .error (.notOfType value "integer")

def number? (value : Value) : Except LimitFault Number :=
  match value with
  | .number n => .ok n
  | _ => .error (.notOfType value "number")

def divisor? (value : Value) : Except LimitFault Binary64 :=
  match value with
  | .number n => if (n.compareValue (.int 0)).isGT then .ok n.toBinary64 else .error (.notPositive value)
  | _ => .error (.notOfType value "number")

def pattern? (value : Value) : Except LimitFault Pattern.Matcher :=
  match value with
  | .string text =>
      match Pattern.Matcher.script? text with
      | some matcher => .ok matcher
      | none => .error (.notPattern value)
  | _ => .error (.notOfType value "string")

def typeNames : List String := ["array", "boolean", "integer", "null", "number", "object", "string"]

/-- One type name, or a list of different ones that is not empty. -/
def types? (value : Value) : Except LimitFault (List String) :=
  let known (name : Value) : Option String :=
    name.asString?.bind fun text => if typeNames.contains text then some text else none
  let names := match value with
    | .array elements => elements.mapM known
    | value => (known value).map ([·])
  match names with
  | some names => if names.length > 0 ∧ names.Nodup then .ok names else .error (.notTypeList value)
  | none => .error (.notTypeList value)

end Rule

namespace Check

def accepts (check : Check) (value : Value) : Bool := check.rule.accepts value

/-- The values that the message of a failed check mentions. -/
def detail (check : Check) (value : Value) : Detail :=
  let count (n : Nat) : Detail := .limit (.number (.int n)) check.limit
  match check.rule with
  | .pattern _ => .pattern (check.limit.asString?.getD "") value
  | .multiple _ => .multipleOf value check.limit
  | .length _ _ => count ((value.asString?.map String.length).getD 0)
  | .items _ _ => count ((value.asArray?.map List.length).getD 0)
  | .properties _ _ => count ((value.asObject?.map List.length).getD 0)
  | .bound _ _ _ => .limit value check.limit
  | .types _ => .data value

/-- The check that a keyword with its value asks for; some keywords ask for none. -/
def ofKeyword (constraints : Assoc Value) (key : String) (limit : Value) :
    Except LimitFault (Option Check) :=
  let exclusive (name : String) : Bool := ((Assoc.find? constraints name).bind Value.asBool?).getD false
  let made (keyword : Keyword) (rule : Except LimitFault Rule) : Except LimitFault (Option Check) :=
    rule.map fun rule => some { keyword, limit, rule }
  match key with
  | "pattern" => made .pattern ((Rule.pattern? limit).map .pattern)
  | "minLength" => made .minLength ((Rule.count? limit).map (.length true))
  | "maxLength" => made .maxLength ((Rule.count? limit).map (.length false))
  | "minimum" =>
      let strict := exclusive "exclusiveMinimum"
      made (if strict then .minimumExclusive else .minimum) ((Rule.number? limit).map (.bound true strict))
  | "maximum" =>
      let strict := exclusive "exclusiveMaximum"
      made (if strict then .maximumExclusive else .maximum) ((Rule.number? limit).map (.bound false strict))
  | "multipleOf" => made .multipleOf ((Rule.divisor? limit).map .multiple)
  | "minItems" => made .minItems ((Rule.count? limit).map (.items true))
  | "maxItems" => made .maxItems ((Rule.count? limit).map (.items false))
  | "minProperties" => made .minProperties ((Rule.count? limit).map (.properties true))
  | "maxProperties" => made .maxProperties ((Rule.count? limit).map (.properties false))
  | "type" => made (.other "type") ((Rule.types? limit).map .types)
  | _ => .ok none

/-- The checks of a schema, in the order of its keywords; the first fault is reported. -/
def compileAll (constraints : Assoc Value) (location : String) : Except CompileError (List Check) :=
  match constraints.mapM fun entry => ofKeyword constraints entry.1 entry.2 with
  | .ok checks => .ok (checks.filterMap id)
  | .error fault => .error (.invalidSchema location fault.message)

end Check

end ApiContract
