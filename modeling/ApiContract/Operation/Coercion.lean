import ApiContract.Json.Literal
import ApiContract.Json.Value
import ApiContract.Unicode.Classes

/-!
Coercion: path, query and header values are sent as texts, and become values of their declared types
where the texts can be read as such.
-/

namespace ApiContract

open Json (Value Number)

/-- How the text of a parameter becomes a value. -/
inductive Coercion where
  | number
  | boolean
deriving DecidableEq, Repr

namespace Coercion

def ofType? (typeName : String) : Option Coercion :=
  match typeName with
  | "number" => some .number
  | "integer" => some .number
  | "boolean" => some .boolean
  | _ => none

/-- A text that cannot be read as the type stays a text. -/
def read (coercion : Coercion) (text : String) : Value :=
  match coercion with
  | .number =>
      match Number.ofLiteral? (Unicode.trim text).toList with
      | some value => .number value
      | none => .string text
  | .boolean =>
      match String.ofList (text.toList.map Char.toLower) with
      | "true" => .bool true
      | "false" => .bool false
      | _ => .string text

def readString (coercion : Coercion) : Value → Value
  | .string text => coercion.read text
  | other => other

/-- Reads a text, or the texts that are items of an array. -/
def apply (coercion : Coercion) : Value → Value
  | .string text => coercion.read text
  | .array items => .array (items.map coercion.readString)
  | other => other

end Coercion

end ApiContract
