import ApiContract.Context
import ApiContract.Json.Value
import ApiContract.Suppression

/-!
Settings of a validator, as a JSON value holds them: suppressions, the codes to report, and whether
trivial parameters are left out.
-/

namespace ApiContract

open Json (Value)

structure Settings where
  suppressions : List Directive := []
  /-- When not empty, only these codes are reported. -/
  includeErrors : List ErrorCode := []
  skipTrivialParameters : Bool := true
deriving Repr

/-- A code is its text, or an object whose only key is the text and whose value is null. -/
def ErrorCode.ofValue? : Value → Option ErrorCode
  | .string text => ErrorCode.ofText? text
  | .object [(text, .null)] => ErrorCode.ofText? text
  | _ => none

/-- An optional text: absent, null or a string. -/
def optionalText? : Option Value → Option (Option String)
  | none => some none
  | some .null => some none
  | some (.string text) => some (some text)
  | some _ => none

namespace Directive

/-- A directive as an object, or as an array of its fields in order. -/
def ofValue? : Value → Option Directive
  | .object entries => do
      let code ← ErrorCode.ofValue? (← Assoc.find? entries "code")
      let location ← (← Assoc.find? entries "location").asString?
      let textMatches ← optionalText? (Assoc.find? entries "text-matches")
      return { code, location, textMatches }
  | .array (code :: location :: rest) =>
      if rest.length ≤ 1 then do
        let code ← ErrorCode.ofValue? code
        let location ← location.asString?
        let textMatches ← optionalText? rest.head?
        return { code, location, textMatches }
      else none
  | _ => none

def toValue (directive : Directive) : Value :=
  let pattern := match directive.textMatches with
    | some text => [("text-matches", Value.string text)]
    | none => []
  .object ([("code", .string directive.code.text), ("location", .string directive.location)] ++ pattern)

def listOfValue? (value : Value) : Option (List Directive) :=
  value.asArray?.bind (·.mapM ofValue?)

end Directive

namespace Settings

def codesOfValue? (value : Value) : Option (List ErrorCode) :=
  value.asArray?.bind (·.mapM ErrorCode.ofValue?)

/-- A field that is absent keeps its default. -/
def field (value : Option Value) (default : α) (read : Value → Option α) : Option α :=
  match value with
  | none => some default
  | some value => read value

def ofFields? (suppressions includeErrors skip : Option Value) : Option Settings := do
  let suppressions ← field suppressions [] Directive.listOfValue?
  let includeErrors ← field includeErrors [] codesOfValue?
  let skipTrivialParameters ← field skip true Value.asBool?
  return { suppressions, includeErrors, skipTrivialParameters }

/-- Settings as an object, or as an array of their fields in order. -/
def ofValue? : Value → Option Settings
  | .object entries =>
      ofFields? (Assoc.find? entries "suppressions") (Assoc.find? entries "includeErrors")
        (Assoc.find? entries "skipTrivialParameters")
  | .array items => if items.length ≤ 3 then ofFields? items[0]? items[1]? items[2]? else none
  | _ => none

def toValue (settings : Settings) : Value :=
  .object
    [("suppressions", .array (settings.suppressions.map Directive.toValue)),
     ("includeErrors", .array (settings.includeErrors.map fun code => .string code.text)),
     ("skipTrivialParameters", .bool settings.skipTrivialParameters)]

/-- The context of a direction with the filter that the settings ask for; an empty list asks for none. -/
def context (settings : Settings) (direction : Direction) : Context :=
  let plain := match direction with
    | .request => Context.request
    | .response => Context.response ""
  if settings.includeErrors.isEmpty then plain
  else { plain with includeErrors := some settings.includeErrors }

end Settings

end ApiContract
