import ApiContract.Format.DateTime
import ApiContract.Format.Uri
import ApiContract.Json.Value
import ApiContract.Pattern.Matcher

/-!
Named formats. Number formats apply to numbers alone and text formats to strings alone; a format
that is not known accepts everything.
-/

namespace ApiContract

open Json (Value)

inductive Format where
  | int32
  | int64
  | unixTime
  /-- Accepted without inspection. -/
  | opaqueText (name : String)
  | pattern (name : String) (matcher : Option Pattern.Matcher)
  | grammar (name : String) (isMember : List Char → Bool)

namespace Format

def rfc1123 : String :=
  "^(?:(?:Mon|Tue|Wed|Thu|Fri|Sat|Sun), )?[0-3]\\d (?:Jan|Feb|Mar|Apr|May|Jun|Jul|Aug|Sep|Oct|Nov|Dec) "
    ++ "\\d\\d(?:\\d\\d)? (?:[0-2]\\d:[0-5]\\d(?::[0-5]\\d)|23:59:60) (?:[A-Z]\x7b1,3\x7d)?(?:[+-]\\d\\d\\d\\d)?$"

/-- An ISO 8601 duration; no part is obligatory but the `P`. -/
def duration : String :=
  let part (unit : String) : String := "([0-9]+(?:[,\\.][0-9]+)?" ++ unit ++ ")?"
  "^P" ++ part "Y" ++ part "M" ++ part "D" ++ "(?:T" ++ part "H" ++ part "M" ++ part "S" ++ ")?$"

def opaqueNames : List String := ["double", "float", "decimal", "byte", "password", "file"]

def isRegex (text : List Char) : Bool := (Pattern.Script.convert? text).isSome

/-- The grammar of a text format; a name that no grammar has accepts every string. -/
def grammarOf (name : String) : List Char → Bool :=
  match name with
  | "date" => isDate
  | "date-time" => isDateTime
  | "time" => isTime
  | "email" => isEmail
  | "idn-email" => isInternationalEmail
  | "hostname" => isHostname
  | "ipv4" => isIPv4
  | "ipv6" => isIPv6
  | "uri" => isUri
  | "regex" => isRegex
  | _ => fun _ => true

def ofName (name : String) : Format :=
  match name with
  | "int32" => .int32
  | "int64" => .int64
  | "unixtime" => .unixTime
  | "date-time-rfc1123" => .pattern name (Pattern.Matcher.plain? rfc1123)
  | "duration" => .pattern name (Pattern.Matcher.plain? duration)
  | name => if opaqueNames.contains name then .opaqueText name else .grammar name (grammarOf name)

def name : Format → String
  | .int32 => "int32"
  | .int64 => "int64"
  | .unixTime => "unixtime"
  | .opaqueText name => name
  | .pattern name _ => name
  | .grammar name _ => name

/-- An integer within 32 bits; the bounds are compared with the nearest floating-point number. -/
def isInt32 (n : Json.Number) : Bool :=
  let nearest := n.toBinary64
  n.isIntegral && (nearest.compareRatio (-2147483648) 1).isGE && (nearest.compareRatio 2147483647 1).isLE

def accepts (format : Format) (value : Value) : Bool :=
  match format, value with
  | .int32, .number n => isInt32 n
  | .int64, .number n => n.isIntegral
  | .unixTime, .number n => n.isIntegral
  | .pattern _ matcher, .string text => matcher.any (·.occursIn text)
  | .grammar _ isMember, .string text => isMember text.toList
  | _, _ => true

end Format

end ApiContract
