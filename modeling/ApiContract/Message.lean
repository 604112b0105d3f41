import ApiContract.ErrorCode
import ApiContract.Json.Writer

/-!
The message of an error code, filled with the values that the failed check saw. A code with
values that its wording does not mention gets the general wording.
-/

namespace ApiContract

open Json (Value)

/-- The values that a message mentions. -/
inductive Detail where
  | none
  | type (expected found : String)
  | data (value : Value)
  | format (name : String) (value : Value)
  | pattern (pattern : String) (value : Value)
  | multipleOf (value divisor : Value)
  | limit (actual limit : Value)
  | property (name : String)
  | dependency (missing key : String)
  | unique (index earlier : Nat)
  | access (key : String) (value : Value)
deriving Repr

/-- Strings stand bare in a message, everything else as JSON. -/
def Json.Value.shown : Value → String
  | .string text => text
  | other => other.compact

/-- A value that may not be sent: the items of an array are separated by commas alone. -/
def Json.Value.shownItems : Value → String
  | .array items => ",".intercalate (items.map Value.shown)
  | other => other.compact

def ErrorCode.message (code : ErrorCode) (detail : Detail) : String :=
  match code, detail with
  | .invalidType, .type expected found =>
      "Expected type " ++ expected ++ " but found type " ++ found
  | .invalidFormat, .format name value =>
      "Object didn't pass validation for format " ++ name ++ ": " ++ value.shown
  | .pattern, .pattern expected value =>
      "String does not match pattern " ++ expected ++ ": " ++ value.shown
  | .multipleOf, .multipleOf value divisor =>
      "Value " ++ value.shown ++ " is not a multiple of " ++ divisor.shown
  | .enumCaseMismatch, .data value => "Enum does not match case for: " ++ value.shown
  | .enumMismatch, .data value => "No enum match for: " ++ value.shown
  | .maxLength, .limit actual limit =>
      "String is too long (" ++ actual.shown ++ " chars), maximum " ++ limit.shown
  | .minLength, .limit actual limit =>
      "String is too short (" ++ actual.shown ++ " chars), minimum " ++ limit.shown
  | .minimum, .limit actual limit =>
      "Value " ++ actual.shown ++ " is less than minimum " ++ limit.shown
  | .maximum, .limit actual limit =>
      "Value " ++ actual.shown ++ " is greater than maximum " ++ limit.shown
  | .minimumExclusive, .limit actual limit =>
      "Value " ++ actual.shown ++ " is equal or less than exclusive minimum " ++ limit.shown
  | .maximumExclusive, .limit actual limit =>
      "Value " ++ actual.shown ++ " is equal or greater than exclusive maximum " ++ limit.shown
  | .arrayLengthLong, .limit actual limit =>
      "Array is too long (" ++ actual.shown ++ "), maximum " ++ limit.shown
  | .arrayLengthShort, .limit actual limit =>
      "Array is too short (" ++ actual.shown ++ "), minimum " ++ limit.shown
  | .objectPropertiesMaximum, .limit actual limit =>
      "Too many properties defined (" ++ actual.shown ++ "), maximum " ++ limit.shown
  | .objectPropertiesMinimum, .limit actual limit =>
      "Too few properties defined (" ++ actual.shown ++ "), minimum " ++ limit.shown
  | .arrayUnique, .unique index earlier =>
      "Array items are not unique (indexes " ++ Nat.repr index ++ " and " ++ Nat.repr earlier ++ ")"
  | .objectAdditionalProperties, .property name => "Additional properties not allowed: " ++ name
  | .objectMissingRequiredProperty, .property name => "Missing required property: " ++ name
  | .objectDependencyKey, .dependency missing key =>
      "Dependency failed - key must exist: " ++ missing ++ " (due to key: " ++ key ++ ")"
  | .discriminatorValueNotFound, .data value =>
      "Discriminator value \"" ++ value.shown ++ "\" not found"
  | .readonlyPropertyNotAllowedInRequest, .access key value =>
      "ReadOnly property `\"" ++ key ++ "\": " ++ value.shownItems
        ++ "`, cannot be sent in the request."
  | .writeonlyPropertyNotAllowedInResponse, .access key value =>
      "Write-only property `\"" ++ key ++ "\": " ++ value.shownItems
        ++ "`, is not allowed in the response."
  | .secretProperty, .access key value =>
      "Secret property `\"" ++ key ++ "\": " ++ value.shownItems
        ++ "`, cannot be sent in the response."
  | .anyOfMissing, _ => "Data does not match any schemas from 'anyOf'"
  | .oneOfMissing, _ => "Data does not match any schemas from 'oneOf'"
  | .oneOfMultiple, _ => "Data is valid against more than one schema from 'oneOf'"
  | .missingRequiredParameter, _ => "Value is required but was not provided"
  | .invalidResponseBody, _ => "Body is required in response but not provided"
  | .invalidResponseCode, .data status =>
      "This operation does not have a defined '" ++ status.shown ++ "' response code"
  | .invalidContentType, .format name value =>
      "Invalid Content-Type (" ++ name ++ ").  These are supported: " ++ value.shown
  | code, .data value => "Failed " ++ code.text ++ " validation: " ++ value.shown
  | code, _ => "Failed " ++ code.text ++ " validation"

end ApiContract
