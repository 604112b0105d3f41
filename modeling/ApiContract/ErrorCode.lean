/-!
The closed list of error codes, their severities, and the schema keywords whose checks raise them.
-/

namespace ApiContract

inductive Severity where
  | critical
  | error
  | warning
deriving DecidableEq, Repr

def Severity.text : Severity → String
  | .critical => "Critical"
  | .error => "Error"
  | .warning => "Warning"

inductive ErrorCode where
  | invalidType
  | invalidFormat
  | enumMismatch
  | enumCaseMismatch
  | anyOfMissing
  | oneOfMissing
  | oneOfMultiple
  | notPassed
  | arrayLengthShort
  | arrayLengthLong
  | arrayUnique
  | multipleOf
  | minimum
  | minimumExclusive
  | maximum
  | maximumExclusive
  | minLength
  | maxLength
  | pattern
  | objectAdditionalProperties
  | objectMissingRequiredProperty
  | objectPropertiesMinimum
  | objectPropertiesMaximum
  | objectDependencyKey
  | discriminatorValueNotFound
  | readonlyPropertyNotAllowedInRequest
  | writeonlyPropertyNotAllowedInResponse
  | secretProperty
  | missingRequiredParameter
  | invalidResponseBody
  | invalidResponseHeader
  | invalidResponseCode
  | invalidContentType
deriving DecidableEq, Repr

namespace ErrorCode

def text : ErrorCode → String
  | .invalidType => "INVALID_TYPE"
  | .invalidFormat => "INVALID_FORMAT"
  | .enumMismatch => "ENUM_MISMATCH"
  | .enumCaseMismatch => "ENUM_CASE_MISMATCH"
  | .anyOfMissing => "ANY_OF_MISSING"
  | .oneOfMissing => "ONE_OF_MISSING"
  | .oneOfMultiple => "ONE_OF_MULTIPLE"
  | .notPassed => "NOT_PASSED"
  | .arrayLengthShort => "ARRAY_LENGTH_SHORT"
  | .arrayLengthLong => "ARRAY_LENGTH_LONG"
  | .arrayUnique => "ARRAY_UNIQUE"
  | .multipleOf => "MULTIPLE_OF"
  | .minimum => "MINIMUM"
  | .minimumExclusive => "MINIMUM_EXCLUSIVE"
  | .maximum => "MAXIMUM"
  | .maximumExclusive => "MAXIMUM_EXCLUSIVE"
  | .minLength => "MIN_LENGTH"
  | .maxLength => "MAX_LENGTH"
  | .pattern => "PATTERN"
  | .objectAdditionalProperties => "OBJECT_ADDITIONAL_PROPERTIES"
  | .objectMissingRequiredProperty => "OBJECT_MISSING_REQUIRED_PROPERTY"
  | .objectPropertiesMinimum => "OBJECT_PROPERTIES_MINIMUM"
  | .objectPropertiesMaximum => "OBJECT_PROPERTIES_MAXIMUM"
  | .objectDependencyKey => "OBJECT_DEPENDENCY_KEY"
  | .discriminatorValueNotFound => "DISCRIMINATOR_VALUE_NOT_FOUND"
  | .readonlyPropertyNotAllowedInRequest => "READONLY_PROPERTY_NOT_ALLOWED_IN_REQUEST"
  | .writeonlyPropertyNotAllowedInResponse => "WRITEONLY_PROPERTY_NOT_ALLOWED_IN_RESPONSE"
  | .secretProperty => "SECRET_PROPERTY"
  | .missingRequiredParameter => "MISSING_REQUIRED_PARAMETER"
  | .invalidResponseBody => "INVALID_RESPONSE_BODY"
  | .invalidResponseHeader => "INVALID_RESPONSE_HEADER"
  | .invalidResponseCode => "INVALID_RESPONSE_CODE"
  | .invalidContentType => "INVALID_CONTENT_TYPE"

def all : List ErrorCode :=
  [.invalidType, .invalidFormat, .enumMismatch, .enumCaseMismatch, .anyOfMissing, .oneOfMissing,
   .oneOfMultiple, .notPassed, .arrayLengthShort, .arrayLengthLong, .arrayUnique, .multipleOf,
   .minimum, .minimumExclusive, .maximum, .maximumExclusive, .minLength, .maxLength, .pattern,
   .objectAdditionalProperties, .objectMissingRequiredProperty, .objectPropertiesMinimum,
   .objectPropertiesMaximum, .objectDependencyKey, .discriminatorValueNotFound,
   .readonlyPropertyNotAllowedInRequest, .writeonlyPropertyNotAllowedInResponse, .secretProperty,
   .missingRequiredParameter, .invalidResponseBody, .invalidResponseHeader, .invalidResponseCode,
   .invalidContentType]

/-- The code that a text names. -/
def ofText? (name : String) : Option ErrorCode :=
  all.find? fun code => code.text == name

def severity : ErrorCode → Severity
  | .enumCaseMismatch => .error
  | .invalidContentType => .error
  | .objectDependencyKey => .warning
  | _ => .critical

theorem mem_all (code : ErrorCode) : code ∈ all := by
  cases code <;> decide

end ErrorCode

/-- The schema keyword that a failed check belongs to. -/
inductive Keyword where
  | type
  | format
  | enum
  | pattern
  | minimum
  | maximum
  | minimumExclusive
  | maximumExclusive
  | minLength
  | maxLength
  | minItems
  | maxItems
  | uniqueItems
  | minProperties
  | maxProperties
  | multipleOf
  | required
  | additionalProperties
  | dependencies
  | anyOf
  | oneOf
  | readOnly
  | mutability
  | secret
  | discriminatorMap
  | other (name : String)
deriving DecidableEq, Repr

namespace Keyword

/-- The keyword as a schema spells it. -/
def name : Keyword → String
  | .type => "type"
  | .format => "format"
  | .enum => "enum"
  | .pattern => "pattern"
  | .minimum => "minimum"
  | .minimumExclusive => "minimum"
  | .maximum => "maximum"
  | .maximumExclusive => "maximum"
  | .minLength => "minLength"
  | .maxLength => "maxLength"
  | .minItems => "minItems"
  | .maxItems => "maxItems"
  | .uniqueItems => "uniqueItems"
  | .minProperties => "minProperties"
  | .maxProperties => "maxProperties"
  | .multipleOf => "multipleOf"
  | .required => "required"
  | .additionalProperties => "additionalProperties"
  | .dependencies => "dependencies"
  | .anyOf => "anyOf"
  | .oneOf => "oneOf"
  | .readOnly => "readOnly"
  | .mutability => "x-ms-mutability"
  | .secret => "x-ms-secret"
  | .discriminatorMap => "discriminatorMap"
  | .other name => name

/-- The code that a failed check of the keyword has unless the check chooses another. -/
def code : Keyword → ErrorCode
  | .type => .invalidType
  | .format => .invalidFormat
  | .enum => .enumMismatch
  | .pattern => .pattern
  | .minimum => .minimum
  | .maximum => .maximum
  | .minimumExclusive => .minimumExclusive
  | .maximumExclusive => .maximumExclusive
  | .minLength => .minLength
  | .maxLength => .maxLength
  | .minItems => .arrayLengthShort
  | .maxItems => .arrayLengthLong
  | .uniqueItems => .arrayUnique
  | .minProperties => .objectPropertiesMinimum
  | .maxProperties => .objectPropertiesMaximum
  | .multipleOf => .multipleOf
  | .required => .objectMissingRequiredProperty
  | .additionalProperties => .objectAdditionalProperties
  | .dependencies => .objectDependencyKey
  | .anyOf => .anyOfMissing
  | .oneOf => .oneOfMissing
  | .readOnly => .readonlyPropertyNotAllowedInRequest
  | .mutability => .readonlyPropertyNotAllowedInRequest
  | .secret => .secretProperty
  | .discriminatorMap => .discriminatorValueNotFound
  | .other _ => .notPassed

end Keyword

end ApiContract
