import ApiContract.Check
import ApiContract.Context
import ApiContract.Failure

/-!
Validators: tables of clauses. A clause holds everything that one schema asks of a value, with
indexes into the table in the place of subschemas.
-/

namespace ApiContract

open Json (Value)

/-- The directions in which a value with a list of mutabilities may be sent. -/
structure Mutability where
  inRequest : Bool
  inResponse : Bool
deriving DecidableEq, Repr

structure Access where
  readOnly : Bool := false
  mutability : Option Mutability := none
  secret : Bool := false
deriving DecidableEq, Repr

/-- Has a list of mutabilities that does not let it be read back. -/
def Access.unreadable (access : Access) : Bool := access.mutability.any (!·.inResponse)

namespace Validator

/-- What is asked of keys that are not declared. -/
inductive Undeclared where
  | allowed (flag : Bool)
  | clause (index : Nat)
deriving DecidableEq, Repr

/-- The clauses that the tags in a property lead to; the root's own tag leads nowhere. -/
structure Dispatch where
  property : String
  variants : Assoc (Option Nat)
deriving DecidableEq, Repr

structure Clause where
  source : SourceLocation := .document ""
  /-- The name by which a value that may not be sent is reported. -/
  label : Option String := none
  typeName : Option String := none
  nullable : Bool := false
  enumValues : Option (List Value) := none
  enumAsString : Bool := false
  access : Access := {}
  /-- Failures of this clause count but are not reported. -/
  skip : Bool := false
  properties : Option (Assoc Nat) := none
  required : List String := []
  undeclared : Option Undeclared := none
  items : Option Nat := none
  allOf : List Nat := []
  anyOf : List Nat := []
  oneOf : List Nat := []
  uniqueItems : Bool := false
  /-- Keys with the keys that have to be present beside them. -/
  dependencies : List (String × List String) := []
  format : Option Format := none
  checks : List Check := []
  dispatch : Option Dispatch := none

instance : Inhabited Clause := ⟨{}⟩

namespace Clause

/-- Asks for an object and nothing else yet. -/
def object (source : SourceLocation) : Clause :=
  { source, typeName := some "object", properties := some [] }

def property? (clause : Clause) (key : String) : Option Nat :=
  clause.properties.bind fun table => Assoc.find? table key

def fail (clause : Clause) (keyword : Keyword) (code : ErrorCode) (path : String) (detail : Detail) :
    Failure :=
  { Failure.of keyword code detail path clause.source with skip := clause.skip }

end Clause

end Validator

structure Validator where
  clauses : Array Validator.Clause
  root : Nat

def Validator.size (validator : Validator) : Nat := validator.clauses.size

end ApiContract
