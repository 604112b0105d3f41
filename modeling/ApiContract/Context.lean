import ApiContract.ErrorCode

/-!
What a payload is validated as: a request or a response, and which codes are to be reported.
-/

namespace ApiContract

inductive Direction where
  | request
  | response
deriving DecidableEq, Repr

def Direction.isResponse : Direction → Bool
  | .request => false
  | .response => true

structure Context where
  direction : Direction
  statusCode : Option String := none
  /-- When present, only these codes are reported. -/
  includeErrors : Option (List ErrorCode) := none
deriving Repr

namespace Context

def request : Context := { direction := .request }

def response (status : String) : Context := { direction := .response, statusCode := some status }

def isResponse (context : Context) : Bool := context.direction.isResponse

def includes (context : Context) (code : ErrorCode) : Bool :=
  match context.includeErrors with
  | none => true
  | some codes => codes.contains code

end Context

end ApiContract
