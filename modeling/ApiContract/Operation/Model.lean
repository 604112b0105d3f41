import ApiContract.Operation.Coercion
import ApiContract.Schema.Graph

/-!
Operations: what a document says about one method of one path.
-/

namespace ApiContract

open Json (Value)

inductive ParameterPlace where
  | path
  | query
  | header
  | body
  | formData
deriving DecidableEq, Repr

namespace ParameterPlace

def ofText? (text : String) : Option ParameterPlace :=
  match text with
  | "path" => some .path
  | "query" => some .query
  | "header" => some .header
  | "body" => some .body
  | "formData" => some .formData
  | _ => none

/-- The slot of the composite payload that holds the parameters of a place. -/
def slot : ParameterPlace → String
  | .path => "path"
  | .query => "query"
  | .header => "headers"
  | .body => "body"
  | .formData => "formData"

end ParameterPlace

structure Parameter where
  name : String
  place : ParameterPlace
  required : Bool
  schema : Schema.Edge
  allowEmptyValue : Bool
  coercion : Option Coercion
  /-- A plain string that carries no constraint worth checking. -/
  trivial : Bool
deriving DecidableEq, Repr

structure Response where
  /-- The operation's key, `/responses/` and the status. -/
  key : String
  status : String
  schema : Option Schema.Edge
  /-- Schemas by header name in lower case. -/
  headers : Assoc Schema.Edge
deriving DecidableEq, Repr

structure Operation where
  /-- The document and the pointer of the operation in it. -/
  key : String
  operationId : Option String
  method : String
  path : String
  url : String
  parameters : List Parameter
  /-- Responses by status. -/
  responses : Assoc Response
  consumes : List String
  produces : List String
  /-- Errors of parameters; they count once a request validator is wanted. -/
  errors : List CompileError
deriving Repr

namespace Operation

/-- A status from 400 to 599, written as a number of 16 bits. -/
def isErrorStatus (status : String) : Bool :=
  match Pointer.position? status with
  | some code => 400 ≤ code && code ≤ 599
  | none => false

/-- The response declared for a status; errors may fall back to the default one. -/
def response? (operation : Operation) (status : String) : Option Response :=
  match Assoc.find? operation.responses status with
  | some response => some response
  | none => if isErrorStatus status then Assoc.find? operation.responses "default" else none

end Operation

end ApiContract
