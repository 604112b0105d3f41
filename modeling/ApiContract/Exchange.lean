import ApiContract.Json.Value
import ApiContract.Text.Segments
import ApiContract.Unicode.Classes

/-!
Requests and responses as they were sent.
-/

namespace ApiContract

open Json (Value)

namespace Exchange

structure Request where
  path : Assoc Value := []
  query : Assoc Value := []
  headers : Assoc Value := []
  body : Option Value := none
  formData : Assoc Value := []

structure Response where
  statusCode : String
  headers : Assoc Value := []
  body : Option Value := none

/-- A table that may be missing. -/
def table? : Option Value → Option (Assoc Value)
  | none => some []
  | some value => value.asObject?

/-- A null body is no body. -/
def body? : Option Value → Option Value
  | some .null => none
  | body => body

def Request.ofFields? (path query headers body formData : Option Value) : Option Request := do
  let path ← table? path
  let query ← table? query
  let headers ← table? headers
  let formData ← table? formData
  return { path, query, headers, body := body? body, formData }

/-- A request as an object, or as an array of its fields in order. -/
def Request.ofValue? : Value → Option Request
  | .object entries =>
      let field := Assoc.find? entries
      ofFields? (field "path") (field "query") (field "headers") (field "body") (field "formData")
  | .array items =>
      if items.length ≤ 5 then ofFields? items[0]? items[1]? items[2]? items[3]? items[4]? else none
  | _ => none

def Response.ofFields? (statusCode headers body : Option Value) : Option Response := do
  let statusCode ← (← statusCode).asString?
  let headers ← table? headers
  return { statusCode, headers, body := body? body }

/-- A response as an object, or as an array of its fields in order. -/
def Response.ofValue? : Value → Option Response
  | .object entries =>
      let field := Assoc.find? entries
      ofFields? (field "statusCode") (field "headers") (field "body")
  | .array items => if items.length ≤ 3 then ofFields? items[0]? items[1]? items[2]? else none
  | _ => none

def isContentType (name : String) : Bool :=
  name.toList.map Char.toLower == "content-type".toList

/-- The media type that the first content type header gives, without its parameters. -/
def contentType? (headers : Assoc Value) : Option String := do
  let header ← List.find? (fun entry => isContentType entry.1) headers
  let text ← header.2.asString?
  let mediaType := Unicode.trim (String.ofList ((Text.split ';' text.toList).headD []))
  if mediaType = "" then none else some mediaType

end Exchange

end ApiContract
