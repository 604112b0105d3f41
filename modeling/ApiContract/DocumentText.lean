import ApiContract.Json.Reader
import ApiContract.Unicode.Classes
import ApiContract.SpecError
import ApiContract.Url
import ApiContract.Yaml.Value

/-!
Reading documents from text, as JSON or YAML by the name of the file or by how the text begins.
-/

namespace ApiContract.DocumentText

open Json (Value)

def json (text : String) : Except LoadError Value :=
  match Value.read? text with
  | some value => .ok value
  | none => .error .invalidJson

def yaml (text : String) : Except LoadError Value :=
  match Yaml.value? text with
  | some value => .ok value
  | none => .error .invalidYaml

/-- A text that begins with a brace or a bracket is JSON, any other is YAML. -/
def read (text : String) : Except LoadError Value :=
  match (text.toList.dropWhile Unicode.isBlank).head? with
  | some '\x7b' => json text
  | some '[' => json text
  | _ => yaml text

/-- The text of a file is YAML if the file's name says so, and JSON otherwise. -/
def ofFile (path text : String) : Except LoadError Value :=
  if Url.namesYaml path then yaml text else json text

end ApiContract.DocumentText
