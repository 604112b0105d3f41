import ApiContract.Proofs.Schema.Given

/-!
The parameters of an operation: those of its path and its own ones, each by name and place at most once, as the last valid
entry declares it, and in the order of the first ones. Invalid entries leave errors, and parameters alone
(`parameters_merged`).
-/

namespace ApiContract.Schema.Reading

open Json (Value)

/-- Every document is read as the operations that it declares, in their order, whatever is in the graph already. Their
parameters merge what the valid entries declare, and their errors are those of the other entries. -/
theorem parameters_merged (documents : DocumentSet) (url : String) {whole : Value} {before : Catalog}
    (held : documents.get? url = some whole) (built : Built before) :
    ∃ operations after, (document documents (fuelFor documents) url).run before = some (operations, after) ∧
      List.Forall₂ (fun declaration operation =>
          operation.place = (url, declaration.path, declaration.method) ∧
          ∃ outcomes, Outcomes documents after url declaration.entries outcomes ∧
            Merges (outcomes.filterMap Except.toOption) operation.parameters ∧
            operation.errors = outcomes.filterMap error?)
        (Declaration.ofDocument whole) operations := by
  obtain ⟨operations, after, ran, _⟩ := document_answers documents url before trivial
  obtain ⟨_, reads⟩ := document_reads held before operations after built trivial ran
  refine ⟨operations, after, ran, reads.imp fun declaration operation read => ⟨read.place, ?_⟩⟩
  obtain ⟨outcomes, yielded, added⟩ := read.parameters
  rw [foldl_add] at added
  obtain ⟨parameters, errors⟩ := ParameterList.mk.inj added
  refine ⟨outcomes, yielded, ?_, errors⟩
  rw [parameters]
  exact merges_foldl _

/-- A pet has a path with three entries, of which one lacks a name, and is put with six more. -/
def petDocument : Value := .object [("paths", .object [("/pets/\x7bid\x7d", .object [
  ("parameters", .array [
    .object [("name", .string "id"), ("in", .string "path"), ("type", .string "string")],
    .object [("name", .string "limit"), ("in", .string "query"), ("type", .string "integer")],
    .object [("in", .string "query"), ("type", .string "string")]]),
  ("put", .object [("parameters", .array [
    .object [("$ref", .string "shared.json#/parameters/Version")],
    .object [("name", .string "flag"), ("in", .string "cookie"), ("type", .string "boolean")],
    .object [("name", .string "limit"), ("in", .string "query"), ("type", .string "integer"), ("required", .bool true)],
    .object [("$ref", .string "shared.json#/parameters/Missing")],
    .object [("name", .string "limit"), ("in", .string "header"), ("type", .string "integer")],
    .object [("name", .string "pet"), ("in", .string "body")]])])])])]

def petDocuments : DocumentSet where
  documents := [("/pets.json", petDocument), ("/shared.json", .object [("parameters", .object [
    ("Version", .object [("name", .string "version"), ("in", .string "query"), ("type", .string "string")])])])]
  roots := ["/pets.json"]

/-- The limit of the path is overridden where it stands, and three errors are kept. -/
theorem parameters_merged_pets : petDocuments.get? "/pets.json" = some petDocument ∧ Built {} ∧
    ∃ operations after, (document petDocuments (fuelFor petDocuments) "/pets.json").run {} = some (operations, after) ∧
      operations.map (fun operation => operation.parameters.map fun parameter =>
          (parameter.name, parameter.place, parameter.required)) =
        [[("id", .path, true), ("limit", .query, true), ("version", .query, false), ("limit", .header, false),
          ("pet", .body, false)]] ∧
      operations.map Operation.errors =
        [[.invalidSchema "/pets.json#/paths/~1pets~1\x7bid\x7d/parameters/2" "parameter has no name",
          .unsupportedParameterLocation "flag" "cookie",
          .unresolvableReference "shared.json#/parameters/Missing"
            "/pets.json#/paths/~1pets~1\x7bid\x7d/put/parameters/3"]] ∧
      List.Forall₂ (fun declaration operation =>
          operation.place = ("/pets.json", declaration.path, declaration.method) ∧
          ∃ outcomes, Outcomes petDocuments after "/pets.json" declaration.entries outcomes ∧
            Merges (outcomes.filterMap Except.toOption) operation.parameters ∧
            operation.errors = outcomes.filterMap error?)
        (Declaration.ofDocument petDocument) operations := by
  have held : petDocuments.get? "/pets.json" = some petDocument := by rfl
  obtain ⟨operations, after, ran, merged⟩ := parameters_merged petDocuments "/pets.json" held .refl
  have told {α : Type} (tell : List Operation → α) : some (tell operations) =
      ((document petDocuments (fuelFor petDocuments) "/pets.json").run {}).map fun answer => tell answer.1 := by
    rw [ran]
    rfl
  refine ⟨held, .refl, operations, after, ran, ?_, ?_, merged⟩
  · exact Option.some.inj ((told _).trans (by decide +kernel))
  · exact Option.some.inj ((told _).trans (by decide +kernel))

end ApiContract.Schema.Reading
