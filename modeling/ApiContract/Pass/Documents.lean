import ApiContract.Pass.Basic
import ApiContract.Schema.Reading

/-!
Passes that make documents uniform and read them: extension paths are joined to the paths, media types
get their defaults, then operations and schemas are read into the graph.
-/

namespace ApiContract

open Json (Value)

namespace DocumentEdit

def extensionPaths : String := "x-ms-paths"

/-- Moves the entries of the extension paths into the paths, where they win. -/
def joinPaths (document : Value) : Value :=
  match document with
  | .object entries =>
      match Assoc.find? entries extensionPaths with
      | none => document
      | some extra =>
          let rest := Assoc.swapRemove entries extensionPaths
          match extra with
          | .object added =>
              let join : Value → Value
                | .object paths =>
                    .object (added.foldl (fun table entry => Assoc.insert table entry.1 entry.2) paths)
                | other => other
              .object (Assoc.modify (Assoc.insertNew rest "paths" (.object [])) "paths" join)
          | _ => .object rest
  | other => other

/-- Media types that an object does not give itself. -/
def withMediaTypes (consumes produces : Value) : Value → Value
  | .object entries =>
      .object (Assoc.insertNew (Assoc.insertNew entries "consumes" consumes) "produces" produces)
  | other => other

/-- Gives every operation of a path the media types that it lacks. -/
def itemMediaTypes (consumes produces : Value) : Value → Value
  | .object entries =>
      .object (entries.map fun entry =>
        if Schema.Reading.methods.contains entry.1 then (entry.1, withMediaTypes consumes produces entry.2)
        else entry)
  | other => other

def defaultMediaTypes : Value := .array [.string "application/json"]

/-- Media types of the document default to JSON, those of an operation to the document's. -/
def spreadMediaTypes (document : Value) : Value :=
  match withMediaTypes defaultMediaTypes defaultMediaTypes document with
  | .object entries =>
      let consumes := (Assoc.find? entries "consumes").getD .null
      let produces := (Assoc.find? entries "produces").getD .null
      let spread : Value → Value
        | .object paths =>
            .object (paths.map fun entry => (entry.1, itemMediaTypes consumes produces entry.2))
        | other => other
      .object (Assoc.modify entries "paths" spread)
  | other => other

end DocumentEdit

namespace Draft

def editDocument (change : Value → Value) (url : String) (draft : Draft) : Except Interruption Draft :=
  .ok { draft with documents := draft.documents.modify url change }

/-- Runs a reading over the catalog of a draft. -/
def reading {α : Type} (draft : Draft) (read : Schema.Reading α) : Except Interruption (α × Draft) :=
  match read.run draft.catalog with
  | some (value, catalog) => .ok (value, { draft with catalog })
  | none => .error .outOfSteps

/-- Reads a root document; the others contribute only what a root leads to. -/
def readDocument (url : String) (draft : Draft) : Except Interruption Draft :=
  if draft.documents.isRoot url then do
    let fuel := Schema.Reading.fuelFor draft.documents
    let (operations, draft) ← draft.reading (Schema.Reading.document draft.documents fuel url)
    return { draft with operations := draft.operations ++ operations }
  else .ok draft

/-- Reads the definitions that only a tag can lead to. -/
def discoverVariants (draft : Draft) : Except Interruption Draft := do
  let (_, draft) ← draft.reading (Schema.Reading.discoverVariants draft.documents)
  return draft

end Draft

namespace Pass

def joinPaths : Pass :=
  { name := "x-ms-paths", before := ["resolve-nested-definitions"]
    action := .document (Draft.editDocument DocumentEdit.joinPaths) }

def spreadMediaTypes : Pass :=
  { name := "reference-fields", after := ["x-ms-paths"], before := ["resolve-nested-definitions"]
    action := .document (Draft.editDocument DocumentEdit.spreadMediaTypes) }

def readDocuments : Pass :=
  { name := "resolve-nested-definitions", action := .document Draft.readDocument }

def discoverVariants : Pass :=
  { name := "discover-variants", before := ["discriminator"], action := .global Draft.discoverVariants }

end Pass

end ApiContract
