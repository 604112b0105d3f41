import ApiContract.DocumentSet
import ApiContract.Operation.Model

/-!
A specification while it is being worked on: its documents, and what has been read out of them so far.
-/

namespace ApiContract

structure Draft where
  documents : DocumentSet := {}
  catalog : Schema.Catalog := {}
  operations : List Operation := []
  /-- Schemas inside discriminated hierarchies that others inherit from, in ascending order. -/
  baseSchemas : List Nat := []

namespace Draft

def graph (draft : Draft) : Schema.Graph := draft.catalog.graph

def modifyGraph (draft : Draft) (change : Schema.Graph → Schema.Graph) : Draft :=
  { draft with catalog := { draft.catalog with graph := change draft.catalog.graph } }

def modifyNode (draft : Draft) (id : Nat) (change : Schema.Node → Schema.Node) : Draft :=
  draft.modifyGraph (·.modify id change)

def isBaseSchema (draft : Draft) (id : Nat) : Bool := draft.baseSchemas.contains id

/-- The schemas that own a map of tags. -/
def discriminatorRoots (draft : Draft) : List Nat :=
  draft.catalog.collections.objects.filter fun id => (draft.graph.node id).tagMap.isSome

end Draft

end ApiContract
