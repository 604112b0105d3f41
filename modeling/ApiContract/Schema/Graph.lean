import ApiContract.Pointer
import ApiContract.Schema.Node
import ApiContract.SpecError

/-!
The graph of all schemas of a specification. Nodes are numbered in the order in which they were
added, and each is found again by the location it was built for.
-/

namespace ApiContract.Schema

open Json (Value)

structure Graph where
  nodes : Array Node := #[]
  locations : Assoc Nat := []
deriving Inhabited

namespace Graph

def size (graph : Graph) : Nat := graph.nodes.size

def node (graph : Graph) (id : Nat) : Node := graph.nodes.getD id default

/-- Adds a node and answers its number. -/
def add (graph : Graph) (node : Node) : Nat × Graph :=
  (graph.nodes.size, { graph with nodes := graph.nodes.push node })

def modify (graph : Graph) (id : Nat) (change : Node → Node) : Graph :=
  { graph with nodes := graph.nodes.modify id change }

def lookup (graph : Graph) (location : String) : Option Nat := Assoc.find? graph.locations location

def bind (graph : Graph) (location : String) (id : Nat) : Graph :=
  { graph with locations := Assoc.insert graph.locations location id }

/-- The node of a named definition of the document at `url`. -/
def definition (graph : Graph) (url name : String) : Option Nat :=
  graph.lookup (url ++ "#/definitions/" ++ Pointer.escape name)

end Graph

/-- The nodes that were built from schema objects, by kind, in the order in which they were visited. -/
structure Collections where
  objects : List Nat := []
  arrays : List Nat := []
  primitives : List Nat := []
deriving Repr, Inhabited

namespace Collections

def add (collections : Collections) (kind : Kind) (id : Nat) : Collections :=
  match kind with
  | .object => { collections with objects := collections.objects ++ [id] }
  | .array => { collections with arrays := collections.arrays ++ [id] }
  | .primitive => { collections with primitives := collections.primitives ++ [id] }

def total (collections : Collections) : Nat :=
  collections.objects.length + collections.arrays.length + collections.primitives.length

end Collections

/-- Errors that count only once a validator reaches their node; the first of a node is kept. -/
structure Deferred where
  errors : List (Nat × CompileError) := []
deriving Inhabited

namespace Deferred

def find? (deferred : Deferred) (id : Nat) : Option CompileError :=
  (deferred.errors.find? fun entry => entry.1 == id).map Prod.snd

def add (deferred : Deferred) (id : Nat) (error : CompileError) : Deferred :=
  if (deferred.find? id).isSome then deferred else ⟨deferred.errors ++ [(id, error)]⟩

end Deferred

/-- A graph with its collections and deferred errors. -/
structure Catalog where
  graph : Graph := {}
  collections : Collections := {}
  deferred : Deferred := {}
deriving Inhabited

end ApiContract.Schema
