import ApiContract.Pass.Basic

/-!
Discriminated hierarchies. A schema that declares a discriminator is a root; a schema whose `allOf`
references lead to a root is a variant of it. Each root gets a map from tags to variants, and the
branches that lead to it become base schemas.
-/

namespace ApiContract

namespace Schema

/-- What searches for roots leave behind: their answers, and the base schemas that they passed. -/
structure RootSearch where
  answers : List (Nat × Option Nat) := []
  /-- In ascending order. -/
  bases : List Nat := []

namespace RootSearch

def answer? (search : RootSearch) (id : Nat) : Option (Option Nat) :=
  (search.answers.find? fun entry => entry.1 == id).map Prod.snd

def record (search : RootSearch) (id : Nat) (root : Option Nat) : RootSearch :=
  { search with answers := (id, root) :: search.answers }

def insertAscending (id : Nat) : List Nat → List Nat
  | [] => [id]
  | first :: rest =>
      if id < first then id :: first :: rest
      else if id = first then first :: rest
      else first :: insertAscending id rest

def addBase (search : RootSearch) (id : Nat) : RootSearch :=
  { search with bases := insertAscending id search.bases }

/-- Searches the references of a schema in order for one that leads to a root. While a schema is being
searched its answer is that there is none, so chains that come back to it end. -/
def findRoot (graph : Graph) : Nat → Nat → StateT RootSearch Option (Option Nat)
  | 0, _ => failure
  | fuel + 1, id =>
      let node := graph.node id
      if node.discriminator.isSome then return some id
      else match node.allOf with
        | none => return none
        | some branches => do
            match (← get).answer? id with
            | some known => return known
            | none =>
                modify (·.record id none)
                let references := (branches.filter (·.viaRef)).map (·.target)
                let found ← references.findSomeM? fun target => do
                  return (← findRoot graph fuel target).map fun root => (target, root)
                match found with
                | none => return none
                | some (target, root) =>
                    modify fun search => (search.addBase target).record id (some root)
                    return some root

/-- Every search below another one records a schema that had no answer, so the number of nodes bounds
how deep they go. -/
def rootOf (graph : Graph) (id : Nat) : StateT RootSearch Option (Option Nat) :=
  findRoot graph (graph.size + 1) id

end RootSearch

namespace Catalog

def modifyNode (catalog : Catalog) (id : Nat) (change : Node → Node) : Catalog :=
  { catalog with graph := catalog.graph.modify id change }

def defer (catalog : Catalog) (id : Nat) (error : CompileError) : Catalog :=
  { catalog with deferred := catalog.deferred.add id error }

def undefinedTag (catalog : Catalog) (id : Nat) : CompileError :=
  .undefinedDiscriminatorValue (catalog.graph.node id).source.location

/-- Gives a root that has no map yet one that holds its own tag, if it has a tag. -/
def openMap? (catalog : Catalog) (root : Nat) : Option Catalog :=
  let node := catalog.graph.node root
  if node.tagMap.isSome then some catalog
  else node.tag?.map fun tag =>
    catalog.modifyNode root fun node => { node with tagMap := some [(tag, none)] }

/-- Enters a schema into the map of its root. A root without a tag matters once something inherits from
it; a variant without one spoils the root as well. -/
def enroll (catalog : Catalog) (root id : Nat) : Catalog :=
  match catalog.openMap? root with
  | none => if root = id then catalog else catalog.defer root (catalog.undefinedTag root)
  | some catalog =>
      if root = id then catalog
      else match (catalog.graph.node id).tag? with
        | some tag => catalog.modifyNode root fun node =>
            { node with tagMap := node.tagMap.map fun tags => Assoc.insert tags tag (some id) }
        | none =>
            let error := catalog.undefinedTag id
            (catalog.defer root error).defer id error

/-- Enters every object schema that has a root. -/
def enrollAll : List Nat → Catalog → StateT RootSearch Option Catalog
  | [], catalog => return catalog
  | id :: rest, catalog => do
      match ← RootSearch.rootOf catalog.graph id with
      | none => enrollAll rest catalog
      | some root => enrollAll rest (catalog.enroll root id)

end Catalog

end Schema

namespace Draft

def buildTagMaps (draft : Draft) : Except Interruption Draft :=
  let objects := draft.catalog.collections.objects
  match (draft.catalog.enrollAll objects).run { bases := draft.baseSchemas } with
  | some (catalog, search) => .ok { draft with catalog, baseSchemas := search.bases }
  | none => .error .outOfSteps

end Draft

namespace Pass

def buildTagMaps : Pass :=
  { name := "discriminator", before := ["all-of"], action := .global Draft.buildTagMaps }

end Pass

end ApiContract
