import ApiContract.Pass.Basic

/-!
Closure. Objects that declare properties and say nothing of other keys are closed, and objects that
declare nothing at all admit values of every type.
-/

namespace ApiContract

namespace Schema.Node

/-- Closed unless the properties are known only per variant. -/
def closed (node : Node) (isBase : Bool) : Node :=
  if node.additional.isNone && node.tagMap.isNone && !isBase && node.hasProperties then
    { node with additional := some (.allowed false) }
  else node

/-- The type `object` is dropped where nothing is said about properties. -/
def loosened (node : Node) : Node :=
  if node.isObjectTyped && !node.hasProperties && node.additional.isNone then
    { node with typeName := none }
  else node

end Schema.Node

namespace Draft

def modifyObjects (draft : Draft) (change : Nat → Schema.Node → Schema.Node) : Draft :=
  draft.catalog.collections.objects.foldl (fun draft id => draft.modifyNode id (change id)) draft

def closeObjects (draft : Draft) : Draft :=
  draft.modifyObjects fun id node => node.closed (draft.isBaseSchema id)

def loosenObjects (draft : Draft) : Draft :=
  draft.modifyObjects fun _ node => node.loosened

end Draft

namespace Pass

def closeObjects : Pass :=
  { name := "no-additional-properties", after := ["all-of"]
    action := .global fun draft => .ok draft.closeObjects }

def loosenObjects : Pass :=
  { name := "pure-object", after := ["no-additional-properties", "nullable"]
    action := .global fun draft => .ok draft.loosenObjects }

end Pass

end ApiContract
