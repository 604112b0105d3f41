import ApiContract.Draft

/-!
Passes: named steps that change a draft, either once for each document or once for the whole, and
the names of the passes that they have to come before or after.
-/

namespace ApiContract

inductive Scope where
  | document
  | global
deriving DecidableEq, Repr

def Scope.text : Scope → String
  | .document => "document"
  | .global => "global"

inductive Pass.Action where
  | document (run : String → Draft → Except Interruption Draft)
  | global (run : Draft → Except Interruption Draft)

structure Pass where
  name : String
  before : List String := []
  after : List String := []
  action : Pass.Action

namespace Pass

def scope (pass : Pass) : Scope :=
  match pass.action with
  | .document _ => .document
  | .global _ => .global

/-- One of the two asks for the first to come first. -/
def precedes (first second : Pass) : Bool :=
  first.before.contains second.name || second.after.contains first.name

end Pass

end ApiContract
