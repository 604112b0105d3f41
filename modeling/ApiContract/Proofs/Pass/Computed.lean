import ApiContract.Proofs.Pass.Stages
import ApiContract.Validator.Compilation

/-!
The stages of given documents, as drafts that can be computed.
-/

namespace ApiContract

namespace Draft

variable {documents : DocumentSet}

def outcomeOf (schedule : Schedule) (documents : DocumentSet) : Draft :=
  (Pipeline.run schedule { documents }).outcome.toOption.getD {}

theorem run_eq_outcomeOf {schedule : Schedule}
    (ends : (Pipeline.run schedule { documents }).outcome.toOption.isSome = true) :
    (Pipeline.run schedule { documents }).outcome = .ok (outcomeOf schedule documents) :=
  Except.eq_ok_getD ({} : Draft) ends

/-- All passes over documents, in the order in which they run. -/
def everyPass : Schedule :=
  ⟨Pass.readers, [Pass.discoverVariants, Pass.buildTagMaps, Pass.mergeBranches, Pass.closeObjects, Pass.admitNull,
    Pass.loosenObjects]⟩

abbrev visitedOf (documents : DocumentSet) : Draft := outcomeOf ⟨Pass.readers, []⟩ documents

abbrev readOf (documents : DocumentSet) : Draft := outcomeOf ⟨Pass.readers, [Pass.discoverVariants]⟩ documents

abbrev mergedOf (documents : DocumentSet) : Draft :=
  outcomeOf ⟨Pass.readers, [Pass.discoverVariants, Pass.buildTagMaps, Pass.mergeBranches]⟩ documents

abbrev finalOf (documents : DocumentSet) : Draft := outcomeOf everyPass documents

/-- Documents that the pipeline takes to its end. -/
class Finishing (documents : DocumentSet) : Prop where
  ends : (Pipeline.run everyPass { documents }).outcome.toOption.isSome = true

theorem Finishing.stages (documents : DocumentSet) [finishing : Finishing documents] :
    IsRead documents (readOf documents) ∧ IsMerged documents (mergedOf documents) ∧
      IsFinished documents (finalOf documents) := by
  have finished : IsFinished documents (finalOf documents) :=
    ⟨everyPass, Pass.builtIn_schedule, run_eq_outcomeOf finishing.ends⟩
  obtain ⟨written, tagged, merged, stages⟩ := finished.stages
  refine ⟨run_eq_outcomeOf ?_, run_eq_outcomeOf ?_, finished⟩
  · rw [stages.read]
    rfl
  · rw [stages.merge]
    rfl

end Draft

namespace DocumentSet

open Json (Value)

def ofDefinitions (definitions : Assoc Value) : DocumentSet :=
  { documents := [("/api.json", .object [("definitions", .object definitions)])], roots := ["/api.json"] }

end DocumentSet

namespace Json.Value

def ofType (name : String) : Value := .object [("type", .string name)]

/-- A reference to a definition of the same document. -/
def toDefinition (name : String) : Value := .object [("$ref", .string ("#/definitions/" ++ name))]

end Json.Value

namespace Validator

/-- The validator of a schema, or one without clauses. -/
def validatorOf (catalog : Schema.Catalog) (id : Nat) : Validator :=
  (ofSchema catalog id).toOption.getD ⟨#[], 0⟩

theorem ofSchema_eq_validatorOf {catalog : Schema.Catalog} {id : Nat}
    (compiles : (ofSchema catalog id).toOption.isSome = true) : ofSchema catalog id = .ok (validatorOf catalog id) :=
  Except.eq_ok_getD (⟨#[], 0⟩ : Validator) compiles

end Validator

end ApiContract
