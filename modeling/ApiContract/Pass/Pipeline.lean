import ApiContract.Pass.Closure
import ApiContract.Pass.Documents
import ApiContract.Pass.Hierarchy
import ApiContract.Pass.Inheritance
import ApiContract.Pass.Nullability
import ApiContract.Pass.Schedule

/-!
Running passes in the order of a schedule: the document passes for each document in load order, then
the global passes. The first error ends the run.
-/

namespace ApiContract

/-- The passes that every specification goes through, in the order of their registration. -/
def Pass.builtIn : List Pass :=
  [Pass.joinPaths, Pass.spreadMediaTypes, Pass.readDocuments, Pass.discoverVariants, Pass.buildTagMaps,
   Pass.mergeBranches, Pass.closeObjects, Pass.admitNull, Pass.loosenObjects]

namespace Pipeline

/-- A pass over one document, or over the whole draft. -/
structure Step where
  pass : Pass
  url : Option String

def Step.perform (step : Step) (draft : Draft) : Except Interruption Draft :=
  match step.pass.action, step.url with
  | .document run, some url => run url draft
  | .global run, _ => run draft
  | .document _, none => .ok draft

def steps (schedule : Schedule) (urls : List String) : List Step :=
  urls.flatMap (fun url => schedule.document.map fun pass => ⟨pass, some url⟩)
    ++ schedule.global.map fun pass => ⟨pass, none⟩

/-- What a run did: the steps that were begun, and the draft or the error at the end. -/
structure Run where
  begun : List Step
  outcome : Except Interruption Draft

def perform : List Step → Draft → Run
  | [], draft => ⟨[], .ok draft⟩
  | step :: rest, draft =>
      match step.perform draft with
      | .error error => ⟨[step], .error error⟩
      | .ok draft =>
          let later := perform rest draft
          ⟨step :: later.begun, later.outcome⟩

def run (schedule : Schedule) (draft : Draft) : Run :=
  perform (steps schedule draft.documents.urls) draft

end Pipeline

end ApiContract
