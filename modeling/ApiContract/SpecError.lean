/-!
What can be wrong with a specification: documents that cannot be read, passes that cannot be
ordered, schemas that cannot be compiled, and suppressions that cannot be used.
-/

namespace ApiContract

inductive LoadError where
  | fileNotFound (path : String)
  | unreadable (path reason : String)
  | invalidJson
  | invalidYaml
  | fragmentNotFound (fragment : String)
deriving DecidableEq, Repr

inductive ScheduleError where
  | dependencyCycle (scope : String) (passes : List String)
  | duplicatePass (name : String)
deriving DecidableEq, Repr

inductive CompileError where
  | undefinedDiscriminatorValue (location : String)
  | unresolvableReference (reference location : String)
  | invalidSchema (location reason : String)
  | invalidMutability (location value : String)
  | unsupportedParameterLocation (name location : String)
  | operationNotFound (key : String)
  | responseNotFound (key status : String)
deriving DecidableEq, Repr

/-- A suppression whose message pattern is no pattern. -/
structure PatternError where
  pattern : String
deriving DecidableEq, Repr

/-- Why work on a specification ends early: it is at fault, or the work went past its limit of steps. -/
inductive Interruption where
  | refused (error : CompileError)
  | outOfSteps
deriving DecidableEq, Repr

inductive BuildError where
  | load (error : LoadError)
  | schedule (error : ScheduleError)
  | compile (error : CompileError)
  | pattern (error : PatternError)
  | outOfSteps
deriving DecidableEq, Repr

namespace LoadError

def message : LoadError → String
  | .fileNotFound path => "file not found: " ++ path
  | .unreadable path reason => "cannot read " ++ path ++ ": " ++ reason
  | .invalidJson => "invalid JSON"
  | .invalidYaml => "invalid YAML"
  | .fragmentNotFound fragment => "fragment not found: " ++ fragment

def exitCode : LoadError → Nat
  | .fileNotFound _ => 3
  | .unreadable _ _ => 3
  | _ => 2

end LoadError

def ScheduleError.message : ScheduleError → String
  | .dependencyCycle scope passes =>
      "dependency cycle among " ++ scope ++ " transformers: " ++ ", ".intercalate passes
  | .duplicatePass name => "transformer '" ++ name ++ "' registered more than once"

def CompileError.message : CompileError → String
  | .undefinedDiscriminatorValue location => "cannot compute discriminator value for " ++ location
  | .unresolvableReference reference location =>
      "unresolvable reference '" ++ reference ++ "' at " ++ location
  | .invalidSchema location reason => "invalid schema at " ++ location ++ ": " ++ reason
  | .invalidMutability location value => "invalid x-ms-mutability value " ++ value ++ " at " ++ location
  | .unsupportedParameterLocation name location =>
      "unsupported parameter location '" ++ location ++ "' for parameter '" ++ name ++ "'"
  | .operationNotFound key => "operation not found: " ++ key
  | .responseNotFound key status => "operation " ++ key ++ " has no response for status " ++ status

def PatternError.message (error : PatternError) : String :=
  "invalid suppression pattern '" ++ error.pattern ++ "'"

def outOfStepsText : String := "no result within the limit of steps"

namespace Interruption

def message : Interruption → String
  | .refused error => error.message
  | .outOfSteps => outOfStepsText

def exitCode : Interruption → Nat := fun _ => 2

end Interruption

namespace BuildError

def message : BuildError → String
  | .load error => error.message
  | .schedule error => error.message
  | .compile error => error.message
  | .pattern error => error.message
  | .outOfSteps => outOfStepsText

def ofInterruption : Interruption → BuildError
  | .refused error => .compile error
  | .outOfSteps => .outOfSteps

def exitCode : BuildError → Nat
  | .load error => error.exitCode
  | _ => 2

end BuildError

end ApiContract
