import ApiContract.Issue
import ApiContract.Pattern.Matcher
import ApiContract.SpecError

/-!
Suppressions: directives that keep issues of a code at a schema from being reported, all of them
or those whose message matches a pattern.
-/

namespace ApiContract

structure Directive where
  code : ErrorCode
  /-- A document with a fragment, or a fragment alone for every document. -/
  location : String
  textMatches : Option String := none
deriving DecidableEq, Repr

/-- A directive with its pattern read; without a pattern it matches every message. -/
structure SuppressionRule where
  code : ErrorCode
  location : String
  pattern : Option Pattern.Matcher

/-- The pattern that stands for every message. -/
def matchAll : String := ".*"

namespace SuppressionRule

def ofDirective (directive : Directive) : Except PatternError SuppressionRule :=
  match directive.textMatches with
  | none => .ok ⟨directive.code, directive.location, none⟩
  | some text =>
      if text = matchAll then .ok ⟨directive.code, directive.location, none⟩
      else match Pattern.Matcher.plain? text with
        | some matcher => .ok ⟨directive.code, directive.location, some matcher⟩
        | none => .error ⟨text⟩

def matchesLocation (rule : SuppressionRule) (source : SourceLocation) : Bool :=
  if Text.startsWith rule.location "#" then source.fragment? == some rule.location
  else source.location == rule.location

def matchesIssue (rule : SuppressionRule) (issue : Issue) : Bool :=
  issue.code == rule.code && rule.matchesLocation issue.source
    && (rule.pattern.map (·.occursIn issue.message)).getD true

end SuppressionRule

/-- The rules of a specification. -/
structure Suppressions where
  rules : List SuppressionRule := []

namespace Suppressions

def ofDirectives (directives : List Directive) : Except PatternError Suppressions :=
  (directives.mapM SuppressionRule.ofDirective).map (⟨·⟩)

def suppresses (suppressions : Suppressions) (issue : Issue) : Bool :=
  suppressions.rules.any (·.matchesIssue issue)

/-- The issues that no rule matches. -/
def filter (suppressions : Suppressions) (issues : List Issue) : List Issue :=
  issues.filter fun issue => !suppressions.suppresses issue

end Suppressions

end ApiContract
