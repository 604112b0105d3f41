import ApiContract.Message

/-!
Failures: the single checks that a payload did not pass, each with the schema that asked for it.
-/

namespace ApiContract

/-- Where a schema was read from: a document and, when known, a pointer into it. -/
structure SourceLocation where
  url : String
  pointer : Option String
deriving DecidableEq, Repr, Inhabited

namespace SourceLocation

def within (url pointer : String) : SourceLocation := ⟨url, some pointer⟩

def document (url : String) : SourceLocation := ⟨url, none⟩

/-- The pointer as a fragment, with its number sign. -/
def fragment? (source : SourceLocation) : Option String :=
  source.pointer.map ("#" ++ ·)

/-- Document and fragment together. -/
def location (source : SourceLocation) : String :=
  source.url ++ source.fragment?.getD ""

end SourceLocation

structure Failure where
  keyword : Keyword
  code : ErrorCode
  message : String
  /-- A pointer into the payload that was validated. -/
  path : String
  /-- Skipped failures count against the payload but are not reported. -/
  skip : Bool
  source : SourceLocation
deriving DecidableEq, Repr

def Failure.of (keyword : Keyword) (code : ErrorCode) (detail : Detail) (path : String)
    (source : SourceLocation) : Failure :=
  { keyword, code, message := code.message detail, path, skip := false, source }

end ApiContract
