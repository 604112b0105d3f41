import ApiContract.Issue
import ApiContract.Pointer
import ApiContract.Validator.Clause

/-!
Evaluation: the failures of a value against a validator. Visits follow the members of the value and
the branches of the clauses; a clause with a map of tags also leads to the variant that the value
names, once for each place of the value. A branch of `anyOf` or `oneOf` that fails gives back the
places that it dispatched.
-/

namespace ApiContract.Validator

open Json (Value)

/-- A clause and a place of the value. -/
abbrev Mark := Nat × String

/-- The marks that were dispatched: a set to ask, and a list of them, latest first, to give back from. -/
structure Guard where
  marks : List Mark := []
  undo : List Mark := []

namespace Guard

def contains (guard : Guard) (mark : Mark) : Bool := guard.marks.contains mark

/-- Notes a mark that is new. -/
def enter (guard : Guard) (mark : Mark) : Guard := ⟨mark :: guard.marks, mark :: guard.undo⟩

def size (guard : Guard) : Nat := guard.undo.length

/-- Takes the latest marks off the list until as many are left as there were, and out of the set. -/
def release (guard : Guard) (size : Nat) : Guard :=
  let released := guard.undo.take (guard.size - size)
  ⟨guard.marks.removeAll released, guard.undo.drop (guard.size - size)⟩

end Guard

/-- A visit changes the guard; it has no answer only when its fuel does not last. -/
abbrev Visiting := StateT Guard Option

/-- Visits a clause with a value at a place. -/
abbrev Visit := Nat → Value → String → Visiting (List Failure)

/-- The failures of all visits, in order. -/
def collect {α : Type} (items : List α) (visit : α → Visiting (List Failure)) :
    Visiting (List Failure) := do
  return (← items.mapM visit).flatten

namespace Clause

/-- The types that a clause can tell apart, integers aside. -/
def plainTypes : List String := ["object", "array", "string", "boolean", "number", "null"]

/-- A type that is not known admits every value. -/
def admitsType (clause : Clause) (value : Value) : Bool :=
  match clause.typeName, value with
  | none, _ => true
  | some "integer", value => value.instanceTypeName == "integer"
  | some name, value => value.typeName == name || !plainTypes.contains name

/-- Null stands for a value that the response may leave out. -/
def excuses (clause : Clause) (direction : Direction) (value : Value) : Bool :=
  direction.isResponse && value.isNull && clause.access.unreadable

def typeFailures (clause : Clause) (value : Value) (path : String) : List Failure :=
  [clause.fail .type .invalidType path (.type (clause.typeName.getD "") value.instanceTypeName)]

/-- Values that may not be sent in a direction. -/
def accessFailures (clause : Clause) (direction : Direction) (value : Value) (path : String) :
    List Failure :=
  let key := clause.label.getD (Pointer.unescape (Pointer.lastSegment path))
  let refused (keyword : Keyword) (code : ErrorCode) : List Failure :=
    [clause.fail keyword code path (.access key value)]
  let access := clause.access
  let written := match access.mutability, direction with
    | some mutability, .request =>
        if mutability.inRequest then [] else refused .mutability .readonlyPropertyNotAllowedInRequest
    | some mutability, .response =>
        if mutability.inResponse then [] else refused .mutability .writeonlyPropertyNotAllowedInResponse
    | none, .request =>
        if access.readOnly then refused .readOnly .readonlyPropertyNotAllowedInRequest else []
    | none, .response => []
  let shown := if access.secret && direction.isResponse then refused .secret .secretProperty else []
  written ++ shown

def sameIgnoringCase (a b : String) : Bool :=
  a.toList.map Char.toLower == b.toList.map Char.toLower

/-- A listed value in another case is reported even where the list is open. -/
def enumFailures (clause : Clause) (value : Value) (path : String) : List Failure :=
  match clause.enumValues with
  | none => []
  | some listed =>
      let refused (code : ErrorCode) : List Failure := [clause.fail .enum code path (.data value)]
      let otherCase := value.asString?.any fun text =>
        (listed.filterMap Value.asString?).any (sameIgnoringCase · text)
      if listed.any (·.same value) then []
      else if otherCase then refused .enumCaseMismatch
      else if clause.enumAsString then []
      else refused .enumMismatch

def formatFailures (clause : Clause) (value : Value) (path : String) : List Failure :=
  match clause.format with
  | none => []
  | some format =>
      if format.accepts value then []
      else [clause.fail .format .invalidFormat path (.format format.name value)]

def checkFailures (clause : Clause) (value : Value) (path : String) : List Failure :=
  (clause.checks.filter (!·.accepts value)).map fun check =>
    clause.fail check.keyword check.keyword.code path (check.detail value)

/-- Required keys may be missing in a response if their values cannot be read back. -/
def requiredFailures (clause : Clause) (clauses : Array Clause) (direction : Direction)
    (entries : Assoc Value) (path : String) : List Failure :=
  let excused (key : String) : Bool :=
    direction.isResponse
      && (clause.property? key).any fun child => (clauses.getD child {}).access.unreadable
  (clause.required.filter fun key => !Assoc.contains entries key && !excused key).map fun key =>
    clause.fail .required .objectMissingRequiredProperty (Pointer.child path key) (.property key)

def dependencyFailures (clause : Clause) (entries : Assoc Value) (path : String) : List Failure :=
  (clause.dependencies.filter fun rule => Assoc.contains entries rule.1).flatMap fun (key, needed) =>
    (needed.filter fun name => !Assoc.contains entries name).map fun missing =>
      clause.fail .dependencies .objectDependencyKey path (.dependency missing key)

def additionalFailure (clause : Clause) (key path : String) : Failure :=
  clause.fail .additionalProperties .objectAdditionalProperties (Pointer.child path key) (.property key)

/-- A member is visited with the clause of its key, or with the one for undeclared keys. -/
def visitMember (clause : Clause) (visit : Visit) (path : String) (entry : String × Value) :
    Visiting (List Failure) :=
  let (key, value) := entry
  match clause.property? key, clause.undeclared with
  | some child, _ => visit child value (Pointer.child path key)
  | none, some (.clause index) => visit index value (Pointer.child path key)
  | none, some (.allowed false) => return [clause.additionalFailure key path]
  | none, _ => return []

def visitItems (clause : Clause) (visit : Visit) (items : List Value) (path : String) :
    Visiting (List Failure) :=
  match clause.items with
  | some index => collect items.zipIdx fun item => visit index item.1 (Pointer.item path item.2)
  | none => return []

/-- The last item that equals an earlier one, with the nearest of those. -/
def lastRepeat? (items : List Value) : Option (Nat × Nat) :=
  items.zipIdx.reverse.findSome? fun (item, index) =>
    ((items.take index).zipIdx.reverse.find? fun earlier => item.same earlier.1).map fun earlier =>
      (index, earlier.2)

def uniqueFailures (clause : Clause) (items : List Value) (path : String) : List Failure :=
  if clause.uniqueItems then
    match lastRepeat? items with
    | some (index, earlier) => [clause.fail .uniqueItems .arrayUnique path (.unique index earlier)]
    | none => []
  else []

/-- What a clause asks of the members of an object or the items of an array. -/
def visitInside (clause : Clause) (clauses : Array Clause) (direction : Direction) (visit : Visit)
    (value : Value) (path : String) : Visiting (List Failure) :=
  match value with
  | .object entries => do
      let members ← collect entries (clause.visitMember visit path)
      return clause.requiredFailures clauses direction entries path
        ++ clause.dependencyFailures entries path ++ members
  | .array items => do
      let inside ← clause.visitItems visit items path
      return inside ++ clause.uniqueFailures items path
  | _ => return []

end Clause

/-- Runs a branch; one that fails gives back the marks that it made. -/
def branch (visit : Visiting (List Failure)) : Visiting (List Failure) := do
  let size := (← get).size
  let failures ← visit
  if failures.isEmpty then return []
  modify (·.release size)
  return failures

/-- Tries branches until one passes; answers nothing then, and all their failures otherwise. -/
def firstPassing (visit : Nat → Visiting (List Failure)) : List Nat → Visiting (Option (List Failure))
  | [] => return some []
  | index :: rest => do
      let failures ← branch (visit index)
      if failures.isEmpty then return none
      return (← firstPassing visit rest).map (failures ++ ·)

namespace Clause

def visitAnyOf (clause : Clause) (visit : Visit) (value : Value) (path : String) :
    Visiting (List Failure) := do
  if clause.anyOf.isEmpty then return []
  match ← firstPassing (fun index => visit index value path) clause.anyOf with
  | none => return []
  | some failures => return failures ++ [clause.fail .anyOf .anyOfMissing path .none]

/-- Every branch is tried, and one of them has to pass. -/
def visitOneOf (clause : Clause) (visit : Visit) (value : Value) (path : String) :
    Visiting (List Failure) := do
  if clause.oneOf.isEmpty then return []
  let outcomes ← clause.oneOf.mapM fun index => branch (visit index value path)
  match (outcomes.filter (·.isEmpty)).length with
  | 0 => return outcomes.flatten ++ [clause.fail .oneOf .oneOfMissing path .none]
  | 1 => return []
  | _ => return [clause.fail .oneOf .oneOfMultiple path .none]

/-- The variant that the tag of an object names. -/
def variant? (dispatch : Dispatch) (entries : Assoc Value) : Option Nat := do
  let tag ← (← Assoc.find? entries dispatch.property).asString?
  let variant ← Assoc.find? dispatch.variants tag
  variant

/-- Where neither the chosen clause nor the root says what is asked of undeclared keys, keys that the
chosen one does not declare fail against the root. -/
def closureFailures (root chosen : Clause) (entries : Assoc Value) (path : String) : List Failure :=
  match chosen.properties with
  | none => []
  | some declared =>
      if chosen.undeclared.isSome || root.undeclared.isSome || (root.properties.getD []).isEmpty then []
      else ((Assoc.keys entries).filter fun key => !Assoc.contains declared key).map fun key =>
        root.additionalFailure key path

/-- Leads an object on to the variant that it names, unless this was done at this place before. -/
def visitDispatch (root : Clause) (clauses : Array Clause) (visit : Visit) (index : Nat) (value : Value)
    (path : String) : Visiting (List Failure) :=
  match root.dispatch, value with
  | some dispatch, .object entries => do
      if (← get).contains (index, path) then return []
      modify (·.enter (index, path))
      match variant? dispatch entries with
      | some variant =>
          let failures ← visit variant value path
          return failures ++ root.closureFailures (clauses.getD variant {}) entries path
      | none => return root.closureFailures root entries path
  | _, _ => return []

end Clause

/-- The failures of a value at a place. A value of a wrong type is not looked into. -/
def visit (clauses : Array Clause) (direction : Direction) : Nat → Visit
  | 0, _, _, _ => failure
  | fuel + 1, index, value, path => do
      let clause := clauses.getD index {}
      if value.isNull && clause.nullable then return []
      let denied := if value.isNull then [] else clause.accessFailures direction value path
      if clause.admitsType value then
        let scalar := clause.enumFailures value path ++ clause.formatFailures value path
          ++ clause.checkFailures value path
        let inside ← clause.visitInside clauses direction (visit clauses direction fuel) value path
        let all ← collect clause.allOf fun branch => visit clauses direction fuel branch value path
        let any ← clause.visitAnyOf (visit clauses direction fuel) value path
        let one ← clause.visitOneOf (visit clauses direction fuel) value path
        let routed ← clause.visitDispatch clauses (visit clauses direction fuel) index value path
        return denied ++ scalar ++ inside ++ all ++ any ++ one ++ routed
      else if clause.excuses direction value then return denied
      else return denied ++ clause.typeFailures value path

/-- The failures of a value, if visits nest at most so deep. -/
def evaluateWithin (validator : Validator) (fuel : Nat) (direction : Direction) (value : Value) :
    Option (List Failure) :=
  ((visit validator.clauses direction fuel validator.root value "").run {}).map Prod.fst

/-- Between two members of the value, a clause is visited again without a new mark only on a path that
never ends; there are at most as many marks as pairs of a clause and a place. -/
def fuelFor (validator : Validator) (value : Value) : Nat :=
  let clauses := validator.size + 1
  clauses * (clauses * (value.weight + 1) + 1) * (value.depth + 1)

def evaluate (validator : Validator) (direction : Direction) (value : Value) : Option (List Failure) :=
  validator.evaluateWithin (validator.fuelFor value) direction value

/-- The issues of a value. -/
def validate (validator : Validator) (context : Context) (value : Value) : Option (List Issue) :=
  (validator.evaluate context.direction value).map (Issue.ofFailures context)

end ApiContract.Validator
