import ApiContract.Proofs.Evaluation.Answer
import ApiContract.Proofs.Related

/-!
A visit does not depend on how the clauses are numbered, on where the value stands, or on fuel that it
did not need. Two tables that correspond give corresponding answers (`visit_renamed`); with itself in
the place of the second table this says that marks only accumulate and that failures stay below the
place of the visit.
-/

namespace ApiContract.Validator

open Json (Value)

/-- What may follow a path: nothing, or further segments. -/
def Tail (text : String) : Prop := text = "" ∨ ∃ rest, text = "/" ++ rest

theorem Tail.empty : Tail "" := .inl rfl

theorem Tail.segment (rest : String) : Tail ("/" ++ rest) := .inr ⟨rest, rfl⟩

theorem Tail.append {first second : String} (tail : Tail first) (other : Tail second) :
    Tail (first ++ second) := by
  rcases tail with rfl | ⟨rest, rfl⟩
  · simpa using other
  · exact .inr ⟨rest ++ second, String.append_assoc⟩

theorem child_eq_append (path key : String) :
    Pointer.child path key = path ++ ("/" ++ Pointer.escape key) := String.append_assoc

theorem item_eq_append (path : String) (position : Nat) :
    Pointer.item path position = path ++ ("/" ++ Nat.repr position) := String.append_assoc

theorem append_right_inj (path : String) {first second : String}
    (same : path ++ first = path ++ second) : first = second := by
  apply String.toList_injective
  have chars := congrArg String.toList same
  simpa using chars

/-! ## Corresponding clauses -/

variable {rel : Nat → Nat → Prop}

/-- What is asked of keys that are not declared, with corresponding clauses. -/
inductive Undeclared.Alike (rel : Nat → Nat → Prop) : Undeclared → Undeclared → Prop
  | allowed (flag) : Alike rel (.allowed flag) (.allowed flag)
  | clause {index other} : rel index other → Alike rel (.clause index) (.clause other)

namespace Clause

def bare (clause : Clause) : Clause :=
  { clause with
    properties := none, undeclared := none, items := none, allOf := [], anyOf := [], oneOf := []
    dispatch := none }

/-- Two clauses that differ only in the numbers of their subclauses, and in the order of their tags. -/
structure Alike (rel : Nat → Nat → Prop) (left right : Clause) : Prop where
  bare : left.bare = right.bare
  properties : Option.Rel (List.Forall₂ fun entry other => entry.1 = other.1 ∧ rel entry.2 other.2)
    left.properties right.properties
  undeclared : Option.Rel (Undeclared.Alike rel) left.undeclared right.undeclared
  items : Option.Rel rel left.items right.items
  allOf : List.Forall₂ rel left.allOf right.allOf
  anyOf : List.Forall₂ rel left.anyOf right.anyOf
  oneOf : List.Forall₂ rel left.oneOf right.oneOf
  dispatch : Option.Rel (fun dispatch other => dispatch.property = other.property ∧
    ∀ tag, Option.Rel (Option.Rel rel) (Assoc.find? dispatch.variants tag) (Assoc.find? other.variants tag))
      left.dispatch right.dispatch

end Clause

/-- Two tables of clauses of which some correspond, each to at most one of the other table. -/
structure Renames (rel : Nat → Nat → Prop) (left right : Array Clause) : Prop where
  alike : ∀ {index other}, rel index other → Clause.Alike rel (left.getD index {}) (right.getD other {})
  forward : ∀ {index other another}, rel index other → rel index another → other = another
  backward : ∀ {index other another}, rel index other → rel another other → index = another

theorem find?_alike {α β : Type} {related : α → β → Prop} {left : Assoc α} {right : Assoc β}
    (alike : List.Forall₂ (fun entry other => entry.1 = other.1 ∧ related entry.2 other.2) left right)
    (key : String) : Option.Rel related (Assoc.find? left key) (Assoc.find? right key) := by
  induction alike with
  | nil => exact .none
  | @cons entry other _ _ head _ ih =>
      obtain ⟨name, value⟩ := entry
      obtain ⟨otherName, otherValue⟩ := other
      obtain ⟨rfl, values⟩ := head
      simp only [Assoc.find?]
      split
      · exact .some values
      · exact ih

theorem keys_alike {α β : Type} {related : α → β → Prop} {left : Assoc α} {right : Assoc β}
    (alike : List.Forall₂ (fun entry other => entry.1 = other.1 ∧ related entry.2 other.2) left right) :
    Assoc.keys left = Assoc.keys right := by
  induction alike with
  | nil => rfl
  | cons head _ ih => simpa [Assoc.keys, head.1] using ih

namespace Clause.Alike

variable {left right : Clause}

theorem flip (alike : Alike rel left right) : Alike (fun other index => rel index other) right left where
  bare := alike.bare.symm
  properties := alike.properties.flip fun _ _ entries => entries.flip.imp fun _ _ entry => ⟨entry.1.symm, entry.2⟩
  undeclared := alike.undeclared.flip fun _ _ both => by
    cases both with
    | allowed flag => exact .allowed flag
    | clause related => exact .clause related
  items := alike.items.flip fun _ _ => id
  allOf := alike.allOf.flip
  anyOf := alike.anyOf.flip
  oneOf := alike.oneOf.flip
  dispatch := alike.dispatch.flip fun _ _ both =>
    ⟨both.1.symm, fun tag => (both.2 tag).flip fun _ _ leads => leads.flip fun _ _ => id⟩

theorem imp {more : Nat → Nat → Prop} (alike : Alike rel left right)
    (weaker : ∀ index other, rel index other → more index other) : Alike more left right where
  bare := alike.bare
  properties := alike.properties.imp fun _ _ entries => entries.imp fun _ _ entry => ⟨entry.1, weaker _ _ entry.2⟩
  undeclared := alike.undeclared.imp fun _ _ both => by
    cases both with
    | allowed flag => exact .allowed flag
    | clause related => exact .clause (weaker _ _ related)
  items := alike.items.imp weaker
  allOf := alike.allOf.imp weaker
  anyOf := alike.anyOf.imp weaker
  oneOf := alike.oneOf.imp weaker
  dispatch := alike.dispatch.imp fun _ _ both =>
    ⟨both.1, fun tag => (both.2 tag).imp fun _ _ leads => leads.imp weaker⟩

theorem same {α : Type} (alike : Alike rel left right) (read : Clause → α)
    (blind : ∀ clause : Clause, read clause.bare = read clause) : read left = read right := by
  rw [← blind left, ← blind right, alike.bare]

theorem property? (alike : Alike rel left right) (key : String) :
    Option.Rel rel (left.property? key) (right.property? key) := by
  unfold Clause.property?
  rcases Option.Rel.none_or_some alike.properties with ⟨none, other⟩ | ⟨_, _, some, other, entries⟩
  · rw [none, other]
    exact .none
  · rw [some, other]
    exact find?_alike entries key

theorem clauseFor? (alike : Alike rel left right) (key : String) :
    Option.Rel rel (left.clauseFor? key) (right.clauseFor? key) := by
  unfold Clause.clauseFor?
  rcases Option.Rel.none_or_some (alike.property? key) with ⟨none, other⟩ | ⟨_, _, some, other, found⟩
  · rw [none, other]
    rcases Option.Rel.none_or_some alike.undeclared with ⟨none, other⟩ | ⟨_, _, some, other, others⟩
    · rw [none, other]
      exact .none
    · rw [some, other]
      cases others with
      | allowed => exact .none
      | clause related => exact .some related
  · rw [some, other]
    exact .some found

theorem forbids (alike : Alike rel left right) (key : String) :
    left.forbids key = right.forbids key := by
  unfold Clause.forbids
  have declarations : (left.property? key).isNone = (right.property? key).isNone := by
    rcases Option.Rel.none_or_some (alike.property? key) with ⟨none, other⟩ | ⟨_, _, some, other, _⟩
    · rw [none, other]
    · rw [some, other]
      rfl
  rw [declarations]
  rcases Option.Rel.none_or_some alike.undeclared with ⟨none, other⟩ | ⟨_, _, some, other, others⟩
  · rw [none, other]
  · rw [some, other]
    cases others <;> rfl

theorem variant? {dispatch other : Dispatch} (property : dispatch.property = other.property)
    (variants : ∀ tag, Option.Rel (Option.Rel rel) (Assoc.find? dispatch.variants tag)
      (Assoc.find? other.variants tag)) (entries : Assoc Value) :
    Option.Rel rel (Clause.variant? dispatch entries) (Clause.variant? other entries) := by
  simp only [Clause.variant?, property, Option.bind_eq_bind]
  rcases Assoc.find? entries other.property with _ | value
  · exact .none
  simp only [Option.bind_some]
  rcases value.asString? with _ | tag
  · exact .none
  simp only [Option.bind_some]
  rcases Option.Rel.none_or_some (variants tag) with ⟨none, other⟩ | ⟨_, _, some, other, chosen⟩
  · rw [none, other]
    exact .none
  · rw [some, other]
    exact chosen

end Clause.Alike

theorem Renames.flip {left right : Array Clause} (renames : Renames rel left right) :
    Renames (fun other index => rel index other) right left where
  alike related := (renames.alike related).flip
  forward related relatedToo := renames.backward related relatedToo
  backward related relatedToo := renames.forward related relatedToo

/-! ## Corresponding failures -/

/-- The same failure below two paths. Only the message may tell the places apart. -/
structure Moved (path other : String) (failure moved : Failure) : Prop where
  keyword : failure.keyword = moved.keyword
  code : failure.code = moved.code
  skip : failure.skip = moved.skip
  source : failure.source = moved.source
  below : ∃ rest, Tail rest ∧ failure.path = path ++ rest ∧ moved.path = other ++ rest
  message : path = other → failure.message = moved.message

variable {path other : String}

theorem Moved.widen {rest : String} (tail : Tail rest) {failure moved : Failure}
    (below : Moved (path ++ rest) (other ++ rest) failure moved) : Moved path other failure moved := by
  obtain ⟨suffix, suffixTail, placed, placedOther⟩ := below.below
  refine ⟨below.keyword, below.code, below.skip, below.source,
    ⟨rest ++ suffix, tail.append suffixTail, ?_, ?_⟩, fun same => below.message (by rw [same])⟩
  · rw [placed, String.append_assoc]
  · rw [placedOther, String.append_assoc]

/-- Corresponding lists of failures. -/
abbrev AllMoved (path other : String) (failures moved : List Failure) : Prop :=
  List.Forall₂ (Moved path other) failures moved

theorem AllMoved.append {first second firstMoved secondMoved : List Failure}
    (moved : AllMoved path other first firstMoved) (later : AllMoved path other second secondMoved) :
    AllMoved path other (first ++ second) (firstMoved ++ secondMoved) :=
  List.rel_append moved later

theorem AllMoved.flatten {results moved : List (List Failure)}
    (all : List.Forall₂ (AllMoved path other) results moved) :
    AllMoved path other results.flatten moved.flatten := by
  induction all with
  | nil => exact .nil
  | cons head _ ih => exact AllMoved.append head ih

theorem AllMoved.map {α : Type} {items : List α} {failure moved : α → Failure}
    (each : ∀ item ∈ items, Moved path other (failure item) (moved item)) :
    AllMoved path other (items.map failure) (items.map moved) :=
  List.forall₂_map_left_iff.mpr (List.forall₂_map_right_iff.mpr (List.forall₂_same.mpr each))

theorem AllMoved.eq_nil_iff {failures moved : List Failure} (all : AllMoved path other failures moved) :
    failures = [] ↔ moved = [] := by
  cases all with
  | nil => simp
  | cons => simp

namespace Clause

@[simp] theorem fail_keyword (clause : Clause) (keyword : Keyword) (code : ErrorCode) (path : String)
    (detail : Detail) : (clause.fail keyword code path detail).keyword = keyword := rfl

@[simp] theorem fail_code (clause : Clause) (keyword : Keyword) (code : ErrorCode) (path : String)
    (detail : Detail) : (clause.fail keyword code path detail).code = code := rfl

@[simp] theorem fail_path (clause : Clause) (keyword : Keyword) (code : ErrorCode) (path : String)
    (detail : Detail) : (clause.fail keyword code path detail).path = path := rfl

@[simp] theorem fail_skip (clause : Clause) (keyword : Keyword) (code : ErrorCode) (path : String)
    (detail : Detail) : (clause.fail keyword code path detail).skip = clause.skip := rfl

@[simp] theorem fail_source (clause : Clause) (keyword : Keyword) (code : ErrorCode) (path : String)
    (detail : Detail) : (clause.fail keyword code path detail).source = clause.source := rfl

theorem Alike.fail {left right : Clause} (alike : Alike rel left right) (keyword : Keyword)
    (code : ErrorCode) (path : String) (detail : Detail) :
    left.fail keyword code path detail = right.fail keyword code path detail :=
  alike.same (·.fail keyword code path detail) fun _ => rfl

theorem fail_moved (clause : Clause) (keyword : Keyword) (code : ErrorCode) {rest : String}
    (tail : Tail rest) (detail : Detail) :
    Moved path other (clause.fail keyword code (path ++ rest) detail)
      (clause.fail keyword code (other ++ rest) detail) :=
  ⟨rfl, rfl, rfl, rfl, ⟨rest, tail, rfl, rfl⟩, fun _ => rfl⟩

theorem fail_here_moved (clause : Clause) (keyword : Keyword) (code : ErrorCode) (detail : Detail) :
    Moved path other (clause.fail keyword code path detail) (clause.fail keyword code other detail) :=
  ⟨rfl, rfl, rfl, rfl, ⟨"", .empty, by simp, by simp⟩, fun _ => rfl⟩

theorem additionalFailure_moved (clause : Clause) (key : String) :
    Moved path other (clause.additionalFailure key path) (clause.additionalFailure key other) := by
  unfold additionalFailure
  rw [child_eq_append, child_eq_append]
  exact clause.fail_moved _ _ (.segment _) _

variable (clause : Clause) (direction : Direction) (value : Value)

theorem accessFailures_moved :
    AllMoved path other (clause.accessFailures direction value path)
      (clause.accessFailures direction value other) := by
  have refused (keyword : Keyword) (code : ErrorCode) :
      AllMoved path other
        [clause.fail keyword code path
          (.access (clause.label.getD (Pointer.unescape (Pointer.lastSegment path))) value)]
        [clause.fail keyword code other
          (.access (clause.label.getD (Pointer.unescape (Pointer.lastSegment other))) value)] := by
    refine .cons ⟨by simp, by simp, by simp, by simp, ⟨"", .empty, by simp, by simp⟩, ?_⟩ .nil
    intro same
    rw [same]
  unfold accessFailures
  apply AllMoved.append
  · rcases clause.access.mutability with _ | mutability <;> cases direction <;> dsimp only
    · split
      · exact refused _ _
      · exact .nil
    · exact .nil
    · split
      · exact .nil
      · exact refused _ _
    · split
      · exact .nil
      · exact refused _ _
  · split
    · exact refused _ _
    · exact .nil

theorem denials_moved :
    AllMoved path other (clause.denials direction value path) (clause.denials direction value other) := by
  unfold denials
  split
  · exact .nil
  · exact clause.accessFailures_moved direction value

theorem mistypedFailures_moved :
    AllMoved path other (clause.mistypedFailures direction value path)
      (clause.mistypedFailures direction value other) := by
  unfold mistypedFailures
  split
  · exact .nil
  · exact .cons (clause.fail_here_moved _ _ _) .nil

theorem scalarFailures_moved :
    AllMoved path other (clause.scalarFailures value path) (clause.scalarFailures value other) := by
  unfold scalarFailures
  refine AllMoved.append (AllMoved.append ?_ ?_) ?_
  · unfold enumFailures
    split
    · exact .nil
    · dsimp only
      split
      · exact .nil
      · split
        · exact .cons (clause.fail_here_moved _ _ _) .nil
        · split
          · exact .nil
          · exact .cons (clause.fail_here_moved _ _ _) .nil
  · unfold formatFailures
    split
    · exact .nil
    · split
      · exact .nil
      · exact .cons (clause.fail_here_moved _ _ _) .nil
  · unfold checkFailures
    exact AllMoved.map fun check _ => clause.fail_here_moved _ _ _

theorem closureFailures_moved (chosen : Clause) (entries : Assoc Value) :
    AllMoved path other (clause.closureFailures chosen entries path)
      (clause.closureFailures chosen entries other) := by
  unfold closureFailures
  split
  · exact .nil
  · split
    · exact .nil
    · exact AllMoved.map fun key _ => clause.additionalFailure_moved key

theorem oneOfFailures_moved {outcomes moved : List (List Failure)}
    (all : List.Forall₂ (AllMoved path other) outcomes moved) :
    AllMoved path other (clause.oneOfFailures path outcomes) (clause.oneOfFailures other moved) := by
  have counted : (outcomes.filter (·.isEmpty)).length = (moved.filter (·.isEmpty)).length := by
    induction all with
    | nil => rfl
    | @cons first firstMoved _ _ head _ ih =>
        have same : first.isEmpty = firstMoved.isEmpty := by
          rw [Bool.eq_iff_iff, List.isEmpty_iff, List.isEmpty_iff]
          exact head.eq_nil_iff
        simp only [List.filter_cons, same]
        split <;> simp [ih]
  unfold oneOfFailures
  rw [counted]
  split
  · exact AllMoved.append (AllMoved.flatten all) (.cons (clause.fail_here_moved _ _ _) .nil)
  · exact .nil
  · exact .cons (clause.fail_here_moved _ _ _) .nil

end Clause

end ApiContract.Validator
