import ApiContract.Proofs.Compilation.Reports
import ApiContract.Proofs.Compilation.Request
import ApiContract.Proofs.Evaluation.Trace

/-!
What the clauses of a request are asked about. Its own clause and those of its slots tell which keys they miss
(`visit_blank`); below them a clause belongs to the body, or to a schema that a parameter leads to (`Layout.part`).
-/

namespace ApiContract

open Json (Value)
open Relation (ReflTransGen)

namespace Validator

variable {clauses : Array Clause} {direction : Direction} {clause : Clause} {source : SourceLocation}
  {fuel index child : Nat} {entries : Assoc Value} {path key : String} {content : Value} {before after : Guard} {failures : List Failure}

namespace Clause.Blank

theorem frame (blank : clause.Blank source) : clause.Frame := by
  unfold Blank at blank
  rw [blank]
  exact ⟨rfl, rfl, rfl, rfl, rfl, rfl, rfl, rfl⟩

theorem source_eq (blank : clause.Blank source) : clause.source = source := by
  unfold Blank at blank
  rw [blank]
  rfl

/-- Of an object it says nothing itself but which keys are missing. -/
theorem silent (blank : clause.Blank source) :
    clause.admitsType (.object entries) = true ∧ clause.denials direction (.object entries) path = [] ∧
      clause.scalarFailures (.object entries) path = [] ∧ clause.dependencyFailures entries path = [] := by
  unfold Blank at blank
  rw [blank]
  cases direction <;> exact ⟨admitsType_object (.inr rfl), rfl, rfl, rfl⟩

theorem clauseFor? (blank : clause.Blank source) : clause.clauseFor? key = clause.property? key := by
  rw [Clause.clauseFor?, blank.frame.undeclared]
  cases clause.property? key <;> rfl

end Clause.Blank

/-- The clause of a message or slot tells which keys are missing, and leaves all else to the clauses of its members. -/
theorem visit_blank (blank : (clauses.getD index {}).Blank source)
    (ran : (visit clauses direction fuel index (.object entries) path).run before = some (failures, after)) :
    ∃ fuel visited inside,
      (clauses.getD index {}).Entered (visit clauses direction fuel) path (.object entries) before visited inside ∧
      failures = (clauses.getD index {}).requiredFailures clauses direction entries path ++ visited := by
  have frame := blank.frame
  obtain ⟨typed, denials, scalar, dependencies⟩ := @Clause.Blank.silent direction _ source entries path blank
  cases fuel with
  | zero => cases ran
  | succ fuel =>
      cases (visit_run_iff _ _ _ _ _ _ _ _ _).mp ran with
      | null isNull => cases isNull
      | mistyped _ mistyped => cases typed.symm.trans mistyped
      | @examined visited branches any one routed inside _ _ _ _ _ _ entered ranAll ranAny ranOne route =>
          refine ⟨fuel, visited, inside, entered, ?_⟩
          rw [frame.allOf] at ranAll
          obtain rfl : branches = [] := by
            cases ranAll
            rfl
          obtain rfl : any = [] := by
            rcases (Clause.visitAnyOf_run_iff _ _ _ _ _ _ _).mp ranAny with ⟨_, none, _⟩ | ⟨asked, _⟩
            · exact none
            · exact absurd frame.anyOf asked
          obtain rfl : one = [] := by
            rcases (Clause.visitOneOf_run_iff _ _ _ _ _ _ _).mp ranOne with ⟨_, none, _⟩ | ⟨asked, _⟩
            · exact none
            · exact absurd frame.oneOf asked
          obtain rfl : routed = [] := by
            cases route with
            | idle => rfl
            | again routes | variant routes | lenient routes => cases frame.dispatch.symm.trans routes
          rw [denials, scalar]
          simp only [Clause.insideFailures, dependencies, List.nil_append, List.append_nil, List.flatten_nil]

theorem visit_blank_member (blank : (clauses.getD index {}).Blank source)
    (ran : (visit clauses direction fuel index (.object entries) path).run before = some (failures, after))
    (member : (key, content) ∈ entries) (declared : (clauses.getD index {}).property? key = some child) :
    ∃ fuel guard found later,
      (visit clauses direction fuel child content (Pointer.child path key)).run guard = some (found, later) ∧
        found ⊆ failures := by
  obtain ⟨fuel, visited, inside, entered, rfl⟩ := visit_blank blank ran
  cases entered with
  | unlooked plain => cases plain
  | @object _ _ results _ run =>
      obtain ⟨found, among, guard, later, ranMember⟩ := run.exists_result member
      rw [Clause.visitMember_run_iff, blank.clauseFor?, declared] at ranMember
      refine ⟨fuel, guard, found, later, ranMember, ?_⟩
      intro failure inFound
      exact List.mem_append_right _ (List.mem_flatten.mpr ⟨found, among, inFound⟩)

theorem requiredFailures_request (clause : Clause) (clauses : Array Clause) (entries : Assoc Value) (path : String) :
    clause.requiredFailures clauses .request entries path =
      (clause.required.filter fun key => !Assoc.contains entries key).map fun key =>
        clause.fail .required .objectMissingRequiredProperty (Pointer.child path key) (.property key) := by
  simp [Clause.requiredFailures, Direction.isResponse]

theorem exists_missed (blank : (clauses.getD index {}).Blank source)
    (ran : (visit clauses .request fuel index (.object entries) path).run before = some (failures, after))
    (required : key ∈ (clauses.getD index {}).required) (lacking : Assoc.contains entries key = false) :
    ∃ failure ∈ failures, failure.keyword = .required ∧ failure.skip = false ∧
      failure.path = Pointer.child path key := by
  obtain ⟨_, visited, _, _, rfl⟩ := visit_blank blank ran
  refine ⟨(clauses.getD index {}).fail .required .objectMissingRequiredProperty (Pointer.child path key)
    (.property key), List.mem_append_left _ ?_, rfl, blank.frame.skip, rfl⟩
  rw [requiredFailures_request]
  exact List.mem_map_of_mem (List.mem_filter.mpr ⟨required, by rw [lacking]; rfl⟩)

/-! ## Schemas that clauses lead to -/

section

variable {catalog : Schema.Catalog} {arena : Arena} {id place other : Nat} {value : Value}

theorem Arena.Sound.leads_of_clauseFor? (sound : arena.Sound catalog []) (placed : arena.Slot id place)
    (looked : (arena.clauses.getD place {}).clauseFor? key = some child) :
    ∃ target, arena.Slot target child ∧ Leads catalog id target := by
  obtain ⟨edge, placedToo, declared | ⟨_, additional⟩⟩ :=
    (sound.depicts id place placed List.not_mem_nil).clauseFor? looked
  · exact ⟨edge.target, placedToo, .property (Assoc.mem_of_find? declared)⟩
  · exact ⟨edge.target, placedToo, .additional additional⟩

theorem Arena.Sound.leads_of_items (sound : arena.Sound catalog []) (placed : arena.Slot id place)
    (asked : (arena.clauses.getD place {}).items = some child) :
    ∃ target, arena.Slot target child ∧ Leads catalog id target := by
  have items := (sound.depicts id place placed List.not_mem_nil).items
  rw [asked] at items
  obtain ⟨edge, listed, placedToo⟩ := items.exists_left
  exact ⟨edge.target, placedToo, .items listed⟩

theorem Arena.Sound.leads_of_joins (sound : arena.Sound catalog []) (placed : arena.Slot id place)
    (joins : Joins arena.clauses value place other) : ∃ target, arena.Slot target other ∧ Leads catalog id target := by
  obtain ⟨target, placedToo, joined⟩ := (sound.mirror placed).joins placed joins
  refine ⟨target, placedToo, ?_⟩
  cases joined with
  | allOf member => exact .allOf member
  | anyOf member => exact .anyOf member
  | oneOf member => exact .oneOf member
  | chosen routes _ named =>
      obtain ⟨tag, among⟩ := Schema.mem_of_named? named
      exact .variant routes among

/-- A message and its slots join no other clause, and hold no items. -/
theorem Clause.Frame.not_joins (frame : (clauses.getD place {}).Frame) : ¬Joins clauses value place other := by
  intro joins
  cases joins with
  | composed composes =>
      unfold Composes at composes
      rw [frame.allOf, frame.anyOf, frame.oneOf] at composes
      simp at composes
  | chosen routes => cases frame.dispatch.symm.trans routes

end

end Validator

namespace Assembly

open Validator (Arena Asked Leads Tail)

variable {catalog : Schema.Catalog} {source : SourceLocation} {done : List Parameter} {arena : Arena}
  {assembly : Assembly} {entries : Assoc Value} {path : String} {index : Nat} {value : Value}

/-- The part of a request that a clause is asked about: all of it, one of its slots, something in its body, or something
that is sent for another parameter. -/
inductive Part (catalog : Schema.Catalog) (done : List Parameter) (arena : Arena) (assembly : Assembly)
    (entries : Assoc Value) (path : String) (index : Nat) (value : Value) : Prop
  | request : path = "" → index = 0 → value = .object entries →
      Part catalog done arena assembly entries path index value
  | slot {name : String} : (name, value) ∈ entries → path = Pointer.child "" name →
      Assoc.find? assembly.slots name = some index → Part catalog done arena assembly entries path index value
  | body {rest : String} : Tail rest → path = Pointer.child "" "body" ++ rest →
      Part catalog done arena assembly entries path index value
  | parameter {parameter : Parameter} {id : Nat} : parameter ∈ done → parameter.place ≠ .body →
      ReflTransGen (Leads catalog) parameter.schema.target id → arena.Slot id index →
      Part catalog done arena assembly entries path index value

namespace Layout

variable (layout : Layout source done arena assembly) (sound : arena.Sound catalog [])

include layout sound

/-- Below the slots, clauses lead from the schemas of parameters to those that these lead to. -/
theorem part (asked : Asked arena.clauses 0 (.object entries) path index value) :
    Part catalog done arena assembly entries path index value := by
  induction asked with
  | root => exact .request rfl rfl rfl
  | beside _ joins ih =>
      cases ih with
      | request _ first _ =>
          subst first
          exact absurd joins layout.blank.frame.not_joins
      | slot _ _ found => exact absurd joins (layout.slots _ _ found).blank.frame.not_joins
      | body tail below => exact .body tail below
      | parameter member notBody reached placed =>
          obtain ⟨target, placedToo, leads⟩ := sound.leads_of_joins placed joins
          exact .parameter member notBody (reached.tail leads) placedToo
  | @member _ _ _ key _ child _ entry looked ih =>
      cases ih with
      | request here first whole =>
          subst here
          subst first
          cases whole
          rw [layout.blank.clauseFor?] at looked
          rcases layout.leads key child looked with rfl | found
          · exact .body .empty String.append_empty.symm
          · exact .slot entry rfl found
      | slot _ _ found =>
          have slotted := layout.slots _ _ found
          rw [slotted.blank.clauseFor?] at looked
          obtain ⟨parameter, member, stands, placed⟩ := slotted.leads key child looked
          exact .parameter member stands.place .refl placed
      | body tail below =>
          subst below
          rw [Validator.child_eq_append, String.append_assoc]
          exact .body (tail.append (.segment _)) rfl
      | parameter member notBody reached placed =>
          obtain ⟨target, placedToo, leads⟩ := sound.leads_of_clauseFor? placed looked
          exact .parameter member notBody (reached.tail leads) placedToo
  | @item _ _ _ position _ _ _ _ held ih =>
      cases ih with
      | request _ first _ =>
          subst first
          cases layout.blank.frame.items.symm.trans held
      | slot _ _ found => cases (layout.slots _ _ found).blank.frame.items.symm.trans held
      | body tail below =>
          subst below
          rw [Validator.item_eq_append, String.append_assoc]
          exact .body (tail.append (.segment _)) rfl
      | parameter member notBody reached placed =>
          obtain ⟨target, placedToo, leads⟩ := sound.leads_of_items placed held
          exact .parameter member notBody (reached.tail leads) placedToo

end Layout

end Assembly

end ApiContract
