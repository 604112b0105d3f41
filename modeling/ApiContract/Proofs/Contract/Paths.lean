import ApiContract.Proofs.Compilation.Assembly
import ApiContract.Proofs.Compilation.Reports
import ApiContract.Proofs.Evaluation.Trace
import ApiContract.Proofs.Json.Denotation
import ApiContract.Proofs.Pass.Computed

/-!
The paths of failures are true (`failures_point_true`): whatever schema or message a validator was compiled from, the path
of a failure is a JSON Pointer to the value that was refused, or to where a required key is missing.
-/

namespace ApiContract

open Json (Value)

namespace Validator

/-- The validators that compilation gives: those of single schemas and those of messages. -/
inductive Compiled : Validator → Prop
  | schema {catalog id validator} : ofSchema catalog id = .ok validator → Compiled validator
  | message {specification : Specification} {found message} : specification.assemble found = .ok message →
      Compiled message.validator

variable {validator : Validator}

theorem Compiled.sound (compiled : Compiled validator) :
    ∃ catalog, ∃ arena : Arena, arena.Sound catalog [] ∧ validator.clauses = arena.clauses := by
  cases compiled with
  | schema compiled =>
      obtain ⟨⟨root, arena⟩, ran, last⟩ := (Except.bind_eq_ok _ _ _).mp compiled
      cases last
      exact ⟨_, arena, (compile_sound ran).1, rfl⟩
  | message assembled =>
      obtain ⟨arena, sound, same⟩ := Specification.assemble_sound assembled
      exact ⟨_, arena, sound, same⟩

theorem Compiled.keyword_mem (compiled : Compiled validator) {index : Nat} {check : Check}
    (member : check ∈ (validator.clauses.getD index {}).checks) : check.keyword ∈ Check.limitKeywords := by
  obtain ⟨catalog, arena, sound, same⟩ := compiled.sound
  rw [same] at member
  by_cases placed : ∃ id, arena.Slot id index
  · obtain ⟨id, placed⟩ := placed
    exact (sound.depicts id index placed List.not_mem_nil).keyword_mem member
  · have frame := sound.frames index fun id own => placed ⟨id, own⟩
    rw [frame.checks] at member
    cases member

theorem Compiled.refuses_keyword (compiled : Compiled validator) {direction : Direction} {path : String} {index : Nat}
    {value : Value} {keyword : Keyword}
    (refuses : Refuses validator.clauses direction path (validator.clauses.getD index {}) value keyword) :
    keyword ≠ .required ∧ keyword ≠ .additionalProperties := by
  have limits : ∀ keyword ∈ Check.limitKeywords, keyword ≠ .required ∧ keyword ≠ .additionalProperties := by decide
  cases refuses with
  | check member _ => exact limits _ (compiled.keyword_mem member)
  | type | enum | format | readOnly | mutability | secret | dependencies | uniqueItems | anyOf | oneOf => decide

/-- The last token of a path spells a key, and what stands before its last slash denotes an object. -/
structure KeyOf (whole : Value) (path parent key : String) (entries : Assoc Value) : Prop where
  spelled : ∃ token, path = parent ++ "/" ++ token ∧ '/' ∉ token.toList ∧ Pointer.decode? token = some key
  parent : whole.denoted? parent = some (.object entries)

theorem Asked.keyOf {clauses : Array Clause} {root index : Nat} {whole : Value} {parent : String} {entries : Assoc Value}
    (asked : Asked clauses root whole parent index (.object entries)) (unique : whole.hasUniqueKeys = true)
    (key : String) : KeyOf whole (Pointer.child parent key) parent key entries :=
  ⟨⟨Pointer.escape key, rfl, Pointer.slash_notMem_escape key, Pointer.decode?_escape key⟩, asked.occurs.denoted?_eq unique⟩

/-- Where a required key is missing, the path of a failure spells that key after a pointer to the object that lacks it. Any
other path denotes a value: that of a key which is not declared, or one that a clause refuses by the keyword of the
failure. -/
theorem failures_point_true (compiled : Compiled validator) {fuel : Nat} {direction : Direction} {whole : Value}
    {failures : List Failure} (unique : whole.hasUniqueKeys = true)
    (ran : validator.evaluateWithin fuel direction whole = some failures) :
    ∀ failure ∈ failures,
      (failure.keyword = .required → ∃ parent key entries index, KeyOf whole failure.path parent key entries ∧
        Assoc.contains entries key = false ∧
        Asked validator.clauses validator.root whole parent index (.object entries) ∧
        key ∈ (validator.clauses.getD index {}).required ∧
        failure.source = (validator.clauses.getD index {}).source) ∧
      (failure.keyword = .additionalProperties → ∃ parent key entries index, KeyOf whole failure.path parent key entries ∧
        whole.denoted? failure.path = Assoc.find? entries key ∧ Assoc.contains entries key = true ∧
        Asked validator.clauses validator.root whole parent index (.object entries) ∧
        Shuts validator.clauses (validator.clauses.getD index {}) entries key ∧
        failure.source = (validator.clauses.getD index {}).source) ∧
      (failure.keyword ≠ .required → failure.keyword ≠ .additionalProperties → ∃ value index,
        whole.denoted? failure.path = some value ∧
        Asked validator.clauses validator.root whole failure.path index value ∧
        Refuses validator.clauses direction failure.path (validator.clauses.getD index {}) value failure.keyword ∧
        failure.source = (validator.clauses.getD index {}).source) := by
  intro failure member
  obtain ⟨after, ran⟩ := evaluateWithin_eq_some.mp ran
  cases visit_traced fuel .root ran member with
  | refused asked rejects =>
      obtain ⟨rfl, source, refuses⟩ := rejects
      obtain ⟨notRequired, notAdditional⟩ := compiled.refuses_keyword refuses
      refine ⟨fun same => absurd same notRequired, fun same => absurd same notAdditional, fun _ _ => ?_⟩
      exact ⟨_, _, asked.occurs.denoted?_eq unique, asked, refuses, source⟩
  | @missing parent index entries key asked required lacking keyword path source =>
      refine ⟨fun _ => ?_, fun same => (by rw [keyword] at same; cases same), fun other => absurd keyword other⟩
      exact ⟨parent, key, entries, index, path ▸ asked.keyOf unique key, lacking, asked, required, source⟩
  | @undeclared parent index entries key value asked entry shuts keyword path source =>
      refine ⟨fun same => (by rw [keyword] at same; cases same), fun _ => ?_, fun _ other => absurd keyword other⟩
      have occurs : whole.Occurs failure.path value := path ▸ asked.occurs.member entry
      have distinct := asked.occurs.hasUniqueKeys unique
      rw [Value.hasUniqueKeys, Bool.and_eq_true, decide_eq_true_eq] at distinct
      have found := Assoc.find?_of_mem distinct.1 entry
      refine ⟨parent, key, entries, index, path ▸ asked.keyOf unique key, ?_, ?_, asked, shuts, source⟩
      · rw [occurs.denoted?_eq unique, found]
      · exact Option.isSome_of_eq_some found

def forms : DocumentSet := .ofDefinitions [
  ("Form", .object [("type", .string "object"), ("required", .array [.string "x~y"]),
    ("properties", .object [("a/b", .object [("type", .string "array"),
      ("items", .object [("type", .string "string"), ("maxLength", .number (.int 2))])])]),
    ("additionalProperties", .bool false)])]

def filled : Value := .object [("a/b", .array [.string "ok", .string "long"]), ("more", .null)]

/-- A form lacks one key, has one too many, and an item of it is too long. -/
theorem failures_point_true_form :
    let validator := validatorOf (Draft.finalOf forms).catalog 0
    Compiled validator ∧ filled.hasUniqueKeys = true ∧
      ∃ missing long more, validator.evaluate .request filled = some [missing, long, more] ∧
        missing.keyword = .required ∧ missing.path = "/x~0y" ∧
        (∃ parent key entries, KeyOf filled missing.path parent key entries ∧ Assoc.contains entries key = false) ∧
        long.keyword = .maxLength ∧ long.path = "/a~1b/1" ∧
        (∃ value index, filled.denoted? long.path = some value ∧
          Refuses validator.clauses .request long.path (validator.clauses.getD index {}) value .maxLength) ∧
        more.keyword = .additionalProperties ∧ more.path = "/more" ∧
        ∃ parent key entries, KeyOf filled more.path parent key entries ∧
          filled.denoted? more.path = Assoc.find? entries key := by
  have compiles : (ofSchema (Draft.finalOf forms).catalog 0).toOption.isSome = true := by decide +kernel
  have compiled : Compiled (validatorOf (Draft.finalOf forms).catalog 0) := .schema (ofSchema_eq_validatorOf compiles)
  have unique : filled.hasUniqueKeys = true := by decide
  have ends : ((validatorOf (Draft.finalOf forms).catalog 0).evaluate .request filled).map
      (fun failures => failures.map fun failure => (failure.keyword, failure.path)) =
      some [(.required, "/x~0y"), (.maxLength, "/a~1b/1"), (.additionalProperties, "/more")] := by
    decide +kernel
  obtain ⟨failures, ran, shapes⟩ := Option.map_eq_some_iff.mp ends
  obtain ⟨missing, rest, rfl, first, shapes⟩ := List.map_eq_cons_iff.mp shapes
  obtain ⟨long, rest, rfl, second, shapes⟩ := List.map_eq_cons_iff.mp shapes
  obtain ⟨more, rest, rfl, third, shapes⟩ := List.map_eq_cons_iff.mp shapes
  obtain rfl := List.map_eq_nil_iff.mp shapes
  simp only [Prod.mk.injEq] at first second third
  have traced := failures_point_true compiled unique ran
  obtain ⟨parent, key, entries, _, keyed, lacking, _⟩ := (traced missing (by simp)).1 first.1
  obtain ⟨value, index, denoted, _, refuses, _⟩ := (traced long (by simp)).2.2 (by simp [second]) (by simp [second])
  obtain ⟨above, other, members, _, keyedToo, denotedToo, _⟩ := (traced more (by simp)).2.1 third.1
  rw [second.1] at refuses
  exact ⟨compiled, unique, missing, long, more, ran, first.1, first.2, ⟨parent, key, entries, keyed, lacking⟩, second.1,
    second.2, ⟨value, index, denoted, refuses⟩, third.1, third.2, above, other, members, keyedToo, denotedToo⟩

end Validator

end ApiContract
