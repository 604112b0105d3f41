import ApiContract.Proofs.Coercion
import ApiContract.Proofs.Compilation.Assembly
import ApiContract.Proofs.Contract.ContentType

/-!
What the payload of a message keeps of it (`payload_coerced`). Texts are read under the names of parameters and headers
that are declared as numbers or booleans, and a body that is optional may be left out; the rest stays as it was sent.
-/

namespace ApiContract

open Json (Value)
open Validator (Arena)

/-- The parameter is sent under the key of the slot, and declared as a number or a boolean. -/
structure Parameter.Types (parameter : Parameter) (slot key : String) (coercion : Coercion) : Prop where
  place : parameter.place = .path ∨ parameter.place = .query ∨ parameter.place = .header
  slot : parameter.place.slot = slot
  key : parameter.key = key
  coercion : parameter.coercion = some coercion

namespace Coercion

variable {declares other : String → String → Coercion → Prop} {tables : Assoc (Assoc Coercion)}

/-- The coercions of all slots are those that are declared; of several for one key one is kept. -/
structure Declared (declares : String → String → Coercion → Prop) (tables : Assoc (Assoc Coercion)) : Prop where
  distinct : ∀ slot, (Assoc.keys (table tables slot)).Nodup
  sound : ∀ slot key coercion, Assoc.find? (table tables slot) key = some coercion → declares slot key coercion
  complete : ∀ slot key coercion, declares slot key coercion → (Assoc.find? (table tables slot) key).isSome

theorem Declared.start : Declared (fun _ _ _ => False) [] :=
  ⟨fun _ => List.nodup_nil, fun _ _ _ (none : Option.none = _) => (nomatch none), fun _ _ _ declared => declared.elim⟩

theorem Declared.congr (declared : Declared declares tables)
    (alike : ∀ slot key coercion, declares slot key coercion ↔ other slot key coercion) : Declared other tables := by
  have same : declares = other := funext₃ fun slot key coercion => propext (alike slot key coercion)
  exact same ▸ declared

theorem Declared.insert (declared : Declared declares tables) (slot name : String) (coercion : Coercion) :
    Declared (fun place key other => declares place key other ∨ place = slot ∧ key = name ∧ coercion = other)
      (Assoc.insert tables slot (Assoc.insert (table tables slot) name coercion)) := by
  have tabled (place : String) : table (Assoc.insert tables slot (Assoc.insert (table tables slot) name coercion)) place =
      if place = slot then Assoc.insert (table tables slot) name coercion else table tables place := by
    rw [table]
    split
    next same => rw [same, Assoc.find?_insert_self, Option.getD_some]
    next different =>
      rw [Assoc.find?_insert_of_ne _ _ different]
      rfl
  refine ⟨?_, ?_, ?_⟩
  · intro place
    rw [tabled]
    split
    · exact Assoc.nodup_keys_insert coercion (declared.distinct slot)
    · exact declared.distinct place
  · intro place key other found
    rw [tabled] at found
    split at found
    next samePlace =>
      by_cases sameKey : key = name
      · rw [sameKey, Assoc.find?_insert_self] at found
        cases found
        exact .inr ⟨samePlace, sameKey, rfl⟩
      · rw [Assoc.find?_insert_of_ne _ _ sameKey, ← samePlace] at found
        exact .inl (declared.sound place key other found)
    · exact .inl (declared.sound place key other found)
  · intro place key other declaredToo
    rw [tabled]
    by_cases both : place = slot ∧ key = name
    · rw [if_pos both.1, both.2, Assoc.find?_insert_self]
      rfl
    · have old := declared.complete place key other (declaredToo.resolve_right fun apart => both ⟨apart.1, apart.2.1⟩)
      split
      next samePlace =>
        rw [Assoc.find?_insert_of_ne _ _ fun sameKey => both ⟨samePlace, sameKey⟩, ← samePlace]
        exact old
      · exact old

end Coercion

namespace Assembly

open Coercion (Declared)

variable {catalog : Schema.Catalog} {before after : Arena} {assembly next : Assembly}
  {declares : String → String → Coercion → Prop}

theorem addCoercion_declared (declared : Declared declares assembly.coercions) (slot name : String)
    (coercion : Option Coercion) :
    Declared (fun place key other => declares place key other ∨ place = slot ∧ key = name ∧ coercion = some other)
      (assembly.addCoercion slot name coercion).coercions := by
  cases coercion with
  | none => exact declared.congr fun place key other => by simp
  | some own => exact (declared.insert slot name own).congr fun place key other => by simp

theorem slot_coercions {source : SourceLocation} {root place : Nat} {name : String}
    (ran : (assembly.slot source root name).run before = .ok ((place, next), after)) :
    next.coercions = assembly.coercions ∧ next.optionalBody = assembly.optionalBody := by
  unfold slot at ran
  split at ran
  · cases ran
    exact ⟨rfl, rfl⟩
  · obtain ⟨_, _, _, rest⟩ := (StateT.run_bind_eq_ok _ _ _ _).mp ran
    obtain ⟨_, _, _, answered⟩ := (StateT.run_bind_eq_ok _ _ _ _).mp rest
    cases answered
    exact ⟨rfl, rfl⟩

theorem addCoercion_optionalBody (assembly : Assembly) (slot name : String) (coercion : Option Coercion) :
    (assembly.addCoercion slot name coercion).optionalBody = assembly.optionalBody := by
  cases coercion <;> rfl

theorem addParameter_declared {source : SourceLocation} {root : Nat} {parameter : Parameter}
    (declared : Declared declares assembly.coercions)
    (ran : (addParameter catalog source root assembly parameter).run before = .ok (next, after)) :
    Declared (fun slot key coercion => declares slot key coercion ∨ parameter.Types slot key coercion) next.coercions ∧
      next.optionalBody = if parameter.place = .body then !parameter.required else assembly.optionalBody := by
  have untyped (elsewhere : parameter.place = .body ∨ parameter.place = .formData) (slot key : String)
      (coercion : Coercion) : ¬parameter.Types slot key coercion := by
    intro types
    rcases types.place with place | place | place <;> simp [place] at elsewhere
  have unchanged (elsewhere : parameter.place = .body ∨ parameter.place = .formData)
      (same : next.coercions = assembly.coercions) :
      Declared (fun slot key coercion => declares slot key coercion ∨ parameter.Types slot key coercion)
        next.coercions := by
    rw [same]
    exact declared.congr fun slot key coercion => (or_iff_left (untyped elsewhere slot key coercion)).symm
  obtain ⟨schema, compiled, _, rest⟩ := (StateT.run_bind_eq_ok _ _ _ _).mp ran
  split at rest
  next body =>
    obtain ⟨_, _, _, answered⟩ := (StateT.run_bind_eq_ok _ _ _ _).mp rest
    cases answered
    exact ⟨unchanged (.inl body) rfl, by rw [if_pos body]⟩
  next notBody =>
    obtain ⟨⟨place, slotted⟩, middle, slotting, rest⟩ := (StateT.run_bind_eq_ok _ _ _ _).mp rest
    obtain ⟨_, _, _, answered⟩ := (StateT.run_bind_eq_ok _ _ _ _).mp rest
    obtain ⟨same, sameBody⟩ := slot_coercions slotting
    rw [if_neg notBody]
    split at answered
    next form =>
      cases answered
      exact ⟨unchanged (.inr form) same, sameBody⟩
    next notForm =>
      cases answered
      refine ⟨?_, (addCoercion_optionalBody ..).trans sameBody⟩
      refine (addCoercion_declared (same.symm ▸ declared) _ _ parameter.coercion).congr ?_
      intro slot key coercion
      refine or_congr_right ?_
      constructor
      · rintro ⟨rfl, rfl, typed⟩
        refine ⟨?_, rfl, rfl, typed⟩
        cases placed : parameter.place <;> simp_all
      · rintro ⟨_, rfl, rfl, typed⟩
        exact ⟨rfl, rfl, typed⟩

theorem addResponseHeader_declared {slot : Nat} {header : String × Schema.Edge} (declared : Declared declares assembly.coercions)
    (ran : (addResponseHeader catalog slot assembly header).run before = .ok (next, after)) :
    Declared (fun slot key coercion => declares slot key coercion ∨ slot = "headers" ∧ key = header.1 ∧
        (catalog.graph.node header.2.target).typeName.bind Coercion.ofType? = some coercion) next.coercions ∧
      next.optionalBody = assembly.optionalBody := by
  obtain ⟨_, _, _, rest⟩ := (StateT.run_bind_eq_ok _ _ _ _).mp ran
  obtain ⟨_, _, _, answered⟩ := (StateT.run_bind_eq_ok _ _ _ _).mp rest
  cases answered
  exact ⟨addCoercion_declared declared _ _ _, addCoercion_optionalBody ..⟩

theorem addResponseBody_coercions {root : Nat} {schema : Option Schema.Edge}
    (ran : (addResponseBody catalog root {} schema).run before = .ok (next, after)) :
    next.coercions = [] ∧ next.optionalBody = false := by
  cases schema with
  | none =>
      cases ran
      exact ⟨rfl, rfl⟩
  | some edge =>
      obtain ⟨_, _, _, rest⟩ := (StateT.run_bind_eq_ok _ _ _ _).mp ran
      obtain ⟨_, _, _, answered⟩ := (StateT.run_bind_eq_ok _ _ _ _).mp rest
      cases answered
      exact ⟨rfl, rfl⟩

theorem addResponse_declared {response : Response} {source : SourceLocation} {root : Nat}
    (ran : (addResponse catalog response source root).run before = .ok (next, after)) :
    Declared (fun slot key coercion => ∃ header ∈ response.headers, slot = "headers" ∧ key = header.1 ∧
        (catalog.graph.node header.2.target).typeName.bind Coercion.ofType? = some coercion) next.coercions ∧
      next.optionalBody = false := by
  obtain ⟨withBody, middle, body, rest⟩ := (StateT.run_bind_eq_ok _ _ _ _).mp ran
  obtain ⟨same, sameBody⟩ := addResponseBody_coercions body
  have start {declares : String → String → Coercion → Prop}
      (none : ∀ slot key coercion, False ↔ declares slot key coercion) : Declared declares withBody.coercions :=
    same ▸ Declared.start.congr none
  split at rest
  next empty =>
    cases rest
    refine ⟨start ?_, sameBody⟩
    simp [List.isEmpty_iff.mp empty]
  · obtain ⟨_, _, _, rest⟩ := (StateT.run_bind_eq_ok _ _ _ _).mp rest
    obtain ⟨_, _, _, headers⟩ := (StateT.run_bind_eq_ok _ _ _ _).mp rest
    refine foldlM_along
      (fun done _ assembly => Declared (fun slot key coercion => ∃ header ∈ done, slot = "headers" ∧ key = header.1 ∧
        (catalog.graph.node header.2.target).typeName.bind Coercion.ofType? = some coercion) assembly.coercions ∧
        assembly.optionalBody = false) ⟨start (by simp), sameBody⟩ ?_ headers
    intro done header before assembly next after _ holds added
    obtain ⟨declared, kept⟩ := addResponseHeader_declared holds.1 added
    refine ⟨declared.congr ?_, kept.trans holds.2⟩
    simp [or_and_right, exists_or]

end Assembly

namespace Specification

variable {specification : Specification} {found : Found} {message : MessageValidator}

namespace Found

/-- A number or a boolean is declared for the key of a slot. -/
def Types (specification : Specification) : Found → String → String → Coercion → Prop
  | .request operation, slot, key, coercion =>
      ∃ parameter ∈ operation.checked specification.skipTrivialParameters, parameter.Types slot key coercion
  | .response _ declared, slot, key, coercion => ∃ header ∈ declared.headers, slot = "headers" ∧ key = header.1 ∧
      (specification.draft.graph.node header.2.target).typeName.bind Coercion.ofType? = some coercion

/-- The body may be left out: the last parameter that declares one does not require it. -/
def omitsBody (specification : Specification) : Found → Bool
  | .request operation => ((operation.checked specification.skipTrivialParameters).filter
      (·.place = .body)).getLast?.any (!·.required)
  | .response .. => false

end Found

theorem assemble_declared (assembled : specification.assemble found = .ok message) :
    Coercion.Declared (found.Types specification) message.coercions ∧
      message.optionalBody = found.omitsBody specification := by
  cases found with
  | request operation =>
      obtain ⟨assembly, arena, ran, rfl⟩ := MessageValidator.ofOperation_eq_ok assembled
      refine Assembly.foldlM_along
        (fun done _ assembly => Coercion.Declared (fun slot key coercion => ∃ parameter ∈ done,
          parameter.Types slot key coercion) assembly.coercions ∧
          assembly.optionalBody = (done.filter (·.place = .body)).getLast?.any (!·.required))
        ⟨Coercion.Declared.start.congr (by simp), rfl⟩ ?_ ran
      intro done parameter before assembly next after _ holds added
      obtain ⟨declared, sameBody⟩ := Assembly.addParameter_declared holds.1 added
      refine ⟨declared.congr fun slot key coercion => ?_, ?_⟩
      · simp [or_and_right, exists_or]
      · rw [sameBody, holds.2, List.filter_append]
        by_cases body : parameter.place = .body <;> simp [body]
  | response operation response =>
      obtain ⟨assembly, arena, ran, rfl⟩ := MessageValidator.ofResponse_eq_ok assembled
      exact Assembly.addResponse_declared ran

end Specification

namespace ValidatorStore

open Specification (Found)

variable {specification : Specification} {found : Found} {message : MessageValidator}

/-- A message of the kind that is looked for. -/
inductive Sent.Suits : Sent → Found → Prop where
  | request (asked : Exchange.Request) (operation : Operation) : Suits (.request asked) (.request operation)
  | response (answer : Exchange.Response) (operation : Operation) (declared : Response) :
      Suits (.response answer) (.response operation declared)

namespace Sent

def payload (message : MessageValidator) : Sent → Value
  | .request asked => message.requestPayload asked
  | .response answer => message.responsePayload answer

/-- What a message holds for parameters and headers, with header names in lower case. -/
def slots : Sent → Assoc (Assoc Value)
  | .request asked => [("path", asked.path), ("query", asked.query), ("headers", lowerKeys asked.headers),
      ("formData", asked.formData)]
  | .response answer => [("headers", lowerKeys answer.headers)]

def body : Sent → Option Value
  | .request asked => asked.body
  | .response answer => answer.body

/-- The message that is made of the slots of a payload. -/
def remade (payload : Value) : Sent → Sent
  | .request _ =>
      let slot (name : String) : Assoc Value := (payload.objectAt? name).getD []
      .request { path := slot "path", query := slot "query", headers := slot "headers", formData := slot "formData"
                 body := payload.find? "body" }
  | .response answer =>
      .response { answer with headers := (payload.objectAt? "headers").getD [], body := payload.find? "body" }

end Sent

def payloadOf (slots : Assoc (Assoc Value)) (body : Option Value) : Value :=
  .object (slots.map (fun slot => (slot.1, .object slot.2)) ++ MessageValidator.bodyEntry body)

/-- What is kept of an entry of a slot: its key, and its value as the key is declared. -/
def KeptAs (types : String → Coercion → Prop) (before after : String × Value) : Prop :=
  before.1 = after.1 ∧ ((∃ coercion, types before.1 coercion ∧ coercion.Changes before.2 after.2) ∨
    (∀ coercion, ¬types before.1 coercion) ∧ before.2 = after.2)

/-- What is kept of a body: all of it, unless it may be left out and has nothing in it. -/
def BodyKept (omits : Prop) (before after : Option Value) : Prop :=
  let empty := omits ∧ (before = some .null ∨ before = some (.object []))
  (empty ∧ after = none) ∨ (¬empty ∧ before = after)

theorem coerce_keeps {types : String → String → Coercion → Prop} (declared : Coercion.Declared types message.coercions)
    (slot : String) (values : Assoc Value) : List.Forall₂ (KeptAs (types slot)) values (message.coerce slot values) := by
  refine List.forall₂_map_right_iff.mpr (List.forall₂_same.mpr ?_)
  intro entry _
  split
  next coercion known =>
    exact ⟨rfl, .inl ⟨coercion, declared.sound slot _ coercion known, Coercion.changes_iff.mpr rfl⟩⟩
  next known =>
    refine ⟨rfl, .inr ⟨?_, rfl⟩⟩
    intro coercion types
    have present := declared.complete slot _ coercion types
    rw [Coercion.table, known] at present
    cases present

theorem coerce_of_untyped {types : String → String → Coercion → Prop}
    (declared : Coercion.Declared types message.coercions) {slot : String}
    (untyped : ∀ key coercion, ¬types slot key coercion) (values : Assoc Value) : message.coerce slot values = values := by
  have kept := coerce_keeps declared slot values
  generalize message.coerce slot values = after at kept
  induction kept with
  | nil => rfl
  | cons head _ ih =>
      obtain ⟨key, ⟨coercion, types, _⟩ | ⟨_, value⟩⟩ := head
      · exact absurd types (untyped _ coercion)
      · rw [ih, Prod.ext key value]

theorem filter_omitsBody (message : MessageValidator) (body : Option Value) :
    BodyKept (message.optionalBody = true) body (body.filter (!message.omitsBody ·)) := by
  cases body with
  | none => exact .inr ⟨by simp, rfl⟩
  | some body =>
      have empty : message.omitsBody body = true ↔
          message.optionalBody = true ∧ (some body = some .null ∨ some body = some (.object [])) := by
        rw [MessageValidator.omitsBody, Bool.and_eq_true, Bool.or_eq_true]
        cases body with
        | object entries => cases entries <;> simp [Value.isNull, Value.asObject?]
        | null | bool | number | string | array => simp [Value.isNull, Value.asObject?]
      rw [Option.filter_some]
      by_cases omitted : message.omitsBody body = true
      · exact .inl ⟨empty.mp omitted, by simp [omitted]⟩
      · exact .inr ⟨mt empty.mpr omitted, by simp [omitted]⟩

theorem payload_eq {sent : Sent} (suits : sent.Suits found) (assembled : specification.assemble found = .ok message) :
    ∃ body, sent.payload message = payloadOf (sent.slots.map fun slot => (slot.1, message.coerce slot.1 slot.2)) body ∧
      BodyKept (found.omitsBody specification = true) sent.body body := by
  obtain ⟨declared, omits⟩ := Specification.assemble_declared assembled
  cases suits with
  | request asked operation =>
      refine ⟨asked.body.filter (!message.omitsBody ·), ?_, omits ▸ filter_omitsBody message asked.body⟩
      have form : message.coerce "formData" asked.formData = asked.formData := by
        refine coerce_of_untyped declared ?_ asked.formData
        rintro key coercion ⟨parameter, _, types⟩
        have slot := types.slot
        rcases types.place with place | place | place <;> simp [place, ParameterPlace.slot] at slot
      simp only [Sent.slots, List.map_cons, List.map_nil, form]
      rfl
  | response answer operation declared => exact ⟨answer.body, rfl, .inr ⟨by simp [Specification.Found.omitsBody], rfl⟩⟩

theorem payload_remade (message : MessageValidator) (sent : Sent) :
    (sent.remade (sent.payload message)).payload message = sent.payload message := by
  have headers (headers : Assoc Value) : lowerKeys (message.coerce "headers" (lowerKeys headers)) =
      message.coerce "headers" (lowerKeys headers) := by
    refine lowerKeys_lowered ?_ ?_
    · rw [MessageValidator.keys_coerce]
      exact nodup_keys_lowerKeys headers
    · rw [MessageValidator.keys_coerce]
      exact fun name => lower_of_mem_lowerKeys
  have body (slots : Assoc Value) (fresh : "body" ∉ Assoc.keys slots) (body : Option Value) :
      Assoc.find? (slots ++ MessageValidator.bodyEntry body) "body" = body := by
    rw [Assoc.find?_append, Assoc.find?_eq_none_iff.mpr fresh, Option.none_or]
    cases body <;> rfl
  cases sent with
  | request asked =>
      have made : Sent.remade (message.requestPayload asked) (.request asked) =
          .request { path := message.coerce "path" asked.path, query := message.coerce "query" asked.query
                     headers := message.coerce "headers" (lowerKeys asked.headers), formData := asked.formData
                     body := asked.body.filter (!message.omitsBody ·) } := by
        rw [Sent.remade, MessageValidator.requestPayload, Value.find?, body _ (by simp [Assoc.keys])]
        rfl
      have twice : (asked.body.filter (!message.omitsBody ·)).filter (!message.omitsBody ·) =
          asked.body.filter (!message.omitsBody ·) := by
        rw [Option.filter_filter]
        simp
      rw [Sent.payload, made, Sent.payload, MessageValidator.requestPayload, MessageValidator.requestPayload, headers,
        twice]
      simp only [MessageValidator.coerce_coerce]
  | response answer =>
      have made : Sent.remade (message.responsePayload answer) (.response answer) =
          .response { answer with headers := message.coerce "headers" (lowerKeys answer.headers) } := by
        rw [Sent.remade, MessageValidator.responsePayload, Value.find?, body _ (by simp [Assoc.keys])]
        rfl
      rw [Sent.payload, made, Sent.payload, MessageValidator.responsePayload, MessageValidator.responsePayload, headers]
      simp only [MessageValidator.coerce_coerce]

/-- Coercion touches only what it is declared for, whatever the order is in which coercions are kept, and a payload is
read the same again. -/
theorem payload_coerced {sent : Sent} (suits : sent.Suits found) (assembled : specification.assemble found = .ok message) :
    (∃ slots body, sent.payload message = payloadOf slots body ∧
      List.Forall₂ (fun before after => before.1 = after.1 ∧
        List.Forall₂ (KeptAs (found.Types specification before.1)) before.2 after.2) sent.slots slots ∧
      BodyKept (found.omitsBody specification = true) sent.body body ∧
      ∀ orders : String → Assoc Coercion,
        (∀ slot ∈ sent.slots, (orders slot.1).Perm (Coercion.table message.coercions slot.1)) →
        slots = sent.slots.map fun slot => (slot.1, Coercion.inOrder (orders slot.1) slot.2)) ∧
    (sent.remade (sent.payload message)).payload message = sent.payload message := by
  obtain ⟨declared, _⟩ := Specification.assemble_declared assembled
  obtain ⟨body, same, kept⟩ := payload_eq suits assembled
  refine ⟨⟨_, body, same, ?_, kept, ?_⟩, payload_remade message sent⟩
  · refine List.forall₂_map_right_iff.mpr (List.forall₂_same.mpr ?_)
    intro slot _
    exact ⟨rfl, coerce_keeps declared slot.1 slot.2⟩
  · intro orders perm
    refine List.map_congr_left ?_
    intro slot member
    rw [MessageValidator.inOrder_eq_coerce (declared.distinct slot.1) (perm slot member)]

/-- An operation that takes flags and may come with a body. -/
def memoDocuments : DocumentSet :=
  let flag (name inside : String) : Value :=
    .object [("name", .string name), ("in", .string inside), ("type", .string "boolean")]
  let text : Value := .object [("name", .string "Text"), ("in", .string "body"), ("schema", .object [])]
  let operation : Value := .object [("operationId", .string "memo"),
    ("parameters", .array [flag "marks" "query", flag "X-Keep" "header", text]),
    ("responses", .object [("200", .object [("description", .string "Noted.")])])]
  { documents := [("/api.json", .object [("paths", .object [("/notes", .object [("post", operation)])])])]
    roots := ["/api.json"] }

def memoBuild : Except BuildError Specification := (Specification.build Pass.builtIn {} memoDocuments).outcome

/-- The specification of memos, or one of nothing. -/
def memo : Specification :=
  memoBuild.toOption.getD { draft := {}, suppressions := {}, skipTrivialParameters := true }

/-- A memo with texts under declared names and under others, and with an empty body. -/
def jotted : Sent := .request {
  query := [("marks", .array [.string "TRUE", .string "often", .array [.string "true"]]), ("keep", .string "true")]
  headers := [("X-KEEP", .string "yes"), ("X-Marks", .string "true"), ("x-keep", .string "False")]
  body := some (.object []), formData := [("marks", .string "true")] }

theorem memo_read : memoBuild.toOption.isSome = true ∧ (parts memo (.request "memo")).isSome = true ∧
    ∀ pair ∈ parts memo (.request "memo"), pair.1.omitsBody memo = true ∧ (jotted.payload pair.2).compact =
      "\x7b\"path\":\x7b\x7d,\"query\":\x7b\"marks\":[true,\"often\",[\"true\"]],\"keep\":\"true\"\x7d," ++
        "\"headers\":\x7b\"x-keep\":false,\"x-marks\":\"true\"\x7d,\"formData\":\x7b\"marks\":\"true\"\x7d\x7d" := by
  decide +kernel

/-- Only flags that are declared are read, once and at the top of an array, and nothing stands for the empty body. -/
theorem payload_coerced_memo : memoBuild = .ok memo ∧ ∃ found message, memo.find (.request "memo") = .ok found ∧
    jotted.Suits found ∧ memo.assemble found = .ok message ∧ (jotted.payload message).compact =
      "\x7b\"path\":\x7b\x7d,\"query\":\x7b\"marks\":[true,\"often\",[\"true\"]],\"keep\":\"true\"\x7d," ++
        "\"headers\":\x7b\"x-keep\":false,\"x-marks\":\"true\"\x7d,\"formData\":\x7b\"marks\":\"true\"\x7d\x7d" ∧
    (∃ slots, jotted.payload message = payloadOf slots none) ∧
    (jotted.remade (jotted.payload message)).payload message = jotted.payload message := by
  obtain ⟨built, present, told⟩ := memo_read
  obtain ⟨⟨found, message⟩, listed⟩ := Option.isSome_iff_exists.mp present
  obtain ⟨finds, assembled, _⟩ := parts_eq_some listed
  obtain ⟨omits, shown⟩ := told _ listed
  have suits : jotted.Suits found := by
    cases found with
    | request operation => exact .request _ operation
    | response operation declared => cases omits
  obtain ⟨⟨slots, body, same, _, kept, _⟩, again⟩ := payload_coerced suits assembled
  refine ⟨Except.eq_ok_getD _ built, found, message, finds, suits, assembled, shown, ⟨slots, ?_⟩, again⟩
  rcases kept with ⟨_, rfl⟩ | ⟨other, _⟩
  · exact same
  · exact absurd ⟨omits, .inr rfl⟩ other

end ValidatorStore

end ApiContract
