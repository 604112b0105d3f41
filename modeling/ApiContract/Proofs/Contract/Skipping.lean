import ApiContract.Proofs.Compilation.Skipping
import ApiContract.Proofs.Compilation.Transfer
import ApiContract.Proofs.Contract.ResponseBody
import ApiContract.Proofs.Contract.Termination

/-!
Failures that are skipped (`skipped_failures_hide_nothing`). Of all schemas only wrappers and markers skip what they find,
and whatever leads to a marker leads through its wrapper (`Speaks`). So the validator of a message skips only what it
also reports.
-/

namespace ApiContract

open Json (Value)
open Schema Schema.Graph
open Validator (Arena Clause Depicts ofSchema reported validatorOf)

namespace Draft

variable {documents : DocumentSet} {written tagged merged final : Draft} {id : Nat} {slot : Nat → Nat → Prop}
  {outspoken : Nat → Prop} {clause : Clause} {arena : Arena} {given : Nat → Prop} {message : MessageValidator}

/-- The schemas that payloads are held against by way of others, except markers. -/
inductive Speaks (merged final : Draft) : Nat → Prop
  | old {id : Nat} : id < merged.graph.size → Speaks merged final id
  | wrapper {edge wrapper} : Wraps merged.graph final.graph edge wrapper → edge.target < merged.graph.size →
      Speaks merged final wrapper.target

/-- The clauses of these schemas, and of messages and their slots. -/
def Heard (merged final : Draft) (arena : Arena) (place : Nat) : Prop :=
  (∀ id, ¬arena.Slot id place) ∨ ∃ id, Speaks merged final id ∧ arena.Slot id place

namespace Stages

variable (stages : Stages documents written tagged merged final)

include stages

/-- The members of an object are held against schemas that were there before, or against wrappers of them. -/
theorem asked_speaks {key : String} {edge : Edge} (inside : id < merged.graph.size)
    (asked : Assoc.find? (final.graph.node id).propertyList key = some edge ∨
      Assoc.find? (final.graph.node id).propertyList key = none ∧
        (final.graph.node id).additional = some (.schema edge)) : Speaks merged final edge.target := by
  have ends := stages.last.ends id inside
  rcases asked with declared | ⟨_, additional⟩
  · rcases ends.found key with same | ⟨_, wrapped, wrapper, member, found, wraps⟩
    · exact .old (stages.leadsTo_lt (.property (Assoc.mem_of_find? (same.symm.trans declared))))
    · cases declared.symm.trans found
      exact .wrapper wraps (stages.leadsTo_lt (.property member))
  · rcases ends.additional with same | ⟨shut, _⟩ | ⟨wrapped, wrapper, said, led, wraps, _⟩
    · exact .old (stages.leadsTo_lt (.additional (same.symm.trans additional)))
    · cases shut.symm.trans additional
    · cases led.symm.trans additional
      exact .wrapper wraps (stages.leadsTo_lt (.additional said))

/-- A clause goes on to clauses of schemas that speak, and it skips nothing or wraps one of them. -/
theorem outspoken_of_depicts (depicts : Depicts slot (final.graph.node id) clause) (speaks : Speaks merged final id)
    (heard : ∀ schema place, Speaks merged final schema → slot schema place → outspoken place) :
    clause.Outspoken outspoken := by
  cases speaks with
  | old inside =>
      have apart := (stages.last.ends id inside).apart
      refine .plain (depicts.skip.trans (stages.final_skipErrors inside)) fun child leads => ?_
      cases leads with
      | member looked =>
          obtain ⟨edge, placed, asked⟩ := depicts.clauseFor? looked
          exact heard _ _ (stages.asked_speaks inside asked) placed
      | item listed =>
          obtain ⟨edge, items, placed⟩ := (listed ▸ depicts.items).exists_left
          rw [apart] at items
          exact heard _ _ (.old (stages.leadsTo_lt (.items items))) placed
      | allOf member =>
          obtain ⟨edge, among, placed⟩ := depicts.allOf.exists_left member
          rw [apart] at among
          exact heard _ _ (.old (stages.leadsTo_lt (.allOf among))) placed
      | anyOf member =>
          obtain ⟨edge, among, placed⟩ := depicts.anyOf.exists_left member
          rw [apart] at among
          exact heard _ _ (.old (stages.leadsTo_lt (.anyOf among))) placed
      | oneOf member =>
          obtain ⟨edge, among, placed⟩ := depicts.oneOf.exists_left member
          rw [apart] at among
          exact heard _ _ (.old (stages.leadsTo_lt (.oneOf among))) placed
      | variant dispatches named =>
          obtain ⟨routing, routes, same, alike⟩ := depicts.dispatch_eq_some dispatches
          have related := named ▸ Validator.named?_alike same alike _
          obtain ⟨variant, namedVariant, placed⟩ := related.exists_left
          obtain ⟨tag, among⟩ := mem_of_named? namedVariant
          change (final.graph.node id).routing? = _ at routes
          rw [stages.final_routing? inside] at routes
          exact heard _ _ (.old (stages.leadsTo_lt (.variant routes among))) placed
  | @wrapper edge wrapper wraps inside =>
      obtain ⟨_, _, source, marker, _, shape, _⟩ := wraps
      rw [shape] at depicts
      obtain ⟨label, first, second, plain, placed, _⟩ := depicts.wrapper
      exact .wrapper plain (heard _ _ (.old inside) placed)

theorem heard_outspoken (drawn : MessageValidator.Drawn final.catalog given arena message)
    (known : ∀ id, given id → id < merged.graph.size) (place : Nat) (heard : Heard merged final arena place) :
    (arena.clauses.getD place {}).Outspoken (Heard merged final arena) := by
  rcases heard with unplaced | ⟨id, speaks, placed⟩
  · -- what a message declares is a slot, or it was given for the message
    have frame := drawn.sound.frames place unplaced
    refine .plain frame.skip fun child leads => ?_
    obtain ⟨key, declared⟩ := frame.leadsTo leads
    cases drawn.invites place key child unplaced declared with
    | slot free => exact .inl free.unplaced
    | schema asked placed => exact .inr ⟨_, .old (known _ asked), placed⟩
  · exact stages.outspoken_of_depicts (drawn.sound.depicts id place placed List.not_mem_nil) speaks
      fun schema place speaks placed => .inr ⟨schema, speaks, placed⟩

/-- What operations and responses give for their parts was there before inheritance was over. -/
theorem given_lt {specification : Specification} {found : Specification.Found} (same : specification.draft = final)
    (declares : specification.Declares found) {id : Nat} (gives : found.Gives id) : id < merged.graph.size := by
  have grounded (operation : Operation) (member : operation ∈ specification.draft.operations) :
      Reading.Grounded written.catalog operation := by
    rw [same, stages.operations] at member
    exact stages.read.grounded operation member
  rw [stages.size]
  cases declares with
  | request member => exact (grounded _ member).parameters id gives
  | response member among => exact (grounded _ member).responses _ among id gives

end Stages

end Draft

namespace Specification

variable {settings : Settings} {documents : DocumentSet} {specification : Specification}

/-- Skipped failures hide nothing. Where the validator of a message finds anything wrong, it reports something, which is
told unless a filter leaves it out. By itself a wrapper reports of anything but null what the schema that it wraps
reports by itself, in the same order, and it answers if that does; and it finds nothing wrong with null. -/
theorem skipped_failures_hide_nothing (built : (build Pass.builtIn settings documents).outcome = .ok specification) :
    (∀ found message, specification.Declares found → specification.assemble found = .ok message →
      ∀ direction payload fuel failures, message.validator.evaluateWithin fuel direction payload = some failures →
        failures ≠ [] → (∃ failure ∈ failures, failure.skip = false) ∧
          ∀ context, context.includeErrors = none → Issue.ofFailures context failures ≠ []) ∧
    ∀ start edge wrapper outer, Wraps start specification.draft.graph edge wrapper →
      ofSchema specification.draft.catalog wrapper.target = .ok outer →
      ∃ inner, ofSchema specification.draft.catalog edge.target = .ok inner ∧
        (∀ direction value, value ≠ .null →
          (∀ fuel, (outer.evaluateWithin (fuel + 1) direction value).map reported =
            (inner.evaluateWithin fuel direction value).map reported) ∧
          ∀ fuel more failures found, outer.evaluateWithin fuel direction value = some failures →
            inner.evaluateWithin more direction value = some found → reported failures = reported found) ∧
        ∀ direction fuel failures, outer.evaluateWithin fuel direction .null = some failures → failures = [] := by
  obtain ⟨schedule, scheduled, ran⟩ := exists_schedule built
  obtain ⟨written, tagged, merged, stages⟩ := Draft.IsFinished.stages ⟨schedule, scheduled, ran⟩
  refine ⟨?_, ?_⟩
  · intro found message declares assembled direction payload fuel failures answered wrong
    obtain ⟨arena, drawn⟩ := assemble_drawn assembled
    have closed := stages.heard_outspoken drawn fun id gives => stages.given_lt rfl declares gives
    rw [drawn.validator] at answered
    obtain ⟨after, ranMessage⟩ := Validator.evaluateWithin_eq_some.mp answered
    have told := Validator.visit_tells closed direction fuel 0 payload "" {} failures after (.inl drawn.root.unplaced)
      ranMessage wrong
    refine ⟨told, fun context unfiltered silent => ?_⟩
    obtain ⟨failure, member, reports⟩ := told
    obtain ⟨issue, among, _⟩ := Issue.exists_of_failure unfiltered member reports
    rw [silent] at among
    cases among
  · intro start edge wrapper outer wraps compiled
    obtain ⟨slot, mirror⟩ := Validator.ofSchema_mirror compiled
    obtain ⟨_, _, _, first, _, placed, _⟩ := mirror.wrapperClause wraps mirror.root
    obtain ⟨inner, compiledInner⟩ := mirror.below placed
    obtain ⟨other, mirrorToo⟩ := Validator.ofSchema_mirror compiledInner
    refine ⟨inner, compiledInner, fun direction value notNull => ⟨fun fuel => ?_, ?_⟩, ?_⟩
    · exact mirror.wrapper_reported wraps mirrorToo notNull
    · exact fun _ _ _ _ answered answeredToo => mirror.wrapper_reported_eq wraps mirrorToo notNull answered answeredToo
    · intro direction fuel failures answered
      obtain ⟨after, ranNull⟩ := Validator.evaluateWithin_eq_some.mp answered
      exact mirror.wrapper_null wraps mirror.root ranNull

/-- A body whose label need not be there, and may be null. -/
def labelDefinitions : Assoc Value := [
  ("Body", .object [("type", .string "object"), ("properties", .object [("label", .toDefinition "Label")])]),
  ("Label", .ofType "string")]

def mislabelled : Value := .object [("body", .object [("label", .bool true)])]

theorem labels_built :
    (bodyBuild labelDefinitions).toOption.isSome = true ∧ (bodyMessage labelDefinitions).toOption.isSome = true ∧
      ((bodyValidator labelDefinitions).evaluate .request mislabelled).map (·.map (·.skip)) =
        some [false, true, true] ∧
      let draft := (bodySpecification labelDefinitions).draft
      draft.catalog.collections.objects = [0] ∧ (draft.graph.node 0).propertyList = [("label", .inline 3)] ∧
        (draft.graph.node 3).skipErrors = true ∧ (draft.graph.node 3).anyOf = some [.reference 1, .inline 2] ∧
        (ofSchema draft.catalog 3).toOption.isSome = true ∧
        ((validatorOf draft.catalog 3).evaluate .request (.bool true)).map (·.map (·.skip)) =
          some [false, true, true] ∧
        ((validatorOf draft.catalog 1).evaluate .request (.bool true)).map (·.map (·.skip)) = some [false] := by
  decide +kernel

theorem labels_eq_ok : bodyBuild labelDefinitions = .ok (bodySpecification labelDefinitions) :=
  Except.eq_ok_getD _ labels_built.1

theorem label_wrapped :
    ∃ start, Wraps start (bodySpecification labelDefinitions).draft.graph (.reference 1) (.inline 3) := by
  obtain ⟨_, _, _, objects, properties, skipped, branches, _⟩ := labels_built
  obtain ⟨schedule, scheduled, ran⟩ := exists_schedule labels_eq_ok
  obtain ⟨written, tagged, merged, stages⟩ := Draft.IsFinished.stages ⟨schedule, scheduled, ran⟩
  have collected : 0 ∈ merged.catalog.collections.objects := by
    rw [← stages.last.collections, objects]
    exact List.mem_cons_self
  have label : Assoc.find? ((bodySpecification labelDefinitions).draft.graph.node 0).propertyList "label" =
      some (.inline 3) := by
    rw [properties]
    rfl
  rcases (stages.last.ends 0 (stages.inside collected)).found "label" with kept | ⟨_, edge, wrapper, _, led, wraps⟩
  · have old := stages.leadsTo_lt (.property (Assoc.mem_of_find? (kept.symm.trans label)))
    cases skipped.symm.trans (stages.final_skipErrors old)
  · cases label.symm.trans led
    obtain ⟨source, marker, _, shape, _⟩ := wraps.shape
    have listed := (congrArg Node.anyOf shape).symm.trans branches
    cases listed
    exact ⟨merged.graph, wraps⟩

/-- What is found of a label that is no text is told, and its wrapper reports what the label does. -/
theorem skipped_failures_hide_nothing_label :
    bodyBuild labelDefinitions = .ok (bodySpecification labelDefinitions) ∧
      (∃ found message failures, (bodySpecification labelDefinitions).assemble found = .ok message ∧
        message.validator.evaluate .request mislabelled = some failures ∧
        (∃ failure ∈ failures, failure.skip = true) ∧ (∃ failure ∈ failures, failure.skip = false) ∧
        Issue.ofFailures { direction := .request } failures ≠ []) ∧
      ∃ failures found,
        (validatorOf (bodySpecification labelDefinitions).draft.catalog 3).evaluate .request (.bool true) =
          some failures ∧
        (validatorOf (bodySpecification labelDefinitions).draft.catalog 1).evaluate .request (.bool true) =
          some found ∧
        failures ≠ found ∧ reported failures = reported found := by
  obtain ⟨_, assembles, skips, _, _, _, _, compiles, skipsWrapper, skipsLabel⟩ := labels_built
  obtain ⟨told, wrapped⟩ := skipped_failures_hide_nothing labels_eq_ok
  refine ⟨labels_eq_ok, ?_, ?_⟩
  · obtain ⟨found, message, finds, assembled, same⟩ := exists_assembled assembles
    obtain ⟨failures, answered, flags⟩ := Option.map_eq_some_iff.mp skips
    rw [← same] at answered
    have wrong : failures ≠ [] := by
      rintro rfl
      cases flags
    obtain ⟨reports, tells⟩ := told found message (declares_of_find finds) assembled _ _ _ failures answered wrong
    have skipping : true ∈ failures.map (·.skip) := by simp [flags]
    obtain ⟨failure, member, skip⟩ := List.mem_map.mp skipping
    exact ⟨found, message, failures, assembled, answered, ⟨failure, member, skip⟩, reports, tells _ rfl⟩
  · obtain ⟨start, wraps⟩ := label_wrapped
    obtain ⟨inner, compiledInner, reports, _⟩ := wrapped start _ _ _ wraps (Validator.ofSchema_eq_validatorOf compiles)
    have same : validatorOf (bodySpecification labelDefinitions).draft.catalog 1 = inner := by
      change ofSchema (bodySpecification labelDefinitions).draft.catalog 1 = .ok inner at compiledInner
      rw [validatorOf, compiledInner]
      rfl
    rw [same] at skipsLabel ⊢
    obtain ⟨failures, answered, flags⟩ := Option.map_eq_some_iff.mp skipsWrapper
    obtain ⟨found, answeredToo, flagsToo⟩ := Option.map_eq_some_iff.mp skipsLabel
    refine ⟨failures, found, answered, answeredToo, ?_, ?_⟩
    · rintro rfl
      cases flags.symm.trans flagsToo
    · exact (reports .request (.bool true) (by simp)).2 _ _ _ _ answered answeredToo

end Specification

end ApiContract
