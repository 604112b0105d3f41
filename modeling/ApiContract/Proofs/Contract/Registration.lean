import ApiContract.Proofs.Contract.Scheduling
import ApiContract.Proofs.Pass.Commutation
import ApiContract.Proofs.Pass.Computed
import ApiContract.Specification

/-!
The order in which passes are registered (`registration_irrelevant`). Registration decides only between passes that
are ready at the same time; of the built-in passes these are the one that closes objects and the one that admits null,
and it makes no difference which of the two comes first.
-/

namespace ApiContract

open Relation

namespace Schedule

variable {passes other remaining order stuck : List Pass} {pass next : Pass} {scope : Scope}

/-- The orders that passes are taken in, where any pass that waits for no other may come next. -/
def orders : Nat → List Pass → List (List Pass)
  | 0, _ => [[]]
  | count + 1, passes =>
      (passes.filter fun next => !waits passes next).flatMap fun next =>
        (orders count (passes.filter (·.name != next.name))).map (next :: ·)

theorem waits_perm (perm : remaining.Perm passes) (pass : Pass) : waits remaining pass = waits passes pass :=
  perm.any_eq

/-- What is left of passes with names of their own when one is taken. -/
theorem filter_name_perm {earlier later : List Pass} (perm : (earlier ++ next :: later).Perm passes)
    (distinct : (passes.map (·.name)).Nodup) : (earlier ++ later).Perm (passes.filter (·.name != next.name)) := by
  have front : (next :: (earlier ++ later)).Perm passes := List.perm_middle.symm.trans perm
  have fresh : ∀ pass ∈ earlier ++ later, pass.name ≠ next.name := by
    have distinctFront := (front.map (·.name)).nodup_iff.mpr distinct
    rw [List.map_cons, List.nodup_cons] at distinctFront
    intro pass member same
    exact distinctFront.1 (same ▸ List.mem_map_of_mem member)
  have kept : (earlier ++ later).filter (·.name != next.name) = earlier ++ later :=
    List.filter_eq_self.mpr fun pass member => bne_iff_ne.mpr (fresh pass member)
  have filtered := front.filter (·.name != next.name)
  rwa [List.filter_cons_of_neg (by simp), kept] at filtered

/-- Whatever the order of registration is, the passes are taken in one of the orders. -/
theorem Drains.mem_orders (drains : Drains remaining order []) (perm : remaining.Perm passes)
    (distinct : (passes.map (·.name)).Nodup) : order ∈ orders passes.length passes := by
  generalize nothing : ([] : List Pass) = stuck at drains
  induction drains generalizing passes with
  | stuck =>
      subst nothing
      rw [List.nil_perm.mp perm]
      exact List.mem_singleton.mpr rfl
  | @take earlier next later order stuck _ ready _ ih =>
      have smaller := filter_name_perm perm distinct
      have length : passes.length = (passes.filter (·.name != next.name)).length + 1 := by
        have whole := perm.length_eq
        have rest := smaller.length_eq
        simp only [List.length_append, List.length_cons] at whole rest
        omega
      have distinctRest : ((passes.filter (·.name != next.name)).map (·.name)).Nodup :=
        ((List.filter_sublist (l := passes)).map Pass.name).nodup distinct
      have member : next ∈ passes := perm.mem_iff.mp (List.mem_append_right _ List.mem_cons_self)
      have readyToo : waits passes next = false := (waits_perm perm next).symm.trans ready
      rw [length, orders, List.mem_flatMap]
      refine ⟨next, List.mem_filter.mpr ⟨member, by rw [readyToo]; rfl⟩, ?_⟩
      exact List.mem_map_of_mem (ih smaller distinctRest nothing)

theorem cyclic_of_perm (perm : passes.Perm other) (cyclic : Cyclic passes) : Cyclic other := by
  obtain ⟨pass, cycle⟩ := cyclic
  have widened (first second : Pass) (constrains : Constrains passes first second) : Constrains other first second :=
    ⟨perm.mem_iff.mp constrains.1, perm.mem_iff.mp constrains.2.1, constrains.2.2⟩
  exact ⟨pass, cycle.lift id widened⟩

theorem members_distinct (scope : Scope) (distinct : (passes.map (·.name)).Nodup) :
    ((members scope passes).map (·.name)).Nodup :=
  ((members_sublist scope passes).map Pass.name).nodup distinct

theorem drains_of_orderOf (distinct : (passes.map (·.name)).Nodup) (ordered : orderOf scope passes = .ok order) :
    Drains (members scope passes) order [] := by
  have drains := drain_drains _ (members_distinct scope distinct) (Nat.le_refl _)
  rcases drained : drain (members scope passes).length (members scope passes) with ⟨taken, _ | ⟨first, rest⟩⟩
  · cases (orderOf_of_drain drained).symm.trans ordered
    rwa [drained] at drains
  · cases (orderOf_of_drain drained).symm.trans ordered

/-- Passes that can be scheduled can be scheduled in any order of registration, each scope in one of its orders. -/
theorem exists_schedule_of_perm (perm : passes.Perm other) (distinct : (other.map (·.name)).Nodup)
    {standard : Schedule} (scheduled : ofPasses other = .ok standard) :
    ∃ schedule, ofPasses passes = .ok schedule ∧
      ∀ scope, schedule.order scope ∈ orders (members scope other).length (members scope other) := by
  have distinctPasses : (passes.map (·.name)).Nodup := (perm.map (·.name)).nodup_iff.mpr distinct
  have permMembers (scope : Scope) : (members scope passes).Perm (members scope other) := perm.filter _
  have ordered (scope : Scope) : ∃ order, orderOf scope passes = .ok order := by
    rw [exists_orderOf_iff distinctPasses]
    intro cyclic
    have found := (ofPasses_eq_ok_iff distinct standard).mp scheduled scope
    exact (exists_orderOf_iff distinct scope).mp ⟨_, found⟩ (cyclic_of_perm (permMembers scope) cyclic)
  have taken {scope : Scope} {order : List Pass} (found : orderOf scope passes = .ok order) :
      order ∈ orders (members scope other).length (members scope other) :=
    (drains_of_orderOf distinctPasses found).mem_orders (permMembers scope) (members_distinct scope distinct)
  obtain ⟨document, orderedDocument⟩ := ordered .document
  obtain ⟨global, orderedGlobal⟩ := ordered .global
  refine ⟨⟨document, global⟩, (ofPasses_eq_ok_iff distinctPasses _).mpr ?_, ?_⟩
  · rintro (_ | _)
    · exact orderedDocument
    · exact orderedGlobal
  · rintro (_ | _)
    · exact taken orderedDocument
    · exact taken orderedGlobal

end Schedule

namespace Pass

/-- The passes over the whole draft that run before objects are closed and null is admitted. -/
def linkers : List Pass := [discoverVariants, buildTagMaps, mergeBranches]

theorem builtIn_distinct : (builtIn.map (·.name)).Nodup := by decide

theorem orders_document :
    Schedule.orders (Schedule.members .document builtIn).length (Schedule.members .document builtIn) = [readers] := by
  rfl

/-- Only closing objects and admitting null can change places. -/
theorem orders_global :
    Schedule.orders (Schedule.members .global builtIn).length (Schedule.members .global builtIn) =
      [linkers ++ [closeObjects, admitNull, loosenObjects], linkers ++ [admitNull, closeObjects, loosenObjects]] := by
  rfl

end Pass

namespace Pipeline

/-- The two orders of the last passes come to the same. -/
theorem perform_last_passes (before : List Step) (draft : Draft) :
    (perform (before ++ [⟨Pass.admitNull, none⟩, ⟨Pass.closeObjects, none⟩, ⟨Pass.loosenObjects, none⟩])
        draft).outcome =
      (perform (before ++ [⟨Pass.closeObjects, none⟩, ⟨Pass.admitNull, none⟩, ⟨Pass.loosenObjects, none⟩])
        draft).outcome := by
  rw [perform_append_outcome, perform_append_outcome]
  refine congrArg ((perform before draft).outcome >>= ·) (funext fun middle => ?_)
  exact congrArg (fun next : Draft => Except.ok next.loosenObjects) (Draft.closeObjects_admitNull middle).symm

end Pipeline

namespace Schedule

theorem outcome_of_perm {passes : List Pass} (perm : passes.Perm Pass.builtIn) :
    ∃ schedule, ofPasses passes = .ok schedule ∧
      ∀ draft, (Pipeline.run schedule draft).outcome = (Pipeline.run Draft.everyPass draft).outcome := by
  obtain ⟨schedule, scheduled, taken⟩ := exists_schedule_of_perm perm Pass.builtIn_distinct Pass.builtIn_schedule
  refine ⟨schedule, scheduled, fun draft => ?_⟩
  have document := taken .document
  have global := taken .global
  rw [Pass.orders_document, List.mem_singleton] at document
  rw [Pass.orders_global, List.mem_pair] at global
  obtain ⟨documents, globals⟩ := schedule
  change documents = Pass.readers at document
  change globals = _ ∨ globals = _ at global
  subst document
  rcases global with rfl | rfl
  · rfl
  · have standard : Draft.everyPass =
        ⟨Pass.readers, Pass.linkers ++ [Pass.closeObjects, Pass.admitNull, Pass.loosenObjects]⟩ := rfl
    simp only [standard, Pipeline.run, Pipeline.steps, List.map_append, ← List.append_assoc]
    exact Pipeline.perform_last_passes _ draft

/-- However the built-in passes are registered, running them comes to the same from every draft, and so does building
a specification. Of passes that may come in either order, closing objects and admitting null commute on every draft. -/
theorem registration_irrelevant {passes : List Pass} (perm : passes.Perm Pass.builtIn) :
    (∃ schedule standard, ofPasses passes = .ok schedule ∧ ofPasses Pass.builtIn = .ok standard ∧
      ∀ draft, (Pipeline.run schedule draft).outcome = (Pipeline.run standard draft).outcome) ∧
    (∀ settings documents, (Specification.build passes settings documents).outcome =
      (Specification.build Pass.builtIn settings documents).outcome) ∧
    ∀ draft : Draft, draft.closeObjects.admitNull = draft.admitNull.closeObjects := by
  obtain ⟨schedule, scheduled, same⟩ := outcome_of_perm perm
  refine ⟨⟨schedule, Draft.everyPass, scheduled, Pass.builtIn_schedule, same⟩, ?_, Draft.closeObjects_admitNull⟩
  intro settings documents
  have standard : ofPasses Pass.builtIn = .ok Draft.everyPass := Pass.builtIn_schedule
  unfold Specification.build Specification.Plan.of
  rw [scheduled, standard]
  cases Suppressions.ofDirectives settings.suppressions with
  | error reason => rfl
  | ok suppressions =>
      exact congrArg (fun outcome : Except Interruption Draft => (outcome.mapError BuildError.ofInterruption).map
        fun draft => (⟨draft, suppressions, settings.skipTrivialParameters⟩ : Specification)) (same _)

/-- A parcel may have a label, which is a definition of its own. -/
def labelDocuments : DocumentSet := .ofDefinitions [
  ("Parcel", .object [("type", .string "object"), ("properties", .object [("label", .toDefinition "Label")])]),
  ("Label", .ofType "string")]

/-- Registered the other way round, the built-in passes admit null before they close objects. The parcel is closed and
its label leads through a wrapper, as with the usual registration. -/
theorem registration_irrelevant_reversed :
    Pass.builtIn.reverse.Perm Pass.builtIn ∧
      ∃ schedule, ofPasses Pass.builtIn.reverse = .ok schedule ∧
        schedule.global.map (·.name) =
          ["discover-variants", "discriminator", "all-of", "nullable", "no-additional-properties", "pure-object"] ∧
        ∃ final, (Pipeline.run schedule { documents := labelDocuments }).outcome = .ok final ∧
          (final.graph.node 0).additional = some (.allowed false) ∧
          (final.graph.node 0).propertyList = [("label", .inline 3)] ∧
          (final.graph.node 3).anyOf = some [.reference 1, .inline 2] := by
  obtain ⟨⟨schedule, standard, scheduled, scheduledStandard, same⟩, _⟩ :=
    registration_irrelevant (List.reverse_perm Pass.builtIn)
  have computed : ofPasses Pass.builtIn.reverse = .ok ⟨Pass.readers,
      Pass.linkers ++ [Pass.admitNull, Pass.closeObjects, Pass.loosenObjects]⟩ := rfl
  cases computed.symm.trans scheduled
  cases Pass.builtIn_schedule.symm.trans scheduledStandard
  have ends : (Pipeline.run Draft.everyPass { documents := labelDocuments }).outcome.toOption.isSome = true := by
    decide +kernel
  refine ⟨List.reverse_perm _, _, scheduled, by decide, Draft.finalOf labelDocuments, ?_, ?_⟩
  · rw [same]
    exact Draft.run_eq_outcomeOf ends
  · decide +kernel

end Schedule

end ApiContract
