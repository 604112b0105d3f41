import ApiContract.Proofs.Pass.Closure
import ApiContract.Proofs.Pass.Nullability
import ApiContract.Proofs.Pass.Stages

/-!
What the passes after inheritance make of a merged schema.
-/

namespace ApiContract

namespace Draft

open Schema Schema.Graph

variable {documents : DocumentSet} {written tagged merged final : Draft}

/-- How a schema ends that was there when inheritance was over. -/
structure Ends (merged final : Draft) (id : Nat) : Prop where
  apart : final.graph.node id = { merged.graph.node id with
    typeName := (final.graph.node id).typeName
    nullable := (final.graph.node id).nullable
    properties := (final.graph.node id).properties
    additional := (final.graph.node id).additional }
  typeName : (final.graph.node id).typeName = (merged.graph.node id).typeName ∨
    (final.graph.node id).typeName = none ∧ (merged.graph.node id).typeName = some "object" ∧
      (merged.graph.node id).hasProperties = false ∧ (merged.graph.node id).additional = none
  nullable : (final.graph.node id).nullable = true → (merged.graph.node id).nullable = true ∨ merged.Marks id
  tabled : (final.graph.node id).properties.isSome = (merged.graph.node id).properties.isSome
  keys : Assoc.keys (final.graph.node id).propertyList = Assoc.keys (merged.graph.node id).propertyList
  found : ∀ key,
    Assoc.find? (final.graph.node id).propertyList key = Assoc.find? (merged.graph.node id).propertyList key ∨
      key ∉ (merged.graph.node id).required ∧ ∃ edge wrapper,
        (key, edge) ∈ (merged.graph.node id).propertyList ∧
        Assoc.find? (final.graph.node id).propertyList key = some wrapper ∧
        Wraps merged.graph final.graph edge wrapper
  additional : (final.graph.node id).additional = (merged.graph.node id).additional ∨
    (final.graph.node id).additional = some (.allowed false) ∧ (merged.graph.node id).additional = none ∧
      (merged.graph.node id).tagMap = none ∧ merged.isBaseSchema id = false ∧
      (merged.graph.node id).hasProperties = true ∨
    ∃ edge wrapper, (merged.graph.node id).additional = some (.schema edge) ∧
      (final.graph.node id).additional = some (.schema wrapper) ∧ Wraps merged.graph final.graph edge wrapper ∧
      edge.viaRef = true

/-- The passes after inheritance, whose drafts are the merged one but for their graphs. -/
structure Last (merged final : Draft) : Prop where
  size_le : merged.graph.size ≤ final.graph.size
  collections : final.catalog.collections = merged.catalog.collections
  deferred : final.catalog.deferred = merged.catalog.deferred
  ends : ∀ id, id < merged.graph.size → Ends merged final id
  closes : ∀ id ∈ merged.catalog.collections.objects, (merged.graph.node id).additional = none →
    (merged.graph.node id).tagMap = none → merged.isBaseSchema id = false →
    (merged.graph.node id).hasProperties = true → (final.graph.node id).additional = some (.allowed false)
  lenient : ∀ owner ∈ merged.catalog.collections.objects, ∀ key edge, Unsaid merged.graph owner key edge →
    Lenient merged.graph final.graph owner key
  beyond : ∀ owner ∈ merged.catalog.collections.objects, ∀ edge, Unrefused merged.graph owner edge →
    LenientBeyond merged.graph final.graph owner

theorem node_closeObjects (draft : Draft) {id : Nat} (inside : id < draft.graph.size) :
    draft.closeObjects.graph.node id =
        { draft.graph.node id with additional := (draft.closeObjects.graph.node id).additional } ∧
      ((draft.closeObjects.graph.node id).additional = (draft.graph.node id).additional ∨
        (draft.closeObjects.graph.node id).additional = some (.allowed false) ∧
          (draft.graph.node id).additional = none ∧ (draft.graph.node id).tagMap = none ∧
          draft.isBaseSchema id = false ∧ (draft.graph.node id).hasProperties = true) := by
  by_cases member : id ∈ draft.catalog.collections.objects
  · rw [draft.node_closeObjects_of_mem member inside]
    exact ⟨Node.closed_eq _ _, Node.closed_additional _ _⟩
  · rw [draft.node_closeObjects_of_notMem member]
    exact ⟨rfl, .inl rfl⟩

theorem node_loosenObjects (draft : Draft) {id : Nat} (inside : id < draft.graph.size) :
    draft.loosenObjects.graph.node id =
        { draft.graph.node id with typeName := (draft.loosenObjects.graph.node id).typeName } ∧
      ((draft.loosenObjects.graph.node id).typeName = (draft.graph.node id).typeName ∨
        (draft.loosenObjects.graph.node id).typeName = none ∧ (draft.graph.node id).typeName = some "object" ∧
          (draft.graph.node id).hasProperties = false ∧ (draft.graph.node id).additional = none) := by
  by_cases member : id ∈ draft.catalog.collections.objects
  · rw [draft.node_loosenObjects_of_mem member inside]
    exact ⟨Node.loosened_eq _, Node.loosened_typeName _⟩
  · rw [draft.node_loosenObjects_of_notMem member]
    exact ⟨rfl, .inl rfl⟩

theorem hasProperties_of_keys {node other : Node}
    (same : Assoc.keys node.propertyList = Assoc.keys other.propertyList) :
    node.hasProperties = other.hasProperties := by
  have empty (table : Assoc Edge) : table.isEmpty = (Assoc.keys table).isEmpty := by cases table <;> rfl
  unfold Node.hasProperties
  rw [empty, empty, same]

theorem marks_closeObjects (inside : ∀ id ∈ merged.catalog.collections.objects, id < merged.graph.size) {id : Nat}
    (old : id < merged.graph.size) (marks : merged.closeObjects.Marks id) : merged.Marks id := by
  have sameBut := merged.closeObjects_sameBut
  have own := (merged.node_closeObjects old).1
  cases marks with
  | asked said =>
      rw [own] at said
      exact .asked said
  | @property owner key edge member declared inline unsaid optional =>
      rw [sameBut.collections] at member
      rw [own] at unsaid
      rw [(merged.node_closeObjects (inside owner member)).1] at declared optional
      exact .property member declared inline unsaid optional
  | @additional owner member led unrefused =>
      rw [sameBut.collections] at member
      rw [own] at unrefused
      rcases (merged.node_closeObjects (inside owner member)).2 with same | ⟨shut, _⟩
      · exact .additional member (same.symm.trans led) unrefused
      · cases shut.symm.trans led
  | @parameter parameter member place empty leads =>
      rw [sameBut.operations] at member
      exact .parameter member place empty leads

theorem wraps_congr {start other graph : Graph} {edge wrapper : Edge} (same : other.size = start.size)
    (wraps : Wraps start graph edge wrapper) : Wraps other graph edge wrapper := by
  obtain ⟨inline, added, source, marker, addedToo, shape⟩ := wraps
  exact ⟨inline, same ▸ added, source, marker, same ▸ addedToo, shape⟩

/-- The drafts from the end of inheritance on. -/
structure Finish (merged closed nulled final : Draft) : Prop where
  inside : ∀ id ∈ merged.catalog.collections.objects, id < merged.graph.size
  shut : merged.closeObjects = closed
  granted : closed.admitNull = nulled
  loose : nulled.loosenObjects = final

namespace Finish

variable {closed nulled : Draft} (finish : Finish merged closed nulled final) {id : Nat}

include finish

theorem closedBut : merged.SameBut closed := finish.shut ▸ merged.closeObjects_sameBut

theorem finalBut : nulled.SameBut final := finish.loose ▸ nulled.loosenObjects_sameBut

theorem collections : nulled.catalog.collections = merged.catalog.collections := by
  rw [← finish.closedBut.collections, ← finish.granted]
  rfl

theorem nulls : Nulled closed.graph closed.Marks nulled.graph ∧
    (∀ owner ∈ merged.catalog.collections.objects, ∀ key edge, Unsaid closed.graph owner key edge →
      Lenient closed.graph nulled.graph owner key) ∧
    ∀ owner ∈ merged.catalog.collections.objects, ∀ edge, Unrefused closed.graph owner edge →
      LenientBeyond closed.graph nulled.graph owner := by
  have closedBut := finish.closedBut
  rw [← finish.granted, ← closedBut.collections]
  refine closed.admitNull_nulled fun id member => ?_
  rw [closedBut.collections] at member
  exact closedBut.size.symm ▸ finish.inside id member

theorem adapted (old : id < merged.graph.size) :
    Adapted closed.graph closed.Marks nulled.graph id (nulled.graph.node id) :=
  finish.nulls.1.adapted id (finish.closedBut.size.symm ▸ old)

theorem size_le : merged.graph.size ≤ nulled.graph.size := finish.closedBut.size ▸ finish.nulls.1.size_le

theorem closing (old : id < merged.graph.size) :
    closed.graph.node id = { merged.graph.node id with additional := (closed.graph.node id).additional } ∧
      ((closed.graph.node id).additional = (merged.graph.node id).additional ∨
        (closed.graph.node id).additional = some (.allowed false) ∧ (merged.graph.node id).additional = none ∧
          (merged.graph.node id).tagMap = none ∧ merged.isBaseSchema id = false ∧
          (merged.graph.node id).hasProperties = true) := by
  rw [← finish.shut]
  exact merged.node_closeObjects old

theorem loosening (old : id < nulled.graph.size) :
    final.graph.node id = { nulled.graph.node id with typeName := (final.graph.node id).typeName } ∧
      ((final.graph.node id).typeName = (nulled.graph.node id).typeName ∨
        (final.graph.node id).typeName = none ∧ (nulled.graph.node id).typeName = some "object" ∧
          (nulled.graph.node id).hasProperties = false ∧ (nulled.graph.node id).additional = none) := by
  rw [← finish.loose]
  exact nulled.node_loosenObjects old

theorem additional (old : id < merged.graph.size) :
    (final.graph.node id).additional = (nulled.graph.node id).additional := by
  rw [(finish.loosening (Nat.lt_of_lt_of_le old finish.size_le)).1]

/-- What was added is not among the collected objects, so nothing happens to it any more. -/
theorem node_of_added (added : merged.graph.size ≤ id) : final.graph.node id = nulled.graph.node id := by
  have absent : id ∉ nulled.catalog.collections.objects := by
    rw [finish.collections]
    exact fun member => absurd (finish.inside id member) (Nat.not_lt.mpr added)
  rw [← finish.loose, nulled.node_loosenObjects_of_notMem absent]

theorem wraps {edge wrapper : Edge} (wraps : Wraps closed.graph nulled.graph edge wrapper) :
    Wraps merged.graph final.graph edge wrapper := by
  have same := finish.closedBut.size
  refine wraps_congr same.symm (wraps.lasts fun id added _ => ?_)
  rw [finish.node_of_added (same ▸ added)]

theorem grants {edge : Edge} (grants : (nulled.graph.node edge.target).nullable = true ∨
    ∃ wrapped, Wraps closed.graph nulled.graph wrapped edge) :
    (final.graph.node edge.target).nullable = true ∨ ∃ wrapped, Wraps merged.graph final.graph wrapped edge := by
  refine grants.imp (fun nullable => ?_) fun ⟨wrapped, wraps⟩ => ⟨wrapped, finish.wraps wraps⟩
  have inside : edge.target < nulled.graph.size := by
    refine Nat.lt_of_not_le fun outside => ?_
    rw [Graph.node_of_size_le outside] at nullable
    cases nullable
  rw [(finish.loosening inside).1]
  exact nullable

theorem propertyList (old : id < merged.graph.size) :
    (final.graph.node id).propertyList = (nulled.graph.node id).propertyList ∧
      (closed.graph.node id).propertyList = (merged.graph.node id).propertyList := by
  rw [(finish.loosening (Nat.lt_of_lt_of_le old finish.size_le)).1, (finish.closing old).1]
  exact ⟨rfl, rfl⟩

theorem keys (old : id < merged.graph.size) :
    Assoc.keys (nulled.graph.node id).propertyList = Assoc.keys (merged.graph.node id).propertyList := by
  rw [(finish.adapted old).keys, (finish.propertyList old).2]

theorem typeName (old : id < merged.graph.size) :
    (final.graph.node id).typeName = (merged.graph.node id).typeName ∨
      (final.graph.node id).typeName = none ∧ (merged.graph.node id).typeName = some "object" ∧
        (merged.graph.node id).hasProperties = false ∧ (merged.graph.node id).additional = none := by
  have closing := finish.closing old
  have adapted := finish.adapted old
  have nulledType : (nulled.graph.node id).typeName = (merged.graph.node id).typeName := by
    rw [adapted.apart, closing.1]
  rcases (finish.loosening (Nat.lt_of_lt_of_le old finish.size_le)).2 with same | ⟨untyped, typed, bare, silent⟩
  · exact .inl (same.trans nulledType)
  · have bareToo := (hasProperties_of_keys (finish.keys old)).symm.trans bare
    refine .inr ⟨untyped, nulledType.symm.trans typed, bareToo, ?_⟩
    rcases adapted.additional with same | ⟨_, _, _, led, _⟩
    · rcases closing.2 with sameToo | ⟨_, silentToo, _⟩
      · rw [← sameToo, ← same, silent]
      · exact silentToo
    · cases silent.symm.trans led

theorem nullable (old : id < merged.graph.size) (nullable : (final.graph.node id).nullable = true) :
    (merged.graph.node id).nullable = true ∨ merged.Marks id := by
  rw [(finish.loosening (Nat.lt_of_lt_of_le old finish.size_le)).1] at nullable
  rcases (finish.adapted old).nullable nullable with before | marks
  · rw [(finish.closing old).1] at before
    exact .inl before
  · rw [← finish.shut] at marks
    exact .inr (marks_closeObjects finish.inside old marks)

theorem found (old : id < merged.graph.size) (key : String) :
    Assoc.find? (final.graph.node id).propertyList key = Assoc.find? (merged.graph.node id).propertyList key ∨
      key ∉ (merged.graph.node id).required ∧ ∃ edge wrapper, (key, edge) ∈ (merged.graph.node id).propertyList ∧
        Assoc.find? (final.graph.node id).propertyList key = some wrapper ∧
        Wraps merged.graph final.graph edge wrapper := by
  have sameRequired : (closed.graph.node id).required = (merged.graph.node id).required := by
    rw [(finish.closing old).1]
  obtain ⟨sameFinal, sameClosed⟩ := finish.propertyList old
  rw [sameFinal, ← sameClosed, ← sameRequired]
  exact ((finish.adapted old).found key).imp_right fun ⟨optional, edge, wrapper, declared, found, wraps⟩ =>
    ⟨optional, edge, wrapper, declared, found, finish.wraps wraps⟩

theorem ends (old : id < merged.graph.size) : Ends merged final id := by
  have closing := finish.closing old
  have adapted := finish.adapted old
  have loosening := finish.loosening (Nat.lt_of_lt_of_le old finish.size_le)
  refine ⟨?_, finish.typeName old, finish.nullable old, ?_, ?_, finish.found old, ?_⟩
  · rw [loosening.1, adapted.apart, closing.1]
  · have sameTable : (final.graph.node id).properties = (nulled.graph.node id).properties := by rw [loosening.1]
    rw [sameTable, adapted.tabled, closing.1]
  · rw [(finish.propertyList old).1, finish.keys old]
  · rw [finish.additional old]
    rcases adapted.additional with same | ⟨edge, wrapper, declared, led, wraps, reference⟩
    · rw [same]
      exact closing.2.imp_right .inl
    · refine .inr (.inr ⟨edge, wrapper, ?_, led, finish.wraps wraps, reference⟩)
      rcases closing.2 with sameToo | ⟨shut, _⟩
      · rw [← sameToo, declared]
      · cases shut.symm.trans declared

theorem closes (member : id ∈ merged.catalog.collections.objects) (silent : (merged.graph.node id).additional = none)
    (untagged : (merged.graph.node id).tagMap = none) (notBase : merged.isBaseSchema id = false)
    (declares : (merged.graph.node id).hasProperties = true) :
    (final.graph.node id).additional = some (.allowed false) := by
  have closing : (closed.graph.node id).additional = some (.allowed false) := by
    rw [← finish.shut, merged.node_closeObjects_of_mem member (finish.inside id member), notBase]
    exact Node.closed_of_silent silent untagged declares
  rw [finish.additional (finish.inside id member)]
  rcases (finish.adapted (finish.inside id member)).additional with same | ⟨_, _, led, _⟩
  · exact same.trans closing
  · cases closing.symm.trans led

theorem lenient {key : String} {edge : Edge} (member : id ∈ merged.catalog.collections.objects)
    (unsaid : Unsaid merged.graph id key edge) : Lenient merged.graph final.graph id key := by
  have closingOwner := (finish.closing unsaid.old).1
  have closingTarget := (finish.closing unsaid.oldTarget).1
  have unsaidClosed : Unsaid closed.graph id key edge := by
    refine ⟨finish.closedBut.size.symm ▸ unsaid.old, finish.closedBut.size.symm ▸ unsaid.oldTarget, ?_, ?_, ?_⟩
    · rw [closingOwner]
      exact unsaid.declared
    · rw [closingOwner]
      exact unsaid.optional
    · rw [closingTarget]
      exact unsaid.unsaid
  obtain ⟨wrapper, found, grants⟩ := finish.nulls.2.1 id member key edge unsaidClosed
  refine ⟨wrapper, ?_, finish.grants grants⟩
  rw [(finish.propertyList unsaid.old).1]
  exact found

theorem beyond {edge : Edge} (member : id ∈ merged.catalog.collections.objects)
    (unrefused : Unrefused merged.graph id edge) : LenientBeyond merged.graph final.graph id := by
  have closingTarget := (finish.closing unrefused.oldTarget).1
  have unrefusedClosed : Unrefused closed.graph id edge := by
    refine ⟨finish.closedBut.size.symm ▸ unrefused.old, finish.closedBut.size.symm ▸ unrefused.oldTarget, ?_, ?_⟩
    · rcases (finish.closing unrefused.old).2 with same | ⟨_, silent, _⟩
      · exact same.trans unrefused.declared
      · cases silent.symm.trans unrefused.declared
    · rw [closingTarget]
      exact unrefused.unrefused
  obtain ⟨wrapper, found, grants⟩ := finish.nulls.2.2 id member edge unrefusedClosed
  exact ⟨wrapper, (finish.additional unrefused.old).trans found, finish.grants grants⟩

end Finish

theorem last_passes (inside : ∀ id ∈ merged.catalog.collections.objects, id < merged.graph.size) :
    Last merged merged.closeObjects.admitNull.loosenObjects := by
  have finish : Finish merged merged.closeObjects merged.closeObjects.admitNull
      merged.closeObjects.admitNull.loosenObjects := ⟨inside, rfl, rfl, rfl⟩
  exact {
    size_le := finish.finalBut.size ▸ finish.size_le
    collections := finish.finalBut.collections.trans finish.collections
    deferred := finish.finalBut.deferred.trans finish.closedBut.deferred
    ends := fun _ old => finish.ends old
    closes := fun _ member => finish.closes member
    lenient := fun _ member _ _ unsaid => finish.lenient member unsaid
    beyond := fun _ member _ unrefused => finish.beyond member unrefused }

end Draft

end ApiContract
