import ApiContract.Proofs.Compilation.Success

/-!
What a compilation on its own answers. It succeeds exactly if nothing that is reached is broken, and then its table
has one complete clause for each schema that is reached, and no other (`compile_portrays`).
-/

namespace ApiContract

open Json (Value)

theorem Check.exists_compileAll_iff (constraints : Assoc Value) (location : String) :
    (∃ checks, compileAll constraints location = .ok checks) ↔
      ∀ entry ∈ constraints, ∃ check, ofKeyword constraints entry.1 entry.2 = .ok check := by
  rw [← Except.exists_mapM_iff]
  unfold compileAll
  cases constraints.mapM fun entry => ofKeyword constraints entry.1 entry.2 with
  | error fault => exact iff_of_false nofun nofun
  | ok checks => exact iff_of_true ⟨_, rfl⟩ ⟨checks, rfl⟩

namespace Validator

open Schema (Node Catalog)

/-- A list of mutabilities names one that there is, so that the value may be sent in some direction. -/
def Sendable (node : Node) : Prop :=
  ∀ names, node.mutability = some names → "create" ∈ names ∨ "update" ∈ names ∨ "read" ∈ names

theorem exists_accessOf_iff (node : Node) (location : String) :
    (∃ access, accessOf node location = .ok access) ↔ Sendable node := by
  unfold accessOf Sendable
  cases node.mutability with
  | none => exact iff_of_true ⟨_, rfl⟩ nofun
  | some names =>
      dsimp only
      split
      next allowed => exact iff_of_true ⟨_, rfl⟩ (by simpa [or_assoc] using allowed)
      next refused => exact iff_of_false nofun (by simpa [or_assoc] using refused)

/-- The schema has no deferred error and none of its own: its mutabilities allow a direction, and its limits are
values that their keywords accept. -/
structure Compilable (catalog : Catalog) (id : Nat) : Prop where
  unbroken : catalog.deferred.find? id = none
  sendable : Sendable (catalog.graph.node id)
  limits : ∀ entry ∈ (catalog.graph.node id).constraints,
    ∃ check, Check.ofKeyword (catalog.graph.node id).constraints entry.1 entry.2 = .ok check

theorem exists_bareOf_iff (node : Node) :
    (∃ clause, bareOf node = .ok clause) ↔
      Sendable node ∧ ∀ entry ∈ node.constraints,
        ∃ check, Check.ofKeyword node.constraints entry.1 entry.2 = .ok check := by
  rw [← exists_accessOf_iff node node.source.location, ← Check.exists_compileAll_iff _ node.source.location]
  constructor
  · rintro ⟨clause, bared⟩
    obtain ⟨_, _, _, _, _, accessed, checked⟩ := Depicts.bareOf_eq_ok bared
    exact ⟨⟨_, accessed⟩, _, checked⟩
  · rintro ⟨⟨access, accessed⟩, checks, checked⟩
    refine ⟨_, (Except.bind_eq_ok _ _ _).mpr ⟨access, accessed, (Except.bind_eq_ok _ _ _).mpr ⟨checks, ?_, rfl⟩⟩⟩
    rw [checked]
    rfl

theorem sane_iff_compilable {catalog : Catalog} {id : Nat} : Sane catalog id ↔ Compilable catalog id := by
  constructor
  · rintro ⟨unbroken, bare⟩
    obtain ⟨sendable, limits⟩ := (exists_bareOf_iff _).mp bare
    exact ⟨unbroken, sendable, limits⟩
  · rintro ⟨unbroken, sendable, limits⟩
    exact ⟨unbroken, (exists_bareOf_iff _).mpr ⟨sendable, limits⟩⟩

theorem accessOf_refuses {node : Node} {location : String} {reason : Interruption}
    (failed : accessOf node location = .error reason) : ∃ error, reason = .refused error := by
  unfold accessOf at failed
  split at failed
  · cases failed
  · dsimp only at failed
    split at failed
    · cases failed
    · cases failed
      exact ⟨_, rfl⟩

/-- A fault lies in the documents and is never a lack of steps. -/
theorem Faulty.refused {catalog : Catalog} {id : Nat} {reason : Interruption} (faulty : Faulty catalog id reason) :
    ∃ error, reason = .refused error := by
  rcases faulty with ⟨_⟩ | own
  · exact ⟨_, rfl⟩
  · rcases (Except.bind_eq_error _ _ _).mp own with denied | ⟨access, _, later⟩
    · exact accessOf_refuses denied
    · rcases (Except.bind_eq_error _ _ _).mp later with refused | ⟨_, _, ⟨⟩⟩
      cases checked : Check.compileAll (catalog.graph.node id).constraints (catalog.graph.node id).source.location with
      | error error =>
          rw [checked] at refused
          cases refused
          exact ⟨error, rfl⟩
      | ok checks =>
          rw [checked] at refused
          cases refused

/-- The arena has one complete clause for each schema that is wanted and no other clauses. Below a clause are the
clauses of the schemas that its own schema leads to. -/
structure Arena.Portrays (catalog : Catalog) (wanted : Nat → Prop) (arena : Arena) : Prop where
  placed : ∀ id, wanted id ↔ ∃ place, arena.slot? id = some place
  inside : ∀ id place, arena.slot? id = some place → place < arena.clauses.size
  owned : ∀ place < arena.clauses.size, ∃! id, arena.slot? id = some place
  depicts : ∀ id place, arena.slot? id = some place →
    Depicts (fun target child => arena.slot? target = some child ∧ child < arena.clauses.size)
      (catalog.graph.node id) (arena.clauses.getD place {})

theorem Arena.Sound.portrays {catalog : Catalog} {wanted : Nat → Prop} {arena : Arena}
    (sound : Arena.Sound catalog [] arena) (fills : Arena.Fills wanted {} arena)
    (covers : ∀ id, wanted id → ∃ place, arena.Slot id place) : arena.Portrays catalog wanted := by
  have slotted (id place : Nat) : arena.slot? id = some place ↔ arena.Slot id place :=
    Arena.slot?_eq_some arena sound.ids id place
  refine ⟨fun id => ?_, fun id place => ?_, fun place below => ?_, fun id place => ?_⟩
  · simp only [slotted]
    refine ⟨covers id, ?_⟩
    rintro ⟨place, placed⟩
    exact (fills.wanted id place placed).resolve_left List.not_mem_nil
  · rw [slotted]
    exact sound.place_lt_size
  · obtain ⟨id, placed⟩ := (fills.taken place below).resolve_left (Nat.not_lt_zero place)
    refine ⟨id, (slotted id place).mpr placed, fun other placedToo => ?_⟩
    exact sound.id_inj ((slotted other place).mp placedToo) placed
  · rw [slotted]
    intro placed
    refine (sound.depicts id place placed List.not_mem_nil).mono fun target child below => ?_
    exact ⟨(slotted target child).mpr below, sound.place_lt_size below⟩

/-- A compilation on its own succeeds exactly if no schema that is reached has a deferred error or one of its own. Its
arena then portrays the schemas that are reached; otherwise it fails with an error of one of them. -/
theorem compile_portrays (catalog : Catalog) (id : Nat) :
    let reaches := Relation.ReflTransGen (Leads catalog) id
    ((∃ root arena, (compile catalog id).run {} = .ok (root, arena)) ↔
      ∀ other, reaches other → Compilable catalog other) ∧
    (∀ root arena, (compile catalog id).run {} = .ok (root, arena) →
      arena.slot? id = some root ∧ arena.Portrays catalog reaches) ∧
    ∀ reason, (compile catalog id).run {} = .error reason →
      ∃ error other, reason = .refused error ∧ reaches other ∧ Faulty catalog other reason := by
  intro reaches
  refine ⟨⟨?_, fun compilable => ?_⟩, fun root arena ran => ?_, fun reason ran => ?_⟩
  · rintro ⟨root, arena, ran⟩ other reached
    obtain ⟨sound, placed⟩ := compile_sound ran
    obtain ⟨place, slotted⟩ := (sound.mirror placed).reached placed reached
    exact sane_iff_compilable.mp ((sound.mirror placed).sane slotted)
  · exact compile_succeeds fun other reached => sane_iff_compilable.mpr (compilable other reached)
  · obtain ⟨sound, placed⟩ := compile_sound ran
    have fills := (compile_ends catalog id).fills (List.Subset.refl _) ran
    refine ⟨(Arena.slot?_eq_some arena sound.ids id root).mpr placed, sound.portrays fills fun other reached => ?_⟩
    exact (sound.mirror placed).reached placed reached
  · obtain ⟨other, reached, faulty⟩ := (compile_ends catalog id).fails (List.Subset.refl _) ran
    obtain ⟨error, rfl⟩ := faulty.refused
    exact ⟨error, other, rfl, reached, faulty⟩

end Validator

end ApiContract
