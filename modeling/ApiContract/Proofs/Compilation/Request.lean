import ApiContract.Proofs.Compilation.Assembly

/-!
The clauses of requests. The first one asks for the body, and one for each slot asks for the parameters that are sent in
it (`Layout`).
-/

namespace ApiContract

open Validator (Arena Clause)

/-- The parameter is sent in the slot, under the key. -/
structure Parameter.Stands (parameter : Parameter) (slot key : String) : Prop where
  place : parameter.place ≠ .body
  slot : parameter.place.slot = slot
  key : parameter.key = key

theorem ParameterPlace.slot_ne_body {place : ParameterPlace} (other : place ≠ .body) : place.slot ≠ "body" := by
  cases place <;> simp_all [slot]

namespace Validator.Clause

variable {clause : Clause} {source : SourceLocation} {name key : String} {child : Nat} {required : Bool}

/-- The clause of a message or of a slot, which may declare members and require them. -/
def Blank (source : SourceLocation) (clause : Clause) : Prop :=
  clause = { Clause.object source with properties := clause.properties, required := clause.required }

theorem blank_object (source : SourceLocation) : Blank source (Clause.object source) := rfl

theorem Blank.declare (blank : clause.Blank source) : (clause.declare name child required).Blank source := by
  unfold Blank at blank ⊢
  rw [Clause.declare, blank]

end Validator.Clause

namespace Assembly

variable {catalog : Schema.Catalog} {source : SourceLocation} {done : List Parameter} {parameter : Parameter}
  {before after : Arena} {assembly next : Assembly} {name : String} {parent child slot place : Nat} {required : Bool}

/-- The clause of a slot asks for the parameters that are sent in it. -/
structure Slotted (source : SourceLocation) (done : List Parameter) (arena : Arena) (name : String) (slot : Nat) :
    Prop where
  other : slot ≠ 0
  inside : slot < arena.clauses.size
  blank : (arena.clauses.getD slot {}).Blank source
  required : ∀ key, key ∈ (arena.clauses.getD slot {}).required ↔
    ∃ parameter ∈ done, parameter.Stands name key ∧ parameter.required = true
  leads : ∀ key child, (arena.clauses.getD slot {}).property? key = some child →
    ∃ parameter ∈ done, parameter.Stands name key ∧ arena.Slot parameter.schema.target child

theorem Slotted.keep (slotted : Slotted source done before name slot) (kept : before.slots ⊆ after.slots)
    (size : before.clauses.size ≤ after.clauses.size)
    (same : after.clauses.getD slot {} = before.clauses.getD slot {}) : Slotted source done after name slot where
  other := slotted.other
  inside := Nat.lt_of_lt_of_le slotted.inside size
  blank := by
    rw [same]
    exact slotted.blank
  required key := by
    rw [same]
    exact slotted.required key
  leads key child declared := by
    rw [same] at declared
    obtain ⟨parameter, member, stands, placed⟩ := slotted.leads key child declared
    exact ⟨parameter, member, stands, kept placed⟩

/-- A parameter that is sent elsewhere is of no interest to a slot. -/
theorem Slotted.elsewhere (slotted : Slotted source done after name slot) (absent : ∀ key, ¬parameter.Stands name key) :
    Slotted source (done ++ [parameter]) after name slot where
  other := slotted.other
  inside := slotted.inside
  blank := slotted.blank
  required key := by
    rw [slotted.required key]
    simp [or_and_right, exists_or, absent key]
  leads key child declared := by
    obtain ⟨parameter, member, stands, placed⟩ := slotted.leads key child declared
    exact ⟨parameter, List.mem_append_left _ member, stands, placed⟩

theorem Slotted.add (slotted : Slotted source done before name slot) (place : parameter.place ≠ .body)
    (own : parameter.place.slot = name) (placed : before.Slot parameter.schema.target child) {result : Unit}
    (ran : (addProperty slot parameter.key child parameter.required).run before = .ok (result, after)) :
    Slotted source (done ++ [parameter]) after name slot := by
  obtain ⟨slots, size, declared, _⟩ := addProperty_run slotted.inside ran
  have stands (key : String) : parameter.Stands name key ↔ key = parameter.key := by
    constructor
    · exact fun stands => stands.key.symm
    · rintro rfl
      exact ⟨place, own, rfl⟩
  refine ⟨slotted.other, size ▸ slotted.inside, ?_, ?_, ?_⟩
  · rw [declared]
    exact slotted.blank.declare
  · intro key
    rw [declared, Clause.mem_required_declare, slotted.required key]
    simp [or_and_right, exists_or, stands]
  · intro key found member
    rw [declared] at member
    by_cases same : key = parameter.key
    · subst same
      rw [Clause.property?_declare_self] at member
      cases member
      exact ⟨parameter, List.mem_append_right _ List.mem_cons_self, ⟨place, own, rfl⟩, slots placed⟩
    · rw [Clause.property?_declare_of_ne same] at member
      obtain ⟨earlier, among, standsToo, placedToo⟩ := slotted.leads key found member
      exact ⟨earlier, List.mem_append_left _ among, standsToo, slots placedToo⟩

/-- The clauses of a request, for the parameters that were added so far. -/
structure Layout (source : SourceLocation) (done : List Parameter) (arena : Arena) (assembly : Assembly) : Prop where
  inside : 0 < arena.clauses.size
  blank : (arena.clauses.getD 0 {}).Blank source
  required : ∀ key, key ∈ (arena.clauses.getD 0 {}).required ↔
    key = "body" ∧ ∃ parameter ∈ done, parameter.place = .body ∧ parameter.required = true
  leads : ∀ key child, (arena.clauses.getD 0 {}).property? key = some child →
    key = "body" ∨ Assoc.find? assembly.slots key = some child
  declared : ∀ name slot, Assoc.find? assembly.slots name = some slot →
    name ≠ "body" ∧ (arena.clauses.getD 0 {}).property? name = some slot
  slots : ∀ name slot, Assoc.find? assembly.slots name = some slot → Slotted source done arena name slot
  distinct : ∀ name other slot, Assoc.find? assembly.slots name = some slot →
    Assoc.find? assembly.slots other = some slot → name = other
  opened : ∀ parameter ∈ done, parameter.place ≠ .body → (Assoc.find? assembly.slots parameter.place.slot).isSome = true

namespace Layout

theorem start (source : SourceLocation) : Layout source [] { clauses := #[Clause.object source] } {} where
  inside := Nat.zero_lt_one
  blank := Clause.blank_object source
  required key := by simp [Array.getD, Clause.object]
  leads key child declared := by cases declared
  declared name slot found := by cases found
  slots name slot found := by cases found
  distinct name other slot found := by cases found
  opened parameter none := nomatch none

theorem keep (layout : Layout source done before assembly) (kept : before.slots ⊆ after.slots)
    (size : before.clauses.size ≤ after.clauses.size)
    (same : ∀ place, place < before.clauses.size → after.clauses.getD place {} = before.clauses.getD place {}) :
    Layout source done after assembly where
  inside := Nat.lt_of_lt_of_le layout.inside size
  blank := by
    rw [same 0 layout.inside]
    exact layout.blank
  required key := by
    rw [same 0 layout.inside]
    exact layout.required key
  leads key child declared := by
    rw [same 0 layout.inside] at declared
    exact layout.leads key child declared
  declared name slot found := by
    rw [same 0 layout.inside]
    exact layout.declared name slot found
  slots name slot found :=
    have slotted := layout.slots name slot found
    slotted.keep kept size (same slot slotted.inside)
  distinct := layout.distinct
  opened := layout.opened

theorem compile {id : Nat} (layout : Layout source done before assembly)
    (ran : (Validator.compile catalog id).run before = .ok (place, after)) : Layout source done after assembly := by
  obtain ⟨_, fills⟩ := Validator.compile_fills ran
  exact layout.keep fills.kept fills.size fills.old

theorem push (layout : Layout source done before assembly) (clause : Clause) :
    Layout source done { before with clauses := before.clauses.push clause } assembly := by
  refine layout.keep (List.Subset.refl _) (by simp) ?_
  intro place inside
  exact Validator.getD_push_of_lt clause inside

theorem fresh_slotted (layout : Layout source done before assembly) (fresh : Assoc.find? assembly.slots name = none) :
    Slotted source done { before with clauses := before.clauses.push (Clause.object source) } name
      before.clauses.size := by
  have own : (before.clauses.push (Clause.object source)).getD before.clauses.size {} = Clause.object source := by
    simp [Array.getD]
  refine ⟨Nat.ne_of_gt layout.inside, by simp, ?_, ?_, ?_⟩
  · rw [own]
    exact Clause.blank_object source
  · intro key
    rw [own]
    refine iff_of_false List.not_mem_nil ?_
    rintro ⟨parameter, member, stands, _⟩
    have opened := layout.opened parameter member stands.place
    rw [stands.slot, fresh] at opened
    cases opened
  · intro key child declared
    rw [own] at declared
    cases declared

theorem opens (layout : Layout source done before assembly) (apart : name ≠ "body")
    (ran : (assembly.slot source 0 name).run before = .ok ((place, next), after)) :
    Layout source done after next ∧ Assoc.find? next.slots name = some place ∧ before.slots ⊆ after.slots := by
  unfold Assembly.slot at ran
  split at ran
  next found =>
    cases ran
    exact ⟨layout, found, List.Subset.refl _⟩
  next fresh =>
    obtain ⟨slot, pushed, pushing, rest⟩ := (StateT.run_bind_eq_ok _ _ _ _).mp ran
    obtain ⟨_, later, added, answered⟩ := (StateT.run_bind_eq_ok _ _ _ _).mp rest
    cases answered
    cases pushing
    have pushed := layout.push (Clause.object source)
    have slotted := layout.fresh_slotted fresh
    obtain ⟨slots, size, declared, others⟩ := addProperty_run pushed.inside added
    have known (other : String) (found : Nat) :
        Assoc.find? (Assoc.insert assembly.slots name before.clauses.size) other = some found ↔
          other = name ∧ found = before.clauses.size ∨
            other ≠ name ∧ Assoc.find? assembly.slots other = some found := by
      by_cases same : other = name
      · subst same
        rw [Assoc.find?_insert_self]
        simp [eq_comm]
      · rw [Assoc.find?_insert_of_ne _ _ same]
        simp [same]
    have below (other : String) (found : Nat) (listed : Assoc.find? assembly.slots other = some found) :
        found < before.clauses.size := (layout.slots other found listed).inside
    refine ⟨⟨size ▸ pushed.inside, ?_, ?_, ?_, ?_, ?_, ?_, ?_⟩, Assoc.find?_insert_self _ _ _, slots⟩
    · rw [declared]
      exact pushed.blank.declare
    · intro key
      rw [declared, Clause.mem_required_declare, pushed.required key]
      simp
    · intro key child listed
      rw [declared] at listed
      rw [known]
      by_cases same : key = name
      · subst same
        rw [Clause.property?_declare_self] at listed
        cases listed
        exact .inr (.inl ⟨rfl, rfl⟩)
      · rw [Clause.property?_declare_of_ne same] at listed
        exact (pushed.leads key child listed).imp_right fun found => .inr ⟨same, found⟩
    · intro other found listed
      rw [declared]
      rcases (known other found).mp listed with ⟨rfl, rfl⟩ | ⟨different, old⟩
      · exact ⟨apart, Clause.property?_declare_self⟩
      · rw [Clause.property?_declare_of_ne different]
        exact pushed.declared other found old
    · intro other found listed
      rcases (known other found).mp listed with ⟨rfl, rfl⟩ | ⟨different, old⟩
      · exact slotted.keep slots (Nat.le_of_eq size.symm) (others _ slotted.other)
      · have slotted := pushed.slots other found old
        exact slotted.keep slots (Nat.le_of_eq size.symm) (others _ slotted.other)
    · intro first second found listed listedToo
      rcases (known first found).mp listed with ⟨rfl, rfl⟩ | ⟨_, old⟩
      · rcases (known second _).mp listedToo with ⟨rfl, _⟩ | ⟨_, old⟩
        · rfl
        · exact absurd (below second _ old) (Nat.lt_irrefl _)
      · rcases (known second found).mp listedToo with ⟨_, rfl⟩ | ⟨_, oldToo⟩
        · exact absurd (below first _ old) (Nat.lt_irrefl _)
        · exact layout.distinct first second found old oldToo
    · intro parameter member notBody
      change (Assoc.find? (Assoc.insert assembly.slots name before.clauses.size) parameter.place.slot).isSome = true
      by_cases same : parameter.place.slot = name
      · rw [same, Assoc.find?_insert_self]
        rfl
      · rw [Assoc.find?_insert_of_ne _ _ same]
        exact layout.opened parameter member notBody

theorem congr (layout : Layout source done after assembly) (same : next.slots = assembly.slots) :
    Layout source done after next where
  inside := layout.inside
  blank := layout.blank
  required := layout.required
  leads := same ▸ layout.leads
  declared := same ▸ layout.declared
  slots := same ▸ layout.slots
  distinct := same ▸ layout.distinct
  opened := same ▸ layout.opened

theorem addBody (layout : Layout source done before assembly) (body : parameter.place = .body) {result : Unit}
    (ran : (addProperty 0 "body" child parameter.required).run before = .ok (result, after)) :
    Layout source (done ++ [parameter]) after assembly := by
  obtain ⟨kept, size, declared, others⟩ := addProperty_run layout.inside ran
  refine ⟨size ▸ layout.inside, ?_, ?_, ?_, ?_, ?_, layout.distinct, ?_⟩
  · rw [declared]
    exact layout.blank.declare
  · intro key
    rw [declared, Clause.mem_required_declare, layout.required key]
    simp [or_and_right, exists_or, body, and_or_left]
  · intro key found listed
    rw [declared] at listed
    by_cases same : key = "body"
    · exact .inl same
    · rw [Clause.property?_declare_of_ne same] at listed
      exact layout.leads key found listed
  · intro name slot found
    obtain ⟨apart, listed⟩ := layout.declared name slot found
    rw [declared, Clause.property?_declare_of_ne apart]
    exact ⟨apart, listed⟩
  · intro name slot found
    have slotted := layout.slots name slot found
    refine (slotted.keep kept (Nat.le_of_eq size.symm) (others slot slotted.other)).elsewhere ?_
    exact fun key stands => stands.place body
  · intro other member notBody
    rcases List.mem_append.mp member with earlier | last
    · exact layout.opened other earlier notBody
    · rw [List.mem_singleton.mp last] at notBody
      exact absurd body notBody

theorem addSlotted (layout : Layout source done before assembly) (notBody : parameter.place ≠ .body)
    (found : Assoc.find? assembly.slots parameter.place.slot = some slot)
    (placed : before.Slot parameter.schema.target child) {result : Unit}
    (ran : (addProperty slot parameter.key child parameter.required).run before = .ok (result, after)) :
    Layout source (done ++ [parameter]) after assembly := by
  have own := layout.slots _ _ found
  obtain ⟨kept, size, _, others⟩ := addProperty_run own.inside ran
  have root := others 0 own.other.symm
  refine ⟨size ▸ layout.inside, ?_, ?_, ?_, ?_, ?_, layout.distinct, ?_⟩
  · rw [root]
    exact layout.blank
  · intro key
    rw [root, layout.required key]
    simp [or_and_right, exists_or, notBody]
  · intro key child listed
    rw [root] at listed
    exact layout.leads key child listed
  · rw [root]
    exact layout.declared
  · intro name other listed
    by_cases same : name = parameter.place.slot
    · subst same
      cases found.symm.trans listed
      exact own.add notBody rfl placed ran
    · have slotted := layout.slots name other listed
      have different : other ≠ slot := by
        rintro rfl
        exact same (layout.distinct _ _ _ listed found)
      refine (slotted.keep kept (Nat.le_of_eq size.symm) (others other different)).elsewhere ?_
      exact fun key stands => same stands.slot.symm
  · intro other member notBody
    rcases List.mem_append.mp member with earlier | last
    · exact layout.opened other earlier notBody
    · rw [List.mem_singleton.mp last, found]
      rfl

theorem addParameter {wanted : Nat → Prop} (layout : Layout source done before assembly)
    (fits : Fits catalog wanted 0 before assembly)
    (ran : (addParameter catalog source 0 assembly parameter).run before = .ok (next, after)) :
    Layout source (done ++ [parameter]) after next := by
  obtain ⟨schema, compiled, compiling, rest⟩ := (StateT.run_bind_eq_ok _ _ _ _).mp ran
  obtain ⟨_, _, placed⟩ := fits.compile compiling
  have compiledLayout := layout.compile compiling
  split at rest
  next body =>
    obtain ⟨_, later, added, answered⟩ := (StateT.run_bind_eq_ok _ _ _ _).mp rest
    cases answered
    exact (compiledLayout.addBody body added).congr rfl
  next notBody =>
    obtain ⟨⟨place, slotted⟩, middle, slotting, rest⟩ := (StateT.run_bind_eq_ok _ _ _ _).mp rest
    obtain ⟨_, later, added, answered⟩ := (StateT.run_bind_eq_ok _ _ _ _).mp rest
    obtain ⟨opened, found, kept⟩ := compiledLayout.opens (ParameterPlace.slot_ne_body notBody) slotting
    have layoutLater := opened.addSlotted notBody found (kept placed) added
    split at answered
    · cases answered
      exact layoutLater
    · cases answered
      exact layoutLater.congr (addCoercion_slots ..)

end Layout

end Assembly

/-- The table of a request that was assembled for an operation. -/
structure MessageValidator.Asks (catalog : Schema.Catalog) (source : SourceLocation) (checked : List Parameter)
    (message : MessageValidator) (arena : Arena) (assembly : Assembly) : Prop where
  sound : arena.Sound catalog []
  layout : Assembly.Layout source checked arena assembly
  validator : message.validator = { clauses := arena.clauses, root := 0 }

theorem MessageValidator.ofOperation_asks {catalog : Schema.Catalog} {skipTrivial : Bool} {operation : Operation}
    {message : MessageValidator} (assembled : ofOperation catalog skipTrivial operation = .ok message) :
    ∃ arena assembly, Asks catalog (Assembly.sourceOf operation.key) (operation.checked skipTrivial) message arena
      assembly := by
  obtain ⟨assembly, arena, ran, rfl⟩ := ofOperation_eq_ok assembled
  obtain ⟨fits, layout⟩ := Assembly.foldlM_along (fun done arena assembly =>
      Assembly.Fits catalog (fun _ => True) 0 arena assembly ∧
        Assembly.Layout (Assembly.sourceOf operation.key) done arena assembly)
    ⟨Assembly.fits_start catalog _ _, .start _⟩
    (fun _ _ _ _ _ _ _ both ran => ⟨Assembly.addParameter_fits trivial both.1 ran, both.2.addParameter both.1 ran⟩) ran
  exact ⟨arena, assembly, fits.sound, layout, rfl⟩

end ApiContract
