import ApiContract.Proofs.Compilation.Mirror

/-!
Compilation is correct: what it answers is a table that mirrors the graph.
-/

namespace ApiContract.Validator

open Schema (Node Catalog)

variable {α β : Type} {catalog : Catalog} {pending : List Nat}

/-- Runs keep arenas sound and places taken, and answer what is asked for. -/
def Compiles (catalog : Catalog) (pending : List Nat) (compiling : Compiling α) (good : Arena → α → Prop) :
    Prop :=
  ∀ before result after, Arena.Sound catalog pending before → compiling.run before = .ok (result, after) →
    Arena.Sound catalog pending after ∧ before.Extends after ∧ good after result

/-- What holds of an arena holds once it has grown. -/
def Lasting (good : Arena → α → Prop) : Prop :=
  ∀ before after result, before.Extends after → good before result → good after result

theorem lasting_slot (id : Nat) : Lasting fun arena place => arena.Slot id place :=
  fun _ _ _ grown placed => grown.slots placed

namespace Compiles

variable {good : Arena → α → Prop} {goodNext : Arena → β → Prop}

theorem pure {result : α} (holds : ∀ arena, good arena result) :
    Compiles catalog pending (pure result) good := by
  intro before _ _ sound ran
  cases ran
  exact ⟨sound, .refl _, holds before⟩

theorem bind {compiling : Compiling α} {next : α → Compiling β} (compiles : Compiles catalog pending compiling good)
    (lasting : Lasting good)
    (compilesNext : ∀ result, Compiles catalog pending (next result) fun arena last =>
      good arena result → goodNext arena last) :
    Compiles catalog pending (compiling >>= next) goodNext := by
  intro before last after sound ran
  obtain ⟨result, middle, first, later⟩ := (StateT.run_bind_eq_ok _ _ _ _).mp ran
  obtain ⟨soundMiddle, grown, holds⟩ := compiles before result middle sound first
  obtain ⟨soundAfter, grownAfter, holdsNext⟩ := compilesNext result middle last after soundMiddle later
  exact ⟨soundAfter, grown.trans grownAfter, holdsNext (lasting _ _ _ grownAfter holds)⟩

theorem imp {more : Arena → α → Prop} {compiling : Compiling α} (compiles : Compiles catalog pending compiling good)
    (weaker : ∀ arena result, good arena result → more arena result) :
    Compiles catalog pending compiling more := by
  intro before result after sound ran
  obtain ⟨soundAfter, grown, holds⟩ := compiles before result after sound ran
  exact ⟨soundAfter, grown, weaker _ _ holds⟩

theorem lift (outcome : Except Interruption α) :
    Compiles catalog pending (liftM outcome) fun _ result => outcome = .ok result := by
  intro before result after sound ran
  cases outcome with
  | error reason => cases ran
  | ok value =>
      cases ran
      exact ⟨sound, .refl _, rfl⟩

theorem some {compiling : Compiling α} (compiles : Compiles catalog pending compiling good)
    (lasting : Lasting good) :
    Compiles catalog pending (some <$> compiling) fun arena result => ∃ value, result = .some value ∧ good arena value := by
  rw [map_eq_pure_bind]
  exact .bind compiles lasting fun result => .pure fun arena holds => ⟨result, rfl, holds⟩

theorem mapM {items : List β} {visit : β → Compiling α} {each : Arena → β → α → Prop}
    (compiles : ∀ item ∈ items, Compiles catalog pending (visit item) fun arena result => each arena item result)
    (lasting : ∀ item, Lasting fun arena result => each arena item result) :
    Compiles catalog pending (items.mapM visit) fun arena results => List.Forall₂ (each arena) items results := by
  induction items with
  | nil =>
      rw [List.mapM_nil]
      exact .pure fun _ => .nil
  | cons item rest ih =>
      rw [List.mapM_cons]
      refine .bind (compiles item List.mem_cons_self) (lasting item) fun result => ?_
      refine .bind (ih fun item member => compiles item (List.mem_cons_of_mem _ member)) ?_ fun results => ?_
      · intro before after results grown holds
        exact holds.imp fun item result => lasting item before after result grown
      · exact .pure fun _ others head => .cons head others

end Compiles

section

variable {node : Node} {child : Nat → Compiling Nat}

theorem undeclaredOf_compiles
    (compiles : ∀ id, Compiles catalog pending (child id) fun arena place => arena.Slot id place) :
    Compiles catalog pending (undeclaredOf node child) fun arena undeclared =>
      Option.Rel (Undeclared.Depicts arena.Slot) node.additional undeclared := by
  unfold undeclaredOf
  rcases node.additional with _ | ⟨flag | edge⟩
  · exact .pure fun _ => .none
  · exact .pure fun _ => .some (.allowed flag)
  · exact .bind (compiles edge.target) (lasting_slot _) fun place => .pure fun _ placed => .some (.clause placed)

theorem dispatchOf_compiles
    (compiles : ∀ id, Compiles catalog pending (child id) fun arena place => arena.Slot id place) :
    Compiles catalog pending (dispatchOf node child) fun arena dispatch =>
      Option.Rel (fun routing dispatch => routing.1 = dispatch.property ∧
        List.Forall₂ (fun entry other => entry.1 = other.1 ∧ Option.Rel arena.Slot entry.2 other.2)
          routing.2 dispatch.variants) node.routing? dispatch := by
  unfold dispatchOf Node.routing?
  rcases node.discriminator with _ | property
  · exact .pure fun _ => .none
  rcases node.tagMap with _ | tags
  · exact .pure fun _ => .none
  have entries {visit : String × Option Nat → Compiling (String × Option Nat)}
      (each : ∀ entry, Compiles catalog pending (visit entry) fun arena other =>
        entry.1 = other.1 ∧ Option.Rel arena.Slot entry.2 other.2) :
      Compiles catalog pending (tags.mapM visit) fun arena variants => List.Forall₂ (fun entry other =>
        entry.1 = other.1 ∧ Option.Rel arena.Slot entry.2 other.2) tags variants := by
    refine .mapM (fun entry _ => each entry) ?_
    rintro item before after result grown ⟨tag, placed⟩
    exact ⟨tag, placed.imp fun _ _ member => grown.slots member⟩
  refine .bind (entries ?_) ?_ fun variants => .pure fun _ holds => .some ⟨rfl, holds⟩
  · rintro ⟨tag, variant⟩
    cases variant with
    | none => exact .pure fun _ => ⟨rfl, .none⟩
    | some id =>
        exact .bind (compiles id) (lasting_slot id) fun place => .pure fun _ placed => ⟨rfl, .some placed⟩
  · intro before after variants grown holds
    exact holds.imp fun _ _ entry => ⟨entry.1, entry.2.imp fun _ _ member => grown.slots member⟩

def propertiesOf (node : Node) (child : Nat → Compiling Nat) : Compiling (Option (Assoc Nat)) :=
  match node.properties with
  | some entries => some <$> entries.mapM fun entry => do return (entry.1, ← child entry.2.target)
  | none => return none

def itemsOf (node : Node) (child : Nat → Compiling Nat) : Compiling (Option Nat) :=
  match node.items with
  | some edge => some <$> child edge.target
  | none => return none

def branchesOf (edges : Option (List Schema.Edge)) (child : Nat → Compiling Nat) : Compiling (List Nat) :=
  (edges.getD []).mapM fun edge => child edge.target

/-- A clause, given its parts that have subclauses. -/
def assemble (node : Node) (properties : Option (Assoc Nat)) (undeclared : Option Undeclared)
    (items : Option Nat) (allOf anyOf oneOf : List Nat) (dispatch : Option Dispatch) :
    Except Interruption Clause := do
  let bare ← bareOf node
  return { bare with properties, undeclared, items, allOf, anyOf, oneOf, dispatch }

theorem clauseOf_eq (node : Node) (child : Nat → Compiling Nat) :
    clauseOf node child = (do
      let properties ← propertiesOf node child
      let undeclared ← undeclaredOf node child
      let items ← itemsOf node child
      let allOf ← branchesOf node.allOf child
      let anyOf ← branchesOf node.anyOf child
      let oneOf ← branchesOf node.oneOf child
      let dispatch ← dispatchOf node child
      liftM (assemble node properties undeclared items allOf anyOf oneOf dispatch)) := by
  unfold clauseOf propertiesOf itemsOf branchesOf assemble bareOf
  rcases node.properties with _ | entries <;> rcases node.items with _ | edge <;>
    simp only [pure_bind, bind_assoc, liftM_bind, liftM_pure]

theorem propertiesOf_compiles
    (compiles : ∀ id, Compiles catalog pending (child id) fun arena place => arena.Slot id place) :
    Compiles catalog pending (propertiesOf node child) fun arena properties =>
      Option.Rel (List.Forall₂ fun entry other => entry.1 = other.1 ∧ arena.Slot entry.2.target other.2)
        node.properties properties := by
  unfold propertiesOf
  rcases node.properties with _ | entries
  · exact .pure fun _ => .none
  have table : Compiles catalog pending (entries.mapM fun entry => do return (entry.1, ← child entry.2.target))
      fun arena table => List.Forall₂ (fun entry other => entry.1 = other.1 ∧ arena.Slot entry.2.target other.2)
        entries table :=
    .mapM (fun entry _ => .bind (compiles entry.2.target) (lasting_slot _) fun _ => .pure fun _ placed =>
      ⟨rfl, placed⟩) fun _ _ _ _ grown placed => ⟨placed.1, grown.slots placed.2⟩
  refine Compiles.imp (.some table ?_) ?_
  · exact fun _ _ _ grown holds => holds.imp fun _ _ placed => ⟨placed.1, grown.slots placed.2⟩
  · rintro arena _ ⟨_, rfl, holds⟩
    exact .some holds

theorem itemsOf_compiles
    (compiles : ∀ id, Compiles catalog pending (child id) fun arena place => arena.Slot id place) :
    Compiles catalog pending (itemsOf node child) fun arena items =>
      Option.Rel (fun edge => arena.Slot edge.target) node.items items := by
  unfold itemsOf
  rcases node.items with _ | edge
  · exact .pure fun _ => .none
  refine Compiles.imp (.some (compiles edge.target) (lasting_slot _)) ?_
  rintro arena _ ⟨_, rfl, placed⟩
  exact .some placed

theorem branchesOf_compiles
    (compiles : ∀ id, Compiles catalog pending (child id) fun arena place => arena.Slot id place)
    (edges : Option (List Schema.Edge)) :
    Compiles catalog pending (branchesOf edges child) fun arena places =>
      List.Forall₂ (fun edge => arena.Slot edge.target) (edges.getD []) places :=
  .mapM (fun edge _ => compiles edge.target) fun edge => lasting_slot edge.target

theorem bare_of_bareOf {clause : Clause} (bared : bareOf node = .ok clause) : clause.bare = clause := by
  obtain ⟨access, _, later⟩ := (Except.bind_eq_ok _ _ _).mp bared
  obtain ⟨checks, _, last⟩ := (Except.bind_eq_ok _ _ _).mp later
  cases last
  rfl

theorem bare_of_assemble {properties : Option (Assoc Nat)} {undeclared : Option Undeclared}
    {items : Option Nat} {allOf anyOf oneOf : List Nat} {dispatch : Option Dispatch} {clause : Clause}
    (assembled : assemble node properties undeclared items allOf anyOf oneOf dispatch = .ok clause) :
    bareOf node = .ok clause.bare ∧ clause.properties = properties ∧ clause.undeclared = undeclared ∧
      clause.items = items ∧ clause.allOf = allOf ∧ clause.anyOf = anyOf ∧ clause.oneOf = oneOf ∧
      clause.dispatch = dispatch := by
  obtain ⟨bare, bared, last⟩ := (Except.bind_eq_ok _ _ _).mp assembled
  cases last
  refine ⟨bared.trans (congrArg Except.ok ?_), rfl, rfl, rfl, rfl, rfl, rfl, rfl⟩
  exact (bare_of_bareOf bared).symm

theorem clauseOf_compiles
    (compiles : ∀ id, Compiles catalog pending (child id) fun arena place => arena.Slot id place) :
    Compiles catalog pending (clauseOf node child) fun arena clause => Depicts arena.Slot node clause := by
  have lastingBranches (edges : List Schema.Edge) : Lasting fun arena places =>
      List.Forall₂ (fun edge : Schema.Edge => arena.Slot edge.target) edges places :=
    fun _ _ _ grown places => places.imp fun _ _ placed => grown.slots placed
  rw [clauseOf_eq]
  refine .bind (propertiesOf_compiles compiles) ?_ fun properties => ?_
  · exact fun _ _ _ grown holds => holds.imp fun _ _ entries => entries.imp fun _ _ entry =>
      ⟨entry.1, grown.slots entry.2⟩
  refine .bind (undeclaredOf_compiles compiles) ?_ fun undeclared => ?_
  · exact fun _ _ _ grown holds => holds.imp fun _ _ others => others.mono fun _ _ placed => grown.slots placed
  refine .bind (itemsOf_compiles compiles) ?_ fun items => ?_
  · exact fun _ _ _ grown holds => holds.imp fun _ _ placed => grown.slots placed
  refine .bind (branchesOf_compiles compiles _) (lastingBranches _) fun allOf => ?_
  refine .bind (branchesOf_compiles compiles _) (lastingBranches _) fun anyOf => ?_
  refine .bind (branchesOf_compiles compiles _) (lastingBranches _) fun oneOf => ?_
  refine .bind (dispatchOf_compiles compiles) ?_ fun dispatch => ?_
  · exact fun _ _ _ grown holds => holds.imp fun _ _ routes => ⟨routes.1, routes.2.imp fun _ _ entry =>
      ⟨entry.1, entry.2.imp fun _ _ placed => grown.slots placed⟩⟩
  refine Compiles.imp (.lift _) fun arena clause assembled routes ones anys alls items others properties => ?_
  obtain ⟨bare, rfl, rfl, rfl, rfl, rfl, rfl, rfl⟩ := bare_of_assemble assembled
  exact ⟨bare, properties, others, items, alls, anys, ones, routes⟩

end

section

variable {fuel id place : Nat} {before after : Arena} {reason : Interruption}

/-- A compilation that is answered finds a place, or makes one for a schema that has none and is not broken. -/
theorem compileWithin_eq_ok (ran : (compileWithin catalog (fuel + 1) id).run before = .ok (place, after)) :
    before.slot? id = some place ∧ after = before ∨
      before.slot? id = none ∧ catalog.deferred.find? id = none ∧ ∃ clause middle,
        (clauseOf (catalog.graph.node id) (compileWithin catalog fuel)).run (before.reserved id) =
          .ok (clause, middle) ∧
        place = before.clauses.size ∧ after = middle.settled before.clauses.size clause := by
  obtain ⟨_, _, got, later⟩ := (StateT.run_bind_eq_ok _ _ _ _).mp ran
  cases got
  rcases known : before.slot? id with _ | slot
  · rw [known] at later
    rcases unbroken : catalog.deferred.find? id with _ | error
    · rw [unbroken] at later
      obtain ⟨_, _, reserving, later⟩ := (StateT.run_bind_eq_ok _ _ _ _).mp later
      cases reserving
      obtain ⟨clause, middle, compiled, later⟩ := (StateT.run_bind_eq_ok _ _ _ _).mp later
      obtain ⟨_, _, settling, answered⟩ := (StateT.run_bind_eq_ok _ _ _ _).mp later
      cases settling
      cases answered
      exact .inr ⟨rfl, rfl, clause, middle, compiled, rfl, rfl⟩
    · rw [unbroken] at later
      cases later
  · rw [known] at later
    cases later
    exact .inl ⟨rfl, rfl⟩

/-- A compilation fails for a schema that has no place: the schema is broken, or its clause has no answer. -/
theorem compileWithin_eq_error (ran : (compileWithin catalog (fuel + 1) id).run before = .error reason) :
    before.slot? id = none ∧ ((∃ error, catalog.deferred.find? id = some error ∧ reason = .refused error) ∨
      (clauseOf (catalog.graph.node id) (compileWithin catalog fuel)).run (before.reserved id) = .error reason) := by
  rcases (StateT.run_bind_eq_error _ _ _ _).mp ran with ⟨⟨⟩⟩ | ⟨_, _, got, later⟩
  cases got
  rcases known : before.slot? id with _ | slot
  · rw [known] at later
    refine ⟨rfl, ?_⟩
    rcases unbroken : catalog.deferred.find? id with _ | error
    · rw [unbroken] at later
      rcases (StateT.run_bind_eq_error _ _ _ _).mp later with ⟨⟨⟩⟩ | ⟨_, _, reserving, later⟩
      cases reserving
      rcases (StateT.run_bind_eq_error _ _ _ _).mp later with failed | ⟨clause, middle, _, ⟨⟩⟩
      exact .inr failed
    · rw [unbroken] at later
      cases later
      exact .inl ⟨error, rfl, rfl⟩
  · rw [known] at later
    cases later

end

theorem compileWithin_compiles (catalog : Catalog) (pending : List Nat) (fuel id : Nat) :
    Compiles catalog pending (compileWithin catalog fuel id) fun arena place => arena.Slot id place := by
  induction fuel generalizing pending id with
  | zero =>
      intro before place after sound ran
      cases ran
  | succ fuel ih =>
      intro before place after sound ran
      rcases compileWithin_eq_ok ran with ⟨known, rfl⟩ | ⟨fresh, unbroken, clause, middle, compiled, rfl, rfl⟩
      · exact ⟨sound, .refl _, (Arena.slot?_eq_some after sound.ids id place).mp known⟩
      · obtain ⟨soundMiddle, grown, depicts⟩ :=
          clauseOf_compiles (ih (id :: pending)) _ _ _ (sound.reserve fresh unbroken) compiled
        have placed : middle.Slot id before.clauses.size := grown.slots List.mem_cons_self
        have extended := ((before.extends_reserve id {}).trans grown).trans
          (middle.extends_modify before.clauses.size fun _ => clause)
        exact ⟨soundMiddle.settle placed depicts, extended, placed⟩

/-- A validator mirrors the schemas below one of them: each that was reached has one clause. -/
structure Mirror (catalog : Catalog) (slot : Nat → Nat → Prop) (validator : Validator) (id : Nat) : Prop where
  root : slot id validator.root
  ids : ∀ {id other place}, slot id place → slot other place → id = other
  places : ∀ {id place other}, slot id place → slot id other → place = other
  unbroken : ∀ {id place}, slot id place → catalog.deferred.find? id = none
  depicts : ∀ {id place}, slot id place → Depicts slot (catalog.graph.node id) (validator.clauses.getD place {})

theorem Arena.Sound.mirror {catalog : Catalog} {arena : Arena} {id root : Nat} (sound : Arena.Sound catalog [] arena)
    (placed : arena.Slot id root) : Mirror catalog arena.Slot { clauses := arena.clauses, root } id :=
  ⟨placed, fun one other => sound.id_inj one other, fun one other => sound.place_inj one other,
    fun placed => sound.unbroken _ _ placed, fun placed => sound.depicts _ _ placed List.not_mem_nil⟩

theorem compile_sound {catalog : Catalog} {arena : Arena} {id root : Nat}
    (ran : (compile catalog id).run {} = .ok (root, arena)) :
    Arena.Sound catalog [] arena ∧ arena.Slot id root := by
  obtain ⟨sound, _, placed⟩ := compileWithin_compiles catalog [] _ id {} root arena (.empty catalog []) ran
  exact ⟨sound, placed⟩

theorem ofSchema_mirror {catalog : Catalog} {id : Nat} {validator : Validator}
    (compiled : ofSchema catalog id = .ok validator) : ∃ slot, Mirror catalog slot validator id := by
  obtain ⟨⟨root, arena⟩, ran, last⟩ := (Except.bind_eq_ok _ _ _).mp compiled
  cases last
  obtain ⟨sound, placed⟩ := compile_sound ran
  exact ⟨arena.Slot, sound.mirror placed⟩

end ApiContract.Validator
