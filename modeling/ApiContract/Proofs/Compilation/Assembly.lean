import ApiContract.Operation.Assembly
import ApiContract.Proofs.Compilation.Success
import ApiContract.Proofs.Evaluation.Termination
import ApiContract.Proofs.Schema.Given
import ApiContract.Specification

/-!
Validators of messages are tables like those of schemas, with clauses of their own for the message and its slots
(`ofOperation_eq_ok`, `ofResponse_eq_ok`). These have no branches, so composition in the table follows composition in
the graph; and they declare only members that are slots, or that some schema is asked about that was given for them
(`Arena.Invites`).
-/

namespace ApiContract

open Relation (TransGen)

namespace Schema

def Graph.Composes (graph : Graph) (id branch : Nat) : Prop :=
  ∃ edge ∈ (graph.node id).allOf.getD [] ++ (graph.node id).anyOf.getD [] ++ (graph.node id).oneOf.getD [],
    edge.target = branch

end Schema

/-- The parameters that requests are checked for. -/
def Operation.checked (operation : Operation) (skipTrivial : Bool) : List Parameter :=
  operation.parameters.filter fun parameter => !(parameter.trivial && skipTrivial)

/-- The name that a parameter is sent under, which is in lower case if it is a header. -/
def Parameter.key (parameter : Parameter) : String :=
  if parameter.place = .header then Unicode.lower parameter.name else parameter.name

namespace Validator.Clause

variable {clause : Clause} {name key : String} {child : Nat} {required : Bool}

def declare (name : String) (child : Nat) (required : Bool) (clause : Clause) : Clause :=
  { clause with
    properties := some (Assoc.insert (clause.properties.getD []) name child)
    required := if required && !clause.required.contains name then clause.required ++ [name] else clause.required }

theorem property?_declare_self : (clause.declare name child required).property? name = some child :=
  Assoc.find?_insert_self _ _ _

theorem property?_declare_of_ne (different : key ≠ name) :
    (clause.declare name child required).property? key = clause.property? key := by
  change Assoc.find? (Assoc.insert _ name child) key = _
  rw [Assoc.find?_insert_of_ne _ _ different, property?]
  cases clause.properties <;> rfl

theorem mem_required_declare :
    key ∈ (clause.declare name child required).required ↔ key ∈ clause.required ∨ key = name ∧ required = true := by
  unfold declare
  dsimp only
  cases required with
  | false => simp
  | true =>
      by_cases known : name ∈ clause.required
      · have listed : (true && !clause.required.contains name) = false := by simpa using known
        rw [listed]
        constructor
        · exact .inl
        · rintro (old | ⟨rfl, _⟩)
          · exact old
          · exact known
      · have fresh : (true && !clause.required.contains name) = true := by simpa using known
        rw [fresh, if_pos rfl, List.mem_append, List.mem_singleton]
        simp

theorem Frame.declare (frame : clause.Frame) : (clause.declare name child required).Frame :=
  ⟨frame.skip, frame.undeclared, frame.items, frame.allOf, frame.anyOf, frame.oneOf, frame.dispatch, frame.checks⟩

end Validator.Clause

theorem Assembly.addProperty_run {before after : Validator.Arena} {parent child : Nat} {name : String} {required : Bool}
    {result : Unit} (inside : parent < before.clauses.size)
    (ran : (addProperty parent name child required).run before = .ok (result, after)) :
    before.slots ⊆ after.slots ∧ after.clauses.size = before.clauses.size ∧
      after.clauses.getD parent {} = (before.clauses.getD parent {}).declare name child required ∧
      ∀ other, other ≠ parent → after.clauses.getD other {} = before.clauses.getD other {} := by
  cases ran
  refine ⟨List.Subset.refl _, Array.size_modify, Validator.getD_modify_self inside _, ?_⟩
  intro other different
  exact Validator.getD_modify_of_ne _ _ different

namespace Validator

variable {catalog : Schema.Catalog} {pending : List Nat} {arena before after : Arena} {place : Nat}

theorem compile_fills {id : Nat} (ran : (compile catalog id).run before = .ok (place, after)) :
    ∃ wanted, before.Fills wanted after :=
  ⟨_, (compile_ends catalog id).fills (List.nil_subset _) ran⟩

namespace Arena

/-- A clause that belongs to no schema. -/
structure Free (arena : Arena) (place : Nat) : Prop where
  inside : place < arena.clauses.size
  unplaced : ∀ id, ¬arena.Slot id place

theorem Free.extend (free : before.Free place) (grown : before.Extends after) : after.Free place where
  inside := Nat.lt_of_lt_of_le free.inside grown.size
  unplaced id placed := free.unplaced id (grown.fresh id place placed free.inside)

theorem extends_push (arena : Arena) (clause : Clause) :
    arena.Extends { arena with clauses := arena.clauses.push clause } :=
  ⟨List.Subset.refl _, by simp, fun _ _ placed _ => placed⟩

namespace Sound

theorem push (sound : arena.Sound catalog pending) {clause : Clause} (frame : clause.Frame) :
    Sound catalog pending { arena with clauses := arena.clauses.push clause } where
  ids := sound.ids
  places := sound.places
  place_lt_size placed := by
    have below := sound.place_lt_size placed
    rw [Array.size_push]
    omega
  unbroken := sound.unbroken
  depicts id place placed settled := by
    rw [getD_push_of_lt _ (sound.place_lt_size placed)]
    exact sound.depicts id place placed settled
  frames place unplaced := by
    rcases getD_push arena.clauses clause place with same | same
    · rw [same]
      exact sound.frames place unplaced
    · rw [same]
      exact frame

theorem push_free (sound : arena.Sound catalog pending) (clause : Clause) :
    Free { arena with clauses := arena.clauses.push clause } arena.clauses.size where
  inside := by simp
  unplaced _ placed := Nat.lt_irrefl _ (sound.place_lt_size placed)

/-- A clause of no schema may change, if it stays the clause of a message or slot. -/
theorem modify (sound : arena.Sound catalog pending) (free : arena.Free place) {change : Clause → Clause}
    (keeps : ∀ clause, clause.Frame → (change clause).Frame) :
    Sound catalog pending { arena with clauses := arena.clauses.modify place change } where
  ids := sound.ids
  places := sound.places
  place_lt_size placed := by
    rw [Array.size_modify]
    exact sound.place_lt_size placed
  unbroken := sound.unbroken
  depicts id other placed settled := by
    have different : other ≠ place := by
      rintro rfl
      exact free.unplaced id placed
    rw [getD_modify_of_ne _ _ different]
    exact sound.depicts id other placed settled
  frames other unplaced := by
    by_cases same : other = place
    · subst same
      have inside := free.inside
      have old := keeps _ (sound.frames other free.unplaced)
      simpa [Array.getD, inside, Array.getElem_modify] using old
    · rw [getD_modify_of_ne _ _ same]
      exact sound.frames other unplaced

/-- Branches of clauses are branches of their schemas. -/
theorem composes (sound : arena.Sound catalog []) {branch : Nat} (composes : Composes arena.clauses place branch) :
    ∃ id other, arena.Slot id place ∧ arena.Slot other branch ∧ catalog.graph.Composes id other := by
  by_cases placed : ∃ id, arena.Slot id place
  · obtain ⟨id, placed⟩ := placed
    have depicts := sound.depicts id place placed List.not_mem_nil
    rcases composes with member | member | member
    · obtain ⟨edge, among, placedBranch⟩ := depicts.allOf.exists_left member
      exact ⟨id, edge.target, placed, placedBranch, edge, by simp [among], rfl⟩
    · obtain ⟨edge, among, placedBranch⟩ := depicts.anyOf.exists_left member
      exact ⟨id, edge.target, placed, placedBranch, edge, by simp [among], rfl⟩
    · obtain ⟨edge, among, placedBranch⟩ := depicts.oneOf.exists_left member
      exact ⟨id, edge.target, placed, placedBranch, edge, by simp [among], rfl⟩
  · have frame := sound.frames place fun id own => placed ⟨id, own⟩
    unfold Validator.Composes at composes
    rw [frame.allOf, frame.anyOf, frame.oneOf] at composes
    simp at composes

theorem transGen_composes (sound : arena.Sound catalog []) {other : Nat}
    (reaches : TransGen (Composes arena.clauses) place other) :
    ∃ id target, arena.Slot id place ∧ arena.Slot target other ∧ TransGen catalog.graph.Composes id target := by
  induction reaches with
  | single step =>
      obtain ⟨id, target, placed, placedTarget, joined⟩ := sound.composes step
      exact ⟨id, target, placed, placedTarget, .single joined⟩
  | tail _ step ih =>
      obtain ⟨id, middle, placed, placedMiddle, reached⟩ := ih
      obtain ⟨same, target, placedSame, placedTarget, joined⟩ := sound.composes step
      obtain rfl := sound.id_inj placedMiddle placedSame
      exact ⟨id, target, placed, placedTarget, reached.tail joined⟩

/-- Where no schema is a branch of itself, no clause is. -/
theorem acyclic (sound : arena.Sound catalog []) (acyclic : IsAcyclic catalog.graph.Composes) :
    Acyclic arena.clauses := by
  intro place cycle
  obtain ⟨id, target, placed, placedTarget, reached⟩ := sound.transGen_composes cycle
  obtain rfl := sound.id_inj placed placedTarget
  exact acyclic id reached

end Sound

/-! ## Members of messages -/

/-- The clause is that of a slot, or of a schema that is wanted. -/
inductive Invited (arena : Arena) (wanted : Nat → Prop) (place : Nat) : Prop
  | slot : arena.Free place → Invited arena wanted place
  | schema {id} : wanted id → arena.Slot id place → Invited arena wanted place

theorem Invited.extend {wanted : Nat → Prop} (invited : before.Invited wanted place) (grown : before.Extends after) :
    after.Invited wanted place := by
  cases invited with
  | slot free => exact .slot (free.extend grown)
  | schema asked placed => exact .schema asked (grown.slots placed)

/-- The members that a message and its slots declare. -/
def Invites (arena : Arena) (wanted : Nat → Prop) : Prop :=
  ∀ place key child, (∀ id, ¬arena.Slot id place) → (arena.clauses.getD place {}).property? key = some child →
    arena.Invited wanted child

namespace Invites

variable {wanted : Nat → Prop}

theorem compile {id : Nat} (invites : before.Invites wanted) (grown : before.Extends after)
    (ran : (Validator.compile catalog id).run before = .ok (place, after)) : after.Invites wanted := by
  obtain ⟨_, fills⟩ := compile_fills ran
  intro other key child unplaced declared
  by_cases old : other < before.clauses.size
  · rw [fills.old other old] at declared
    exact (invites other key child (fun id placed => unplaced id (fills.kept placed)) declared).extend grown
  · by_cases inside : other < after.clauses.size
    · obtain ⟨id, placed⟩ := (fills.taken other inside).resolve_left old
      exact absurd placed (unplaced id)
    · simp [Array.getD, inside, Clause.property?] at declared

theorem push (invites : arena.Invites wanted) {clause : Clause} (bare : ∀ key, clause.property? key = none) :
    Invites { arena with clauses := arena.clauses.push clause } wanted := by
  intro other key child unplaced declared
  rcases getD_push arena.clauses clause other with same | same
  · rw [same] at declared
    exact (invites other key child unplaced declared).extend (arena.extends_push clause)
  · rw [same, bare key] at declared
    cases declared

theorem addProperty {parent child : Nat} {name : String} {required : Bool} {done : Unit}
    (invites : before.Invites wanted) (free : before.Free parent) (invited : before.Invited wanted child)
    (grown : before.Extends after)
    (ran : (Assembly.addProperty parent name child required).run before = .ok (done, after)) :
    after.Invites wanted := by
  obtain ⟨_, _, own, others⟩ := Assembly.addProperty_run free.inside ran
  intro other key found unplaced declared
  refine Invited.extend ?_ grown
  have unplacedBefore : ∀ id, ¬before.Slot id other := fun id placed => unplaced id (grown.slots placed)
  by_cases same : other = parent
  · subst same
    rw [own] at declared
    by_cases sameKey : key = name
    · subst sameKey
      rw [Clause.property?_declare_self] at declared
      cases declared
      exact invited
    · rw [Clause.property?_declare_of_ne sameKey] at declared
      exact invites other key found unplacedBefore declared
  · rw [others other same] at declared
    exact invites other key found unplacedBefore declared

end Invites

end Arena

end Validator

namespace Assembly

open Validator (Compiling Clause Arena)

variable {catalog : Schema.Catalog} {wanted : Nat → Prop} {root parent child place : Nat} {before after : Arena}
  {name : String} {assembly next : Assembly}

/-- A message validator part way: the clauses of the message and of its slots belong to no schema. -/
structure Fits (catalog : Schema.Catalog) (wanted : Nat → Prop) (root : Nat) (arena : Arena) (assembly : Assembly) :
    Prop where
  sound : arena.Sound catalog []
  invites : arena.Invites wanted
  root : arena.Free root
  slots : ∀ entry ∈ assembly.slots, arena.Free entry.2

theorem object_frame (source : SourceLocation) : (Clause.object source).Frame :=
  ⟨rfl, rfl, rfl, rfl, rfl, rfl, rfl, rfl⟩

theorem addProperty_extends {required : Bool} {done : Unit}
    (ran : (addProperty parent name child required).run before = .ok (done, after)) : before.Extends after := by
  cases ran
  exact before.extends_modify parent _

namespace Fits

theorem extend (fits : Fits catalog wanted root before assembly) (grown : before.Extends after)
    (sound : after.Sound catalog []) (invites : after.Invites wanted) : Fits catalog wanted root after assembly :=
  ⟨sound, invites, fits.root.extend grown, fun entry member => (fits.slots entry member).extend grown⟩

theorem compile {id : Nat} (fits : Fits catalog wanted root before assembly)
    (ran : (Validator.compile catalog id).run before = .ok (place, after)) :
    Fits catalog wanted root after assembly ∧ before.Extends after ∧ after.Slot id place := by
  obtain ⟨sound, grown, placed⟩ := Validator.compileWithin_compiles catalog [] _ id before place after fits.sound ran
  exact ⟨fits.extend grown sound (fits.invites.compile grown ran), grown, placed⟩

theorem push (fits : Fits catalog wanted root before assembly) (source : SourceLocation) :
    Fits catalog wanted root { before with clauses := before.clauses.push (Clause.object source) } assembly :=
  fits.extend (before.extends_push _) (fits.sound.push (object_frame source)) (fits.invites.push fun _ => rfl)

theorem addProperty {required : Bool} {done : Unit} (fits : Fits catalog wanted root before assembly)
    (free : before.Free parent) (invited : before.Invited wanted child)
    (ran : (addProperty parent name child required).run before = .ok (done, after)) :
    Fits catalog wanted root after assembly ∧ before.Extends after := by
  have grown := addProperty_extends ran
  have invites := fits.invites.addProperty free invited grown ran
  cases ran
  exact ⟨fits.extend grown (fits.sound.modify free fun _ => Clause.Frame.declare) invites, grown⟩

end Fits

theorem slot_fits {source : SourceLocation} (fits : Fits catalog wanted root before assembly)
    (ran : (assembly.slot source root name).run before = .ok ((place, next), after)) :
    Fits catalog wanted root after next ∧ before.Extends after ∧ after.Free place := by
  unfold slot at ran
  split at ran
  next found =>
    cases ran
    exact ⟨fits, .refl _, fits.slots _ (Assoc.mem_of_find? found)⟩
  · obtain ⟨fresh, middle, pushed, rest⟩ := (StateT.run_bind_eq_ok _ _ _ _).mp ran
    obtain ⟨_, later, added, answered⟩ := (StateT.run_bind_eq_ok _ _ _ _).mp rest
    cases pushed
    cases answered
    have free := fits.sound.push_free (Clause.object source)
    obtain ⟨fitsLater, grown⟩ := (fits.push source).addProperty (fits.push source).root (.slot free) added
    refine ⟨⟨fitsLater.sound, fitsLater.invites, fitsLater.root, ?_⟩, (before.extends_push _).trans grown,
      free.extend grown⟩
    intro entry member
    rcases Assoc.mem_insert member with old | rfl
    · exact fitsLater.slots entry old
    · exact free.extend grown

theorem addCoercion_slots (assembly : Assembly) (slot name : String) (coercion : Option Coercion) :
    (assembly.addCoercion slot name coercion).slots = assembly.slots := by
  cases coercion <;> rfl

theorem addParameter_fits {source : SourceLocation} {parameter : Parameter} (asked : wanted parameter.schema.target)
    (fits : Fits catalog wanted root before assembly)
    (ran : (addParameter catalog source root assembly parameter).run before = .ok (next, after)) :
    Fits catalog wanted root after next := by
  obtain ⟨schema, compiled, compiling, rest⟩ := (StateT.run_bind_eq_ok _ _ _ _).mp ran
  obtain ⟨fitsCompiled, _, placed⟩ := fits.compile compiling
  have invited : compiled.Invited wanted schema := .schema asked placed
  split at rest
  · obtain ⟨_, later, added, answered⟩ := (StateT.run_bind_eq_ok _ _ _ _).mp rest
    cases answered
    obtain ⟨fitsLater, _⟩ := fitsCompiled.addProperty fitsCompiled.root invited added
    exact ⟨fitsLater.sound, fitsLater.invites, fitsLater.root, fitsLater.slots⟩
  · obtain ⟨⟨place, slotted⟩, middle, slotting, rest⟩ := (StateT.run_bind_eq_ok _ _ _ _).mp rest
    obtain ⟨_, later, added, answered⟩ := (StateT.run_bind_eq_ok _ _ _ _).mp rest
    obtain ⟨fitsMiddle, grown, free⟩ := slot_fits fitsCompiled slotting
    obtain ⟨fitsLater, _⟩ := fitsMiddle.addProperty free (invited.extend grown) added
    split at answered
    · cases answered
      exact fitsLater
    · cases answered
      refine ⟨fitsLater.sound, fitsLater.invites, fitsLater.root, ?_⟩
      rw [addCoercion_slots]
      exact fitsLater.slots

theorem addResponseBody_fits {schema : Option Schema.Edge} (asked : ∀ edge, schema = some edge → wanted edge.target)
    (fits : Fits catalog wanted root before assembly)
    (ran : (addResponseBody catalog root assembly schema).run before = .ok (next, after)) :
    Fits catalog wanted root after next := by
  cases schema with
  | none =>
      cases ran
      exact fits
  | some edge =>
      obtain ⟨body, compiled, compiling, rest⟩ := (StateT.run_bind_eq_ok _ _ _ _).mp ran
      obtain ⟨_, later, added, answered⟩ := (StateT.run_bind_eq_ok _ _ _ _).mp rest
      cases answered
      obtain ⟨fitsCompiled, _, placed⟩ := fits.compile compiling
      obtain ⟨fitsLater, _⟩ := fitsCompiled.addProperty fitsCompiled.root (.schema (asked edge rfl) placed) added
      exact ⟨fitsLater.sound, fitsLater.invites, fitsLater.root, fitsLater.slots⟩

theorem addResponseHeader_fits {header : String × Schema.Edge} (asked : wanted header.2.target)
    (fits : Fits catalog wanted root before assembly) (free : before.Free place)
    (ran : (addResponseHeader catalog place assembly header).run before = .ok (next, after)) :
    Fits catalog wanted root after next ∧ after.Free place := by
  obtain ⟨schema, compiled, compiling, rest⟩ := (StateT.run_bind_eq_ok _ _ _ _).mp ran
  obtain ⟨_, later, added, answered⟩ := (StateT.run_bind_eq_ok _ _ _ _).mp rest
  cases answered
  obtain ⟨fitsCompiled, grown, placed⟩ := fits.compile compiling
  obtain ⟨fitsLater, grownLater⟩ := fitsCompiled.addProperty (free.extend grown) (.schema asked placed) added
  refine ⟨⟨fitsLater.sound, fitsLater.invites, fitsLater.root, ?_⟩, (free.extend grown).extend grownLater⟩
  rw [addCoercion_slots]
  exact fitsLater.slots

/-- What holds of the items that were added so far holds of all of them in the end. -/
theorem foldlM_along {α : Type} (holds : List α → Arena → Assembly → Prop) {step : Assembly → α → Compiling Assembly}
    {items : List α} (start : holds [] before assembly)
    (adds : ∀ done item before assembly next after, item ∈ items → holds done before assembly →
      (step assembly item).run before = .ok (next, after) → holds (done ++ [item]) after next)
    (ran : (items.foldlM step assembly).run before = .ok (next, after)) : holds items after next := by
  suffices onward : ∀ done, holds done before assembly → holds (done ++ items) after next from onward [] start
  clear start
  induction items generalizing assembly before with
  | nil =>
      intro done held
      cases ran
      rwa [List.append_nil]
  | cons item rest ih =>
      intro done held
      rw [List.foldlM_cons] at ran
      obtain ⟨middle, later, first, ranRest⟩ := (StateT.run_bind_eq_ok _ _ _ _).mp ran
      have added := adds done item before assembly middle later List.mem_cons_self held first
      rw [← List.singleton_append, ← List.append_assoc]
      refine ih ?_ ranRest _ added
      intro done other before assembly next after member
      exact adds done other before assembly next after (List.mem_cons_of_mem _ member)

theorem foldlM_keeps {α : Type} (holds : Arena → Assembly → Prop) {step : Assembly → α → Compiling Assembly}
    {items : List α} (keeps : ∀ item ∈ items, ∀ before assembly next after, holds before assembly →
      (step assembly item).run before = .ok (next, after) → holds after next)
    (start : holds before assembly)
    (ran : (items.foldlM step assembly).run before = .ok (next, after)) : holds after next :=
  foldlM_along (fun _ => holds) start (fun _ item before assembly next after member =>
    keeps item member before assembly next after) ran

theorem fits_start (catalog : Schema.Catalog) (wanted : Nat → Prop) (source : SourceLocation) :
    Fits catalog wanted 0 { clauses := #[Clause.object source] } {} := by
  have empty : Arena.Sound catalog [] {} := .empty catalog []
  have nothing : Arena.Invites {} wanted := fun _ _ _ _ absurd => by cases absurd
  exact ⟨empty.push (object_frame _), nothing.push fun _ => rfl, empty.push_free _, fun _ none => nomatch none⟩

/-- The message validator of an assembly that is over. -/
def toMessage (assembly : Assembly) (arena : Arena) (key : String) (mediaTypes : List String) : MessageValidator where
  key := key
  mediaTypes := mediaTypes
  validator := { clauses := arena.clauses, root := 0 }
  coercions := assembly.coercions
  optionalBody := assembly.optionalBody
  hasBodySchema := assembly.hasBodySchema

/-- A message is assembled around a clause of its own, which is the first one. -/
theorem finish_eq_toMessage {key : String} {mediaTypes : List String}
    {assemble : SourceLocation → Nat → Compiling Assembly} {message : MessageValidator} (finished : finish key mediaTypes assemble = .ok message) :
    ∃ assembly arena, (assemble (sourceOf key) 0).run { clauses := #[Clause.object (sourceOf key)] } =
      .ok (assembly, arena) ∧ message = assembly.toMessage arena key mediaTypes := by
  obtain ⟨⟨⟨root, assembly⟩, arena⟩, ran, answered⟩ := (Except.bind_eq_ok _ _ _).mp finished
  cases answered
  obtain ⟨place, pushed, pushing, rest⟩ := (StateT.run_bind_eq_ok _ _ _ _).mp ran
  obtain ⟨assembled, later, assembling, returned⟩ := (StateT.run_bind_eq_ok _ _ _ _).mp rest
  cases pushing
  cases returned
  exact ⟨assembly, arena, assembling, rfl⟩

/-- The body of a response, and then its headers. -/
def addResponse (catalog : Schema.Catalog) (response : Response) (source : SourceLocation) (root : Nat) :
    Compiling Assembly := do
  let assembly ← addResponseBody catalog root {} response.schema
  if response.headers.isEmpty then return assembly
  let slot ← Arena.push (Clause.object source)
  addProperty root "headers" slot false
  response.headers.foldlM (addResponseHeader catalog slot) assembly

theorem addResponse_fits {response : Response} {source : SourceLocation}
    (asked : ∀ edge, response.schema = some edge → wanted edge.target)
    (askedHeader : ∀ header ∈ response.headers, wanted header.2.target) (start : Fits catalog wanted root before {})
    (ran : (addResponse catalog response source root).run before = .ok (assembly, after)) :
    Fits catalog wanted root after assembly := by
  obtain ⟨withBody, middle, body, rest⟩ := (StateT.run_bind_eq_ok _ _ _ _).mp ran
  have fits := addResponseBody_fits asked start body
  split at rest
  · cases rest
    exact fits
  · obtain ⟨slot, pushed, pushing, rest⟩ := (StateT.run_bind_eq_ok _ _ _ _).mp rest
    obtain ⟨_, later, added, headers⟩ := (StateT.run_bind_eq_ok _ _ _ _).mp rest
    cases pushing
    have free := fits.sound.push_free (Clause.object source)
    obtain ⟨fitsLater, grown⟩ := (fits.push source).addProperty (fits.push source).root (.slot free) added
    have kept := foldlM_keeps
      (fun arena assembly => Fits catalog wanted root arena assembly ∧ arena.Free middle.clauses.size)
      (fun header member _ _ _ _ both ran => addResponseHeader_fits (askedHeader header member) both.1 both.2 ran)
      ⟨fitsLater, free.extend grown⟩ headers
    exact kept.1

end Assembly

namespace MessageValidator

variable {catalog : Schema.Catalog} {message : MessageValidator}

theorem ofOperation_eq_ok {skipTrivial : Bool} {operation : Operation}
    (assembled : ofOperation catalog skipTrivial operation = .ok message) :
    ∃ assembly arena, ((operation.checked skipTrivial).foldlM
        (Assembly.addParameter catalog (Assembly.sourceOf operation.key) 0) {}).run
          { clauses := #[Validator.Clause.object (Assembly.sourceOf operation.key)] } = .ok (assembly, arena) ∧
      message = assembly.toMessage arena operation.key operation.consumes := by
  unfold ofOperation at assembled
  split at assembled
  · cases assembled
  · exact Assembly.finish_eq_toMessage assembled

theorem ofResponse_eq_ok {operation : Operation} {response : Response}
    (assembled : ofResponse catalog operation response = .ok message) :
    ∃ assembly arena, (Assembly.addResponse catalog response (Assembly.sourceOf response.key) 0).run
        { clauses := #[Validator.Clause.object (Assembly.sourceOf response.key)] } = .ok (assembly, arena) ∧
      message = assembly.toMessage arena response.key operation.produces :=
  Assembly.finish_eq_toMessage assembled

/-- A message stands first in its table, and leads to its slots and to the schemas that are given for its parts. -/
structure Drawn (catalog : Schema.Catalog) (given : Nat → Prop) (arena : Validator.Arena) (message : MessageValidator) :
    Prop where
  sound : arena.Sound catalog []
  invites : arena.Invites given
  root : arena.Free 0
  validator : message.validator = { clauses := arena.clauses, root := 0 }

theorem Drawn.of_fits {given : Nat → Prop} {arena : Validator.Arena} {assembly : Assembly}
    (fits : Assembly.Fits catalog given 0 arena assembly)
    (same : message.validator = { clauses := arena.clauses, root := 0 }) : Drawn catalog given arena message :=
  ⟨fits.sound, fits.invites, fits.root, same⟩

theorem ofOperation_drawn {skipTrivial : Bool} {operation : Operation}
    (assembled : ofOperation catalog skipTrivial operation = .ok message) :
    ∃ arena, Drawn catalog operation.Gives arena message := by
  obtain ⟨assembly, arena, ran, rfl⟩ := ofOperation_eq_ok assembled
  have fits := Assembly.foldlM_keeps (Assembly.Fits catalog operation.Gives 0)
    (fun parameter member _ _ _ _ fits ran =>
      Assembly.addParameter_fits ⟨parameter, (List.mem_filter.mp member).1, rfl⟩ fits ran)
    (Assembly.fits_start catalog _ _) ran
  exact ⟨arena, .of_fits fits rfl⟩

theorem ofResponse_drawn {operation : Operation} {response : Response}
    (assembled : ofResponse catalog operation response = .ok message) :
    ∃ arena, Drawn catalog response.Gives arena message := by
  obtain ⟨assembly, arena, ran, rfl⟩ := ofResponse_eq_ok assembled
  have fits := Assembly.addResponse_fits (fun edge listed => .body listed rfl) (fun header member => .header member rfl)
    (Assembly.fits_start catalog response.Gives _) ran
  exact ⟨arena, .of_fits fits rfl⟩

end MessageValidator

/-- The schemas that are given for the parts of a message. -/
def Specification.Found.Gives : Specification.Found → Nat → Prop
  | .request operation => operation.Gives
  | .response _ declared => declared.Gives

theorem Specification.assemble_drawn {specification : Specification} {found : Specification.Found}
    {message : MessageValidator} (assembled : specification.assemble found = .ok message) :
    ∃ arena, MessageValidator.Drawn specification.draft.catalog found.Gives arena message := by
  cases found with
  | request operation => exact MessageValidator.ofOperation_drawn assembled
  | response _ declared => exact MessageValidator.ofResponse_drawn assembled

theorem Specification.assemble_sound {specification : Specification} {found : Specification.Found}
    {message : MessageValidator} (assembled : specification.assemble found = .ok message) :
    ∃ arena : Validator.Arena, arena.Sound specification.draft.catalog [] ∧
      message.validator.clauses = arena.clauses := by
  obtain ⟨arena, drawn⟩ := assemble_drawn assembled
  exact ⟨arena, drawn.sound, congrArg Validator.clauses drawn.validator⟩

end ApiContract
