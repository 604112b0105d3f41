import ApiContract.Proofs.Compilation.Success
import ApiContract.Proofs.Evaluation.Blame
import ApiContract.Proofs.Evaluation.Members

/-!
A schema is asked the same in every validator that it is part of: what is said about a value at an unmarked
place is what the validator of the schema alone says about it. Schemas that apply to the same value in the graph do so
in its validators.
-/

namespace ApiContract.Validator

open Json (Value)
open Schema (Catalog)

/-- The validator of the schema finds nothing wrong with the value. -/
def Admits (catalog : Catalog) (direction : Direction) (id : Nat) (value : Value) : Prop :=
  ∃ validator fuel, ofSchema catalog id = .ok validator ∧ validator.evaluateWithin fuel direction value = some []

/-- The schema finds nothing wrong with the value where some places of it may have been dispatched before. -/
def AdmitsAmid (catalog : Catalog) (direction : Direction) (id : Nat) (value : Value) : Prop :=
  ∃ validator fuel before after, ofSchema catalog id = .ok validator ∧
    (visit validator.clauses direction fuel validator.root value "").run before = some ([], after)

theorem evaluateWithin_eq_some {validator : Validator} {fuel : Nat} {direction : Direction} {value : Value}
    {failures : List Failure} :
    validator.evaluateWithin fuel direction value = some failures ↔
      ∃ after, (visit validator.clauses direction fuel validator.root value "").run {} = some (failures, after) := by
  unfold evaluateWithin
  rw [Option.map_eq_some_iff]
  constructor
  · rintro ⟨⟨found, after⟩, ran, rfl⟩
    exact ⟨after, ran⟩
  · rintro ⟨after, ran⟩
    exact ⟨(failures, after), ran, rfl⟩

theorem evaluateWithin_mono {validator : Validator} {fuel more : Nat} {direction : Direction} {value : Value}
    {failures : List Failure} (enough : fuel ≤ more)
    (answered : validator.evaluateWithin fuel direction value = some failures) :
    validator.evaluateWithin more direction value = some failures := by
  obtain ⟨after, ran⟩ := evaluateWithin_eq_some.mp answered
  exact evaluateWithin_eq_some.mpr ⟨after, visit_run_mono enough ran⟩

/-- From an empty guard, tables that rename each other say the same. -/
theorem visit_start {left right : Array Clause} {rel : Nat → Nat → Prop} (renames : Renames rel left right)
    {direction : Direction} {fuel place twin : Nat} {value : Value} {failures : List Failure} {after : Guard}
    (related : rel place twin)
    (ran : (visit left direction fuel place value "").run {} = some (failures, after)) :
    ∃ last, (visit right direction fuel twin value "").run {} = some (failures, last) := by
  have agrees : Agrees rel "" "" {} {} := ⟨fun _ _ => iff_of_false List.not_mem_nil List.not_mem_nil⟩
  obtain ⟨found, last, ranToo, moved, _⟩ :=
    (visit_renamed renames direction fuel fuel (Nat.le_refl fuel)).matched related agrees ran
  exact ⟨last, moved.eq ▸ ranToo⟩

namespace Mirror

variable {catalog : Catalog} {slot other : Nat → Nat → Prop} {validator alone : Validator} {id target : Nat}

theorem renames (mirror : Mirror catalog slot validator id) (mirrorToo : Mirror catalog other alone target) :
    Renames (fun place twin => ∃ schema, slot schema place ∧ other schema twin) validator.clauses alone.clauses where
  alike := by
    rintro place twin ⟨schema, placed, placedToo⟩
    exact (mirror.depicts placed).alike (mirrorToo.depicts placedToo)
  forward := by
    rintro place twin another ⟨schema, placed, placedToo⟩ ⟨schema', placed', placedToo'⟩
    obtain rfl := mirror.ids placed placed'
    exact mirrorToo.places placedToo placedToo'
  backward := by
    rintro place twin another ⟨schema, placed, placedToo⟩ ⟨schema', placed', placedToo'⟩
    obtain rfl := mirrorToo.ids placedToo placedToo'
    exact mirror.places placed placed'

variable {direction : Direction} {fuel place : Nat} {value : Value} {path : String} {before after : Guard}
  {failures : List Failure}

/-- At an unmarked place a schema finds what its own validator finds. -/
theorem visit_alone (mirror : Mirror catalog slot validator id) (placed : slot target place)
    (fresh : Unmarked path before)
    (ran : (visit validator.clauses direction fuel place value path).run before = some (failures, after)) :
    ∃ alone found, ofSchema catalog target = .ok alone ∧
      alone.evaluateWithin fuel direction value = some found ∧ AllMoved path "" failures found := by
  obtain ⟨alone, compiled⟩ := mirror.below placed
  obtain ⟨other, mirrorToo⟩ := ofSchema_mirror compiled
  have agrees : Agrees (fun place twin => ∃ schema, slot schema place ∧ other schema twin) path "" before {} := by
    refine ⟨fun _ tail => ?_⟩
    constructor
    · exact fun marked => absurd marked (fresh _ _ tail)
    · exact fun marked => absurd marked List.not_mem_nil
  obtain ⟨found, last, ranAlone, moved, _⟩ :=
    (visit_renamed (mirror.renames mirrorToo) direction fuel fuel (Nat.le_refl fuel)).matched
      ⟨target, placed, mirrorToo.root⟩ agrees ran
  exact ⟨alone, found, compiled, evaluateWithin_eq_some.mpr ⟨last, ranAlone⟩, moved⟩

/-- By itself a schema says in one validator what its own validator says. -/
theorem visit_eq_alone (mirror : Mirror catalog slot validator id) (placed : slot target place)
    (mirrorToo : Mirror catalog other alone target) (direction : Direction) (fuel : Nat) (value : Value) :
    ((visit validator.clauses direction fuel place value "").run {}).map Prod.fst =
      alone.evaluateWithin fuel direction value := by
  refine Option.ext fun failures => ?_
  rw [evaluateWithin_eq_some, Option.map_eq_some_iff]
  constructor
  · rintro ⟨⟨_, after⟩, ran, rfl⟩
    exact visit_start (mirror.renames mirrorToo) ⟨target, placed, mirrorToo.root⟩ ran
  · rintro ⟨after, ran⟩
    obtain ⟨last, ranToo⟩ := visit_start (mirrorToo.renames mirror) ⟨target, mirrorToo.root, placed⟩ ran
    exact ⟨_, ranToo, rfl⟩

theorem admits (mirror : Mirror catalog slot validator id) (placed : slot target place) (fresh : Unmarked path before)
    (ran : (visit validator.clauses direction fuel place value path).run before = some ([], after)) :
    Admits catalog direction target value := by
  obtain ⟨alone, found, compiled, answered, moved⟩ := mirror.visit_alone placed fresh ran
  rw [moved.eq_nil_iff.mp rfl] at answered
  exact ⟨alone, fuel, compiled, answered⟩

open Classical in
noncomputable def translate (rel : Nat → Nat → Prop) (guard : Guard) : Guard :=
  let moved (mark : Mark) : Option Mark :=
    if found : ∃ twin, rel mark.1 twin then some (found.choose, mark.2) else none
  ⟨guard.marks.filterMap moved, guard.undo.filterMap moved⟩

theorem agrees_translate {left right : Array Clause} {rel : Nat → Nat → Prop} (renames : Renames rel left right)
    (path : String) (guard : Guard) : Agrees rel path path guard (translate rel guard) := by
  refine ⟨@fun place twin rest related tail => ?_⟩
  simp only [translate, List.mem_filterMap]
  constructor
  · intro marked
    refine ⟨_, marked, ?_⟩
    have found : ∃ twin, rel place twin := ⟨twin, related⟩
    rw [dif_pos found, renames.forward found.choose_spec related]
  · rintro ⟨⟨other, spot⟩, marked, same⟩
    split at same
    next found =>
      obtain ⟨rfl, rfl⟩ := Prod.mk.inj (Option.some.inj same)
      rwa [renames.backward related found.choose_spec]
    · cases same

/-- A schema that finds nothing wrong within another one finds nothing wrong by itself, as far as its roots
were not dispatched before. -/
theorem admitsAmid (mirror : Mirror catalog slot validator id) (placed : slot target place)
    (ran : (visit validator.clauses direction fuel place value "").run before = some ([], after)) :
    AdmitsAmid catalog direction target value := by
  obtain ⟨alone, compiled⟩ := mirror.below placed
  obtain ⟨other, mirrorToo⟩ := ofSchema_mirror compiled
  have renames := mirror.renames mirrorToo
  obtain ⟨found, last, ranAlone, moved, _⟩ :=
    (visit_renamed renames direction fuel fuel (Nat.le_refl fuel)).matched ⟨target, placed, mirrorToo.root⟩
      (agrees_translate renames "" before) ran
  rw [moved.eq_nil_iff.mp rfl] at ranAlone
  exact ⟨alone, fuel, _, last, compiled, ranAlone⟩

end Mirror

end ApiContract.Validator

namespace ApiContract

open Json (Value)

namespace Schema

def named? (routing : String × Assoc (Option Nat)) (entries : Assoc Value) : Option Nat := do
  let tag ← (← Assoc.find? entries routing.1).asString?
  let variant ← Assoc.find? routing.2 tag
  variant

theorem mem_of_named? {routing : String × Assoc (Option Nat)} {entries : Assoc Value} {variant : Nat}
    (named : named? routing entries = some variant) : ∃ tag, (tag, some variant) ∈ routing.2 := by
  simp only [named?, Option.bind_eq_bind, Option.bind_eq_some_iff] at named
  obtain ⟨_, _, tag, _, lead, found, rfl⟩ := named
  exact ⟨tag, Assoc.mem_of_find? found⟩

/-- The schema that the keys of an object are held against: the variant that its tag names, or the schema itself. -/
def Graph.governing (graph : Graph) (id : Nat) (entries : Assoc Value) : Nat :=
  ((graph.node id).routing?.bind (named? · entries)).getD id

/-- The other schema is asked about the same value: it is a branch, or the variant that the value names. -/
inductive Joins (graph : Graph) (value : Value) (id : Nat) : Nat → Prop
  | allOf {edge} : edge ∈ (graph.node id).allOf.getD [] → Joins graph value id edge.target
  | anyOf {edge} : edge ∈ (graph.node id).anyOf.getD [] → Joins graph value id edge.target
  | oneOf {edge} : edge ∈ (graph.node id).oneOf.getD [] → Joins graph value id edge.target
  | chosen {routing entries variant} : (graph.node id).routing? = some routing → value = .object entries →
      named? routing entries = some variant → Joins graph value id variant

abbrev Beside (graph : Graph) (value : Value) : Nat → Nat → Prop := Relation.ReflTransGen (Joins graph value)

theorem Beside.eq_of_alone {graph : Graph} {value : Value} {id other : Nat}
    (alone : (graph.node id).allOf = none ∧ (graph.node id).anyOf = none ∧ (graph.node id).oneOf = none ∧
      (graph.node id).routing? = none) (beside : Beside graph value id other) : other = id := by
  obtain ⟨allOf, anyOf, oneOf, routing⟩ := alone
  rcases Relation.ReflTransGen.cases_head beside with same | ⟨_, joins, _⟩
  · exact same.symm
  · cases joins with
    | allOf member => simp [allOf] at member
    | anyOf member => simp [anyOf] at member
    | oneOf member => simp [oneOf] at member
    | chosen routed => cases routing.symm.trans routed

end Schema

namespace Validator

open Schema (Catalog)

variable {catalog : Catalog} {slot : Nat → Nat → Prop} {validator : Validator} {id target place other : Nat}
  {value : Value}

theorem Depicts.dispatch_eq_some {node : Schema.Node} {clause : Clause} (depicts : Depicts slot node clause)
    {dispatch : Dispatch} (routes : clause.dispatch = some dispatch) :
    ∃ routing, node.routing? = some routing ∧ routing.1 = dispatch.property ∧
      List.Forall₂ (fun entry other => entry.1 = other.1 ∧ Option.Rel slot entry.2 other.2) routing.2
        dispatch.variants := by
  obtain ⟨routing, routed, same, entries⟩ := Option.Rel.exists_left (routes ▸ depicts.dispatch)
  exact ⟨routing, routed, same, entries⟩

theorem named?_alike {routing : String × Assoc (Option Nat)} {dispatch : Dispatch} (same : routing.1 = dispatch.property)
    (alike : List.Forall₂ (fun entry other => entry.1 = other.1 ∧ Option.Rel slot entry.2 other.2) routing.2
      dispatch.variants) (entries : Assoc Value) :
    Option.Rel slot (Schema.named? routing entries) (Clause.variant? dispatch entries) := by
  unfold Schema.named? Clause.variant?
  rw [same]
  rcases Assoc.find? entries dispatch.property with _ | content
  · exact .none
  · rcases text : content.asString? with _ | tag
    · simp only [Option.bind_eq_bind, Option.bind_some, text, Option.bind_none]
      exact .none
    · simp only [Option.bind_eq_bind, Option.bind_some, text]
      have related := find?_alike alike tag
      revert related
      generalize Assoc.find? routing.2 tag = lead
      generalize Assoc.find? dispatch.variants tag = place
      rintro (placed | _)
      · exact placed
      · exact .none

namespace Mirror

theorem joins (mirror : Mirror catalog slot validator id) (placed : slot target place)
    (joins : Joins validator.clauses value place other) :
    ∃ schema, slot schema other ∧ Schema.Joins catalog.graph value target schema := by
  have depicts := mirror.depicts placed
  cases joins with
  | composed composes =>
      rcases composes with member | member | member
      · obtain ⟨edge, among, placed⟩ := depicts.allOf.exists_left member
        exact ⟨edge.target, placed, .allOf among⟩
      · obtain ⟨edge, among, placed⟩ := depicts.anyOf.exists_left member
        exact ⟨edge.target, placed, .anyOf among⟩
      · obtain ⟨edge, among, placed⟩ := depicts.oneOf.exists_left member
        exact ⟨edge.target, placed, .oneOf among⟩
  | chosen routes object named =>
      obtain ⟨routing, routed, same, entries⟩ := depicts.dispatch_eq_some routes
      obtain ⟨variant, names, placed⟩ := Option.Rel.exists_left (named ▸ named?_alike same entries _)
      exact ⟨variant, placed, .chosen routed object names⟩

theorem beside (mirror : Mirror catalog slot validator id) (placed : slot target place)
    (beside : Beside validator.clauses value place other) :
    ∃ schema, slot schema other ∧ Schema.Beside catalog.graph value target schema := by
  induction beside with
  | refl => exact ⟨target, placed, .refl⟩
  | tail _ joins ih =>
      obtain ⟨schema, placedSchema, reached⟩ := ih
      obtain ⟨next, placedNext, joined⟩ := mirror.joins placedSchema joins
      exact ⟨next, placedNext, reached.tail joined⟩

end Mirror

end Validator

end ApiContract
