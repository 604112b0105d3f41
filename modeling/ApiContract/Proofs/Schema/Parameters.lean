import ApiContract.Proofs.Schema.Visits

/-!
The parameters of an operation. Each entry of a list declares a parameter or has an error (`Yields`). The declared ones
merge by name and place, the last one where the first one stood (`Merges`); errors are kept beside them.
-/

namespace ApiContract

open Json (Value)

def Parameter.signature (parameter : Parameter) : String × ParameterPlace := (parameter.name, parameter.place)

namespace Schema.Reading

/-! ## Merging -/

section

variable {parameters declared : List Parameter} {parameter other : Parameter}

theorem same_signature_iff :
    other.name = parameter.name ∧ other.place = parameter.place ↔ other.signature = parameter.signature := by
  simp [Parameter.signature]

/-- A signature that is there stays where it is, and a new one comes last. -/
theorem signatures_mergeParameter (parameters : List Parameter) (parameter : Parameter) :
    (mergeParameter parameters parameter).map Parameter.signature =
      if parameter.signature ∈ parameters.map Parameter.signature then parameters.map Parameter.signature
      else parameters.map Parameter.signature ++ [parameter.signature] := by
  induction parameters with
  | nil => rfl
  | cons earlier rest ih =>
      rw [mergeParameter]
      by_cases same : earlier.signature = parameter.signature
      · simp [same_signature_iff, same]
      · simp only [same_signature_iff, same, if_false, List.map_cons, ih, List.mem_cons, Ne.symm same, false_or]
        split <;> rfl

theorem mem_mergeParameter (member : other ∈ mergeParameter parameters parameter) :
    other ∈ parameters ∨ other = parameter := by
  induction parameters with
  | nil => exact .inr (List.mem_singleton.mp member)
  | cons earlier rest ih =>
      rw [mergeParameter] at member
      split at member
      · exact (List.mem_cons.mp member).symm.imp_left (List.mem_cons_of_mem _)
      · rcases List.mem_cons.mp member with rfl | later
        · exact .inl List.mem_cons_self
        · exact (ih later).imp_left (List.mem_cons_of_mem _)

/-- Where signatures are distinct, a parameter takes the place of the one that it overrides. -/
theorem signature_ne_of_mem_mergeParameter (distinct : (parameters.map Parameter.signature).Nodup)
    (member : other ∈ mergeParameter parameters parameter) (older : other ≠ parameter) : other.signature ≠ parameter.signature := by
  induction parameters with
  | nil => exact absurd (List.mem_singleton.mp member) older
  | cons earlier rest ih =>
      obtain ⟨fresh, distinctRest⟩ := List.nodup_cons.mp distinct
      rw [mergeParameter] at member
      split at member
      next same =>
        have among := (List.mem_cons.mp member).resolve_left older
        intro sameToo
        have first := same_signature_iff.mp same
        exact fresh (first ▸ sameToo ▸ List.mem_map_of_mem among)
      next different =>
        rcases List.mem_cons.mp member with rfl | later
        · exact mt same_signature_iff.mpr different
        · exact ih distinctRest later

/-- A parameter has the first signature, and none before it has the second one. -/
def Precedes (declared : List Parameter) (first second : String × ParameterPlace) : Prop :=
  ∃ earlier parameter later, declared = earlier ++ parameter :: later ∧ parameter.signature = first ∧
    ∀ other ∈ earlier, other.signature ≠ second

theorem Precedes.append {first second : String × ParameterPlace} (precedes : Precedes declared first second)
    (more : List Parameter) : Precedes (declared ++ more) first second := by
  obtain ⟨earlier, parameter, later, rfl, named, fresh⟩ := precedes
  exact ⟨earlier, parameter, later ++ more, by simp, named, fresh⟩

/-- What declared parameters come to: the last one of each signature, in the order of the first ones. -/
structure Merges (declared parameters : List Parameter) : Prop where
  distinct : (parameters.map Parameter.signature).Nodup
  present : ∀ signature, signature ∈ parameters.map Parameter.signature ↔ signature ∈ declared.map Parameter.signature
  latest : ∀ parameter ∈ parameters, ∃ earlier later, declared = earlier ++ parameter :: later ∧
    ∀ other ∈ later, other.signature ≠ parameter.signature
  ordered : (parameters.map Parameter.signature).Pairwise (Precedes declared)

theorem Merges.merge (merges : Merges declared parameters) (parameter : Parameter) :
    Merges (declared ++ [parameter]) (mergeParameter parameters parameter) where
  distinct := by
    rw [signatures_mergeParameter]
    split
    · exact merges.distinct
    next new => exact List.concat_eq_append ▸ merges.distinct.concat new
  present signature := by
    rw [signatures_mergeParameter, List.map_append, List.mem_append, ← merges.present]
    split
    next known => exact ⟨.inl, fun either => either.elim id fun same => List.mem_singleton.mp same ▸ known⟩
    · exact List.mem_append
  latest other member := by
    by_cases own : other = parameter
    · exact ⟨declared, [], by rw [own], nofun⟩
    · have older := (mem_mergeParameter member).resolve_right own
      have different := signature_ne_of_mem_mergeParameter merges.distinct member own
      obtain ⟨earlier, later, rfl, last⟩ := merges.latest other older
      refine ⟨earlier, later ++ [parameter], by simp, fun another among => ?_⟩
      rcases List.mem_append.mp among with inside | added
      · exact last another inside
      · exact List.mem_singleton.mp added ▸ different.symm
  ordered := by
    have kept := merges.ordered.imp fun precedes => precedes.append [parameter]
    rw [signatures_mergeParameter]
    split
    · exact kept
    next new =>
      refine List.pairwise_append.mpr ⟨kept, List.pairwise_singleton _ _, ?_⟩
      -- The signature is new, so that all others are declared before it.
      intro signature member last among
      cases List.mem_singleton.mp among
      obtain ⟨first, listed, rfl⟩ := List.mem_map.mp ((merges.present signature).mp member)
      obtain ⟨earlier, later, rfl⟩ := List.append_of_mem listed
      refine ⟨earlier, first, later ++ [parameter], by simp, rfl, fun other before same => new ?_⟩
      rw [← same, merges.present]
      exact List.mem_map_of_mem (List.mem_append_left _ before)

theorem merges_foldl (declared : List Parameter) : Merges declared (declared.foldl mergeParameter []) := by
  induction declared using List.reverseRecOn with
  | nil => exact ⟨.nil, fun _ => Iff.rfl, nofun, .nil⟩
  | append_singleton declared last ih =>
      rw [List.foldl_append]
      exact ih.merge last

end

/-! ## Lists with errors -/

def error? : Except CompileError Parameter → Option CompileError
  | .ok _ => none
  | .error error => some error

theorem foldl_add (outcomes : List (Except CompileError Parameter)) (list : ParameterList) :
    outcomes.foldl ParameterList.add list =
      ⟨(outcomes.filterMap Except.toOption).foldl mergeParameter list.parameters,
        list.errors ++ outcomes.filterMap error?⟩ := by
  induction outcomes generalizing list with
  | nil => simp
  | cons outcome rest ih =>
      rw [List.foldl_cons, ih]
      cases outcome with
      | ok parameter => rfl
      | error error =>
          have silent : Except.toOption (.error error : Except CompileError Parameter) = none := rfl
          have told : error? (.error error) = some error := rfl
          rw [List.filterMap_cons_none silent, List.filterMap_cons_some told, List.append_cons]
          rfl

theorem mem_foldl_add {outcomes : List (Except CompileError Parameter)} {list : ParameterList} {parameter : Parameter}
    (member : parameter ∈ (outcomes.foldl ParameterList.add list).parameters) :
    parameter ∈ list.parameters ∨ .ok parameter ∈ outcomes := by
  induction outcomes generalizing list with
  | nil => exact .inl member
  | cons outcome rest ih =>
      rcases ih member with added | later
      · cases outcome with
        | error reason => exact .inl added
        | ok own =>
            rcases mem_mergeParameter added with old | rfl
            · exact .inl old
            · exact .inr List.mem_cons_self
      · exact .inr (List.mem_cons_of_mem _ later)

/-! ## Entries -/

/-- An entry stands where it is written, or where its reference leads to in one step. -/
inductive Resolves (documents : DocumentSet) (url pointer : String) (raw : Value) : Place → Prop
  | here : reference? raw = none → Resolves documents url pointer raw ⟨url, pointer, raw, false⟩
  | away {reference target} : reference? raw = some reference → documents.resolve? url reference = some target →
      Resolves documents url pointer raw
        ⟨(Url.splitReference target.location).1, (Url.splitReference target.location).2, target.value, true⟩

/-- The schema of the body, which is null where the body has none, or else the parameter itself. -/
inductive Schemed (documents : DocumentSet) (catalog : Catalog) (found : Place) : ParameterPlace → Edge → Prop
  | body {schema edge} : found.value.find? "schema" = some schema →
      Led documents found.url (found.pointer ++ "/schema") schema catalog edge → Schemed documents catalog found .body edge
  | blank {id} : found.value.find? "schema" = none →
      Bound (locationOf found.url (found.pointer ++ "/schema")) catalog id →
      Schemed documents catalog found .body (.inline id)
  | own {place id} : place ≠ .body → Bound (locationOf found.url found.pointer) catalog id →
      Schemed documents catalog found place ⟨id, found.viaRef⟩

/-- The parameter that an entry declares. -/
structure Declares (documents : DocumentSet) (catalog : Catalog) (found : Place) (parameter : Parameter) : Prop where
  name : found.value.stringAt? "name" = some parameter.name
  place : ParameterPlace.ofText? ((found.value.stringAt? "in").getD "") = some parameter.place
  required : parameter.required = true ↔ parameter.place = .path ∨ found.value.flagAt "required" = true
  allowEmptyValue : parameter.allowEmptyValue = true ↔
    parameter.place = .query ∧ found.value.flagAt "allowEmptyValue" = true
  coercion : parameter.coercion = (found.value.stringAt? "type").bind Coercion.ofType?
  trivial : parameter.trivial = isTrivial found.value parameter.place parameter.name
  schema : Schemed documents catalog found parameter.place parameter.schema

/-- What an entry comes to. -/
inductive Yields (documents : DocumentSet) (catalog : Catalog) (url pointer : String) (raw : Value) :
    Except CompileError Parameter → Prop
  | lost {reference} : reference? raw = some reference → documents.resolve? url reference = none →
      Yields documents catalog url pointer raw (.error (.unresolvableReference reference (locationOf url pointer)))
  | nameless {found} : Resolves documents url pointer raw found → found.value.stringAt? "name" = none →
      Yields documents catalog url pointer raw
        (.error (.invalidSchema (locationOf found.url found.pointer) "parameter has no name"))
  | misplaced {found name inside} : Resolves documents url pointer raw found →
      found.value.stringAt? "name" = some name → (found.value.stringAt? "in").getD "" = inside →
      ParameterPlace.ofText? inside = none →
      Yields documents catalog url pointer raw (.error (.unsupportedParameterLocation name inside))
  | declared {found parameter} : Resolves documents url pointer raw found → Declares documents catalog found parameter →
      Yields documents catalog url pointer raw (.ok parameter)

section

variable {documents : DocumentSet} {fuel : Nat} {url pointer : String} {raw : Value} {found : Place}

theorem resolves_of_place? (ok : place? documents url pointer raw = .ok found) : Resolves documents url pointer raw found := by
  unfold place? at ok
  split at ok
  next reference written =>
    split at ok
    next target resolved =>
      cases ok
      exact .away written resolved
    · cases ok
  next plain =>
    cases ok
    exact .here plain

theorem Schemed.lasts {place : ParameterPlace} {edge : Edge} :
    Lasts fun catalog => Schemed documents catalog found place edge := by
  intro before after grows schemed
  cases schemed with
  | body held led => exact .body held (led.lasts _ _ grows)
  | blank missing bound => exact .blank missing (grows.lookup bound)
  | own other bound => exact .own other (grows.lookup bound)

theorem Schemed.leading {catalog : Catalog} {place : ParameterPlace} {edge : Edge}
    (schemed : Schemed documents catalog found place edge) (built : Built catalog) : Leading catalog edge := by
  cases schemed with
  | body _ led => exact led.leading built
  | blank _ bound | own _ bound => exact built.lookup_lt bound

theorem Yields.lasts {outcome : Except CompileError Parameter} :
    Lasts fun catalog => Yields documents catalog url pointer raw outcome := by
  intro before after grows yields
  cases yields with
  | lost written missing => exact .lost written missing
  | nameless found nameless => exact .nameless found nameless
  | misplaced found named inside unknown => exact .misplaced found named inside unknown
  | declared found declares => exact .declared found { declares with schema := declares.schema.lasts _ _ grows }

theorem Yields.leading {catalog : Catalog} {parameter : Parameter}
    (yields : Yields documents catalog url pointer raw (.ok parameter)) (built : Built catalog) :
    Leading catalog parameter.schema := by
  cases yields with
  | declared _ declares => exact declares.schema.leading built

theorem parameterSchema_schemed {place : ParameterPlace} (standing : Standing documents found.url found.pointer found.value) :
    Ensures documents (fun _ => True) (parameterSchema documents fuel place found) fun catalog edge =>
      Schemed documents catalog found place edge := by
  have spelled : Pointer.child found.pointer "schema" = found.pointer ++ "/schema" :=
    Pointer.child_of_plain (keywords_plain _ (by decide)).2 _
  have built {pointer : String} {value : Value} (builds : Builds documents found.url pointer value) :=
    (sound documents fuel).build _ _ _ none builds fun _ absurd => by cases absurd
  unfold parameterSchema
  split
  next body =>
    subst body
    dsimp only
    split
    next schema held =>
      have inner := standing.find? (by decide) held
      rw [spelled] at inner
      exact ((sound documents fuel).edge _ _ _ inner).weaken (fun _ start => start) fun _ _ led => .body held led
    next missing =>
      refine .bind trivial_lasts (built (.lacking standing missing)) fun target => ?_
      exact .pure fun _ both => .blank missing both.2
  next other =>
    refine .bind trivial_lasts (built (.standing standing)) fun target => ?_
    exact .pure fun _ both => .own other both.2

theorem parameter_yields (standing : Standing documents url pointer raw) :
    Ensures documents (fun _ => True) (parameter documents fuel url pointer raw) fun catalog outcome =>
      Yields documents catalog url pointer raw outcome := by
  unfold parameter
  split
  next reference lost =>
    obtain ⟨written, missing⟩ := place?_eq_error lost
    exact .pure fun _ _ => .lost written missing
  next found ok =>
    split
    next nameless => exact .pure fun _ _ => .nameless (resolves_of_place? ok) nameless
    next name named =>
      dsimp only
      split
      next unknown => exact .pure fun _ _ => .misplaced (resolves_of_place? ok) named rfl unknown
      next place known =>
        refine .bind trivial_lasts (parameterSchema_schemed (standing.place? ok)) fun schema => ?_
        refine .pure fun _ both => .declared (resolves_of_place? ok) ?_
        exact ⟨named, known, by simp, by simp, rfl, rfl, both.2⟩

/-! ## Owners of parameters -/

/-- The entries of an owner, each with its pointer. -/
def entries (pointer : String) (owner : Value) : List (String × Value) :=
  ((owner.arrayAt? "parameters").getD []).zipIdx.map fun item =>
    (Pointer.item (pointer ++ "/parameters") item.2, item.1)

def Outcomes (documents : DocumentSet) (catalog : Catalog) (url : String) (entries : List (String × Value))
    (outcomes : List (Except CompileError Parameter)) : Prop :=
  List.Forall₂ (fun entry outcome => Yields documents catalog url entry.1 entry.2 outcome) entries outcomes

theorem Outcomes.lasts {listed : List (String × Value)} {outcomes : List (Except CompileError Parameter)} :
    Lasts fun catalog => Outcomes documents catalog url listed outcomes :=
  .forall₂ fun _ _ => Yields.lasts

def Adds (documents : DocumentSet) (catalog : Catalog) (url : String) (entries : List (String × Value))
    (before after : ParameterList) : Prop :=
  ∃ outcomes, Outcomes documents catalog url entries outcomes ∧ after = outcomes.foldl ParameterList.add before

namespace Adds

variable {listed more : List (String × Value)} {before middle after : ParameterList}

theorem lasts : Lasts fun catalog => Adds documents catalog url listed before after :=
  fun _ _ grows ⟨outcomes, all, added⟩ => ⟨outcomes, all.lasts _ _ grows, added⟩

theorem append {catalog : Catalog} (adds : Adds documents catalog url listed before middle)
    (addsMore : Adds documents catalog url more middle after) :
    Adds documents catalog url (listed ++ more) before after := by
  obtain ⟨outcomes, all, rfl⟩ := adds
  obtain ⟨others, allMore, rfl⟩ := addsMore
  exact ⟨outcomes ++ others, List.rel_append all allMore, by rw [List.foldl_append]⟩

end Adds

theorem addParameters_adds {owner : Value} (standing : Standing documents url pointer owner) (list : ParameterList) :
    Ensures documents (fun _ => True) (addParameters documents fuel url pointer owner list) fun catalog result =>
      Adds documents catalog url (entries pointer owner) list result := by
  have each : Ensures documents (fun _ => True)
      (((owner.arrayAt? "parameters").getD []).zipIdx.mapM fun item =>
        parameter documents fuel url (Pointer.item (pointer ++ "/parameters") item.2) item.1)
      fun catalog outcomes => List.Forall₂
        (fun item outcome =>
          Yields documents catalog url (Pointer.item (pointer ++ "/parameters") item.2) item.1 outcome)
        ((owner.arrayAt? "parameters").getD []).zipIdx outcomes := by
    refine .mapM trivial_lasts (fun _ _ => Yields.lasts) fun item member => ?_
    exact parameter_yields (standing.listed "parameters" (by decide) (keywords_plain _ (by decide)).2 member)
  refine .bind trivial_lasts each fun outcomes => .pure fun catalog both => ⟨outcomes, ?_, rfl⟩
  exact List.forall₂_map_left_iff.mpr both.2

end

end Schema.Reading

end ApiContract
