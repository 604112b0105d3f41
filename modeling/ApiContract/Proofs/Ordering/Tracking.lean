import ApiContract.Proofs.Assoc
import ApiContract.Proofs.Ordering.Filling

/-!
Two readings of the same documents, each after other readings of its own. What they answer are the same schemas, under
other numbers, and the second one comes to no place that the first one did not come to (`Tracks`). So are operations the
same but for the numbers of their schemas (`document_tracks`), if nothing that counts stands beside a reference.
-/

namespace ApiContract

open Json (Value)

namespace Assoc

variable {α β : Type} {related : α → β → Prop} {left : Assoc α} {right : Assoc β}

theorem insert_tables (tables : Schema.Outline.Tables related left right) (key : String) {value : α} {other : β}
    (values : related value other) :
    Schema.Outline.Tables related (insert left key value) (insert right key other) := by
  induction tables with
  | nil => exact .cons ⟨rfl, values⟩ .nil
  | @cons entry entryToo rest restToo both tables ih =>
      obtain ⟨name, old⟩ := entry
      obtain ⟨nameToo, oldToo⟩ := entryToo
      obtain ⟨rfl, olds⟩ := both
      unfold insert
      split
      · exact .cons ⟨rfl, values⟩ tables
      · exact .cons ⟨rfl, olds⟩ ih

theorem ofList_tables (tables : Schema.Outline.Tables related left right) :
    Schema.Outline.Tables related (ofList left) (ofList right) := by
  unfold ofList
  have onward : ∀ start startToo, Schema.Outline.Tables related start startToo →
      Schema.Outline.Tables related (left.foldl (fun table pair => insert table pair.1 pair.2) start)
        (right.foldl (fun table pair => insert table pair.1 pair.2) startToo) := by
    induction tables with
    | nil => exact fun _ _ starts => starts
    | cons both _ ih =>
        intro start startToo starts
        refine ih _ _ ?_
        dsimp only
        rw [both.1]
        exact insert_tables starts _ both.2
  exact onward [] [] .nil

end Assoc

/-! ## The same under other numbers -/

section

variable (near : Nat → Nat → Prop)

/-- Two edges of the same kind lead to related schemas. -/
structure Schema.Edge.Alike (edge other : Schema.Edge) : Prop where
  viaRef : edge.viaRef = other.viaRef
  near : near edge.target other.target

/-- Two parameters are the same but for the numbers of their schemas. -/
structure Parameter.Alike (parameter other : Parameter) : Prop where
  bare : { parameter with schema := other.schema } = other
  schema : parameter.schema.Alike near other.schema

structure Response.Alike (response other : Response) : Prop where
  bare : { response with schema := other.schema, headers := other.headers } = other
  schema : Option.Rel (Schema.Edge.Alike near) response.schema other.schema
  headers : Schema.Outline.Tables (Schema.Edge.Alike near) response.headers other.headers

structure Operation.Alike (operation other : Operation) : Prop where
  bare : { operation with parameters := other.parameters, responses := other.responses } = other
  parameters : List.Forall₂ (Parameter.Alike near) operation.parameters other.parameters
  responses : Schema.Outline.Tables (Response.Alike near) operation.responses other.responses

end

namespace Schema.Reading

variable {α β γ δ : Type} {documents : DocumentSet} {one other : Catalog} {id fuel : Nat} {url pointer : String}
  {value : Value}

/-- Two schemas were made at the same place, or are both placeholders of references that end nowhere. -/
inductive Near (one other : Catalog) (id twin : Nat) : Prop
  | same {location} : Present one location id → Present other location twin → Near one other id twin
  | lost : one.deferred.find? id ≠ none → other.deferred.find? twin ≠ none → Near one other id twin

theorem Lands.near (navigable : Navigable documents) {base current : String} {twin : Nat}
    (lands : Lands documents one base current [] id) (landsToo : Lands documents other base current [] twin) :
    Near one other id twin := by
  cases lands with
  | reached ends present =>
      cases landsToo with
      | reached endsToo presentToo =>
          obtain ⟨rfl, _⟩ := ends.unique endsToo
          exact .same present presentToo
      | lost lost => exact (ends.not_unresolvable navigable lost fun _ absurd => nomatch absurd).elim
  | lost lost spoiled =>
      cases landsToo with
      | reached endsToo => exact (endsToo.not_unresolvable navigable lost fun _ absurd => nomatch absurd).elim
      | lost _ spoiledToo => exact .lost spoiled spoiledToo

theorem Comes.near (navigable : Navigable documents) {spot : Spot} {edge twin : Edge}
    (comes : Comes documents one url spot edge) (comesToo : Comes documents other url spot twin) :
    edge.Alike (Near one other) twin := by
  cases comes with
  | inline plain present =>
      cases comesToo with
      | inline _ presentToo => exact ⟨rfl, .same present presentToo⟩
      | reference written => cases plain.symm.trans written
  | reference written lands =>
      cases comesToo with
      | inline plain => cases plain.symm.trans written
      | reference writtenToo landsToo =>
          cases written.symm.trans writtenToo
          exact ⟨rfl, lands.near navigable landsToo⟩

/-- The places of the schemas of a catalog, and the names that they have there. -/
def Region.of (catalog : Catalog) : Region where
  place location := ∃ id, Present catalog location id
  named location := ∃ id, Present catalog location id ∧ (catalog.graph.node id).identity ≠ none

theorem Comes.welcomes (navigable : Navigable documents) {spot : Spot} {edge : Edge}
    (comes : Comes documents one url spot edge) : (Region.of one).Welcomes documents url spot := by
  cases comes with
  | inline plain present => exact ⟨fun _ => ⟨_, present⟩, fun _ written => nomatch plain.symm.trans written⟩
  | reference written lands =>
      refine ⟨fun plain => (nomatch plain.symm.trans written), fun reference again target length ends => ?_⟩
      cases written.symm.trans again
      cases lands with
      | reached endsToo present named =>
          obtain ⟨rfl, _⟩ := ends.unique endsToo
          exact ⟨⟨_, present⟩, _, present, named⟩
      | lost lost => exact (ends.not_unresolvable navigable lost fun _ absurd => nomatch absurd).elim

theorem Navigable.builds_eq (navigable : Navigable documents) (stored : Stored documents) {otherUrl place : String}
    {inner : Value} (builds : Builds documents url pointer value) (buildsToo : Builds documents otherUrl place inner)
    (same : locationOf url pointer = locationOf otherUrl place) : url = otherUrl ∧ pointer = place ∧ inner = value := by
  cases buildsToo with
  | standing standing => exact navigable.value_eq stored builds standing same
  | lacking standing missing =>
      cases builds with
      | standing standingToo =>
          obtain ⟨rfl, rfl, rfl⟩ := navigable.value_eq stored (.lacking standing missing) standingToo same.symm
          exact ⟨rfl, rfl, rfl⟩
      | lacking standingToo missingToo =>
          have split := congrArg Url.splitReference same
          rw [locationOf, locationOf, splitReference_of_plain
            (navigable.plain stored (.lacking standingToo missingToo)),
            splitReference_of_plain (navigable.plain stored (.lacking standing missing))] at split
          obtain ⟨address, place⟩ := Prod.mk.inj split
          exact ⟨address, place, rfl⟩

theorem Region.of_closed (navigable : Navigable documents) (stored : Stored documents)
    (drawn : ∀ id < one.graph.size, Drawn documents one id) (regular : Regular documents one) :
    (Region.of one).Closed documents := by
  rintro url pointer value builds plain ⟨id, present⟩
  have located := regular.moves.represents.located
  obtain ⟨inside, source⟩ := (located _ _).mp present.bound
  cases drawn id inside with
  | lost lost => exact absurd present.sound lost
  | schema buildsToo presentToo alike =>
      have same := source.symm.trans ((located _ _).mp presentToo.bound).2
      obtain ⟨rfl, rfl, rfl⟩ := navigable.builds_eq stored builds buildsToo same
      exact alike.all fun _ _ comes => comes.welcomes navigable

/-! ## Two readings -/

/-- What holds of two regular catalogs goes on to hold. -/
def Persists (documents : DocumentSet) (holds : Catalog → Catalog → Prop) : Prop :=
  ∀ before after beforeToo afterToo, Regular documents before → Regular documents beforeToo →
    Moves documents before after → Moves documents beforeToo afterToo → holds before beforeToo → holds after afterToo

theorem near_persists (id twin : Nat) : Persists documents fun one other => Near one other id twin := by
  intro before after beforeToo afterToo regular regularToo moves movesToo near
  cases near with
  | same present presentToo => exact .same (regular.present moves present) (regularToo.present movesToo presentToo)
  | lost lost lostToo => exact .lost (regular.spoiled moves lost) (regularToo.spoiled movesToo lostToo)

theorem Persists.and {first second : Catalog → Catalog → Prop} (persists : Persists documents first)
    (persistsToo : Persists documents second) :
    Persists documents fun one other => first one other ∧ second one other :=
  fun _ _ _ _ regular regularToo moves movesToo both =>
    ⟨persists _ _ _ _ regular regularToo moves movesToo both.1,
      persistsToo _ _ _ _ regular regularToo moves movesToo both.2⟩

theorem persists_true : Persists documents fun _ _ => True := fun _ _ _ _ _ _ _ _ _ => trivial

/-- Two readings draw what they add, from catalogs of their own, and their answers are related. If the first one went
before a catalog was complete, the second one comes only to places of that catalog. -/
def Tracks (documents : DocumentSet) (whole : Catalog) (pre : Catalog → Catalog → Prop) (first : Reading α)
    (second : Reading β) (related : Catalog → Catalog → α → β → Prop) : Prop :=
  ∀ before result after beforeToo resultToo afterToo, Regular documents before → Regular documents beforeToo →
    pre before beforeToo → first.run before = some (result, after) → second.run beforeToo = some (resultToo, afterToo) →
    Filled documents .everywhere none before after ∧ Filled documents .everywhere none beforeToo afterToo ∧
      related after afterToo result resultToo ∧
      (Moves documents after whole → (Region.of whole).Covers beforeToo → (Region.of whole).Covers afterToo)

namespace Tracks

variable {whole : Catalog} {pre : Catalog → Catalog → Prop} {first : Reading α} {second : Reading β}
  {related : Catalog → Catalog → α → β → Prop}

theorem pure {result : α} {resultToo : β}
    (relates : ∀ one other, pre one other → related one other result resultToo) :
    Tracks documents whole pre (pure result) (pure resultToo) related := by
  intro before _ _ beforeToo _ _ regular regularToo start ran ranToo
  cases ran
  cases ranToo
  exact ⟨.refl regular, .refl regularToo, relates _ _ start, fun _ covers => covers⟩

theorem bind {next : α → Reading γ} {nextToo : β → Reading δ} {more : Catalog → Catalog → γ → δ → Prop}
    (persists : Persists documents pre) (tracks : Tracks documents whole pre first second related)
    (later : ∀ result resultToo, Tracks documents whole
      (fun one other => pre one other ∧ related one other result resultToo) (next result) (nextToo resultToo) more) :
    Tracks documents whole pre (first >>= next) (second >>= nextToo) more := by
  intro before last after beforeToo lastToo afterToo regular regularToo start ran ranToo
  obtain ⟨result, middle, firstRan, nextRan⟩ := (StateT.run_bind_eq_some _ _ _ _).mp ran
  obtain ⟨resultToo, middleToo, secondRan, nextRanToo⟩ := (StateT.run_bind_eq_some _ _ _ _).mp ranToo
  obtain ⟨filled, filledToo, relates, covers⟩ := tracks _ _ _ _ _ _ regular regularToo start firstRan secondRan
  have pursued := persists _ _ _ _ regular regularToo filled.moves filledToo.moves start
  obtain ⟨filledOn, filledOnToo, relatesOn, coversOn⟩ :=
    later result resultToo _ _ _ _ _ _ filled.regular filledToo.regular ⟨pursued, relates⟩ nextRan nextRanToo
  exact ⟨filled.andThen filledOn, filledToo.andThen filledOnToo, relatesOn,
    fun moves start => coversOn moves (covers (filledOn.moves.trans moves) start)⟩

theorem weaken {stronger : Catalog → Catalog → Prop} {more : Catalog → Catalog → α → β → Prop}
    (tracks : Tracks documents whole pre first second related)
    (strong : ∀ one other, stronger one other → pre one other)
    (weak : ∀ one other result resultToo, related one other result resultToo → more one other result resultToo) :
    Tracks documents whole stronger first second more := by
  intro before result after beforeToo resultToo afterToo regular regularToo start ran ranToo
  obtain ⟨filled, filledToo, relates, covers⟩ := tracks _ _ _ _ _ _ regular regularToo (strong _ _ start) ran ranToo
  exact ⟨filled, filledToo, weak _ _ _ _ relates, covers⟩

theorem anywhere (tracks : Tracks documents whole (fun _ _ => True) first second related) :
    Tracks documents whole pre first second related :=
  tracks.weaken (fun _ _ _ => trivial) fun _ _ _ _ relates => relates

theorem map {change : α → γ} {changeToo : β → δ} {more : Catalog → Catalog → γ → δ → Prop}
    (tracks : Tracks documents whole (fun _ _ => True) first second related)
    (relates : ∀ one other result resultToo, related one other result resultToo →
      more one other (change result) (changeToo resultToo)) :
    Tracks documents whole (fun _ _ => True) (first >>= fun result => Pure.pure (change result))
      (second >>= fun result => Pure.pure (changeToo result)) more :=
  .bind persists_true tracks fun _ _ => .pure fun _ _ both => relates _ _ _ _ both.2

theorem mapM {items : List γ} {visit : γ → Reading α} {visitToo : γ → Reading β}
    (persists : ∀ result resultToo, Persists documents fun one other => related one other result resultToo)
    (tracks : ∀ item ∈ items, Tracks documents whole (fun _ _ => True) (visit item) (visitToo item) related) :
    Tracks documents whole (fun _ _ => True) (items.mapM visit) (items.mapM visitToo)
      fun one other => List.Forall₂ (related one other) := by
  induction items with
  | nil =>
      rw [List.mapM_nil, List.mapM_nil]
      exact .pure fun _ _ _ => .nil
  | cons item rest ih =>
      rw [List.mapM_cons, List.mapM_cons]
      refine .bind persists_true (tracks item List.mem_cons_self) fun result resultToo => ?_
      have others := ih fun item member => tracks item (List.mem_cons_of_mem _ member)
      have kept := persists_true.and (persists result resultToo)
      refine .bind kept others.anywhere fun results resultsToo => ?_
      exact .pure fun _ _ both => .cons both.1.2 both.2

theorem forM {items : List γ} {visit visitToo : γ → Reading PUnit}
    (tracks : ∀ item ∈ items, Tracks documents whole (fun _ _ => True) (visit item) (visitToo item)
      fun _ _ _ _ => True) :
    Tracks documents whole (fun _ _ => True) (items.forM visit) (items.forM visitToo) fun _ _ _ _ => True := by
  induction items with
  | nil => exact .pure fun _ _ _ => trivial
  | cons item rest ih =>
      refine .bind persists_true (tracks item List.mem_cons_self) fun _ _ => ?_
      exact (ih fun item member => tracks item (List.mem_cons_of_mem _ member)).anywhere

end Tracks

section

variable {whole : Catalog} (navigable : Navigable documents) (stored : Stored documents)
  (closed : (Region.of whole).Closed documents) (regular : Regular documents whole)

include navigable stored closed

theorem edge_tracks (standing : Standing documents url pointer value) :
    Tracks documents whole (fun _ _ => True) (edge documents fuel url pointer value)
      (edge documents fuel url pointer value) fun one other => Edge.Alike (Near one other) := by
  intro before result after beforeToo resultToo afterToo regular regularToo _ ran ranToo
  have everywhere := (fillsWithin navigable stored (Region.everywhere_closed documents) fuel).edge url pointer value
    standing
    (Region.everywhere_welcomes _ _ _)
  obtain ⟨filled, comes⟩ := everywhere _ _ _ regular trivial ran
  obtain ⟨filledToo, comesToo⟩ := everywhere _ _ _ regularToo trivial ranToo
  refine ⟨filled, filledToo, comes.near navigable comesToo, fun moves => ?_⟩
  have welcome := (filled.regular.comes moves comes).welcomes navigable
  exact ((fillsWithin navigable stored closed fuel).edge url pointer value standing welcome _ _ _ regularToo trivial
    ranToo).1.covers

theorem build_tracks {identity : Option String} (builds : Builds documents url pointer value)
    (plain : reference? value = none) (own : IsOwn url pointer identity) :
    Tracks documents whole (fun _ _ => True) (build documents fuel url pointer value identity)
      (build documents fuel url pointer value identity) Near := by
  intro before result after beforeToo resultToo afterToo regular regularToo _ ran ranToo
  have everywhere := (fillsWithin navigable stored (Region.everywhere_closed documents) fuel).build url pointer value
    identity builds plain own trivial fun _ => trivial
  obtain ⟨filled, present, named⟩ := everywhere _ _ _ regular trivial ran
  obtain ⟨filledToo, presentToo, _⟩ := everywhere _ _ _ regularToo trivial ranToo
  refine ⟨filled, filledToo, .same present presentToo, fun moves => ?_⟩
  have there := filled.regular.present moves present
  exact ((fillsWithin navigable stored closed fuel).build url pointer value identity builds plain own ⟨_, there⟩
    (fun given => ⟨_, there, moves.named (named given)⟩) _ _ _ regularToo trivial ranToo).1.covers

theorem follow_tracks {reference : String} (standing : Standing documents url pointer value)
    (written : reference? value = some reference) :
    Tracks documents whole (fun _ _ => True) (follow documents fuel ⟨url, pointer, reference⟩ url reference [])
      (follow documents fuel ⟨url, pointer, reference⟩ url reference []) Near := by
  intro before result after beforeToo resultToo afterToo regular regularToo _ ran ranToo
  have cited : Cited documents url reference := ⟨_, _, standing, written⟩
  have dangles (lost : Unresolvable documents url reference []) : Dangling documents url pointer reference :=
    ⟨⟨value, standing, written⟩, lost⟩
  have everywhere := (fillsWithin navigable stored (Region.everywhere_closed documents) fuel).follow
    ⟨url, pointer, reference⟩ url reference [] cited dangles fun _ _ _ => ⟨trivial, trivial⟩
  obtain ⟨filled, lands⟩ := everywhere _ _ _ regular trivial ran
  obtain ⟨filledToo, landsToo⟩ := everywhere _ _ _ regularToo trivial ranToo
  refine ⟨filled, filledToo, lands.near navigable landsToo, fun moves => ?_⟩
  have comes : Comes documents whole url (pointer, value) (.reference result) :=
    .reference written (filled.regular.lands moves lands)
  have welcome := (comes.welcomes navigable).reference reference written
  exact ((fillsWithin navigable stored closed fuel).follow ⟨url, pointer, reference⟩ url reference [] cited dangles
    welcome
    _ _ _ regularToo trivial ranToo).1.covers

omit navigable stored closed in
theorem unresolved_tracks {reference : String} (dangling : Dangling documents url pointer reference) :
    Tracks documents whole (fun _ _ => True) (unresolved url pointer reference) (unresolved url pointer reference)
      Near := by
  intro before result after beforeToo resultToo afterToo regular regularToo _ ran ranToo
  obtain ⟨filled, lost⟩ := unresolved_fills dangling _ _ _ regular trivial ran
  obtain ⟨filledToo, lostToo⟩ := unresolved_fills dangling _ _ _ regularToo trivial ranToo
  exact ⟨filled, filledToo, .lost lost lostToo,
    fun _ => (unresolved_fills dangling _ _ _ regularToo trivial ranToo).1.covers⟩

end

end Schema.Reading

end ApiContract

namespace ApiContract

open Json (Value)

section

variable {near more : Nat → Nat → Prop}

theorem Parameter.Alike.same {α : Type} {parameter other : Parameter} (alike : parameter.Alike near other)
    (read : Parameter → α) (blind : ∀ (parameter : Parameter) schema, read { parameter with schema } = read parameter) :
    read parameter = read other :=
  (blind parameter _).symm.trans (congrArg read alike.bare)

theorem Response.Alike.same {α : Type} {response other : Response} (alike : response.Alike near other)
    (read : Response → α)
    (blind : ∀ (response : Response) schema headers, read { response with schema, headers } = read response) :
    read response = read other :=
  (blind response _ _).symm.trans (congrArg read alike.bare)

theorem Operation.Alike.same {α : Type} {operation other : Operation} (alike : operation.Alike near other)
    (read : Operation → α)
    (blind : ∀ (operation : Operation) parameters responses,
      read { operation with parameters, responses } = read operation) : read operation = read other :=
  (blind operation _ _).symm.trans (congrArg read alike.bare)

variable (weaker : ∀ id twin, near id twin → more id twin)

include weaker

theorem Schema.Edge.Alike.imp {edge other : Schema.Edge} (alike : edge.Alike near other) : edge.Alike more other :=
  ⟨alike.viaRef, weaker _ _ alike.near⟩

theorem Parameter.Alike.imp {parameter other : Parameter} (alike : parameter.Alike near other) :
    parameter.Alike more other :=
  ⟨alike.bare, alike.schema.imp weaker⟩

theorem Response.Alike.imp {response other : Response} (alike : response.Alike near other) :
    response.Alike more other :=
  ⟨alike.bare, Option.Rel.imp (fun _ _ edges => Schema.Edge.Alike.imp weaker edges) alike.schema,
    alike.headers.imp fun _ _ both => ⟨both.1, both.2.imp weaker⟩⟩

theorem Operation.Alike.imp {operation other : Operation} (alike : operation.Alike near other) :
    operation.Alike more other :=
  ⟨alike.bare, alike.parameters.imp fun _ _ both => both.imp weaker,
    alike.responses.imp fun _ _ both => ⟨both.1, both.2.imp weaker⟩⟩

end

namespace Schema.Reading

variable {documents : DocumentSet} {whole : Catalog} {fuel : Nat} {url pointer : String} {value raw : Value}

/-- Two outcomes: the same error, or related results. -/
inductive OutcomeAlike {ε α β : Type} (related : α → β → Prop) : Except ε α → Except ε β → Prop
  | error (error : ε) : OutcomeAlike related (.error error) (.error error)
  | ok {result : α} {other : β} : related result other → OutcomeAlike related (.ok result) (.ok other)

/-- Parameters have the same names and places in the same order, and the same ones cannot be used. -/
structure ParameterList.Alike (near : Nat → Nat → Prop) (list other : ParameterList) : Prop where
  parameters : List.Forall₂ (Parameter.Alike near) list.parameters other.parameters
  errors : list.errors = other.errors

section

variable {near : Nat → Nat → Prop}

theorem mergeParameter_alike {list other : List Parameter} (lists : List.Forall₂ (Parameter.Alike near) list other)
    {parameter twin : Parameter} (alike : parameter.Alike near twin) :
    List.Forall₂ (Parameter.Alike near) (mergeParameter list parameter) (mergeParameter other twin) := by
  have same {parameter twin : Parameter} (alike : parameter.Alike near twin) :
      parameter.name = twin.name ∧ parameter.place = twin.place := by
    rw [← alike.bare]
    exact ⟨rfl, rfl⟩
  induction lists with
  | nil => exact .cons alike .nil
  | cons both rest ih =>
      unfold mergeParameter
      rw [(same both).1, (same both).2, (same alike).1, (same alike).2]
      split
      · exact .cons alike rest
      · exact .cons both ih

theorem ParameterList.Alike.add {list other : ParameterList} (alike : list.Alike near other)
    {outcome twin : Except CompileError Parameter} (outcomes : OutcomeAlike (Parameter.Alike near) outcome twin) :
    (list.add outcome).Alike near (other.add twin) := by
  cases outcomes with
  | error error => exact ⟨alike.parameters, congrArg (· ++ [error]) alike.errors⟩
  | ok both => exact ⟨mergeParameter_alike alike.parameters both, alike.errors⟩

theorem ParameterList.Alike.foldl {outcomes twins : List (Except CompileError Parameter)}
    (all : List.Forall₂ (OutcomeAlike (Parameter.Alike near)) outcomes twins) {list other : ParameterList}
    (alike : list.Alike near other) :
    (outcomes.foldl ParameterList.add list).Alike near (twins.foldl ParameterList.add other) := by
  induction all generalizing list other with
  | nil => exact alike
  | cons both _ ih => exact ih (alike.add both)

end

/-- No name, branches or discriminator stand beside a reference. -/
def Unadorned (documents : DocumentSet) : Prop :=
  ∀ entry ∈ documents.documents, ∀ part ∈ entry.2.parts, reference? part ≠ none →
    ∀ key ∈ ["name", "allOf", "discriminator"], part.find? key = none

theorem Unadorned.plain (unadorned : Unadorned documents) (navigable : Navigable documents) (stored : Stored documents)
    (standing : Standing documents url pointer value) {key : String} (among : key ∈ ["name", "allOf", "discriminator"])
    (present : value.find? key ≠ none) : reference? value = none := by
  by_contra written
  obtain ⟨entry, listed, part⟩ := (navigable.found stored standing).part
  exact present (unadorned entry listed value part written key among)

theorem parameter_persists (parameter twin : Parameter) :
    Persists documents fun one other => parameter.Alike (Near one other) twin :=
  fun _ _ _ _ regular regularToo moves movesToo alike =>
    alike.imp fun id twin => near_persists id twin _ _ _ _ regular regularToo moves movesToo

theorem outcome_persists (outcome twin : Except CompileError Parameter) :
    Persists documents fun one other => OutcomeAlike (Parameter.Alike (Near one other)) outcome twin := by
  intro _ _ _ _ regular regularToo moves movesToo outcomes
  cases outcomes with
  | error error => exact .error error
  | ok alike => exact .ok (parameter_persists _ _ _ _ _ _ regular regularToo moves movesToo alike)

theorem edge_persists (edge twin : Edge) : Persists documents fun one other => edge.Alike (Near one other) twin :=
  fun _ _ _ _ regular regularToo moves movesToo alike =>
    alike.imp fun id twin => near_persists id twin _ _ _ _ regular regularToo moves movesToo

theorem response_persists (response twin : Response) :
    Persists documents fun one other => response.Alike (Near one other) twin :=
  fun _ _ _ _ regular regularToo moves movesToo alike =>
    alike.imp fun id twin => near_persists id twin _ _ _ _ regular regularToo moves movesToo

theorem operation_persists (operation twin : Operation) :
    Persists documents fun one other => operation.Alike (Near one other) twin :=
  fun _ _ _ _ regular regularToo moves movesToo alike =>
    alike.imp fun id twin => near_persists id twin _ _ _ _ regular regularToo moves movesToo

section

variable (navigable : Navigable documents) (stored : Stored documents) (unadorned : Unadorned documents)
  (closed : (Region.of whole).Closed documents)

include navigable stored closed

theorem parameterSchema_tracks {place : ParameterPlace} {parameter : Place}
    (standing : Standing documents parameter.url parameter.pointer parameter.value)
    (plain : reference? parameter.value = none) :
    Tracks documents whole (fun _ _ => True) (parameterSchema documents fuel place parameter)
      (parameterSchema documents fuel place parameter) fun one other => Edge.Alike (Near one other) := by
  have spelled : Pointer.child parameter.pointer "schema" = parameter.pointer ++ "/schema" :=
    Pointer.child_of_plain (keywords_plain _ (by decide)).2 _
  have own pointer : IsOwn parameter.url pointer none := fun _ absurd => nomatch absurd
  unfold parameterSchema
  split
  · dsimp only
    split
    next schema found =>
      rw [← spelled]
      exact edge_tracks navigable stored closed (standing.find? (by decide) found)
    next missing =>
      exact (build_tracks navigable stored closed (.lacking standing missing) rfl (own _)).map
        fun _ _ _ _ near => ⟨rfl, near⟩
  · exact (build_tracks navigable stored closed (.standing standing) plain (own _)).map fun _ _ _ _ near => ⟨rfl, near⟩

include unadorned

theorem parameter_tracks (standing : Standing documents url pointer raw) :
    Tracks documents whole (fun _ _ => True) (parameter documents fuel url pointer raw)
      (parameter documents fuel url pointer raw) fun one other => OutcomeAlike (Parameter.Alike (Near one other)) := by
  unfold parameter
  split
  · exact .pure fun _ _ _ => .error _
  next place found =>
    split
    · exact .pure fun _ _ _ => .error _
    next name named =>
      dsimp only
      split
      · exact .pure fun _ _ _ => .error _
      · have stands := standing.place? found
        have plain : reference? place.value = none := by
          refine unadorned.plain navigable stored stands (show "name" ∈ _ by decide) fun missing => ?_
          rw [Value.stringAt?, missing] at named
          cases named
        exact (parameterSchema_tracks navigable stored closed stands plain).map fun _ _ _ _ alike => .ok ⟨rfl, alike⟩

theorem addParameters_tracks {owner : Value} (standing : Standing documents url pointer owner)
    (list twin : ParameterList) :
    Tracks documents whole (fun one other => list.Alike (Near one other) twin)
      (addParameters documents fuel url pointer owner list) (addParameters documents fuel url pointer owner twin)
      fun one other => ParameterList.Alike (Near one other) := by
  have persists : Persists documents fun one other => list.Alike (Near one other) twin :=
    fun _ _ _ _ regular regularToo moves movesToo alike =>
      ⟨alike.parameters.imp fun _ _ => parameter_persists _ _ _ _ _ _ regular regularToo moves movesToo, alike.errors⟩
  have each : Tracks documents whole (fun _ _ => True)
      (((owner.arrayAt? "parameters").getD []).zipIdx.mapM fun item =>
        parameter documents fuel url (Pointer.item (pointer ++ "/parameters") item.2) item.1)
      (((owner.arrayAt? "parameters").getD []).zipIdx.mapM fun item =>
        parameter documents fuel url (Pointer.item (pointer ++ "/parameters") item.2) item.1)
      fun one other => List.Forall₂ (OutcomeAlike (Parameter.Alike (Near one other))) := by
    refine .mapM (fun outcome twin => outcome_persists outcome twin) fun item member => ?_
    exact parameter_tracks navigable stored unadorned closed
      (standing.listed "parameters" (by decide) (keywords_plain _ (by decide)).2 member)
  exact .bind persists each.anywhere fun _ _ => .pure fun _ _ both => .foldl both.2 both.1

omit unadorned in
theorem responseHeaders_tracks {place : Place} (standing : Standing documents place.url place.pointer place.value) :
    Tracks documents whole (fun _ _ => True) (responseHeaders documents fuel place)
      (responseHeaders documents fuel place)
      fun one other => Outline.Tables (Edge.Alike (Near one other)) := by
  have persists (header twin : String × Edge) : Persists documents fun one other =>
      header.1 = twin.1 ∧ header.2.Alike (Near one other) twin.2 :=
    fun _ _ _ _ regular regularToo moves movesToo both =>
      ⟨both.1, edge_persists _ _ _ _ _ _ regular regularToo moves movesToo both.2⟩
  refine .map (.mapM persists fun header member => ?_) fun _ _ _ _ tables => Assoc.ofList_tables tables
  have stands := standing.entry "headers" (by decide) (keywords_plain _ (by decide)).2 member
  exact (edge_tracks navigable stored closed stands).map fun _ _ _ _ alike => ⟨rfl, alike⟩

omit unadorned in
theorem response_tracks {operationKey status : String} (standing : Standing documents url pointer raw) :
    Tracks documents whole (fun _ _ => True) (response documents fuel url pointer operationKey status raw)
      (response documents fuel url pointer operationKey status raw) fun one other =>
        Response.Alike (Near one other) := by
  unfold response
  dsimp only
  split
  next reference lost =>
    obtain ⟨written, missing⟩ := place?_eq_error lost
    exact (unresolved_tracks (Dangling.mk ⟨_, standing, written⟩ (.missing missing))).map
      fun _ _ _ _ near => ⟨rfl, .some ⟨rfl, near⟩, .nil⟩
  next place found =>
    have stands := standing.place? found
    have spelled : Pointer.child place.pointer "schema" = place.pointer ++ "/schema" :=
      Pointer.child_of_plain (keywords_plain _ (by decide)).2 _
    have headers (schema twin : Option Edge) : Tracks documents whole
        (fun one other => Option.Rel (Edge.Alike (Near one other)) schema twin)
        (responseHeaders documents fuel place >>= fun headers =>
          pure ({ key := operationKey ++ "/responses/" ++ status, status, schema, headers } : Response))
        (responseHeaders documents fuel place >>= fun headers =>
          pure ({ key := operationKey ++ "/responses/" ++ status, status, schema := twin, headers } : Response))
        fun one other => Response.Alike (Near one other) := by
      have persists : Persists documents fun one other => Option.Rel (Edge.Alike (Near one other)) schema twin :=
        fun _ _ _ _ regular regularToo moves movesToo related =>
          related.imp fun _ _ => edge_persists _ _ _ _ _ _ regular regularToo moves movesToo
      exact .bind persists (responseHeaders_tracks navigable stored closed stands).anywhere
        fun _ _ => .pure fun _ _ both => ⟨rfl, both.1, both.2⟩
    split
    next schema held =>
      have inner := stands.find? (by decide) held
      rw [spelled] at inner
      refine .bind persists_true (edge_tracks navigable stored closed inner) fun edge twin => ?_
      exact (headers (some edge) (some twin)).weaken (fun _ _ both => .some both.2) fun _ _ _ _ alike => alike
    · exact (headers none none).weaken (fun _ _ _ => .none) fun _ _ _ _ alike => alike

theorem operation_tracks {document item : Value} {path method : String}
    (standingItem : Standing documents url (Pointer.child "/paths" path) item)
    (standing : Standing documents url (Pointer.child "/paths" path ++ "/" ++ method) raw) :
    Tracks documents whole (fun _ _ => True) (operation documents fuel url document path item method raw)
      (operation documents fuel url document path item method raw) fun one other =>
        Operation.Alike (Near one other) := by
  have start one other : ParameterList.Alike (Near one other) {} {} := ⟨.nil, rfl⟩
  have persists (list twin : ParameterList) : Persists documents fun one other => list.Alike (Near one other) twin :=
    fun _ _ _ _ regular regularToo moves movesToo alike =>
      ⟨alike.parameters.imp fun _ _ => parameter_persists _ _ _ _ _ _ regular regularToo moves movesToo, alike.errors⟩
  have entries (entry twin : String × Response) : Persists documents fun one other =>
      entry.1 = twin.1 ∧ entry.2.Alike (Near one other) twin.2 :=
    fun _ _ _ _ regular regularToo moves movesToo both =>
      ⟨both.1, response_persists _ _ _ _ _ _ regular regularToo moves movesToo both.2⟩
  unfold operation
  refine .bind persists_true ((addParameters_tracks navigable stored unadorned closed standingItem {} {}).weaken
    (fun _ _ _ => start _ _) fun _ _ _ _ alike => alike) fun ofPath ofPathToo => ?_
  refine .bind (persists_true.and (persists _ _))
    ((addParameters_tracks navigable stored unadorned closed standing ofPath
    ofPathToo).weaken (fun _ _ both => both.2) fun _ _ _ _ alike => alike) fun list twin => ?_
  refine .bind ((persists_true.and (persists _ _)).and (persists list twin)) (Tracks.anywhere (.mapM entries
    fun entry member => ?_)) fun responses responsesToo => .pure fun _ _ both => ?_
  · have stands := standing.entry "responses" (by decide) (keywords_plain _ (by decide)).2 member
    exact (response_tracks navigable stored closed stands).map fun _ _ _ _ alike => ⟨rfl, alike⟩
  · refine ⟨?_, both.1.2.parameters, both.2⟩
    rw [both.1.2.errors]

omit unadorned in
theorem definition_tracks {name : String} (standing : Standing documents url (Pointer.child "/definitions" name) raw) :
    Tracks documents whole (fun _ _ => True) (definition documents fuel url name raw)
      (definition documents fuel url name raw)
      Near := by
  unfold definition
  dsimp only
  split
  next reference written => exact follow_tracks navigable stored closed standing written
  next plain =>
    refine build_tracks navigable stored closed (.standing standing) plain ?_
    rintro location ⟨⟩
    rfl

theorem document_tracks (fuel : Nat) (url : String) :
    Tracks documents whole (fun _ _ => True) (document documents fuel url) (document documents fuel url)
      fun one other => List.Forall₂ (Operation.Alike (Near one other)) := by
  unfold document
  split
  · exact .pure fun _ _ _ => .nil
  next whole found =>
    have standing : Standing documents url "" whole := .document (Assoc.mem_of_find? found)
    have lists (operations twins : List Operation) : Persists documents fun one other =>
        List.Forall₂ (Operation.Alike (Near one other)) operations twins :=
      fun _ _ _ _ regular regularToo moves movesToo all =>
        all.imp fun _ _ => operation_persists _ _ _ _ _ _ regular regularToo moves movesToo
    refine .bind persists_true (.mapM lists fun path member => .mapM operation_persists fun entry among => ?_)
      fun operations twins => .bind (persists_true.and fun _ _ _ _ regular regularToo moves movesToo all =>
          all.imp fun _ _ => lists _ _ _ _ _ _ regular regularToo moves movesToo)
        (Tracks.anywhere (.forM fun entry member => ?_)) fun _ _ => .pure fun _ _ both => ?_
    · have stands := standing.entry "paths" (by decide) (keywords_plain _ (by decide)).2 member
      exact operation_tracks navigable stored unadorned closed stands (stands.method among)
    · have stands := standing.entry "definitions" (by decide) (keywords_plain _ (by decide)).2 member
      exact (definition_tracks navigable stored closed stands).map fun _ _ _ _ _ => trivial
    · exact List.rel_flatten both.1.2

end

end Schema.Reading

end ApiContract
