import ApiContract.Proofs.Schema.Reading
import ApiContract.Proofs.Schema.Termination

/-!
Visiting documents. What a visit does depends on the documents alone: a second one asks for the same schemas in the same
order, whatever the first was answered (`Retraces`). So each visit is answered, takes moves only, and finds everything in
place when it is repeated.
-/

namespace ApiContract.Schema.Reading

open Json (Value)

variable {documents : DocumentSet} {fuel : Nat} {α β : Type}

/-- Two readings ask for the same places of the documents in the same order, whatever they are answered. -/
inductive Retraces (documents : DocumentSet) (fuel : Nat) : {α : Type} → Reading α → Reading α → Prop
  | pure {α : Type} (first second : α) : Retraces documents fuel (pure first) (pure second)
  | bind {α β : Type} {first second : Reading α} {next nextToo : α → Reading β} :
      Retraces documents fuel first second →
      (∀ result other, Retraces documents fuel (next result) (nextToo other)) →
      Retraces documents fuel (first >>= next) (second >>= nextToo)
  | edge {url pointer value} : Standing documents url pointer value →
      Retraces documents fuel (edge documents fuel url pointer value) (edge documents fuel url pointer value)
  | build {url pointer value identity} : Builds documents url pointer value → IsOwn url pointer identity →
      Retraces documents fuel (build documents fuel url pointer value identity)
        (build documents fuel url pointer value identity)
  | follow {url pointer value reference} : Standing documents url pointer value → reference? value = some reference →
      Retraces documents fuel (follow documents fuel ⟨url, pointer, reference⟩ url reference [])
        (follow documents fuel ⟨url, pointer, reference⟩ url reference [])
  | unresolved {url pointer value reference} : Standing documents url pointer value →
      reference? value = some reference → documents.resolve? url reference = none →
      Retraces documents fuel (unresolved url pointer reference) (unresolved url pointer reference)

namespace Retraces

theorem mapM {items : List α} {visit : α → Reading β}
    (each : ∀ item ∈ items, Retraces documents fuel (visit item) (visit item)) :
    Retraces documents fuel (items.mapM visit) (items.mapM visit) := by
  induction items with
  | nil =>
      rw [List.mapM_nil]
      exact .pure _ _
  | cons item rest ih =>
      rw [List.mapM_cons]
      refine .bind (each item List.mem_cons_self) fun _ _ => ?_
      exact .bind (ih fun item member => each item (List.mem_cons_of_mem _ member)) fun _ _ => .pure _ _

theorem forM {items : List α} {visit : α → Reading PUnit}
    (each : ∀ item ∈ items, Retraces documents fuel (visit item) (visit item)) :
    Retraces documents fuel (items.forM visit) (items.forM visit) := by
  induction items with
  | nil => exact .pure _ _
  | cons item rest ih =>
      exact .bind (each item List.mem_cons_self)
        fun _ _ => ih fun item member => each item (List.mem_cons_of_mem _ member)

end Retraces

/-! ## Operations -/

section

variable {url pointer : String} {raw : Value}

theorem parameterSchema_retraces {place : ParameterPlace} {parameter : Place}
    (standing : Standing documents parameter.url parameter.pointer parameter.value) :
    Retraces documents fuel (parameterSchema documents fuel place parameter)
      (parameterSchema documents fuel place parameter) := by
  have spelled : Pointer.child parameter.pointer "schema" = parameter.pointer ++ "/schema" :=
    Pointer.child_of_plain (keywords_plain _ (by decide)).2 _
  unfold parameterSchema
  split
  · dsimp only
    split
    next schema found =>
      rw [← spelled]
      exact .edge (standing.find? (by decide) found)
    next missing => exact .bind (.build (.lacking standing missing) fun _ absurd => by cases absurd) fun _ _ => .pure _ _
  · exact .bind (.build (.standing standing) fun _ absurd => by cases absurd) fun _ _ => .pure _ _

/-- A parameter or response stands where it is written, or where its reference leads. -/
theorem Standing.place? (standing : Standing documents url pointer raw) {place : Place}
    (found : Reading.place? documents url pointer raw = .ok place) :
    Standing documents place.url place.pointer place.value := by
  unfold Reading.place? at found
  split at found
  next reference written =>
    split at found
    next target resolved =>
      cases found
      exact standing.target written resolved
    · cases found
  · cases found
    exact standing

theorem place?_eq_error {reference : String} (lost : place? documents url pointer raw = .error reference) :
    reference? raw = some reference ∧ documents.resolve? url reference = none := by
  unfold place? at lost
  split at lost
  next written =>
    split at lost
    · cases lost
    next missing =>
      cases lost
      exact ⟨written, missing⟩
  · cases lost

theorem parameter_retraces (standing : Standing documents url pointer raw) :
    Retraces documents fuel (parameter documents fuel url pointer raw) (parameter documents fuel url pointer raw) := by
  unfold parameter
  split
  · exact .pure _ _
  next place found =>
    split
    · exact .pure _ _
    · dsimp only
      split
      · exact .pure _ _
      · exact .bind (parameterSchema_retraces (standing.place? found)) fun _ _ => .pure _ _

theorem addParameters_retraces {owner : Value} (standing : Standing documents url pointer owner)
    (list other : ParameterList) :
    Retraces documents fuel (addParameters documents fuel url pointer owner list)
      (addParameters documents fuel url pointer owner other) := by
  refine .bind (.mapM fun item member => ?_) fun _ _ => .pure _ _
  exact parameter_retraces (standing.listed "parameters" (by decide) (keywords_plain _ (by decide)).2 member)

theorem responseHeaders_retraces {place : Place} (standing : Standing documents place.url place.pointer place.value) :
    Retraces documents fuel (responseHeaders documents fuel place) (responseHeaders documents fuel place) := by
  refine .bind (.mapM fun header member => ?_) fun _ _ => .pure _ _
  have stands := standing.entry "headers" (by decide) (keywords_plain _ (by decide)).2 member
  exact .bind (.edge stands) fun _ _ => .pure _ _

theorem response_retraces {operationKey status : String} (standing : Standing documents url pointer raw) :
    Retraces documents fuel (response documents fuel url pointer operationKey status raw)
      (response documents fuel url pointer operationKey status raw) := by
  unfold response
  dsimp only
  split
  next reference lost =>
    obtain ⟨written, missing⟩ := place?_eq_error lost
    exact .bind (.unresolved standing written missing) fun _ _ => .pure _ _
  next place found =>
    have stands := standing.place? found
    have spelled : Pointer.child place.pointer "schema" = place.pointer ++ "/schema" :=
      Pointer.child_of_plain (keywords_plain _ (by decide)).2 _
    split
    next schema held =>
      have inner := stands.find? (by decide) held
      rw [spelled] at inner
      refine .bind (.edge inner) fun _ _ => .bind (.pure _ _) fun _ _ => ?_
      exact .bind (responseHeaders_retraces stands) fun _ _ => .pure _ _
    · refine .bind (.pure _ _) fun _ _ => ?_
      exact .bind (responseHeaders_retraces stands) fun _ _ => .pure _ _

theorem Standing.method {item : Value} {entry : String × Value} (standing : Standing documents url pointer item)
    (among : entry ∈ methods.filterMap fun method => (item.find? method).map (method, ·)) :
    Standing documents url (pointer ++ "/" ++ entry.1) entry.2 := by
  obtain ⟨method, known, present⟩ := List.mem_filterMap.mp among
  obtain ⟨value, held, rfl⟩ := Option.map_eq_some_iff.mp present
  obtain ⟨named, plain⟩ := keywords_plain method (List.mem_append_left _ known)
  have inside := standing.find? named held
  rwa [Pointer.child, plain] at inside

theorem operation_retraces {document item : Value} {path method : String}
    (standingItem : Standing documents url (Pointer.child "/paths" path) item)
    (standing : Standing documents url (Pointer.child "/paths" path ++ "/" ++ method) raw) :
    Retraces documents fuel (operation documents fuel url document path item method raw)
      (operation documents fuel url document path item method raw) := by
  refine .bind (addParameters_retraces standingItem _ _) fun _ _ => ?_
  refine .bind (addParameters_retraces standing _ _) fun _ _ => ?_
  refine .bind (.mapM fun entry member => ?_) fun _ _ => .pure _ _
  have stands := standing.entry "responses" (by decide) (keywords_plain _ (by decide)).2 member
  exact .bind (response_retraces stands) fun _ _ => .pure _ _

theorem paths_retraces {whole : Value} (standing : Standing documents url "" whole) :
    Retraces documents fuel
      (((whole.objectAt? "paths").getD []).mapM fun path => pathOperations documents fuel url whole path.1 path.2)
      (((whole.objectAt? "paths").getD []).mapM fun path => pathOperations documents fuel url whole path.1 path.2) := by
  refine .mapM fun path member => .mapM fun entry among => ?_
  have stands := standing.entry "paths" (by decide) (keywords_plain _ (by decide)).2 member
  exact operation_retraces stands (stands.method among)

theorem definition_retraces {name : String} (standing : Standing documents url (Pointer.child "/definitions" name) raw) :
    Retraces documents fuel (definition documents fuel url name raw) (definition documents fuel url name raw) := by
  unfold definition
  dsimp only
  split
  next reference written => exact .follow standing written
  · refine .build (.standing standing) ?_
    rintro location ⟨⟩
    rfl

theorem document_retraces (documents : DocumentSet) (fuel : Nat) (url : String) :
    Retraces documents fuel (document documents fuel url) (document documents fuel url) := by
  unfold document
  split
  · exact .pure _ _
  next whole found =>
    have standing : Standing documents url "" whole := .document (Assoc.mem_of_find? found)
    refine .bind (paths_retraces standing) fun _ _ => ?_
    refine .bind (.forM fun entry member => .bind (definition_retraces ?_) fun _ _ => .pure _ _) fun _ _ => .pure _ _
    exact standing.entry "definitions" (by decide) (keywords_plain _ (by decide)).2 member

end

/-! ## Every visit is a run of moves, and is answered -/

/-- The reading only takes moves. -/
abbrev Steps (documents : DocumentSet) (read : Reading α) : Prop :=
  Ensures documents (fun _ => True) read fun _ _ => True

namespace Steps

theorem of_ensures {read : Reading α} {good : Catalog → α → Prop}
    (ensures : Ensures documents (fun _ => True) read good) : Steps documents read :=
  ensures.weaken (fun _ holds => holds) fun _ _ _ => trivial

theorem pure (result : α) : Steps documents (pure result) := Ensures.pure fun _ _ => trivial

theorem bind {read : Reading α} {next : α → Reading β} (first : Steps documents read)
    (later : ∀ result, Steps documents (next result)) : Steps documents (read >>= next) :=
  Ensures.bind trivial_lasts first fun result => (later result).weaken (fun _ _ => trivial) fun _ _ _ => trivial

theorem foldlM {items : List β} {visit : α → β → Reading α}
    (each : ∀ item ∈ items, ∀ state, Steps documents (visit state item)) (start : α) :
    Steps documents (items.foldlM visit start) := by
  induction items generalizing start with
  | nil => exact .pure start
  | cons item rest ih =>
      rw [List.foldlM_cons]
      exact .bind (each item List.mem_cons_self start)
        (ih fun item member => each item (List.mem_cons_of_mem _ member))

theorem get : Steps documents (get : Reading Catalog) := by
  intro before _ _ _ _ ran
  cases ran
  exact ⟨.refl, trivial⟩

end Steps

theorem Retraces.steps {first second : Reading α} (retraces : Retraces documents fuel first second) :
    Steps documents first ∧ Steps documents second := by
  induction retraces with
  | pure first second => exact ⟨.pure first, .pure second⟩
  | bind _ _ ih ihNext =>
      exact ⟨.bind ih.1 fun result => (ihNext result result).1, .bind ih.2 fun result => (ihNext result result).2⟩
  | edge standing =>
      have steps := Steps.of_ensures ((sound documents fuel).edge _ _ _ standing)
      exact ⟨steps, steps⟩
  | build builds own =>
      have steps := Steps.of_ensures ((sound documents fuel).build _ _ _ _ builds own)
      exact ⟨steps, steps⟩
  | @follow url pointer value reference standing written =>
      have steps := Steps.of_ensures ((sound documents fuel).follow ⟨url, pointer, reference⟩ url reference []
        ⟨_, _, standing, written⟩ fun lost => ⟨⟨value, standing, written⟩, lost⟩)
      exact ⟨steps, steps⟩
  | unresolved standing written missing =>
      have steps := Steps.of_ensures (unresolved_ensures (Dangling.mk ⟨_, standing, written⟩ (.missing missing)))
      exact ⟨steps, steps⟩

theorem Retraces.answers {first second : Reading α} (retraces : Retraces documents fuel first second)
    (enough : fuelFor documents ≤ fuel) :
    Answers (AtMost (landings documents) (span documents)) first := by
  have demanded {url : String} {value : Value} (site : (url, value) ∈ sites documents) :
      demand (span documents) value.depth (span documents) ≤ fuel :=
    Nat.le_trans (demand_le_fuelFor (span_bounds site) (Nat.le_refl _)) enough
  have suffice := fuel_suffices documents fuel
  induction retraces with
  | pure first _ => exact .pure first
  | bind _ _ ih ihNext => exact .bind ih fun result => ihNext result result
  | edge standing => exact suffice.edge standing.mem_sites (demanded standing.mem_sites)
  | @build url pointer value identity builds own =>
      cases builds with
      | standing standing => exact suffice.build standing.mem_sites (Nat.le_succ_of_le (demanded standing.mem_sites))
      | lacking =>
          obtain ⟨less, rfl⟩ := Nat.exists_eq_add_one.mpr (Nat.lt_of_lt_of_le (Nat.succ_pos _) enough)
          refine build_answers ?_ (Nat.le_refl _) fun _ _ holds => ?_
          · exact fun _ _ start _ => Nat.le_trans Catalog.unbound_place_le start
          · exact absurd (Value.depth_lt_of_transGen holds) (Nat.not_lt_zero _)
  | @follow url pointer value reference standing written =>
      refine suffice.follow ⟨value, standing.mem_sites, written⟩ List.nodup_nil (List.nil_subset _) ?_
      have enough := demanded standing.mem_sites
      unfold demand at enough
      rw [List.length_nil]
      omega
  | unresolved => exact unresolved_answers _ _ _

theorem answers_of_atMost {read : Reading α} (answers : Answers (AtMost (landings documents) (span documents)) read) :
    Answers (fun _ => True) read := by
  intro before _
  have start : AtMost (landings documents) (span documents) before :=
    Nat.le_trans Catalog.unbound_le_length (length_landings_le documents)
  obtain ⟨result, after, ran, _⟩ := answers before start
  exact ⟨result, after, ran, trivial⟩

theorem document_steps {url : String} : Steps documents (document documents fuel url) :=
  (document_retraces documents fuel url).steps.1

/-- Every document is visited from every catalog. -/
theorem document_answers (documents : DocumentSet) (url : String) :
    Answers (fun _ => True) (document documents (fuelFor documents) url) :=
  answers_of_atMost ((document_retraces documents _ url).answers (Nat.le_refl _))

/-! ## Definitions -/

theorem standing_of_mem_definitions {url name : String} {value : Value}
    (listed : (url, name, value) ∈ definitions documents) :
    Standing documents url (Pointer.child "/definitions" name) value := by
  obtain ⟨⟨_, whole⟩, among, member⟩ := List.mem_flatMap.mp listed
  obtain ⟨⟨_, _⟩, held, same⟩ := List.mem_map.mp member
  cases same
  exact (Standing.document among).entry "definitions" (by decide) (keywords_plain _ (by decide)).2 held

/-- Every named definition is read from every catalog. -/
theorem definition_answers {url name : String} {value : Value} (listed : (url, name, value) ∈ definitions documents) :
    Answers (fun _ => True) (definition documents (fuelFor documents) url name value) :=
  answers_of_atMost ((definition_retraces (standing_of_mem_definitions listed)).answers (Nat.le_refl _))

theorem discoverRound_steps : Steps documents (discoverRound documents fuel) := by
  refine .foldlM (fun item listed added => ?_) 0
  obtain ⟨url, name, value⟩ := item
  refine .bind .get fun catalog => ?_
  dsimp only
  split
  · exact .pure _
  · split
    · exact .bind (definition_retraces (standing_of_mem_definitions listed)).steps.1 fun _ => .pure _
    · exact .pure _

theorem discover_steps {rounds : Nat} : Steps documents (discover documents fuel rounds) := by
  induction rounds with
  | zero =>
      intro _ _ _ _ _ ran
      cases ran
  | succ rounds ih =>
      refine .bind discoverRound_steps fun added => ?_
      split
      · exact .pure _
      · exact .bind ih fun _ => .pure _

/-! ## Repeated visits -/

/-- Nothing was added; nodes may have been named. -/
structure Quiet (before after : Catalog) : Prop where
  size : after.graph.size = before.graph.size
  locations : after.graph.locations = before.graph.locations
  collections : after.collections = before.collections
  deferred : after.deferred = before.deferred
  node : ∀ id, after.graph.node id = { before.graph.node id with identity := (after.graph.node id).identity }

namespace Quiet

variable {catalog before middle after : Catalog}

theorem refl (catalog : Catalog) : Quiet catalog catalog := ⟨rfl, rfl, rfl, rfl, fun _ => rfl⟩

theorem trans (quiet : Quiet before middle) (quietOn : Quiet middle after) : Quiet before after :=
  ⟨quietOn.size.trans quiet.size, quietOn.locations.trans quiet.locations,
    quietOn.collections.trans quiet.collections, quietOn.deferred.trans quiet.deferred,
    fun id => by rw [quietOn.node id, quiet.node id]⟩

theorem identify (catalog : Catalog) (id : Nat) (identity : Option String) :
    Quiet catalog (catalog.change id fun node => node.identified identity) := by
  refine ⟨Graph.size_modify _ _ _, rfl, rfl, rfl, fun other => ?_⟩
  rw [node_change]
  split
  · unfold Node.identified
    split <;> rfl
  · rfl

end Quiet

section

variable {before after : Catalog} {url pointer : String} {result : Nat}

theorem lookup_run (catalog : Catalog) (location : String) (next : Option Nat → Reading α) :
    (lookup location >>= next).run catalog = (next (catalog.graph.lookup location)).run catalog := rfl

theorem identify_quiet {found : Nat} {identity : Option String}
    (ran : (identify found identity >>= fun _ => pure found).run before = some (result, after)) : Quiet before after := by
  cases ran
  exact .identify before _ identity

theorem unresolved_quiet {reference : String} {id : Nat} (bound : Bound (locationOf url pointer) before id)
    (ran : (unresolved url pointer reference).run before = some (result, after)) : Quiet before after := by
  rw [Bound] at bound
  rw [unresolved, lookup_run, bound] at ran
  cases ran
  exact .refl before

theorem build_quiet {value : Value} {identity : Option String} {id : Nat}
    (bound : Bound (locationOf url pointer) before id)
    (ran : (build documents fuel url pointer value identity).run before = some (result, after)) : Quiet before after := by
  cases fuel with
  | zero => cases ran
  | succ fuel =>
      rw [Bound] at bound
      rw [build, lookup_run, bound] at ran
      exact identify_quiet ran

/-- A chain of references is followed no further than to where it came to before. -/
theorem Follows.quiet {origin : Origin} {base current : String} {passed : List String} {id : Nat}
    (follows : Follows documents before (locationOf origin.url origin.pointer) base current passed id)
    (ran : (follow documents fuel origin base current passed).run before = some (result, after)) : Quiet before after := by
  -- On the way a location may have got a node of its own since, where the chain ends earlier.
  have onTheWay {base current : String} {passed : List String} {target : DocumentSet.Target} {fuel : Nat}
      (resolved : documents.resolve? base current = some target)
      (rest : before.graph.lookup target.location = none →
        (follow documents (fuel + 1) origin base current passed).run before = some (result, after) → Quiet before after)
      (ran : (follow documents (fuel + 1) origin base current passed).run before = some (result, after)) :
      Quiet before after := by
    cases known : before.graph.lookup target.location with
    | none => exact rest known ran
    | some found =>
        rw [follow, resolved] at ran
        dsimp only at ran
        rw [lookup_run, known] at ran
        exact identify_quiet ran
  induction follows generalizing fuel with
  | @missing base current passed id lost bound =>
      cases fuel with
      | zero => cases ran
      | succ fuel =>
          rw [follow, lost] at ran
          exact unresolved_quiet bound ran
  | @found base current passed target id resolved bound =>
      cases fuel with
      | zero => cases ran
      | succ fuel =>
          refine onTheWay resolved (fun free => ?_) ran
          cases free.symm.trans bound
  | @circular base current passed target id resolved again bound =>
      cases fuel with
      | zero => cases ran
      | succ fuel =>
          refine onTheWay resolved (fun free ran => ?_) ran
          rw [follow, resolved] at ran
          dsimp only at ran
          rw [lookup_run, free] at ran
          dsimp only at ran
          rw [if_pos (by simpa using again)] at ran
          exact unresolved_quiet bound ran
  | @onward base current passed target next id resolved new written _ ih =>
      cases fuel with
      | zero => cases ran
      | succ fuel =>
          refine onTheWay resolved (fun free ran => ?_) ran
          rw [follow, resolved] at ran
          dsimp only at ran
          rw [lookup_run, free] at ran
          dsimp only at ran
          rw [if_neg (by simpa using new), written] at ran
          exact ih ran

theorem Led.quiet {value : Value} {answer again : Edge} (led : Led documents url pointer value before answer)
    (ran : (edge documents fuel url pointer value).run before = some (again, after)) : Quiet before after := by
  cases fuel with
  | zero => cases ran
  | succ fuel =>
      rw [edge] at ran
      cases led with
      | inline plain bound =>
          rw [plain] at ran
          obtain ⟨_, _, built, answered⟩ := (StateT.run_bind_eq_some _ _ _ _).mp ran
          cases answered
          exact build_quiet bound built
      | reference written follows =>
          rw [written] at ran
          obtain ⟨_, _, followed, answered⟩ := (StateT.run_bind_eq_some _ _ _ _).mp ran
          cases answered
          exact follows.quiet followed

end

/-- Once the one reading was answered the other adds nothing, also when others were answered in between. -/
theorem Retraces.quiet {first second : Reading α} (retraces : Retraces documents fuel first second)
    {before middle later after : Catalog} {result other : α} (built : Built before)
    (ran : first.run before = some (result, middle)) (moves : Moves documents middle later)
    (again : second.run later = some (other, after)) : Quiet later after := by
  induction retraces generalizing before middle later after with
  | pure =>
      cases again
      exact .refl later
  | @bind _ _ first second next nextToo retraced onward ih ihNext =>
      obtain ⟨answer, halfway, firstRan, nextRan⟩ := (StateT.run_bind_eq_some _ _ _ _).mp ran
      obtain ⟨otherAnswer, paused, firstAgain, nextAgain⟩ := (StateT.run_bind_eq_some _ _ _ _).mp again
      obtain ⟨movesFirst, _⟩ := retraced.steps.1 _ _ _ built trivial firstRan
      have builtHalfway : Built halfway := built.trans movesFirst.grows
      obtain ⟨movesNext, _⟩ := (onward answer answer).steps.1 _ _ _ builtHalfway trivial nextRan
      have builtLater : Built later := builtHalfway.trans (movesNext.grows.trans moves.grows)
      obtain ⟨movesAgain, _⟩ := retraced.steps.2 _ _ _ builtLater trivial firstAgain
      have quiet := ih built firstRan (movesNext.trans moves) firstAgain
      exact quiet.trans (ihNext answer otherAnswer builtHalfway nextRan (moves.trans movesAgain) nextAgain)
  | edge standing =>
      obtain ⟨_, led⟩ := (sound documents fuel).edge _ _ _ standing _ _ _ built trivial ran
      exact (led.lasts _ _ moves.grows).quiet again
  | build builds own =>
      obtain ⟨_, bound⟩ := (sound documents fuel).build _ _ _ _ builds own _ _ _ built trivial ran
      exact build_quiet (bound_lasts _ _ _ _ moves.grows bound) again
  | @follow url pointer value reference standing written =>
      obtain ⟨_, follows⟩ := (sound documents fuel).follow ⟨url, pointer, reference⟩ url reference []
        ⟨_, _, standing, written⟩ (fun lost => ⟨⟨value, standing, written⟩, lost⟩) _ _ _ built trivial ran
      exact (follows.lasts _ _ moves.grows).quiet again
  | unresolved standing written missing =>
      obtain ⟨_, bound⟩ :=
        unresolved_ensures (Dangling.mk ⟨_, standing, written⟩ (.missing missing)) _ _ _ built trivial ran
      exact unresolved_quiet (bound_lasts _ _ _ _ moves.grows bound) again

end ApiContract.Schema.Reading
