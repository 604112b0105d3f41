import ApiContract.Proofs.Pass.Computed
import ApiContract.Proofs.Schema.Visits

/-!
The search for variants that only a tag leads to. It ends where no definition is a reference and lists branches as well
(`discovery_ends`): then what a round counts is bound under its own name. A definition that does both is an alias, which
is counted again in every round (`Stuck.unended`).
-/

namespace ApiContract

open Json (Value)

namespace Schema.Reading

variable {documents : DocumentSet} {fuel : Nat}

/-- A named definition of the documents has a node after and none before. -/
def Binds (documents : DocumentSet) (before after : Catalog) : Prop :=
  ∃ url name value, (url, name, value) ∈ definitions documents ∧
    before.graph.definition url name = none ∧ (after.graph.definition url name).isSome

/-- No definition is a reference that can be followed and lists branches as well. -/
def Separate (documents : DocumentSet) : Prop :=
  ∀ url name value, (url, name, value) ∈ definitions documents →
    (reference? value).bind (documents.resolve? url) = none ∨ value.arrayAt? "allOf" = none

theorem definition_eq_lookup (graph : Graph) (url name : String) :
    graph.definition url name = graph.lookup (locationOf url (Pointer.child "/definitions" name)) := by
  have opening : "#/definitions/" = "#" ++ "/definitions" ++ "/" := rfl
  rw [Graph.definition, opening, locationOf, Pointer.child]
  simp only [String.append_assoc]

theorem Binds.widen {start before after last : Catalog} (binds : Binds documents before after)
    (growsTo : Grows start before) (growsOn : Grows after last) : Binds documents start last := by
  obtain ⟨url, name, value, listed, free, bound⟩ := binds
  obtain ⟨id, found⟩ := Option.isSome_iff_exists.mp bound
  exact ⟨url, name, value, listed, growsTo.lookup_eq_none free,
    Option.isSome_iff_exists.mpr ⟨id, growsOn.lookup found⟩⟩

theorem branches_of_inheritsKnownRoot {graph : Graph} {url : String} {value : Value} {seen : List String}
    (inherits : (inheritsKnownRoot documents graph fuel url value seen).1 = true) : value.arrayAt? "allOf" ≠ none := by
  intro plain
  cases fuel with
  | zero => cases inherits
  | succ fuel =>
      rw [inheritsKnownRoot, plain] at inherits
      cases inherits

/-- A definition that leads nowhere else is bound under its own name. -/
theorem definition_bound {url name : String} {value : Value} (listed : (url, name, value) ∈ definitions documents)
    (own : (reference? value).bind (documents.resolve? url) = none) :
    Ensures documents (fun _ => True) (definition documents fuel url name value)
      fun catalog _ => (catalog.graph.definition url name).isSome := by
  have standing := standing_of_mem_definitions listed
  have named {read : Reading Nat}
      (bound : Ensures documents (fun _ => True) read (Bound (locationOf url (Pointer.child "/definitions" name)))) :
      Ensures documents (fun _ => True) read fun catalog _ => (catalog.graph.definition url name).isSome := by
    refine bound.weaken (fun _ holds => holds) fun catalog id found => ?_
    rw [definition_eq_lookup, found]
    rfl
  cases written : reference? value with
  | none =>
      rw [definition, written]
      refine named ((sound documents fuel).build url _ value _ (.standing standing) ?_)
      rintro location ⟨⟩
      rfl
  | some reference =>
      rw [written, Option.bind_some] at own
      rw [definition, written]
      cases fuel with
      | zero => exact fun _ _ _ _ _ ran => nomatch ran
      | succ fuel =>
          dsimp only
          rw [follow, own]
          exact named (unresolved_ensures (Dangling.mk ⟨value, standing, written⟩ (.missing own)))

/-! ## Rounds -/

def visitDefinition (documents : DocumentSet) (fuel added : Nat) (entry : String × String × Value) : Reading Nat := do
  let graph := (← get).graph
  if (graph.definition entry.1 entry.2.1).isSome then return added
  else if (inheritsKnownRoot documents graph fuel entry.1 entry.2.2 []).1 then
    let _ ← definition documents fuel entry.1 entry.2.1 entry.2.2
    return added + 1
  else return added

theorem discoverRound_eq (documents : DocumentSet) (fuel : Nat) :
    discoverRound documents fuel = (definitions documents).foldlM (visitDefinition documents fuel) 0 := rfl

theorem discoverRound_answers (documents : DocumentSet) :
    Answers (fun _ => True) (discoverRound documents (fuelFor documents)) := by
  refine .foldlM (fun entry listed added => .bind .get fun catalog => ?_) 0
  dsimp only
  split
  · exact .pure _
  · split
    · exact .bind (definition_answers listed) fun _ => .pure _
    · exact .pure _

def IsMissing (documents : DocumentSet) (fuel : Nat) (graph : Graph) (entry : String × String × Value) : Prop :=
  graph.definition entry.1 entry.2.1 = none ∧
    (inheritsKnownRoot documents graph fuel entry.1 entry.2.2 []).1 = true

instance (documents : DocumentSet) (fuel : Nat) (graph : Graph) (entry : String × String × Value) :
    Decidable (IsMissing documents fuel graph entry) :=
  inferInstanceAs (Decidable (_ ∧ _))

/-- A visit reads a definition that is missing, and does nothing else. -/
theorem visitDefinition_cases {entry : String × String × Value} {added counted : Nat} {before after : Catalog}
    (ran : (visitDefinition documents fuel added entry).run before = some (counted, after)) :
    (¬IsMissing documents fuel before.graph entry ∧ counted = added ∧ after = before) ∨
      (IsMissing documents fuel before.graph entry ∧ counted = added + 1 ∧
        ∃ id, (definition documents fuel entry.1 entry.2.1 entry.2.2).run before = some (id, after)) := by
  obtain ⟨_, _, got, later⟩ := (StateT.run_bind_eq_some _ _ _ _).mp ran
  cases got
  dsimp only at later
  split at later
  next bound =>
    cases later
    exact .inl ⟨fun missing => by simp [missing.1] at bound, rfl, rfl⟩
  next free =>
    split at later
    next inherits =>
      obtain ⟨id, _, defined, answered⟩ := (StateT.run_bind_eq_some _ _ _ _).mp later
      cases answered
      exact .inr ⟨⟨by simpa using free, inherits⟩, rfl, id, defined⟩
    next other =>
      cases later
      exact .inl ⟨fun missing => other missing.2, rfl, rfl⟩

theorem visitDefinition_progress (separate : Separate documents) {entry : String × String × Value}
    (listed : entry ∈ definitions documents) {added counted : Nat} {before after : Catalog} (built : Built before)
    (ran : (visitDefinition documents fuel added entry).run before = some (counted, after)) :
    Grows before after ∧ (counted = added ∨ Binds documents before after) := by
  obtain ⟨url, name, value⟩ := entry
  rcases visitDefinition_cases ran with ⟨_, rfl, rfl⟩ | ⟨⟨free, inherits⟩, rfl, id, defined⟩
  · exact ⟨.refl, .inl rfl⟩
  · have own : (reference? value).bind (documents.resolve? url) = none :=
      (separate url name value listed).resolve_right (branches_of_inheritsKnownRoot inherits)
    obtain ⟨moves, bound⟩ := definition_bound listed own before id after built trivial defined
    exact ⟨moves.grows, .inr ⟨url, name, value, listed, free, bound⟩⟩

theorem visitDefinitions_progress (separate : Separate documents) {entries : List (String × String × Value)}
    (listed : entries ⊆ definitions documents) {added counted : Nat} {before after : Catalog} (built : Built before)
    (ran : (entries.foldlM (visitDefinition documents fuel) added).run before = some (counted, after)) :
    Grows before after ∧ (counted = added ∨ Binds documents before after) := by
  induction entries generalizing added before with
  | nil =>
      cases ran
      exact ⟨.refl, .inl rfl⟩
  | cons entry rest ih =>
      rw [List.foldlM_cons] at ran
      obtain ⟨more, middle, first, later⟩ := (StateT.run_bind_eq_some _ _ _ _).mp ran
      obtain ⟨grows, progress⟩ := visitDefinition_progress separate (listed List.mem_cons_self) built first
      obtain ⟨growsOn, progressOn⟩ := ih (fun _ member => listed (List.mem_cons_of_mem _ member))
        (built.trans grows) later
      refine ⟨grows.trans growsOn, ?_⟩
      rcases progress with rfl | binds
      · exact progressOn.imp_right fun binds => binds.widen grows .refl
      · exact .inr (binds.widen .refl growsOn)

/-- A round that counts a variant binds a definition that was not bound before it. -/
theorem discoverRound_binds (separate : Separate documents) {added : Nat} {before after : Catalog}
    (built : Built before) (ran : (discoverRound documents fuel).run before = some (added, after)) (counts : 0 < added) :
    Grows before after ∧ Binds documents before after := by
  rw [discoverRound_eq] at ran
  obtain ⟨grows, same | binds⟩ := visitDefinitions_progress separate (List.Subset.refl _) built ran
  · omega
  · exact ⟨grows, binds⟩

def definitionPlaces (documents : DocumentSet) : List String :=
  (definitions documents).map fun entry => locationOf entry.1 (Pointer.child "/definitions" entry.2.1)

theorem Binds.unbound_lt {before after : Catalog} (binds : Binds documents before after) (grows : Grows before after) :
    after.unbound (definitionPlaces documents) < before.unbound (definitionPlaces documents) := by
  obtain ⟨url, name, value, listed, free, bound⟩ := binds
  rw [definition_eq_lookup] at free bound
  refine Catalog.unbound_lt (fun _ => grows.lookup_eq_none) (List.mem_map.mpr ⟨_, listed, rfl⟩) free ?_
  intro still
  rw [still] at bound
  cases bound

theorem discover_answers (separate : Separate documents) {rounds : Nat} {catalog : Catalog} (built : Built catalog)
    (enough : catalog.unbound (definitionPlaces documents) < rounds) :
    ∃ added after, (discover documents (fuelFor documents) rounds).run catalog = some (added, after) := by
  induction rounds generalizing catalog with
  | zero => exact absurd enough (Nat.not_lt_zero _)
  | succ rounds ih =>
      obtain ⟨added, middle, ran, _⟩ := discoverRound_answers documents catalog trivial
      rw [discover]
      simp only [StateT.run_bind_eq_some]
      rcases Nat.eq_zero_or_pos added with rfl | counts
      · exact ⟨0, middle, 0, middle, ran, rfl⟩
      · obtain ⟨grows, binds⟩ := discoverRound_binds separate built ran counts
        have fewer := binds.unbound_lt grows
        obtain ⟨others, after, ranOn⟩ := ih (built.trans grows) (by omega)
        refine ⟨added + others, after, added, middle, ran, ?_⟩
        rw [if_neg (Nat.ne_of_gt counts)]
        exact (StateT.run_bind_eq_some _ _ _ _).mpr ⟨others, after, ranOn, rfl⟩

/-- The search for variants ends, and each round that counts one binds a definition. -/
theorem discovery_ends (separate : Separate documents) {catalog : Catalog} (built : Built catalog) :
    (∃ added after, (discoverVariants documents).run catalog = some (added, after)) ∧
      ∀ before added after, Built before →
        (discoverRound documents (fuelFor documents)).run before = some (added, after) → 0 < added →
        Binds documents before after := by
  constructor
  · refine discover_answers separate built (Nat.lt_succ_of_le ?_)
    exact Catalog.unbound_le_length.trans_eq (List.length_map _)
  · intro before added after built ran counts
    exact (discoverRound_binds separate built ran counts).2

/-! ## Aliases -/

theorem lookup_congr {graph other : Graph} (same : graph.locations = other.locations) :
    graph.lookup = other.lookup := by
  funext location
  rw [Graph.lookup, Graph.lookup, same]

theorem inheritsKnownRoot_congr {graph other : Graph} (same : graph.locations = other.locations) (url : String)
    (value : Value) (seen : List String) :
    inheritsKnownRoot documents graph fuel url value seen = inheritsKnownRoot documents other fuel url value seen := by
  induction fuel generalizing url value seen with
  | zero => rfl
  | succ fuel ih => simp only [inheritsKnownRoot, ih, lookup_congr same]

/-- The definition is a reference to a location that has a node. -/
def IsAlias (documents : DocumentSet) (graph : Graph) (entry : String × String × Value) : Prop :=
  ((reference? entry.2.2).bind (documents.resolve? entry.1)).any fun target => (graph.lookup target.location).isSome

instance (documents : DocumentSet) (graph : Graph) (entry : String × String × Value) :
    Decidable (IsAlias documents graph entry) :=
  inferInstanceAs (Decidable (_ = true))

/-- Some definition is missing, and all that are missing are aliases. -/
structure Stuck (documents : DocumentSet) (fuel : Nat) (graph : Graph) : Prop where
  missing : ∃ entry ∈ definitions documents, IsMissing documents fuel graph entry
  aliases : ∀ entry ∈ definitions documents, IsMissing documents fuel graph entry → IsAlias documents graph entry

instance (documents : DocumentSet) (fuel : Nat) (graph : Graph) : Decidable (Stuck documents fuel graph) :=
  decidable_of_iff ((∃ entry ∈ definitions documents, IsMissing documents fuel graph entry) ∧
      ∀ entry ∈ definitions documents, IsMissing documents fuel graph entry → IsAlias documents graph entry)
    ⟨fun both => ⟨both.1, both.2⟩, fun stuck => ⟨stuck.missing, stuck.aliases⟩⟩

theorem isMissing_congr {graph other : Graph} (same : graph.locations = other.locations)
    (entry : String × String × Value) :
    IsMissing documents fuel graph entry ↔ IsMissing documents fuel other entry := by
  simp only [IsMissing, Graph.definition, lookup_congr same, inheritsKnownRoot_congr same]

theorem isAlias_congr {graph other : Graph} (same : graph.locations = other.locations)
    (entry : String × String × Value) : IsAlias documents graph entry ↔ IsAlias documents other entry := by
  simp only [IsAlias, lookup_congr same]

theorem Stuck.congr {graph other : Graph} (stuck : Stuck documents fuel graph)
    (same : graph.locations = other.locations) : Stuck documents fuel other := by
  constructor
  · simpa only [isMissing_congr same] using stuck.missing
  · simpa only [isMissing_congr same, isAlias_congr same] using stuck.aliases

/-- Reading an alias answers the node that is there. -/
theorem IsAlias.definition_run {catalog : Catalog} {entry : String × String × Value}
    (isAlias : IsAlias documents catalog.graph entry) :
    ∃ id after, (definition documents (fuel + 1) entry.1 entry.2.1 entry.2.2).run catalog = some (id, after) ∧
      after.graph.locations = catalog.graph.locations := by
  obtain ⟨target, leads, bound⟩ := (Option.any_eq_true _ _).mp isAlias
  obtain ⟨reference, written, resolved⟩ := Option.bind_eq_some_iff.mp leads
  obtain ⟨id, found⟩ := Option.isSome_iff_exists.mp bound
  rw [definition, written]
  dsimp only
  rw [follow, resolved]
  refine ⟨id, _, (StateT.run_bind_eq_some _ _ _ _).mpr ⟨some id, catalog, ?_, rfl⟩, rfl⟩
  rw [← found]
  rfl

theorem visitDefinition_run {catalog : Catalog} {entry : String × String × Value}
    (isAlias : IsMissing documents (fuel + 1) catalog.graph entry → IsAlias documents catalog.graph entry)
    (added : Nat) :
    ∃ counted after, (visitDefinition documents (fuel + 1) added entry).run catalog = some (counted, after) ∧
      after.graph.locations = catalog.graph.locations ∧ added ≤ counted ∧
      (IsMissing documents (fuel + 1) catalog.graph entry → added < counted) := by
  have ran : (visitDefinition documents (fuel + 1) added entry).run catalog =
      (if (catalog.graph.definition entry.1 entry.2.1).isSome then pure added
        else if (inheritsKnownRoot documents catalog.graph (fuel + 1) entry.1 entry.2.2 []).1 then do
          let _ ← definition documents (fuel + 1) entry.1 entry.2.1 entry.2.2
          return added + 1
        else pure added : Reading Nat).run catalog := rfl
  rw [ran]
  split
  next bound => exact ⟨added, catalog, rfl, rfl, Nat.le_refl _, fun missing => by simp [missing.1] at bound⟩
  next free =>
    split
    next inherits =>
      obtain ⟨id, after, defined, same⟩ := (isAlias ⟨by simpa using free, inherits⟩).definition_run
      refine ⟨added + 1, after, ?_, same, Nat.le_succ _, fun _ => Nat.lt_succ_self _⟩
      exact (StateT.run_bind_eq_some _ _ _ _).mpr ⟨id, after, defined, rfl⟩
    next other => exact ⟨added, catalog, rfl, rfl, Nat.le_refl _, fun missing => absurd missing.2 other⟩

theorem visitDefinitions_run {entries : List (String × String × Value)} {catalog : Catalog}
    (aliases : ∀ entry ∈ entries, IsMissing documents (fuel + 1) catalog.graph entry →
      IsAlias documents catalog.graph entry) (added : Nat) :
    ∃ counted after, (entries.foldlM (visitDefinition documents (fuel + 1)) added).run catalog = some (counted, after) ∧
      after.graph.locations = catalog.graph.locations ∧ added ≤ counted ∧
      ((∃ entry ∈ entries, IsMissing documents (fuel + 1) catalog.graph entry) → added < counted) := by
  induction entries generalizing added catalog with
  | nil => exact ⟨added, catalog, rfl, rfl, Nat.le_refl _, fun ⟨_, absurd, _⟩ => nomatch absurd⟩
  | cons entry rest ih =>
      obtain ⟨more, middle, first, same, atLeast, counts⟩ :=
        visitDefinition_run (aliases entry List.mem_cons_self) added
      have aliasesOn other (member : other ∈ rest) (missing : IsMissing documents (fuel + 1) middle.graph other) :
          IsAlias documents middle.graph other :=
        (isAlias_congr same other).mpr
          (aliases other (List.mem_cons_of_mem _ member) ((isMissing_congr same other).mp missing))
      obtain ⟨counted, after, later, sameOn, atLeastOn, countsOn⟩ := ih aliasesOn more
      rw [List.foldlM_cons]
      refine ⟨counted, after, (StateT.run_bind_eq_some _ _ _ _).mpr ⟨more, middle, first, later⟩,
        sameOn.trans same, Nat.le_trans atLeast atLeastOn, ?_⟩
      rintro ⟨other, member, missing⟩
      rcases List.mem_cons.mp member with rfl | later
      · exact Nat.lt_of_lt_of_le (counts missing) atLeastOn
      · exact Nat.lt_of_le_of_lt atLeast (countsOn ⟨other, later, (isMissing_congr same other).mpr missing⟩)

/-- A round counts the missing aliases and leaves all locations as they are. -/
theorem Stuck.discoverRound_run {catalog : Catalog} (stuck : Stuck documents (fuel + 1) catalog.graph) :
    ∃ added after, (discoverRound documents (fuel + 1)).run catalog = some (added, after) ∧ 0 < added ∧
      after.graph.locations = catalog.graph.locations := by
  obtain ⟨added, after, ran, same, _, counts⟩ := visitDefinitions_run stuck.aliases 0
  rw [discoverRound_eq]
  exact ⟨added, after, ran, counts stuck.missing, same⟩

/-- No number of rounds is enough once all that is missing are aliases. -/
theorem Stuck.discover_eq_none {rounds : Nat} {catalog : Catalog} (stuck : Stuck documents (fuel + 1) catalog.graph) :
    (discover documents (fuel + 1) rounds).run catalog = none := by
  induction rounds generalizing catalog with
  | zero => rfl
  | succ rounds ih =>
      obtain ⟨added, middle, ran, counts, same⟩ := stuck.discoverRound_run
      rw [discover, StateT.run_bind, ran]
      change (if added = 0 then _ else _ : Reading Nat).run middle = none
      rw [if_neg (Nat.ne_of_gt counts), StateT.run_bind, ih (stuck.congr same.symm)]
      rfl

theorem Stuck.unended {catalog : Catalog} (stuck : Stuck documents (fuelFor documents) catalog.graph) :
    (∀ rounds, (discover documents (fuelFor documents) rounds).run catalog = none) ∧
      ∃ added after, (discoverRound documents (fuelFor documents)).run catalog = some (added, after) ∧
        0 < added ∧ ¬Binds documents catalog after := by
  obtain ⟨fuel, enough⟩ : ∃ fuel, fuelFor documents = fuel + 1 := Nat.exists_eq_add_one.mpr (Nat.succ_pos _)
  rw [enough] at stuck ⊢
  obtain ⟨added, after, ran, counts, same⟩ := stuck.discoverRound_run
  refine ⟨fun rounds => stuck.discover_eq_none, added, after, ran, counts, ?_⟩
  rintro ⟨url, name, value, _, free, bound⟩
  rw [Graph.definition] at free bound
  rw [lookup_congr same, free] at bound
  cases bound

end Schema.Reading

namespace Draft

open Schema Schema.Reading

/-- Pets are kept in a document of their own, where cats are found by their tag alone. -/
def shelterDocuments : DocumentSet :=
  let shelter := Value.object [("type", .string "array"),
    ("items", .object [("$ref", .string "pets.json#/definitions/Pet")])]
  let pet := Value.object [("type", .string "object"), ("discriminator", .string "kind"),
    ("properties", .object [("kind", .ofType "string")])]
  let cat := Value.object [("allOf", .array [.toDefinition "Pet"]), ("properties", .object [("lives", .ofType "integer")])]
  { documents := [("/api.json", .object [("definitions", .object [("Shelter", shelter)])]),
      ("/pets.json", .object [("definitions", .object [("Pet", pet), ("Cat", cat)])])]
    roots := ["/api.json"] }

theorem shelter_visited :
    (Pipeline.run ⟨Pass.readers, []⟩ { documents := shelterDocuments }).outcome.toOption.isSome = true ∧
      (∀ entry ∈ definitions (visitedOf shelterDocuments).documents,
        ((reference? entry.2.2).bind ((visitedOf shelterDocuments).documents.resolve? entry.1)).isNone = true ∨
          (entry.2.2.arrayAt? "allOf").isNone = true) ∧
      ((discoverRound (visitedOf shelterDocuments).documents (fuelFor (visitedOf shelterDocuments).documents)).run
        (visitedOf shelterDocuments).catalog).map Prod.fst = some 1 := by
  decide +kernel

/-- One cat is discovered, which was not bound before. -/
theorem discovery_ends_shelter :
    ∃ draft, IsVisited shelterDocuments draft ∧
      (∃ added after, (Schema.Reading.discoverVariants draft.documents).run draft.catalog = some (added, after)) ∧
      ∃ after, (discoverRound draft.documents (fuelFor draft.documents)).run draft.catalog = some (1, after) ∧
        Binds draft.documents draft.catalog after := by
  obtain ⟨ends, plain, counted⟩ := shelter_visited
  have visited : IsVisited shelterDocuments (visitedOf shelterDocuments) := run_eq_outcomeOf ends
  generalize visitedOf shelterDocuments = draft at *
  have separate : Separate draft.documents := by
    intro url name value listed
    exact (plain _ listed).imp Option.isNone_iff_eq_none.mp Option.isNone_iff_eq_none.mp
  obtain ⟨⟨added, after⟩, ran, rfl⟩ := Option.map_eq_some_iff.mp counted
  obtain ⟨answered, progress⟩ := discovery_ends separate visited.fresh.built
  exact ⟨draft, visited, answered, after, ran, progress _ _ _ visited.fresh.built ran Nat.one_pos⟩

/-- A name for a root that lists the root as a branch as well. -/
def aliasDocuments : DocumentSet := .ofDefinitions [
  ("Base", .object [("type", .string "object"), ("discriminator", .string "kind"),
    ("properties", .object [("kind", .ofType "string")])]),
  ("Alias", .object [("$ref", .string "#/definitions/Base"), ("allOf", .array [.toDefinition "Base"])])]

theorem aliases_stuck :
    (Pipeline.run ⟨Pass.readers, []⟩ { documents := aliasDocuments }).outcome.toOption.isSome = true ∧
      Stuck (visitedOf aliasDocuments).documents (fuelFor (visitedOf aliasDocuments).documents)
        (visitedOf aliasDocuments).graph := by
  decide +kernel

/-- The name is counted in every round, and no round binds anything. -/
theorem aliased_discovery_unended :
    ∃ draft, IsVisited aliasDocuments draft ∧
      (∀ rounds, (discover draft.documents (fuelFor draft.documents) rounds).run draft.catalog = none) ∧
      ∃ added after, (discoverRound draft.documents (fuelFor draft.documents)).run draft.catalog = some (added, after) ∧
        0 < added ∧ ¬Binds draft.documents draft.catalog after := by
  obtain ⟨ends, stuck⟩ := aliases_stuck
  exact ⟨_, run_eq_outcomeOf ends, stuck.unended⟩

end Draft

end ApiContract
