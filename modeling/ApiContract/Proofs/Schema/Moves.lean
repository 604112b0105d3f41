import Mathlib.Data.List.Nodup
import ApiContract.Proofs.Schema.Standing
import ApiContract.Proofs.Schema.Written

/-!
Reading a set of documents takes moves: steps whose places, names and errors are those of the documents (`Move`). What the
moves lead to represents the documents (`Represents`): each node is known by the place that it was made from, and it was
collected exactly if an object stands there.
-/

namespace ApiContract.Schema

open Json (Value)

def Node.bare (node : Node) : Node :=
  { node with properties := none, items := none, allOf := none, anyOf := none, oneOf := none, additional := none }

/-- A node that is known by a location unless it is known by one already. -/
def Node.identified (node : Node) (identity : Option String) : Node :=
  if node.identity.isNone then { node with identity } else node

def Node.placeholder (url pointer : String) (identity : Option String) : Node :=
  { identity, source := .within url pointer }

def Collections.listing (collections : Collections) : List Nat :=
  collections.objects ++ collections.arrays ++ collections.primitives

theorem Collections.mem_listing {collections : Collections} {id : Nat} :
    id ∈ collections.listing ↔ ∃ kind, id ∈ collections.ofKind kind := by
  simp only [listing, List.mem_append]
  constructor
  · rintro ((member | member) | member)
    · exact ⟨.object, member⟩
    · exact ⟨.array, member⟩
    · exact ⟨.primitive, member⟩
  · rintro ⟨kind, member⟩
    cases kind with
    | object => exact .inl (.inl member)
    | array => exact .inl (.inr member)
    | primitive => exact .inr member

namespace Deferred

variable {deferred : Deferred} {id other : Nat}

theorem find?_add_self (free : deferred.find? id = none) (error : CompileError) :
    (deferred.add id error).find? id = some error := by
  have absent : deferred.errors.find? (fun entry => entry.1 == id) = none := by simpa [find?] using free
  simp [add, find?, List.find?_append, absent]

theorem find?_add_of_ne (different : other ≠ id) (error : CompileError) :
    (deferred.add id error).find? other = deferred.find? other := by
  unfold add
  split
  · rfl
  · simp [find?, List.find?_append, Ne.symm different]

theorem mem_errors_add {error : CompileError} {entry : Nat × CompileError}
    (member : entry ∈ (deferred.add id error).errors) : entry ∈ deferred.errors ∨ entry = (id, error) := by
  unfold add at member
  split at member
  · exact .inl member
  · exact (List.mem_append.mp member).imp_right List.mem_singleton.mp

end Deferred

namespace Reading

/-- A schema knows itself by the location of its place, or not at all yet. -/
def IsOwn (url pointer : String) (identity : Option String) : Prop :=
  ∀ location, identity = some location → location = locationOf url pointer

/-- One step of reading the documents. -/
inductive Move (documents : DocumentSet) (catalog : Catalog) : Catalog → Prop
  | hollow {url pointer value identity} : catalog.graph.lookup (locationOf url pointer) = none →
      Builds documents url pointer value → value.asObject? = none → IsOwn url pointer identity →
      Move documents catalog (catalog.place url pointer (.placeholder url pointer identity))
  | dangling {url pointer reference} : catalog.graph.lookup (locationOf url pointer) = none →
      Dangling documents url pointer reference →
      Move documents catalog ((catalog.place url pointer (.placeholder url pointer none)).spoil catalog.graph.size
        (.unresolvableReference reference (locationOf url pointer)))
  | schema {url pointer raw identity} : catalog.graph.lookup (locationOf url pointer) = none →
      Standing documents url pointer (.object raw) → IsOwn url pointer identity →
      Move documents catalog ((catalog.place url pointer (nodeOf (.within url pointer) identity raw)).collect
        (nodeOf (.within url pointer) identity raw).kind catalog.graph.size)
  | identify {id identity} : (∀ location, identity = some location → catalog.graph.lookup location = some id) →
      Move documents catalog (catalog.change id fun node => node.identified identity)
  | attach {id} (attachment : Attachment) : Collected catalog id →
      (∀ edge ∈ attachment.edges, edge.target < catalog.graph.size) →
      Move documents catalog (catalog.change id attachment.attach)

abbrev Moves (documents : DocumentSet) : Catalog → Catalog → Prop := Relation.ReflTransGen (Move documents)

variable {documents : DocumentSet} {before after catalog : Catalog}

theorem Move.grows (move : Move documents before after) : Grows before after := by
  cases move with
  | hollow free => exact .single (.placeholder free)
  | dangling free => exact .tail (.single (.placeholder free)) .spoil
  | schema free => exact .single (.schema free)
  | identify => exact .single .identify
  | attach attachment collected leads => exact .single (.attach attachment collected.inside collected.member leads)

theorem Moves.grows (moves : Moves documents before after) : Grows before after := by
  induction moves with
  | refl => exact .refl
  | tail _ move ih => exact ih.trans move.grows

/-! ## What is represented -/

/-- What a node was made from: a schema object, whose node is collected; a schema that is no object; or a reference that
is unresolvable, with the error that says so. -/
inductive Made (documents : DocumentSet) (catalog : Catalog) (id : Nat) : Prop
  | schema {url pointer raw} : Standing documents url pointer (.object raw) →
      (catalog.graph.node id).bare = nodeOf (.within url pointer) (catalog.graph.node id).identity raw →
      id ∈ catalog.collections.listing → catalog.deferred.find? id = none → Made documents catalog id
  | hollow {url pointer value} : Builds documents url pointer value → value.asObject? = none →
      catalog.graph.node id = .placeholder url pointer (catalog.graph.node id).identity →
      id ∉ catalog.collections.listing → catalog.deferred.find? id = none → Made documents catalog id
  | dangling {url pointer reference} : Dangling documents url pointer reference →
      catalog.graph.node id = .placeholder url pointer (catalog.graph.node id).identity →
      id ∉ catalog.collections.listing →
      catalog.deferred.find? id = some (.unresolvableReference reference (locationOf url pointer)) →
      Made documents catalog id

/-- Each node is found at its place alone, and is known by no other location. -/
structure Signed (graph : Graph) : Prop where
  located : ∀ location id, graph.lookup location = some id ↔
    id < graph.size ∧ (graph.node id).source.location = location
  named : ∀ id location, (graph.node id).identity = some location → location = (graph.node id).source.location

theorem Signed.empty : Signed {} where
  located location id := by
    constructor
    · intro found
      cases found
    · intro inside
      exact absurd inside.1 (Nat.not_lt_zero id)
  named _ _ identity := by cases identity

/-- The graph, the collections and the deferred errors fit the documents and each other. -/
structure Represents (documents : DocumentSet) (catalog : Catalog) : Prop where
  located : ∀ location id, catalog.graph.lookup location = some id ↔
    id < catalog.graph.size ∧ (catalog.graph.node id).source.location = location
  named : ∀ id location, (catalog.graph.node id).identity = some location →
    location = (catalog.graph.node id).source.location
  once : catalog.collections.listing.Nodup
  made : ∀ id < catalog.graph.size, Made documents catalog id
  spoiled : ∀ id error, (id, error) ∈ catalog.deferred.errors →
    id < catalog.graph.size ∧ catalog.deferred.find? id = some error

theorem Represents.signed (represents : Represents documents catalog) : Signed catalog.graph :=
  ⟨represents.located, represents.named⟩

theorem Represents.empty (documents : DocumentSet) : Represents documents {} where
  located := Signed.empty.located
  named := Signed.empty.named
  once := List.nodup_nil
  made id inside := absurd inside (Nat.not_lt_zero id)
  spoiled _ _ member := by cases member

/-! ### Nodes and where they are found -/

theorem location_within (url pointer : String) :
    (SourceLocation.within url pointer).location = locationOf url pointer := by
  simp [SourceLocation.within, SourceLocation.location, SourceLocation.fragment?, locationOf, String.append_assoc]

theorem size_place (catalog : Catalog) (url pointer : String) (node : Node) :
    (catalog.place url pointer node).graph.size = catalog.graph.size + 1 := by
  simp [Catalog.place]

theorem bare_attach (attachment : Attachment) (node : Node) : (attachment.attach node).bare = node.bare := by
  cases attachment <;> rfl

theorem identity_attach (attachment : Attachment) (node : Node) : (attachment.attach node).identity = node.identity := by
  cases attachment <;> rfl

theorem source_attach (attachment : Attachment) (node : Node) : (attachment.attach node).source = node.source := by
  cases attachment <;> rfl

theorem located_place (signed : Signed catalog.graph) {url pointer : String} {node : Node}
    (free : catalog.graph.lookup (locationOf url pointer) = none) (source : node.source = .within url pointer)
    (location : String) (id : Nat) :
    (catalog.place url pointer node).graph.lookup location = some id ↔
      id < (catalog.place url pointer node).graph.size ∧
        ((catalog.place url pointer node).graph.node id).source.location = location := by
  rw [size_place]
  by_cases own : location = locationOf url pointer
  · subst own
    rw [lookup_place_self]
    by_cases fresh : id = catalog.graph.size
    · subst fresh
      simp [node_place_self, source, location_within]
    · rw [node_place_of_ne fresh]
      constructor
      · intro same
        exact absurd (Option.some.inj same).symm fresh
      · rintro ⟨inside, found⟩
        cases free.symm.trans ((signed.located _ id).mpr ⟨by omega, found⟩)
  · rw [lookup_place_of_ne catalog node own, signed.located location id]
    by_cases fresh : id = catalog.graph.size
    · subst fresh
      simp [node_place_self, source, location_within, Ne.symm own]
    · rw [node_place_of_ne fresh]
      exact and_congr_left fun _ => by omega

/-- A placed node is found at its place, and is known by no other one. -/
theorem Signed.place (signed : Signed catalog.graph) {url pointer : String} {node : Node}
    (free : catalog.graph.lookup (locationOf url pointer) = none) (source : node.source = .within url pointer)
    (own : IsOwn url pointer node.identity) : Signed (catalog.place url pointer node).graph where
  located := located_place signed free source
  named id location identity := by
    by_cases fresh : id = catalog.graph.size
    · subst fresh
      rw [node_place_self] at identity ⊢
      rw [source, location_within]
      exact own location identity
    · rw [node_place_of_ne fresh] at identity ⊢
      exact signed.named id location identity

theorem Signed.change (signed : Signed catalog.graph) {id : Nat} {change : Node → Node}
    (source : ∀ node, (change node).source = node.source)
    (named : ∀ location, (change (catalog.graph.node id)).identity = some location →
      location = (catalog.graph.node id).source.location) : Signed (catalog.change id change).graph where
  located location other := by
    have size : (catalog.change id change).graph.size = catalog.graph.size := Graph.size_modify _ _ _
    have same : ((catalog.change id change).graph.node other).source = (catalog.graph.node other).source := by
      rw [node_change]
      split
      · exact source _
      · rfl
    rw [size, same]
    exact signed.located location other
  named other location := by
    rw [node_change]
    split
    next own =>
      obtain ⟨rfl, _⟩ := own
      rw [source]
      exact named location
    · exact signed.named other location

theorem Move.signed (move : Move documents before after) (signed : Signed before.graph) : Signed after.graph := by
  cases move with
  | hollow free _ _ own => exact signed.place free rfl own
  | dangling free => exact signed.place free rfl fun _ absurd => by cases absurd
  | schema free _ own => exact signed.place free rfl own
  | @identify id identity bound =>
      refine signed.change ?_ ?_
      · intro node
        unfold Node.identified
        split <;> rfl
      · intro location
        unfold Node.identified
        split
        · intro given
          exact ((signed.located location id).mp (bound location given)).2.symm
        · exact signed.named id location
  | @attach id attachment =>
      refine signed.change (source_attach attachment) ?_
      rw [identity_attach]
      exact signed.named id

theorem Moves.signed (moves : Moves documents before after) (signed : Signed before.graph) : Signed after.graph := by
  induction moves with
  | refl => exact signed
  | tail _ move ih => exact move.signed ih

/-! ### What nodes were made from -/

/-- A node that was named at most, and is collected and spoiled as before. -/
theorem Made.kept {id : Nat} (made : Made documents before id)
    (node : (after.graph.node id) = { before.graph.node id with identity := (after.graph.node id).identity })
    (listed : id ∈ after.collections.listing ↔ id ∈ before.collections.listing)
    (errors : after.deferred.find? id = before.deferred.find? id) : Made documents after id := by
  cases made with
  | @schema url pointer raw standing keywords member sound =>
      refine .schema standing ?_ (listed.mpr member) (errors.trans sound)
      rw [node]
      exact congrArg (fun bare => { bare with identity := (after.graph.node id).identity }) keywords
  | hollow builds plain shape other sound =>
      refine .hollow builds plain ?_ (fun member => other (listed.mp member)) (errors.trans sound)
      rw [node, shape]
      rfl
  | dangling reference shape other sound =>
      refine .dangling reference ?_ (fun member => other (listed.mp member)) (errors.trans sound)
      rw [node, shape]
      rfl

/-- A node that was placed only adds to what is there. -/
theorem Made.placed {id : Nat} {url pointer : String} {node : Node} (made : Made documents before id)
    (old : id < before.graph.size) : Made documents (before.place url pointer node) id := by
  refine made.kept ?_ Iff.rfl rfl
  rw [node_place_of_ne (Nat.ne_of_lt old)]

theorem Made.collected {id other : Nat} {kind : Kind} (made : Made documents before id) (different : id ≠ other) :
    Made documents (before.collect kind other) id := by
  refine made.kept rfl ?_ rfl
  simp only [Collections.mem_listing, Catalog.collect, mem_ofKind_add, different, and_false, or_false]

theorem Made.spoiled {id other : Nat} {error : CompileError} (made : Made documents before id) (different : id ≠ other) :
    Made documents (before.spoil other error) id :=
  made.kept rfl Iff.rfl (Deferred.find?_add_of_ne different error)

theorem Made.identified {id other : Nat} {identity : Option String} (made : Made documents before id) :
    Made documents (before.change other fun node => node.identified identity) id := by
  refine made.kept ?_ Iff.rfl rfl
  rw [node_change]
  split
  · unfold Node.identified
    split <;> rfl
  · rfl

theorem Made.attached {id other : Nat} (attachment : Attachment) (collected : other ∈ before.collections.listing)
    (made : Made documents before id) : Made documents (before.change other attachment.attach) id := by
  by_cases own : id = other
  · subst own
    cases made with
    | @schema url pointer raw standing keywords member sound =>
        refine .schema standing ?_ member sound
        rw [node_change]
        split
        · rw [bare_attach, identity_attach]
          exact keywords
        · exact keywords
    | hollow _ _ _ other => exact absurd collected other
    | dangling _ _ other => exact absurd collected other
  · refine made.kept ?_ Iff.rfl rfl
    rw [node_change, if_neg fun both => own both.1]

/-! ### Moves -/

theorem size_notMem_listing (built : Built catalog) : catalog.graph.size ∉ catalog.collections.listing := by
  intro member
  obtain ⟨kind, among⟩ := Collections.mem_listing.mp member
  exact absurd (built.ofKind among).1 (Nat.lt_irrefl _)

theorem Represents.find?_size (represents : Represents documents catalog) :
    catalog.deferred.find? catalog.graph.size = none := by
  rcases found : catalog.deferred.find? catalog.graph.size with _ | error
  · rfl
  · obtain ⟨entry, among, rfl⟩ := Option.map_eq_some_iff.mp found
    have own : entry.1 = catalog.graph.size := by simpa using List.find?_some among
    have inside := (represents.spoiled entry.1 entry.2 (List.mem_of_find?_eq_some among)).1
    exact absurd own (Nat.ne_of_lt inside)

/-- What a placed node adds to the collections and the errors fits it. -/
theorem Represents.place (represents : Represents documents before) {url pointer : String} {node : Node}
    (signed : Signed after.graph) (graph : after.graph = (before.place url pointer node).graph)
    (once : after.collections.listing.Nodup)
    (kept : ∀ id < before.graph.size, Made documents (before.place url pointer node) id → Made documents after id)
    (made : Made documents after before.graph.size)
    (spoiled : ∀ id error, (id, error) ∈ after.deferred.errors →
      id < before.graph.size + 1 ∧ after.deferred.find? id = some error) : Represents documents after := by
  refine ⟨signed.located, signed.named, once, ?_, ?_⟩
  · intro id inside
    rw [graph, size_place] at inside
    rcases Nat.lt_succ_iff_lt_or_eq.mp inside with old | rfl
    · exact kept id old ((represents.made id old).placed old)
    · exact made
  · rw [graph, size_place]
    exact spoiled

/-- A changed node still stands for what it was made from. -/
theorem Represents.change (represents : Represents documents before) {id : Nat} {change : Node → Node}
    (signed : Signed (before.change id change).graph)
    (made : ∀ other, Made documents before other → Made documents (before.change id change) other) :
    Represents documents (before.change id change) := by
  have size : (before.change id change).graph.size = before.graph.size := Graph.size_modify _ _ _
  refine ⟨signed.located, signed.named, represents.once, ?_, ?_⟩
  · rw [size]
    exact fun other inside => made other (represents.made other inside)
  · rw [size]
    exact represents.spoiled

theorem nodup_listing_add {collections : Collections} {kind : Kind} {id : Nat} (once : collections.listing.Nodup)
    (fresh : id ∉ collections.listing) : (collections.add kind id).listing.Nodup := by
  have permuted : (collections.add kind id).listing.Perm (id :: collections.listing) := by
    cases kind with
    | object =>
        simp only [Collections.add, Collections.listing, List.append_assoc]
        exact List.perm_middle
    | array =>
        simp only [Collections.add, Collections.listing, List.append_assoc]
        exact (List.Perm.append_left _ List.perm_middle).trans List.perm_middle
    | primitive =>
        rw [Collections.listing, Collections.add, ← List.append_assoc]
        exact List.perm_append_singleton _ _
  exact permuted.nodup_iff.mpr (List.nodup_cons.mpr ⟨fresh, once⟩)

theorem Move.represents (move : Move documents before after) (built : Built before)
    (represents : Represents documents before) : Represents documents after := by
  have fresh := size_notMem_listing built
  have sound := represents.find?_size
  have signed := move.signed represents.signed
  have spoiledAs (id : Nat) (error : CompileError) (member : (id, error) ∈ before.deferred.errors) :
      id < before.graph.size + 1 ∧ before.deferred.find? id = some error :=
    (represents.spoiled id error member).imp_left Nat.lt_succ_of_lt
  cases move with
  | @hollow url pointer value identity free builds plain own =>
      refine represents.place signed rfl represents.once (fun _ _ made => made) ?_ spoiledAs
      exact .hollow builds plain (by rw [node_place_self]; rfl) fresh sound
  | @dangling url pointer reference free dangling =>
      refine represents.place signed rfl represents.once ?_ ?_ ?_
      · exact fun id old made => made.spoiled (Nat.ne_of_lt old)
      · refine .dangling dangling ?_ fresh (Deferred.find?_add_self sound _)
        rw [Catalog.spoil, node_place_self]
        rfl
      · intro id error member
        rcases Deferred.mem_errors_add member with earlier | same
        · obtain ⟨old, first⟩ := represents.spoiled id error earlier
          exact ⟨Nat.lt_succ_of_lt old, (Deferred.find?_add_of_ne (Nat.ne_of_lt old) _).trans first⟩
        · cases same
          exact ⟨Nat.lt_succ_self _, Deferred.find?_add_self sound _⟩
  | @schema url pointer raw identity free standing own =>
      refine represents.place signed rfl (nodup_listing_add represents.once fresh) ?_ ?_ spoiledAs
      · exact fun id old made => made.collected (Nat.ne_of_lt old)
      · refine .schema standing ?_ (Collections.mem_listing.mpr ⟨_, mem_ofKind_add.mpr (.inr ⟨rfl, rfl⟩)⟩) sound
        rw [Catalog.collect, node_place_self]
        rfl
  | identify => exact represents.change signed fun _ made => made.identified
  | attach attachment collected =>
      exact represents.change signed fun _ made =>
        made.attached attachment (Collections.mem_listing.mpr ⟨_, collected.member⟩)

/-- Whatever reading leads to represents the documents. -/
theorem Moves.represents (moves : Moves documents {} catalog) : Represents documents catalog := by
  induction moves with
  | refl => exact .empty documents
  | tail earlier move ih => exact move.represents (Moves.grows earlier) ih

end Reading

end ApiContract.Schema
