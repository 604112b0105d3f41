import ApiContract.Proofs.Contract.Hierarchy
import ApiContract.Proofs.Contract.Lookup

/-!
How a single schema gets into the map of its root, whatever the rest of the graph looks like. It is entered under its
tag, and stays there if no other schema of the hierarchy has the tag; where it or its root has no tag, the root is
spoiled (`enrollAll_joins`). No tag but its own leads to a schema (`enrollAll_labels`).
-/

namespace ApiContract

open Relation

namespace Schema.Catalog

variable {graph : Graph} {catalog opened tagged : Catalog} {top root id other : Nat} {tag : String}

/-- The map of a root leads from a tag to a schema. -/
def Leads (catalog : Catalog) (top : Nat) (tag : String) (id : Nat) : Prop :=
  ∃ tags, (catalog.graph.node top).tagMap = some tags ∧ Assoc.find? tags tag = some (some id)

/-- A schema was entered into the map of a root, or one of both has no tag and the root is spoiled. -/
inductive Joined (graph : Graph) (catalog : Catalog) (top id : Nat) : Prop
  | entered {tag : String} : (graph.node top).tag?.isSome = true → (graph.node id).tag? = some tag →
      catalog.Leads top tag id → Joined graph catalog top id
  | spoiled : (graph.node top).tag? = none ∨ (graph.node id).tag? = none →
      (catalog.deferred.find? top).isSome = true → Joined graph catalog top id

def Labels (graph : Graph) (catalog : Catalog) : Prop :=
  ∀ top tags tag id, (catalog.graph.node top).tagMap = some tags → (tag, some id) ∈ tags →
    (graph.node id).tag? = some tag

/-! ## One schema -/

theorem lt_size_of_tagMap {tags : Assoc (Option Nat)} (mapped : (catalog.graph.node id).tagMap = some tags) :
    id < catalog.graph.size := by
  by_contra outside
  rw [Graph.node_of_size_le (Nat.le_of_not_lt outside)] at mapped
  cases mapped

theorem tagMap_enroll_of_ne (different : other ≠ root) :
    ((catalog.enroll root id).graph.node other).tagMap = (catalog.graph.node other).tagMap := by
  refine enroll_keeps (motive := fun after => (after.graph.node other).tagMap = (catalog.graph.node other).tagMap)
    (fun before after step same => ?_) rfl
  cases step with
  | opens | enters =>
      rw [modifyNode, Graph.node_modify_of_ne _ _ different]
      exact same
  | defers => exact same

theorem isSome_deferred_enroll (spoiled : (catalog.deferred.find? other).isSome = true) (root id : Nat) :
    ((catalog.enroll root id).deferred.find? other).isSome = true := by
  refine enroll_keeps (motive := fun after => (after.deferred.find? other).isSome = true)
    (fun before after step known => ?_) spoiled
  cases step with
  | opens | enters => exact known
  | defers => exact Deferred.isSome_find?_add _ known

/-- What opening the map of a root does: nothing if there is one, and else it begins with the tag of the root. -/
inductive Opens (graph : Graph) (root : Nat) (catalog : Catalog) : Catalog → Assoc (Option Nat) → Prop
  | again {tags : Assoc (Option Nat)} : (catalog.graph.node root).tagMap = some tags →
      Opens graph root catalog catalog tags
  | anew {tag : String} : (catalog.graph.node root).tagMap = none → (graph.node root).tag? = some tag →
      Opens graph root catalog (catalog.modifyNode root fun node => { node with tagMap := some [(tag, none)] })
        [(tag, none)]

/-- What entering another schema into the map of a root does. -/
inductive Enrollment (graph : Graph) (root id : Nat) (catalog : Catalog) : Catalog → Prop
  | closed {error : CompileError} : (catalog.graph.node root).tagMap = none → (graph.node root).tag? = none →
      Enrollment graph root id catalog (catalog.defer root error)
  | entered {opened : Catalog} {tags : Assoc (Option Nat)} {tag : String} : Opens graph root catalog opened tags →
      (graph.node id).tag? = some tag →
      Enrollment graph root id catalog (opened.modifyNode root fun node =>
        { node with tagMap := node.tagMap.map fun tags => Assoc.insert tags tag (some id) })
  | nameless {opened : Catalog} {tags : Assoc (Option Nat)} {error : CompileError} :
      Opens graph root catalog opened tags → (graph.node id).tag? = none →
      Enrollment graph root id catalog ((opened.defer root error).defer id error)

theorem Opens.mapped {tags : Assoc (Option Nat)} (opens : Opens graph root catalog opened tags)
    (inside : root < catalog.graph.size) :
    (opened.graph.node root).tagMap = some tags ∧ root < opened.graph.size := by
  cases opens with
  | again mapped => exact ⟨mapped, inside⟩
  | anew =>
      rw [modifyNode, Graph.size_modify, Graph.node_modify_self _ inside]
      exact ⟨rfl, inside⟩

theorem Opens.retagged {tags : Assoc (Option Nat)} (opens : Opens graph root catalog opened tags) :
    Retagged catalog.graph opened.graph := by
  cases opens with
  | again => exact .refl _
  | anew => exact .modify _ _ _

theorem openMap?_opens (retagged : Retagged graph catalog.graph) (root : Nat) :
    ((catalog.graph.node root).tagMap = none ∧ (graph.node root).tag? = none ∧ catalog.openMap? root = none) ∨
      ∃ opened tags, catalog.openMap? root = some opened ∧ Opens graph root catalog opened tags := by
  cases mapped : (catalog.graph.node root).tagMap with
  | some tags => exact .inr ⟨catalog, tags, by simp [openMap?, mapped], .again mapped⟩
  | none =>
      cases named : (graph.node root).tag? with
      | none => exact .inl ⟨rfl, rfl, by simp [openMap?, mapped, retagged.tag?, named]⟩
      | some tag =>
          exact .inr ⟨_, [(tag, none)], by simp [openMap?, mapped, retagged.tag?, named], .anew mapped named⟩

theorem enroll_enrollment (retagged : Retagged graph catalog.graph) (different : root ≠ id) :
    Enrollment graph root id catalog (catalog.enroll root id) := by
  unfold enroll
  rcases openMap?_opens retagged root with ⟨unmapped, unnamed, closed⟩ | ⟨opened, tags, answered, opens⟩
  · rw [closed]
    dsimp only
    rw [if_neg different]
    exact .closed unmapped unnamed
  · rw [answered]
    dsimp only
    rw [if_neg different, (retagged.trans opens.retagged).tag?]
    cases named : (graph.node id).tag? with
    | some tag => exact .entered opens named
    | none => exact .nameless opens named

/-- A schema that is entered has joined its root. -/
theorem joined_enroll (retagged : Retagged graph catalog.graph) (inside : root < catalog.graph.size)
    (different : root ≠ id)
    (unopened : (graph.node root).tag? = none → (catalog.graph.node root).tagMap = none) :
    Joined graph (catalog.enroll root id) root id := by
  generalize entered : catalog.enroll root id = after
  have enrollment := enroll_enrollment retagged different
  rw [entered] at enrollment
  cases enrollment with
  | closed _ unnamed => exact .spoiled (.inl unnamed) (Deferred.isSome_find?_add_self _ _ _)
  | nameless _ unnamed =>
      refine .spoiled (.inr unnamed) (Deferred.isSome_find?_add _ ?_)
      exact Deferred.isSome_find?_add_self _ _ _
  | @entered opened tags tag opens named =>
      obtain ⟨mapped, insideOpened⟩ := opens.mapped inside
      refine .entered ?_ named ⟨Assoc.insert tags tag (some id), ?_, Assoc.find?_insert_self _ _ _⟩
      · cases opens with
        | anew _ own => rw [own]; rfl
        | again known =>
            rw [Option.isSome_iff_ne_none]
            intro unnamed
            cases known.symm.trans (unopened unnamed)
      · rw [modifyNode, Graph.node_modify_self _ insideOpened, mapped]
        rfl

theorem unopened_enroll (retagged : Retagged graph catalog.graph) (unnamed : (graph.node top).tag? = none)
    (unmapped : (catalog.graph.node top).tagMap = none) (root id : Nat) :
    ((catalog.enroll root id).graph.node top).tagMap = none := by
  by_cases own : top = root
  · subst own
    have closed : catalog.openMap? top = none := by simp [openMap?, unmapped, retagged.tag?, unnamed]
    rw [enroll, closed]
    dsimp only
    split <;> exact unmapped
  · rw [tagMap_enroll_of_ne own]
    exact unmapped

/-- A tag leads to the same schema until another schema with the tag comes to the same root. -/
theorem Leads.enroll (leads : catalog.Leads top tag id) (retagged : Retagged graph catalog.graph)
    (alone : root = top → other ≠ id → (graph.node other).tag? ≠ some tag) :
    (catalog.enroll root other).Leads top tag id := by
  obtain ⟨tags, mapped, found⟩ := leads
  have inside := lt_size_of_tagMap mapped
  by_cases own : root = top
  · subst own
    have opens : catalog.openMap? root = some catalog := by simp [openMap?, mapped]
    by_cases itself : root = other
    · rw [Catalog.enroll, opens]
      dsimp only
      rw [if_pos itself]
      exact ⟨tags, mapped, found⟩
    · generalize entered : catalog.enroll root other = after
      have enrollment := enroll_enrollment retagged itself
      rw [entered] at enrollment
      have same {opened : Catalog} {table : Assoc (Option Nat)} (opens : Opens graph root catalog opened table) :
          opened = catalog := by
        cases opens with
        | again => rfl
        | anew unmapped => cases mapped.symm.trans unmapped
      cases enrollment with
      | closed unmapped => cases mapped.symm.trans unmapped
      | nameless opens =>
          rw [same opens]
          exact ⟨tags, mapped, found⟩
      | @entered _ _ added opens named =>
          rw [same opens]
          refine ⟨Assoc.insert tags added (some other), ?_, ?_⟩
          · rw [modifyNode, Graph.node_modify_self _ inside, mapped]
            rfl
          · by_cases equal : tag = added
            · subst equal
              have again : other = id := by
                by_contra different
                exact alone rfl different named
              rw [Assoc.find?_insert_self, again]
            · rw [Assoc.find?_insert_of_ne _ _ equal, found]
  · refine ⟨tags, ?_, found⟩
    rw [tagMap_enroll_of_ne (Ne.symm own), mapped]

theorem Joined.enroll (joined : Joined graph catalog top id) (retagged : Retagged graph catalog.graph)
    (alone : root = top → other ≠ id → ∀ tag, (graph.node id).tag? = some tag → (graph.node other).tag? ≠ some tag) :
    Joined graph (catalog.enroll root other) top id := by
  cases joined with
  | entered rootNamed named leads =>
      exact .entered rootNamed named (leads.enroll retagged fun own different => alone own different _ named)
  | spoiled unnamed known => exact .spoiled unnamed (isSome_deferred_enroll known root other)

theorem Labels.modify (labels : Labels graph catalog) {tags : Node → Option (Assoc (Option Nat))}
    (written : ∀ table tag id, tags (catalog.graph.node root) = some table → (tag, some id) ∈ table →
      (graph.node id).tag? = some tag) :
    Labels graph (catalog.modifyNode root fun node => { node with tagMap := tags node }) := by
  intro top table tag id mapped member
  rw [modifyNode] at mapped
  by_cases same : top = root
  · subst same
    by_cases inside : top < catalog.graph.size
    · rw [Graph.node_modify_self _ inside] at mapped
      exact written table tag id mapped member
    · rw [Graph.node_modify_outside _ _ (Nat.le_of_not_lt inside)] at mapped
      exact labels top table tag id mapped member
  · rw [Graph.node_modify_of_ne _ _ same] at mapped
    exact labels top table tag id mapped member

theorem Opens.labels {tags : Assoc (Option Nat)} (opens : Opens graph root catalog opened tags)
    (labels : Labels graph catalog) : Labels graph opened := by
  cases opens with
  | again => exact labels
  | anew =>
      refine labels.modify ?_
      intro table tag id mapped member
      cases mapped
      simp at member

theorem Labels.enroll (labels : Labels graph catalog) (retagged : Retagged graph catalog.graph) (root id : Nat) :
    Labels graph (catalog.enroll root id) := by
  by_cases itself : root = id
  · unfold Catalog.enroll
    rcases openMap?_opens retagged root with ⟨_, _, closed⟩ | ⟨opened, tags, answered, opens⟩
    · rw [closed]
      dsimp only
      rw [if_pos itself]
      exact labels
    · rw [answered]
      dsimp only
      rw [if_pos itself]
      exact opens.labels labels
  · generalize entered : catalog.enroll root id = after
    have enrollment := enroll_enrollment retagged itself
    rw [entered] at enrollment
    cases enrollment with
    | closed => exact labels
    | nameless opens => exact opens.labels labels
    | entered opens named =>
        refine (opens.labels labels).modify ?_
        intro table other variant mapped member
        obtain ⟨tags, known, rfl⟩ := Option.map_eq_some_iff.mp mapped
        rcases Assoc.mem_insert member with old | new
        · exact opens.labels labels root tags other variant known old
        · cases new
          exact named

/-! ## All schemas -/

theorem enrollAll_labels {ids : List Nat} {before after : RootSearch} (labels : Labels graph catalog)
    (retagged : Retagged graph catalog.graph)
    (ran : (catalog.enrollAll ids).run before = some (tagged, after)) : Labels graph tagged := by
  induction ids generalizing catalog before with
  | nil =>
      cases ran
      exact labels
  | cons id rest ih =>
      rw [enrollAll, StateT.run_bind_eq_some] at ran
      obtain ⟨root, middle, _, later⟩ := ran
      cases root with
      | none => exact ih labels retagged later
      | some root =>
          exact ih (labels.enroll retagged root id) (retagged.trans (enroll_retags catalog root id).1) later

/-- A schema whose references enter no cycle joins its root, if the other schemas of the hierarchy have other tags. -/
theorem enrollAll_joins {ids : List Nat} {before after : RootSearch} (unlooped : graph.Unlooped id)
    (rooted : RootIs graph id (some top)) (different : top ≠ id)
    (alone : ∀ other ∈ ids, other ≠ id → ReflTransGen graph.HasParent other top →
      ∀ tag, (graph.node id).tag? = some tag → (graph.node other).tag? ≠ some tag)
    (retagged : Retagged graph catalog.graph) (sharing : RootSearch.Sharing graph before)
    (unopened : (graph.node top).tag? = none → (catalog.graph.node top).tagMap = none)
    (ran : (catalog.enrollAll ids).run before = some (tagged, after))
    (either : id ∈ ids ∨ Joined graph catalog top id) : Joined graph tagged top id := by
  induction ids generalizing catalog before with
  | nil =>
      cases ran
      exact either.resolve_left List.not_mem_nil
  | cons first rest ih =>
      rw [enrollAll, StateT.run_bind_eq_some, retagged.rootOf] at ran
      obtain ⟨root, middle, searched, later⟩ := ran
      obtain ⟨sharingMiddle, leads, found⟩ := sharing.step searched
      have aloneLater other (member : other ∈ rest) := alone other (List.mem_cons_of_mem _ member)
      -- The search for the schema itself answers its root.
      have own (same : first = id) : root = some top := by
        subst same
        exact (found unlooped).unique rooted
      cases root with
      | none =>
          refine ih aloneLater retagged sharingMiddle unopened later (either.imp_left fun member => ?_)
          rcases List.mem_cons.mp member with same | among
          · cases own same.symm
          · exact among
      | some root =>
          have retaggedLater := retagged.trans (enroll_retags catalog root first).1
          refine ih aloneLater retaggedLater sharingMiddle ?_ later ?_
          · exact fun unnamed => unopened_enroll retagged unnamed (unopened unnamed) root first
          · by_cases same : first = id
            · obtain rfl := Option.some.inj (own same)
              subst same
              have inside := Graph.lt_size_of_discriminator (leads root rfl).1
              rw [← retagged.size] at inside
              exact .inr (joined_enroll retagged inside different unopened)
            · refine either.imp (fun member => ?_) fun joined => joined.enroll retagged ?_
              · exact (List.mem_cons.mp member).resolve_left (Ne.symm same)
              · rintro rfl _
                exact alone first List.mem_cons_self same (leads root rfl).2

end Schema.Catalog

end ApiContract
