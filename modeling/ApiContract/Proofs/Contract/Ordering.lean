import ApiContract.Proofs.Contract.Caching
import ApiContract.Proofs.Contract.Suppression
import ApiContract.Proofs.Ordering.Compiling
import ApiContract.Proofs.Ordering.Hierarchies
import ApiContract.Proofs.Pass.Computed
import ApiContract.Proofs.Pass.Places
import ApiContract.ValidatorStore

/-!
The order of root documents. A document is read while later ones are as they were written, so whether a reference can
be resolved may depend on which document comes first. Where references say the same before and after
(`Draft.Settled`), the drafts of two orders are finished alike (`Draft.Twins.finish`), and specifications that are
built of such drafts agree on every message (`ValidatorStore.agree_of_mates`).
-/

namespace ApiContract

open Json (Value)

/-! ## What merged drafts are like -/

theorem Assoc.nodup_keys_foldl_insertNew {α : Type} {added table : Assoc α} (distinct : (keys table).Nodup) :
    (keys (added.foldl (fun table entry => insertNew table entry.1 entry.2) table)).Nodup := by
  induction added generalizing table with
  | nil => exact distinct
  | cons entry _ ih => exact ih (nodup_keys_insertNew _ _ distinct)

namespace Schema

open Reading

theorem Node.nodup_foldl_absorb {node : Node} (distinct : (Assoc.keys node.propertyList).Nodup) (parents : List Node) :
    (Assoc.keys (parents.foldl Node.absorb node).propertyList).Nodup := by
  induction parents generalizing node with
  | nil => exact distinct
  | cons parent _ ih =>
      refine ih ?_
      rcases listed : node.properties with _ | own
      · rw [propertyList, absorb, listed]
        exact List.nodup_nil
      · rw [propertyList, listed, Option.getD_some] at distinct
        rw [propertyList, absorb, listed]
        exact Assoc.nodup_keys_foldl_insertNew distinct

theorem Reading.propertySpots_distinct {pointer : String} {raw : Assoc Value} {entries : Assoc Spot}
    (unique : (Value.object raw).hasUniqueKeys = true) (written : propertySpots pointer raw = some entries) :
    (Assoc.keys entries).Nodup := by
  unfold propertySpots at written
  split at written
  next inner found =>
    cases written
    have uniqueInner := (Value.hasUniqueKeys_object_iff.mp unique).2 _ (Assoc.mem_of_find? found)
    rw [Assoc.keys, List.map_map]
    exact (Value.hasUniqueKeys_object_iff.mp uniqueInner).1
  · cases written

theorem Reading.Drawn.distinct {documents : DocumentSet} {catalog : Catalog} {id : Nat}
    (drawn : Drawn documents catalog id)
    (navigable : Navigable documents) (stored : Stored documents) :
    (Assoc.keys (catalog.graph.node id).propertyList).Nodup := by
  cases drawn with
  | lost _ bare =>
      have none : (catalog.graph.node id).properties = none := congrArg Outline.properties bare
      rw [Node.propertyList, none]
      exact List.nodup_nil
  | @schema url pointer value builds _ alike =>
      have tables : Option.Rel (Outline.Tables _) (spots pointer value).properties (catalog.graph.node id).properties :=
        alike.properties
      rcases tables.none_or_some with ⟨_, none⟩ | ⟨spots, edges, written, some, entries⟩
      · rw [Node.propertyList, none]
        exact List.nodup_nil
      · rw [Node.propertyList, some, Option.getD_some, ← Validator.keys_alike entries]
        rcases builds with standing | _
        · obtain ⟨entry, among, part⟩ := (navigable.found stored standing).part
          have unique := Value.hasUniqueKeys_of_mem_parts (stored.keys entry among) part
          cases value with
          | object raw => exact propertySpots_distinct unique written
          | null | bool flag | number n | string text | array items => cases written
        · cases written

end Schema

namespace Draft

open Schema Schema.Reading

variable {documents : DocumentSet} {written tagged merged final : Draft}

theorem Stages.orderly (stages : Stages documents written tagged merged final)
    (distinct : ∀ id, (Assoc.keys (written.graph.node id).propertyList).Nodup)
    (once : written.catalog.collections.listing.Nodup)
    (spoiled : ∀ id, tagged.catalog.deferred.find? id ≠ none → id < written.graph.size) : merged.Orderly := by
  obtain ⟨_, collections, deferred, operations, _⟩ := mergeBranches_outcome stages.branches
  refine ⟨⟨fun id target => stages.leadsTo_lt, fun id => ?_⟩, fun id member => ?_, ?_, fun id lost => ?_, ?_⟩
  · have own : (Assoc.keys (tagged.graph.node id).propertyList).Nodup := stages.tagged_propertyList id ▸ distinct id
    by_cases mergeable : Mergeable tagged.graph id
    · obtain ⟨_, parents, _, _, _, same⟩ :=
        stages.outcome.complete id (stages.read.fresh.covers stages.retagged mergeable) mergeable
      rw [same, Node.propertyList_settled]
      have gathered : (Assoc.keys (tagged.graph.node id).gathered.propertyList).Nodup := own
      exact Node.nodup_foldl_absorb gathered parents
    · rw [stages.outcome.untouched id mergeable]
      exact own
  · rw [stages.collections] at member
    obtain ⟨kind, among⟩ := Collections.mem_listing.mp member
    exact stages.size ▸ (stages.built.ofKind among).1
  · rw [stages.collections]
    exact (List.nodup_append.mp (List.nodup_append.mp once).1).1
  · rw [deferred] at lost
    exact stages.size ▸ spoiled id lost
  · intro operation member parameter among
    rw [operations, (buildTagMaps_retags stages.tags).2] at member
    exact stages.size ▸ (stages.read.grounded operation member).parameters _ ⟨parameter, among, rfl⟩

/-- Only schemas that were read are broken, or lack a tag. -/
theorem lt_size_of_spoiled {draft : Draft} (fresh : Fresh draft) (acyclic : IsAcyclic draft.graph.HasParent)
    (apart : TagsApart draft.graph draft.graph.root? draft.catalog.collections.objects)
    (inside : ∀ id, draft.catalog.deferred.find? id ≠ none → id < draft.graph.size)
    (tags : draft.buildTagMaps = .ok tagged) {id : Nat} (lost : tagged.catalog.deferred.find? id ≠ none) :
    id < draft.graph.size := by
  obtain ⟨_, ran, enrolled, _⟩ := buildTagMaps_enrolled fresh acyclic apart
  cases tags.symm.trans ran
  have collected {id : Nat} (member : id ∈ draft.catalog.collections.objects) : id < draft.graph.size := by
    have among : id ∈ draft.catalog.collections.ofKind .object := member
    exact (fresh.built.ofKind among).1
  rcases (enrolled.spoiled id).mp (Option.isSome_iff_ne_none.mpr lost) with old | ⟨_, _, rooted, _⟩ | ⟨member, _⟩
  · exact inside id (Option.isSome_iff_ne_none.mp old)
  · exact Graph.lt_size_of_discriminator
      (Option.isSome_iff_ne_none.mp (root_declares (findsRoots_root? acyclic) acyclic rooted))
  · exact collected member

theorem Stages.orderly_of_drawn {target : DocumentSet} (stages : Stages documents written tagged merged final)
    (navigable : Navigable target) (stored : Stored target) (regular : Regular target written.catalog)
    (drawn : ∀ id < written.graph.size, Drawn target written.catalog id) (acyclic : IsAcyclic written.graph.HasParent)
    (apart : TagsApart written.graph written.graph.root? written.catalog.collections.objects) : merged.Orderly := by
  refine stages.orderly (fun id => ?_) regular.moves.represents.once fun id =>
    lt_size_of_spoiled stages.read.fresh acyclic apart (fun _ => regular.lt_of_spoiled) stages.tags
  by_cases inside : id < written.graph.size
  · exact (drawn id inside).distinct navigable stored
  · rw [Graph.node_of_size_le (Nat.le_of_not_lt inside)]
    exact List.nodup_nil

/-- Two orders of the same documents are finished alike. -/
theorem Twins.finish {target documents shuffled : DocumentSet} {one other : Draft} (twins : Twins target one other)
    (navigable : Navigable target) (stored : Stored target) (isRead : IsRead documents one)
    (isReadToo : IsRead shuffled other)
    (acyclic : IsAcyclic one.graph.HasBranch)
    (apart : TagsApart one.graph one.graph.root? one.catalog.collections.objects) :
    ∃ pairing final finalToo, IsFinished documents final ∧ IsFinished shuffled finalToo ∧
      Mates pairing final finalToo := by
  have fresh := isRead.fresh
  have freshToo := isReadToo.fresh
  have sketched := twins.sketched navigable stored fresh.baseSchemas freshToo.baseSchemas
  have acyclicToo := sketched.acyclic acyclic
  have parents : IsAcyclic one.graph.HasParent := acyclic.mono fun _ _ => Graph.HasParent.hasBranch
  have parentsToo : IsAcyclic other.graph.HasParent := acyclicToo.mono fun _ _ => Graph.HasParent.hasBranch
  have apartToo := sketched.tagsApart (findsRoots_root? parents) (findsRoots_root? parentsToo) acyclic apart
  obtain ⟨tagged, taggedToo, tags, tagsToo, sketchedTagged⟩ := sketched.buildTagMaps fresh freshToo acyclic apart
  obtain ⟨retagged, collections⟩ := (buildTagMaps_retags tags).1
  obtain ⟨retaggedToo, collectionsToo⟩ := (buildTagMaps_retags tagsToo).1
  have acyclicTagged : IsAcyclic tagged.graph.HasBranch := retagged.hasBranch ▸ acyclic
  obtain ⟨merged, mergedToo, branches, branchesToo, sketchedMerged⟩ := sketchedTagged.mergeBranches acyclicTagged
    (fun id mergeable => collections ▸ fresh.covers retagged mergeable)
    (fun id mergeable => collectionsToo ▸ freshToo.covers retaggedToo mergeable)
  obtain ⟨stages, finished⟩ := isRead.stages tags branches
  obtain ⟨stagesToo, finishedToo⟩ := isReadToo.stages tagsToo branchesToo
  refine ⟨_, _, _, finished, finishedToo, sketchedMerged.finish ?_ ?_⟩
  · exact stages.orderly_of_drawn navigable stored twins.regular twins.drawn parents apart
  · exact stagesToo.orderly_of_drawn navigable stored twins.regularToo twins.drawnToo parentsToo apartToo

end Draft

/-! ## What is found -/

theorem List.eq_of_nodup_filterMap {α β : Type} {read : α → Option β} {items : List α}
    (distinct : (items.filterMap read).Nodup)
    {item other : α} {value : β} (member : item ∈ items) (memberToo : other ∈ items) (own : read item = some value)
    (ownToo : read other = some value) : item = other := by
  induction items with
  | nil => contradiction
  | cons first rest ih =>
      rcases List.mem_cons.mp member with rfl | later
      · rcases List.mem_cons.mp memberToo with rfl | laterToo
        · rfl
        · rw [List.filterMap_cons_some own, List.nodup_cons] at distinct
          exact absurd (List.mem_filterMap.mpr ⟨other, laterToo, ownToo⟩) distinct.1
      · rcases List.mem_cons.mp memberToo with rfl | laterToo
        · rw [List.filterMap_cons_some ownToo, List.nodup_cons] at distinct
          exact absurd (List.mem_filterMap.mpr ⟨item, later, own⟩) distinct.1
        · exact ih (distinct.sublist ((List.sublist_cons_self first rest).filterMap read)) later laterToo

theorem Operation.Alike.response? {near : Nat → Nat → Prop} {operation twin : Operation}
    (alike : operation.Alike near twin) (status : String) :
    Option.Rel (Response.Alike near) (operation.response? status) (twin.response? status) := by
  have declared (status : String) : Option.Rel (Response.Alike near) (Assoc.find? operation.responses status)
      (Assoc.find? twin.responses status) := Validator.find?_alike alike.responses status
  unfold Operation.response?
  rcases (declared status).none_or_some with ⟨none, noneToo⟩ | ⟨_, _, some, someToo, both⟩
  · rw [none, noneToo]
    dsimp only
    split
    · exact declared "default"
    · exact .none
  · rw [some, someToo]
    exact .some both

namespace Specification

open Schema

/-- No two operations have the same operation id. -/
def DistinctIds (operations : List Operation) : Prop := (operations.filterMap Operation.operationId).Nodup

theorem operation?_of_unkeyed {specification : Specification} {name : String}
    (unkeyed : ∀ operation ∈ specification.draft.operations, operation.key ≠ name) :
    specification.operation? name = specification.draft.operations.find? (·.operationId == some name) := by
  have none : specification.draft.operations.reverse.find? (·.key == name) = none := by
    refine List.find?_eq_none.mpr fun operation member => ?_
    simpa using unkeyed operation (List.mem_reverse.mp member)
  rw [operation?, none]
  rfl

section

variable {pairing : Pairing} {one other : Specification} (paired : Draft.Paired pairing one.draft other.draft)
  (keyed : one.Keyed) (keyedToo : other.Keyed) (ids : DistinctIds one.draft.operations)

include paired keyed keyedToo ids

theorem operation?_alike (name : String) :
    Option.Rel (Operation.Alike pairing.Near) (one.operation? name) (other.operation? name) := by
  have sameKey {operation twin : Operation} (alike : operation.Alike pairing.Near twin) : operation.key = twin.key :=
    alike.same Operation.key fun _ _ _ => rfl
  have sameId {operation twin : Operation} (alike : operation.Alike pairing.Near twin) :
      operation.operationId = twin.operationId := alike.same Operation.operationId fun _ _ _ => rfl
  by_cases known : ∃ operation ∈ one.draft.operations, operation.key = name
  · obtain ⟨operation, member, rfl⟩ := known
    obtain ⟨twin, memberToo, alike⟩ := paired.operations operation member
    rw [keyed.operation?_key member, sameKey alike, keyedToo.operation?_key memberToo]
    exact .some alike
  · have unkeyed : ∀ operation ∈ one.draft.operations, operation.key ≠ name := fun operation member same =>
      known ⟨operation, member, same⟩
    have unkeyedToo : ∀ twin ∈ other.draft.operations, twin.key ≠ name := by
      intro twin member same
      obtain ⟨operation, memberBack, alike⟩ := paired.operationsToo twin member
      exact unkeyed operation memberBack ((sameKey alike).trans same)
    rw [operation?_of_unkeyed unkeyed, operation?_of_unkeyed unkeyedToo]
    rcases found : one.draft.operations.find? (·.operationId == some name) with _ | operation
    · rcases foundToo : other.draft.operations.find? (·.operationId == some name) with _ | twin
      · rw [found, foundToo]
        exact .none
      · obtain ⟨operation, member, alike⟩ := paired.operationsToo twin (List.mem_of_find?_eq_some foundToo)
        have named : twin.operationId = some name := by simpa using List.find?_some foundToo
        have unnamed := List.find?_eq_none.mp found operation member
        rw [sameId alike, named] at unnamed
        exact absurd (beq_self_eq_true _) unnamed
    · have member := List.mem_of_find?_eq_some found
      have named : operation.operationId = some name := by simpa using List.find?_some found
      obtain ⟨twin, memberToo, alike⟩ := paired.operations operation member
      have present : (other.draft.operations.find? (·.operationId == some name)).isSome := by
        rw [List.find?_isSome]
        exact ⟨twin, memberToo, by rw [← sameId alike, named, beq_self_eq_true]⟩
      obtain ⟨last, foundToo⟩ := Option.isSome_iff_exists.mp present
      obtain ⟨origin, memberBack, alikeToo⟩ := paired.operationsToo last (List.mem_of_find?_eq_some foundToo)
      have namedToo : last.operationId = some name := by simpa using List.find?_some foundToo
      cases List.eq_of_nodup_filterMap ids member memberBack named ((sameId alikeToo).trans namedToo)
      rw [found, foundToo]
      exact .some alikeToo

end

/-- What two queries lead to is the same but for the numbers of schemas. -/
inductive Found.Alike (near : Nat → Nat → Prop) : Found → Found → Prop
  | request {operation twin : Operation} : operation.Alike near twin → Alike near (.request operation) (.request twin)
  | response {operation twin : Operation} {response responseToo : Response} : operation.Alike near twin →
      response.Alike near responseToo → Alike near (.response operation response) (.response twin responseToo)

section

variable {pairing : Pairing} {one other : Specification} (mates : Draft.Mates pairing one.draft other.draft)
  (keyed : one.Keyed) (keyedToo : other.Keyed) (ids : DistinctIds one.draft.operations)

include mates keyed keyedToo ids

theorem find_alike (query : Query) :
    (∃ found twin, one.find query = .ok found ∧ other.find query = .ok twin ∧ found.Alike pairing.Near twin) ∨
      ∃ error errorToo, one.find query = .error error ∧ other.find query = .error errorToo := by
  have named name := (operation?_alike mates.toPaired keyed keyedToo ids name).none_or_some
  cases query with
  | request name =>
      rcases named name with ⟨none, noneToo⟩ | ⟨operation, twin, some, someToo, alike⟩
      · exact .inr ⟨.operationNotFound name, .operationNotFound name, by rw [find, none], by rw [find, noneToo]⟩
      · exact .inl ⟨.request operation, .request twin, by rw [find, some], by rw [find, someToo], .request alike⟩
  | response name status =>
      rcases named name with ⟨none, noneToo⟩ | ⟨operation, twin, some, someToo, alike⟩
      · exact .inr ⟨.operationNotFound name, .operationNotFound name, by rw [find, none], by rw [find, noneToo]⟩
      · rcases (alike.response? status).none_or_some with
          ⟨none, noneToo⟩ | ⟨response, responseToo, declared, declaredToo, both⟩
        · exact .inr ⟨.responseNotFound operation.key status,
            .responseNotFound twin.key status, by simp only [find, some, none],
            by simp only [find, someToo, noneToo]⟩
        · exact .inl ⟨.response operation response, .response twin responseToo, by simp only [find, some, declared],
            by simp only [find, someToo, declaredToo], .response alike both⟩

end

theorem assemble_agrees {pairing : Pairing} {one other : Specification}
    (mates : Draft.Mates pairing one.draft other.draft)
    (skips : one.skipTrivialParameters = other.skipTrivialParameters) {found twin : Found}
    (alike : found.Alike pairing.Near twin) :
    Validator.Outcomes MessageValidator.Agrees (one.assemble found) (other.assemble twin) := by
  cases alike with
  | request alike =>
      unfold assemble
      rw [skips]
      exact MessageValidator.ofOperation_agrees mates alike _
  | response alike both =>
      exact MessageValidator.ofResponse_agrees mates (alike.same Operation.produces fun _ _ _ => rfl) both

section

variable {one other : Specification} (suppressions : one.suppressions = other.suppressions)
  {message twin : MessageValidator}
  (agrees : message.Agrees twin) (context : Context)

include agrees

theorem contentTypeIssues_agrees (contentType : String) :
    contentTypeIssues message context contentType = contentTypeIssues twin context contentType := by
  unfold contentTypeIssues
  rw [agrees.mediaTypes, agrees.key]

theorem coerce_agrees : message.coerce = twin.coerce := by
  funext slot values
  unfold MessageValidator.coerce
  rw [agrees.coercions]

include suppressions

theorem payloadIssues_agrees (payload : Value) :
    one.payloadIssues message context payload = other.payloadIssues twin context payload := by
  unfold payloadIssues Validator.validate
  rw [agrees.evaluate, suppressions]

theorem requestIssues_agrees (request : Exchange.Request) :
    one.requestIssues message context request = other.requestIssues twin context request := by
  have payload : message.requestPayload request = twin.requestPayload request := by
    have omits : message.omitsBody = twin.omitsBody := by
      funext body
      unfold MessageValidator.omitsBody
      rw [agrees.optionalBody]
    unfold MessageValidator.requestPayload
    rw [coerce_agrees agrees, omits]
  unfold requestIssues
  rw [payloadIssues_agrees suppressions agrees, payload]
  rcases Exchange.contentType? request.headers with _ | contentType
  · rfl
  · dsimp only
    rw [contentTypeIssues_agrees agrees]

theorem responseIssues_agrees (response : Exchange.Response) :
    one.responseIssues message context response = other.responseIssues twin context response := by
  have payload : message.responsePayload response = twin.responsePayload response := by
    unfold MessageValidator.responsePayload
    rw [coerce_agrees agrees]
  unfold responseIssues
  rw [payloadIssues_agrees suppressions agrees, payload, contentTypeIssues_agrees agrees, agrees.hasBodySchema]

end

end Specification

namespace ValidatorStore

open Schema Specification

/-- Two specifications that agree on every operation: each validator compiles in both or in neither, and every
message has the same issues. -/
structure Agree (one other : Specification) : Prop where
  compiles : ∀ query, ((fetch one query).run {}).1.isOk = ((fetch other query).run {}).1.isOk
  issues : ∀ name context message,
    ((validate one name context message).run {}).1.toOption = ((validate other name context message).run {}).1.toOption

theorem validateRequest_run (specification : Specification) (name : String) (request : Exchange.Request)
    (context : Context) :
    ((validateRequest specification name request context).run {}).1 =
      (((fetch specification (.request name)).run {}).1 >>=
      fun message => specification.requestIssues message context request) := by
  unfold validateRequest
  rw [StateT.run_bind]
  rcases (fetch specification (.request name)).run {} with ⟨_ | _, after⟩ <;> rfl

theorem validateResponse_run {specification : Specification} {name : String} {operation : Operation}
    (found : specification.operation? name = some operation) (response : Exchange.Response) (context : Context) :
    ((validateResponse specification name response context).run {}).1 =
      let told : Context :=
        { direction := .response, statusCode := some response.statusCode, includeErrors := context.includeErrors }
      if (operation.response? response.statusCode).isNone then .ok (undeclaredStatus operation told response.statusCode)
      else ((fetch specification (.response name response.statusCode)).run {}).1 >>= fun message =>
        specification.responseIssues message told response := by
  unfold validateResponse
  rw [found]
  dsimp only
  split
  · rfl
  · rw [StateT.run_bind]
    rcases (fetch specification (.response name response.statusCode)).run {} with ⟨_ | _, after⟩ <;> rfl

section

variable {pairing : Pairing} {one other : Specification} (mates : Draft.Mates pairing one.draft other.draft)
  (keyed : one.Keyed) (keyedToo : other.Keyed) (ids : DistinctIds one.draft.operations)
  (skips : one.skipTrivialParameters = other.skipTrivialParameters)
  (suppressions : one.suppressions = other.suppressions)

include mates keyed keyedToo ids skips

theorem fetch_agrees (query : Query) :
    Validator.Outcomes MessageValidator.Agrees ((fetch one query).run {}).1 ((fetch other query).run {}).1 := by
  rcases find_alike mates keyed keyedToo ids query with
    ⟨found, twin, finds, findsToo, alike⟩ | ⟨_, _, unfound, unfoundToo⟩
  · rw [fetch_empty finds, fetch_empty findsToo]
    exact assemble_agrees mates skips alike
  · rw [fetch, fetch, unfound, unfoundToo]
    exact .failed

include suppressions

theorem agree_of_mates : Agree one other := by
  have fetched := fetch_agrees mates keyed keyedToo ids skips
  refine ⟨fun query => (fetched query).isOk_eq, fun name context message => ?_⟩
  cases message with
  | request request =>
      simp only [validate, validateRequest_run]
      exact (fetched _).toOption_bind fun _ _ agrees => requestIssues_agrees suppressions agrees context request
  | response response =>
      change ((validateResponse one name response context).run {}).1.toOption =
        ((validateResponse other name response context).run {}).1.toOption
      rcases (operation?_alike mates.toPaired keyed keyedToo ids name).none_or_some with
        ⟨none, noneToo⟩ | ⟨operation, twin, some, someToo, alike⟩
      · unfold validateResponse
        rw [none, noneToo]
      · rw [validateResponse_run some, validateResponse_run someToo]
        have declared : (operation.response? response.statusCode).isNone =
            (twin.response? response.statusCode).isNone := by
          rcases (alike.response? response.statusCode).none_or_some with ⟨none, noneToo⟩ | ⟨_, _, some, someToo, _⟩
          · rw [none, noneToo]
          · rw [some, someToo]
            rfl
        dsimp only
        rw [declared]
        split
        · unfold undeclaredStatus
          rw [alike.same Operation.url fun _ _ _ => rfl]
        · exact (fetched _).toOption_bind fun _ _ agrees => responseIssues_agrees suppressions agrees _ response

end

end ValidatorStore

/-! ## Documents in two orders -/

namespace Specification

open Schema

variable {settings : Settings} {suppressions : Suppressions} {documents shuffled : DocumentSet}
  {read readToo final : Draft}

/-- What is finished is built, where all suppressions are valid. -/
theorem build_of_finished (valid : Suppressions.ofDirectives settings.suppressions = .ok suppressions)
    (finished : Draft.IsFinished documents final) :
    (build Pass.builtIn settings documents).outcome = .ok ⟨final, suppressions, settings.skipTrivialParameters⟩ := by
  obtain ⟨schedule, scheduled, ran⟩ := finished
  unfold build Plan.of
  rw [scheduled, valid]
  change ((Pipeline.run schedule { documents }).outcome.mapError _).map _ = _
  rw [ran]
  rfl

theorem keyed_of_build {specification : Specification} (distinct : documents.urls.Nodup)
    (addresses : ∀ url ∈ documents.urls, '#' ∉ url.toList)
    (unique : ∀ entry ∈ documents.documents, entry.2.hasUniqueKeys = true)
    (built : (build Pass.builtIn settings documents).outcome = .ok specification) : specification.Keyed :=
  keyed_of_located (build_located (fun _ member => .inl member) distinct unique built) addresses

/-- The passes over the whole keep the operations that were read. -/
theorem operations_of_finished (isRead : Draft.IsRead documents read) (finished : Draft.IsFinished documents final) :
    final.operations = read.operations := by
  obtain ⟨written, tagged, merged, stages⟩ := finished.stages
  cases isRead.unique stages.read
  calc final.operations = merged.operations := by
        rw [stages.finish, (Draft.loosenObjects_sameBut _).operations]
        exact (Draft.closeObjects_sameBut merged).operations
    _ = tagged.operations := (Draft.mergeBranches_outcome stages.branches).2.2.2.1
    _ = read.operations := (Draft.buildTagMaps_retags stages.tags).2

theorem agree_of_perm (permuted : documents.documents.Perm shuffled.documents) (settled : Draft.Settled documents)
    (roots : ∀ url, documents.isRoot url = shuffled.isRoot url)
    (unique : ∀ entry ∈ documents.documents, entry.2.hasUniqueKeys = true) (isRead : Draft.IsRead documents read)
    (isReadToo : Draft.IsRead shuffled readToo) (knows : read.KnowsDefinitions) (knowsToo : readToo.KnowsDefinitions)
    (ids : DistinctIds read.operations) (acyclic : IsAcyclic read.graph.HasBranch)
    (apart : TagsApart read.graph read.graph.root? read.catalog.collections.objects)
    (valid : Suppressions.ofDirectives settings.suppressions = .ok suppressions) :
    ∃ one other, (build Pass.builtIn settings documents).outcome = .ok one ∧
      (build Pass.builtIn settings shuffled).outcome = .ok other ∧ ValidatorStore.Agree one other := by
  obtain ⟨twins, _⟩ := settled.twins permuted roots isRead isReadToo knows knowsToo
  obtain ⟨pairing, final, finalToo, finished, finishedToo, mates⟩ :=
    twins.finish settled.navigable settled.stored isRead isReadToo acyclic apart
  have built := build_of_finished valid finished
  have builtToo := build_of_finished valid finishedToo
  have addresses : ∀ url ∈ documents.urls, '#' ∉ url.toList := documents.urls_uniform ▸ settled.navigable.addresses
  have urls : documents.urls.Perm shuffled.urls := permuted.map _
  refine ⟨_, _, built, builtToo, ValidatorStore.agree_of_mates mates ?_ ?_ ?_ rfl rfl⟩
  · exact keyed_of_build (settled.distinct (.refl _)) addresses unique built
  · exact keyed_of_build (settled.distinct permuted) (fun url member => addresses url (urls.mem_iff.mpr member))
      (fun entry member => unique entry (permuted.mem_iff.mpr member)) builtToo
  · rw [operations_of_finished isRead finished]
    exact ids

end Specification

/-! ## References outside of paths -/

namespace DocumentSet

variable {documents : DocumentSet} {base reference key : String} {segments : List String} {target : Target}

/-- What is found outside of paths is found when the document is uniform, too. -/
theorem follow?_uniformed {whole value : Value} (unique : whole.hasUniqueKeys = true)
    (outside : key ∉ ["paths", DocumentEdit.extensionPaths]) (found : whole.follow? (key :: segments) = some value) :
    (uniformed whole).follow? (key :: segments) = some value := by
  obtain ⟨other, extension⟩ : key ≠ "paths" ∧ key ≠ DocumentEdit.extensionPaths := by simpa using outside
  obtain ⟨inner, stepped, further⟩ := Option.bind_eq_some_iff.mp found
  have same : (uniformed whole).step? key = some inner := by
    cases whole with
    | object entries =>
        have kept : (uniformed (.object entries)).find? key = some inner :=
          DocumentEdit.find?_spreadMediaTypes other (DocumentEdit.find?_joinPaths unique extension other stepped)
        revert kept
        cases uniformed (.object entries) with
        | object uniform => exact id
        | null | bool flag | number n | string text | array items =>
            exact fun none => absurd none.symm (Option.some_ne_none _)
    | array items => exact stepped
    | null | bool flag | number n | string text => cases stepped
  exact Option.bind_eq_some_iff.mpr ⟨inner, same, further⟩

theorem resolve?_uniform (unique : ∀ entry ∈ documents.documents, entry.2.hasUniqueKeys = true)
    (resolved : documents.resolve? base reference = some target)
    (leads : Pointer.segments (Url.splitReference reference).2 = key :: segments)
    (outside : key ∉ ["paths", DocumentEdit.extensionPaths]) :
    documents.uniform.resolve? base reference = some target := by
  obtain ⟨whole, held, rest⟩ := Option.bind_eq_some_iff.mp resolved
  obtain ⟨value, found, same⟩ := Option.bind_eq_some_iff.mp rest
  refine Option.bind_eq_some_iff.mpr ⟨uniformed whole, by rw [get?_uniform, held]; rfl, ?_⟩
  refine Option.bind_eq_some_iff.mpr ⟨value, ?_, same⟩
  change whole.follow? (Pointer.segments (Url.splitReference reference).2) = some value at found
  change (uniformed whole).follow? (Pointer.segments (Url.splitReference reference).2) = some value
  rw [leads] at found ⊢
  exact follow?_uniformed (unique _ (Assoc.mem_of_find? held)) outside found

end DocumentSet

/-- Documents are settled where references lead to something that is not below the paths. -/
theorem Draft.Settled.of_outside_paths {documents : DocumentSet} (stored : Schema.Reading.Stored documents.uniform)
    (navigable : Schema.Reading.Navigable documents.uniform) (unadorned : Schema.Reading.Unadorned documents.uniform)
    (unique : ∀ entry ∈ documents.documents, entry.2.hasUniqueKeys = true)
    (outside : ∀ entry ∈ documents.uniform.documents, ∀ part ∈ entry.2.parts, ∀ reference,
      Schema.Reading.reference? part = some reference → (documents.resolve? entry.1 reference).isSome = true ∧
        ∃ key segments, Pointer.segments (Url.splitReference reference).2 = key :: segments ∧
          key ∉ ["paths", DocumentEdit.extensionPaths]) : Draft.Settled documents where
  stored := stored
  navigable := navigable
  unadorned := unadorned
  answering := by
    rintro base reference ⟨pointer, value, standing, cited⟩
    obtain ⟨_, whole, held, followed⟩ := navigable.found stored standing
    have among : (base, whole) ∈ documents.uniform.documents := Assoc.mem_of_find? held
    obtain ⟨resolves, key, segments, leads, apart⟩ :=
      outside _ among value (Value.follow?_mem_parts followed) reference cited
    obtain ⟨target, resolved⟩ := Option.isSome_iff_exists.mp resolves
    rw [resolved, DocumentSet.resolve?_uniform unique resolved leads apart]

def DocumentSet.ofRoots (documents : Assoc Value) : DocumentSet := ⟨documents, Assoc.keys documents⟩

namespace ValidatorStore

open Specification (DistinctIds agree_of_perm build)

/-- The order of root documents does not matter where references say the same before and after paths are joined and
no name, branches or discriminator stand beside them: both orders give specifications that agree. -/
theorem root_order_irrelevant {documents shuffled : Assoc Value} {settings : Settings} {suppressions : Suppressions}
    {read : Draft} (permuted : documents.Perm shuffled)
    (settled : Draft.Settled (.ofRoots documents)) (unique : ∀ entry ∈ documents, entry.2.hasUniqueKeys = true)
    (isRead : Draft.IsRead (.ofRoots documents) read) (ids : DistinctIds read.operations)
    (acyclic : IsAcyclic read.graph.HasBranch)
    (apart : Schema.TagsApart read.graph read.graph.root? read.catalog.collections.objects)
    (valid : Suppressions.ofDirectives settings.suppressions = .ok suppressions) :
    ∃ one other, (build Pass.builtIn settings (.ofRoots documents)).outcome = .ok one ∧
      (build Pass.builtIn settings (.ofRoots shuffled)).outcome = .ok other ∧ Agree one other := by
  have keys : (Assoc.keys documents).Perm (Assoc.keys shuffled) := permuted.map _
  have roots url : (DocumentSet.ofRoots documents).isRoot url = (DocumentSet.ofRoots shuffled).isRoot url :=
    Bool.eq_iff_iff.mpr (List.contains_iff_mem.trans (keys.mem_iff.trans List.contains_iff_mem.symm))
  -- No document came in by reference.
  have knows {documents : Assoc Value} {draft : Draft}
      (uniform : draft.documents = (DocumentSet.ofRoots documents).uniform) : draft.KnowsDefinitions := by
    intro url listed outside
    rw [uniform, DocumentSet.urls_uniform] at listed
    rw [uniform] at outside
    exact absurd (List.contains_iff_mem.mpr listed) (Bool.eq_false_iff.mp outside)
  obtain ⟨readToo, isReadToo⟩ : ∃ readToo, Draft.IsRead (.ofRoots shuffled) readToo := settled.exists_isRead permuted
  exact agree_of_perm permuted settled roots unique isRead isReadToo (knows (settled.documents_eq (.refl _) isRead))
    (knows (settled.documents_eq permuted isReadToo)) ids acyclic apart valid

/-- The answer to a request that nothing was asked before. -/
def answerTo (specification : Specification) (name : String) (request : Exchange.Request) :
    Except Interruption (List Issue) :=
  ((validateRequest specification name request { direction := .request }).run {}).1

def builtFrom (documents : Assoc Value) : Except BuildError Specification :=
  (Specification.build Pass.builtIn {} (.ofRoots documents)).outcome

/-- Shapes are told apart by their kinds, and drawn under an extension path. -/
def shapes : String × Value :=
  let shape := Value.object [("name", .string "shape"), ("in", .string "body"), ("required", .bool true),
    ("schema", .toDefinition "Shape")]
  let draw := Value.object [("operationId", .string "draw"), ("parameters", .array [shape]),
    ("responses", .object [("200", .object [("description", .string "Drawn.")])])]
  ("/shapes.json", .object [
    ("x-ms-paths", .object [("/shapes", .object [("post", draw)])]),
    ("definitions", .object [("Shape", .object [("type", .string "object"), ("discriminator", .string "kind"),
      ("properties", .object [("kind", .ofType "string")]), ("required", .array [.string "kind"])])])])

def circles : String × Value :=
  ("/circles.json", .object [("definitions", .object [("Circle", .object [
    ("allOf", .array [.object [("$ref", .string "shapes.json#/definitions/Shape")]]),
    ("properties", .object [("radius", .ofType "integer")])])])])

def shapesFirst : DocumentSet := .ofRoots [shapes, circles]

def wideCircle : Exchange.Request :=
  { body := some (.object [("kind", .string "Circle"), ("radius", .string "wide")]) }

theorem shapes_settled : Draft.Settled shapesFirst := by
  have lengths : ∀ entry ∈ shapesFirst.uniform.documents, ∀ part ∈ entry.2.parts, (part.asArray?.getD []).length ≤ 1 := by
    decide +kernel
  have cited : ∀ entry ∈ shapesFirst.uniform.documents, ∀ part ∈ entry.2.parts,
      ∀ reference ∈ Schema.Reading.reference? part, (shapesFirst.resolve? entry.1 reference).isSome = true ∧
        (Url.splitReference reference).2 = "/definitions/Shape" := by
    decide +kernel
  have bare : ∀ entry ∈ shapesFirst.uniform.documents, ∀ part ∈ entry.2.parts, Schema.Reading.reference? part ≠ none →
      ∀ key ∈ ["name", "allOf", "discriminator"], (part.find? key).isNone = true := by
    decide +kernel
  refine .of_outside_paths ⟨by decide, by decide +kernel, ?_⟩ ⟨by decide, ?_⟩ ?_ (by decide +kernel) ?_
  · intro entry among items inside
    exact Nat.le_trans (lengths entry among _ inside) (by decide)
  · intro entry among part inside reference written
    rw [(cited entry among part inside reference written).2]
    exact .inr ⟨'d', "efinitions/Shape".toList, by decide +kernel, by decide⟩
  · intro entry among part inside written key listed
    exact Option.isNone_iff_eq_none.mp (bare entry among part inside written key listed)
  · intro entry among part inside reference written
    obtain ⟨resolves, pointer⟩ := cited entry among part inside reference written
    rw [pointer]
    exact ⟨resolves, "definitions", ["Shape"], by decide +kernel, by decide⟩

theorem shapes_read :
    let read := Draft.readOf shapesFirst
    (Pipeline.run ⟨Pass.readers, [Pass.discoverVariants]⟩ { documents := shapesFirst }).outcome.toOption.isSome = true ∧
      read.operations.map Operation.operationId = [some "draw"] ∧ read.catalog.collections.objects = [0, 2] ∧
      read.graph.size = 4 ∧ (∀ id < 4, ∀ edge ∈ (read.graph.node id).allOf.getD [], edge.target < id) ∧
      ((read.graph.node 0).tag? = some "Shape" ∧ (read.graph.node 2).tag? = some "Circle") ∧
      read.graph.root? 0 = some 0 ∧ read.graph.root? 2 = some 0 := by
  decide +kernel

/-- Wide circles have the same issue in both orders. -/
theorem root_order_irrelevant_shapes : ∃ one other,
    builtFrom [shapes, circles] = .ok one ∧ builtFrom [circles, shapes] = .ok other ∧ Agree one other ∧
      ∃ issues, answerTo one "draw" wideCircle = .ok issues ∧ answerTo other "draw" wideCircle = .ok issues ∧
        issues.map (fun issue => (issue.code, issue.paths)) = [(.invalidType, ["/radius"])] := by
  obtain ⟨ends, operations, objects, size, descends, ⟨shape, circle⟩, root, rootToo⟩ := shapes_read
  have isRead : Draft.IsRead shapesFirst (Draft.readOf shapesFirst) := Draft.run_eq_outcomeOf ends
  generalize Draft.readOf shapesFirst = read at *
  have ids : DistinctIds read.operations := by
    rw [DistinctIds, show read.operations.filterMap Operation.operationId =
      (read.operations.map Operation.operationId).filterMap id by rw [List.filterMap_map]; rfl, operations]
    exact List.nodup_singleton "draw"
  have acyclic : IsAcyclic read.graph.HasBranch := by
    refine .of_descending id ?_
    rintro schema branch ⟨edge, listed, rfl⟩
    by_cases inside : schema < 4
    · exact descends schema inside edge listed
    · rw [Schema.Graph.node_of_size_le (size ▸ Nat.le_of_not_lt inside)] at listed
      cases listed
  have apart : Schema.TagsApart read.graph read.graph.root? read.catalog.collections.objects := by
    rw [objects]
    constructor <;> simp [root, rootToo, shape, circle]
  have valid : Suppressions.ofDirectives ({} : Settings).suppressions = .ok {} := rfl
  obtain ⟨one, other, built, builtToo, agree⟩ :=
    root_order_irrelevant (.swap _ _ []) shapes_settled (by decide +kernel) isRead ids acyclic apart valid
  have first : builtFrom [shapes, circles] = .ok one := built
  have told : ((builtFrom [shapes, circles]).toOption.map fun built => (answerTo built "draw" wideCircle).toOption.map
      fun issues => issues.map fun issue => (issue.code, issue.paths)) = some (some [(.invalidType, ["/radius"])]) := by
    decide +kernel
  rw [first] at told
  obtain ⟨issues, answered, found⟩ := Option.map_eq_some_iff.mp (Option.some.inj told)
  have same : (answerTo one "draw" wideCircle).toOption = (answerTo other "draw" wideCircle).toOption :=
    agree.issues "draw" { direction := .request } (.request wideCircle)
  exact ⟨one, other, first, builtToo, agree, issues, Except.eq_ok_of_toOption answered,
    Except.eq_ok_of_toOption (same.symm.trans answered), found⟩

def orders : String × Value :=
  let order := Value.object [("name", .string "order"), ("in", .string "body"), ("required", .bool true),
    ("schema", .object [("$ref", .string "stock.json#/paths/~1stock/get/responses/200/schema")])]
  ("/orders.json", .object [("paths", .object [("/orders", .object [("post", .object [
    ("operationId", .string "order"), ("parameters", .array [order]),
    ("responses", .object [("200", .object [("description", .string "Ordered.")])])])])])])

/-- What is in stock is told under an extension path. -/
def stock : String × Value :=
  let inStock := Value.object [("description", .string "In stock."),
    ("schema", .object [("type", .string "object"), ("properties", .object [("count", .ofType "integer")])])]
  ("/stock.json", .object [("x-ms-paths", .object [("/stock", .object [("get", .object [
    ("operationId", .string "stock"), ("responses", .object [("200", inStock)])])])])])

def manyOrdered : Exchange.Request := { body := some (.object [("count", .string "many")]) }

/-- The paths that an order refers to are joined too late if the order is read first. -/
theorem order_unanswered_before_stock : ∃ early late,
    builtFrom [orders, stock] = .ok early ∧ builtFrom [stock, orders] = .ok late ∧
      (answerTo early "order" manyOrdered).toOption = none ∧
      ∃ issues, answerTo late "order" manyOrdered = .ok issues ∧
        issues.map (fun issue => (issue.code, issue.paths)) = [(.invalidType, ["/count"])] := by
  have unanswered : ((builtFrom [orders, stock]).toOption.map fun built =>
      (answerTo built "order" manyOrdered).toOption.isNone) = some true := by
    decide +kernel
  have told : ((builtFrom [stock, orders]).toOption.map fun built => (answerTo built "order" manyOrdered).toOption.map
      fun issues => issues.map fun issue => (issue.code, issue.paths)) = some (some [(.invalidType, ["/count"])]) := by
    decide +kernel
  obtain ⟨early, first, silent⟩ := Option.map_eq_some_iff.mp unanswered
  obtain ⟨late, second, answered⟩ := Option.map_eq_some_iff.mp told
  obtain ⟨issues, answer, found⟩ := Option.map_eq_some_iff.mp answered
  exact ⟨early, late, Except.eq_ok_of_toOption first, Except.eq_ok_of_toOption second,
    Option.isNone_iff_eq_none.mp silent, issues, Except.eq_ok_of_toOption answer, found⟩

end ValidatorStore

end ApiContract
