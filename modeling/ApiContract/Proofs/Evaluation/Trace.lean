import ApiContract.Proofs.Evaluation.Blame

/-!
Failures traced to the values that they are about. A clause comes to a value by a way through the whole (`Asked`), and every
failure of a visit is that of a value which a clause refuses, of a key that is missing, or of a key that is not declared
(`visit_traced`).
-/

namespace ApiContract.Validator

open Json (Value)

/-- A clause is asked about a value at a place of the whole. -/
inductive Asked (clauses : Array Clause) (root : Nat) (whole : Value) : String → Nat → Value → Prop
  | root : Asked clauses root whole "" root whole
  | beside {path index value other} : Asked clauses root whole path index value → Joins clauses value index other →
      Asked clauses root whole path other value
  | member {path index entries key value child} : Asked clauses root whole path index (.object entries) →
      (key, value) ∈ entries → (clauses.getD index {}).clauseFor? key = some child →
      Asked clauses root whole (Pointer.child path key) child value
  | item {path index items position value child} : Asked clauses root whole path index (.array items) →
      items[position]? = some value → (clauses.getD index {}).items = some child →
      Asked clauses root whole (Pointer.item path position) child value

theorem Asked.occurs {clauses : Array Clause} {root index : Nat} {whole value : Value} {path : String}
    (asked : Asked clauses root whole path index value) : whole.Occurs path value := by
  induction asked with
  | root => exact .root
  | beside _ _ ih => exact ih
  | member _ member _ ih => exact ih.member member
  | item _ found _ ih => exact ih.item found

/-- What branches answered that were tried on a value. -/
def Tried (clauses : Array Clause) (direction : Direction) (path : String) (value : Value) :
    List Nat → List (List Failure) → Prop :=
  List.Forall₂ fun branch outcome => ∃ fuel before after,
    (visit clauses direction fuel branch value path).run before = some (outcome, after)

/-- A clause refuses a value by a keyword. -/
inductive Refuses (clauses : Array Clause) (direction : Direction) (path : String) (clause : Clause) :
    Value → Keyword → Prop
  | type {value} : clause.admitsType value = false → Refuses clauses direction path clause value .type
  | enum {value} {listed : List Value} : clause.enumValues = some listed → (∀ other ∈ listed, other.same value = false) →
      Refuses clauses direction path clause value .enum
  | format {value format} : clause.format = some format → format.accepts value = false →
      Refuses clauses direction path clause value .format
  | check {value check} : check ∈ clause.checks → check.accepts value = false →
      Refuses clauses direction path clause value check.keyword
  | readOnly {value} : value ≠ .null → direction = .request → clause.access.readOnly = true →
      Refuses clauses direction path clause value .readOnly
  | mutability {value mutability} : value ≠ .null → clause.access.mutability = some mutability →
      (direction = .request ∧ mutability.inRequest = false ∨ direction = .response ∧ mutability.inResponse = false) →
      Refuses clauses direction path clause value .mutability
  | secret {value} : value ≠ .null → direction = .response → clause.access.secret = true →
      Refuses clauses direction path clause value .secret
  | dependencies {entries key needed missing} : (key, needed) ∈ clause.dependencies →
      Assoc.contains entries key = true → missing ∈ needed → Assoc.contains entries missing = false →
      Refuses clauses direction path clause (.object entries) .dependencies
  | uniqueItems {items : List Value} {first second : Nat} {value other : Value} : clause.uniqueItems = true → first < second →
      items[first]? = some value → items[second]? = some other → other.same value = true →
      Refuses clauses direction path clause (.array items) .uniqueItems
  | anyOf {value outcomes} : clause.anyOf ≠ [] → Tried clauses direction path value clause.anyOf outcomes →
      (∀ outcome ∈ outcomes, outcome ≠ []) → Refuses clauses direction path clause value .anyOf
  | oneOf {value outcomes} : clause.oneOf ≠ [] → Tried clauses direction path value clause.oneOf outcomes →
      (outcomes.filter (·.isEmpty)).length ≠ 1 → Refuses clauses direction path clause value .oneOf

/-- A failure by which a clause refuses a value at a place. -/
structure Clause.Rejects (clause : Clause) (clauses : Array Clause) (direction : Direction) (path : String) (value : Value)
    (failure : Failure) : Prop where
  place : failure.path = path
  source : failure.source = clause.source
  refuses : Refuses clauses direction path clause value failure.keyword

/-- A clause does not admit a key of an object: it forbids what it does not declare, or it closes the object against the
clause that the object names. -/
inductive Shuts (clauses : Array Clause) (clause : Clause) (entries : Assoc Value) (key : String) : Prop
  | forbidden : clause.forbids key = true → Shuts clauses clause entries key
  | closed {dispatch declared} : clause.dispatch = some dispatch →
      (clause.chosen clauses dispatch entries).properties = some declared → key ∉ Assoc.keys declared →
      (clause.chosen clauses dispatch entries).undeclared = none → clause.undeclared = none →
      Shuts clauses clause entries key

/-- What a failure is about. -/
inductive Traced (clauses : Array Clause) (root : Nat) (direction : Direction) (whole : Value) (failure : Failure) : Prop
  | refused {path index value} : Asked clauses root whole path index value →
      (clauses.getD index {}).Rejects clauses direction path value failure → Traced clauses root direction whole failure
  | missing {path index entries key} : Asked clauses root whole path index (.object entries) →
      key ∈ (clauses.getD index {}).required → Assoc.contains entries key = false → failure.keyword = .required →
      failure.path = Pointer.child path key → failure.source = (clauses.getD index {}).source →
      Traced clauses root direction whole failure
  | undeclared {path index entries key member} : Asked clauses root whole path index (.object entries) →
      (key, member) ∈ entries → Shuts clauses (clauses.getD index {}) entries key →
      failure.keyword = .additionalProperties → failure.path = Pointer.child path key →
      failure.source = (clauses.getD index {}).source → Traced clauses root direction whole failure

variable {clauses : Array Clause} {direction : Direction} {value whole : Value} {path : String} {index root : Nat}
  {failure : Failure} {clause : Clause}

namespace Clause

/-! ## What a clause says about a value itself -/

theorem denials_refused (member : failure ∈ clause.denials direction value path) :
    clause.Rejects clauses direction path value failure := by
  unfold denials at member
  split at member
  · cases member
  next present =>
    have notNull : value ≠ .null := by
      rintro rfl
      exact present rfl
    unfold accessFailures at member
    dsimp only at member
    rcases List.mem_append.mp member with written | shown
    · split at written
      next mutability listed =>
        split at written
        · cases written
        next out =>
          obtain rfl := List.mem_singleton.mp written
          exact ⟨rfl, rfl, .mutability notNull listed (.inl ⟨rfl, by simpa using out⟩)⟩
      next mutability listed =>
        split at written
        · cases written
        next out =>
          obtain rfl := List.mem_singleton.mp written
          exact ⟨rfl, rfl, .mutability notNull listed (.inr ⟨rfl, by simpa using out⟩)⟩
      next =>
        split at written
        next readOnly =>
          obtain rfl := List.mem_singleton.mp written
          exact ⟨rfl, rfl, .readOnly notNull rfl readOnly⟩
        · cases written
      · cases written
    · split at shown
      next secret =>
        obtain ⟨hidden, response⟩ := (Bool.and_eq_true _ _).mp secret
        obtain rfl := List.mem_singleton.mp shown
        exact ⟨rfl, rfl, .secret notNull (by cases direction <;> simp_all [Direction.isResponse]) hidden⟩
      · cases shown

theorem mistypedFailures_refused (mistyped : clause.admitsType value = false)
    (member : failure ∈ clause.mistypedFailures direction value path) :
    clause.Rejects clauses direction path value failure := by
  unfold mistypedFailures at member
  split at member
  · cases member
  · obtain rfl := List.mem_singleton.mp member
    exact ⟨rfl, rfl, .type mistyped⟩

theorem scalarFailures_refused (member : failure ∈ clause.scalarFailures value path) :
    clause.Rejects clauses direction path value failure := by
  simp only [scalarFailures, List.mem_append] at member
  rcases member with (unlisted | malformed) | unchecked
  · unfold enumFailures at unlisted
    split at unlisted
    · cases unlisted
    next listed asked =>
      dsimp only at unlisted
      split at unlisted
      · cases unlisted
      next absent =>
        have others : ∀ other ∈ listed, other.same value = false := by simpa using absent
        split at unlisted
        · obtain rfl := List.mem_singleton.mp unlisted
          exact ⟨rfl, rfl, .enum asked others⟩
        · split at unlisted
          · cases unlisted
          · obtain rfl := List.mem_singleton.mp unlisted
            exact ⟨rfl, rfl, .enum asked others⟩
  · unfold formatFailures at malformed
    split at malformed
    · cases malformed
    next format asked =>
      split at malformed
      · cases malformed
      next refused =>
        obtain rfl := List.mem_singleton.mp malformed
        exact ⟨rfl, rfl, .format asked (by simpa using refused)⟩
  · obtain ⟨check, among, rfl⟩ := List.mem_map.mp unchecked
    obtain ⟨listed, refused⟩ := List.mem_filter.mp among
    exact ⟨rfl, rfl, .check listed (by simpa using refused)⟩

theorem dependencyFailures_refused {entries : Assoc Value} (member : failure ∈ clause.dependencyFailures entries path) :
    clause.Rejects clauses direction path (.object entries) failure := by
  simp only [dependencyFailures, List.mem_flatMap, List.mem_map, List.mem_filter] at member
  obtain ⟨⟨key, needed⟩, ⟨listed, present⟩, missing, ⟨asked, absent⟩, rfl⟩ := member
  exact ⟨rfl, rfl, .dependencies listed present asked (by simpa using absent)⟩

theorem lastRepeat?_eq_some {items : List Value} {second first : Nat} (found : lastRepeat? items = some (second, first)) :
    ∃ value other, first < second ∧ items[first]? = some value ∧ items[second]? = some other ∧
      other.same value = true := by
  obtain ⟨⟨other, position⟩, placed, found⟩ := List.exists_of_findSome?_eq_some found
  obtain ⟨⟨value, earlier⟩, nearest, same⟩ := Option.map_eq_some_iff.mp found
  cases same
  have among := List.mem_reverse.mp (List.mem_of_find?_eq_some nearest)
  rw [List.mem_zipIdx_iff_getElem?, List.getElem?_take] at among
  split at among
  next below =>
    exact ⟨value, other, below, among, List.mem_zipIdx_iff_getElem?.mp (List.mem_reverse.mp placed),
      by simpa using List.find?_some nearest⟩
  · cases among

theorem uniqueFailures_refused {items : List Value} (member : failure ∈ clause.uniqueFailures items path) :
    clause.Rejects clauses direction path (.array items) failure := by
  unfold uniqueFailures at member
  split at member
  next asked =>
    split at member
    next second first found =>
      obtain ⟨value, other, earlier, atFirst, atSecond, same⟩ := lastRepeat?_eq_some found
      obtain rfl := List.mem_singleton.mp member
      exact ⟨rfl, rfl, .uniqueItems asked earlier atFirst atSecond same⟩
    · cases member
  · cases member

end Clause

/-! ## What branches and members add -/

/-- Every branch that was tried failed, if none passed. -/
theorem firstPassing_tried {fuel : Nat} {branches : List Nat} {before after : Guard} {found : List Failure}
    (ran : (firstPassing (fun branch => visit clauses direction fuel branch value path) branches).run before =
      some (some found, after)) :
    ∃ outcomes, Tried clauses direction path value branches outcomes ∧ ∀ outcome ∈ outcomes, outcome ≠ [] := by
  induction branches generalizing before found with
  | nil => exact ⟨[], .nil, nofun⟩
  | cons first rest ih =>
      rcases (firstPassing_cons_run_iff _ _ _ _ _ _).mp ran with
        ⟨_, passed⟩ | ⟨failures, middle, later, failed, tried, ranRest, all⟩
      · cases passed
      · obtain ⟨laterFound, rfl, _⟩ := Option.map_eq_some_iff.mp all.symm
        obtain ⟨outcomes, triedRest, failedRest⟩ := ih ranRest
        obtain ⟨guard, ranFirst, _⟩ := (branch_run_iff _ _ _ _).mp tried
        exact ⟨failures :: outcomes, .cons ⟨fuel, before, guard, ranFirst⟩ triedRest,
          List.forall_mem_cons.mpr ⟨failed, failedRest⟩⟩

theorem tried_of_threaded {fuel : Nat} {branches : List Nat} {before after : Guard} {outcomes : List (List Failure)}
    (run : Threaded (fun branch before result after =>
      (Validator.branch (visit clauses direction fuel branch value path)).run before = some (result, after))
      branches before outcomes after) : Tried clauses direction path value branches outcomes := by
  induction run with
  | nil => exact .nil
  | cons first _ ih =>
      obtain ⟨guard, ran, _⟩ := (branch_run_iff _ _ _ _).mp first
      exact .cons ⟨fuel, _, guard, ran⟩ ih

theorem anyOf_rejects {fuel : Nat} {before after : Guard} {any : List Failure}
    (ran : (clause.visitAnyOf (visit clauses direction fuel) value path).run before = some (any, after))
    (failed : any ≠ []) : clause.Rejects clauses direction path value (clause.fail .anyOf .anyOfMissing path .none) := by
  rcases (Clause.visitAnyOf_run_iff _ _ _ _ _ _ _).mp ran with ⟨_, rfl, _⟩ | ⟨branched, outcome, tried, rfl⟩
  · exact absurd rfl failed
  · cases outcome with
    | none => exact absurd rfl failed
    | some found =>
        obtain ⟨outcomes, each, fail⟩ := firstPassing_tried tried
        exact ⟨rfl, rfl, .anyOf branched each fail⟩

theorem oneOf_rejects {fuel : Nat} {before after : Guard} {one : List Failure}
    (ran : (clause.visitOneOf (visit clauses direction fuel) value path).run before = some (one, after))
    (failed : one ≠ []) : Refuses clauses direction path clause value .oneOf := by
  rcases (Clause.visitOneOf_run_iff _ _ _ _ _ _ _).mp ran with ⟨_, rfl, _⟩ | ⟨branched, outcomes, tried, rfl⟩
  · exact absurd rfl failed
  · refine .oneOf branched (tried_of_threaded tried) fun single => failed ?_
    rw [Clause.oneOfFailures, single]
    rfl

theorem closure_traced {dispatch : Dispatch} {entries : Assoc Value}
    (asked : Asked clauses root whole path index (.object entries))
    (routes : (clauses.getD index {}).dispatch = some dispatch)
    (member : failure ∈ (clauses.getD index {}).closureFailures
      ((clauses.getD index {}).chosen clauses dispatch entries) entries path) :
    Traced clauses root direction whole failure := by
  unfold Clause.closureFailures at member
  split at member
  · cases member
  next declared listed =>
    split at member
    · cases member
    next silent =>
      simp only [Bool.or_eq_true, not_or, Bool.not_eq_true, Option.isSome_eq_false_iff, Option.isNone_iff_eq_none]
        at silent
      obtain ⟨key, among, rfl⟩ := List.mem_map.mp member
      obtain ⟨present, unlisted⟩ := List.mem_filter.mp among
      obtain ⟨⟨_, content⟩, entry, rfl⟩ := List.mem_map.mp present
      refine .undeclared asked entry (.closed routes listed ?_ silent.1.1 silent.1.2) rfl rfl rfl
      rw [← Assoc.contains_iff_mem_keys]
      simpa using unlisted

theorem inside_traced (asked : Asked clauses root whole path index value)
    (member : failure ∈ (clauses.getD index {}).insideFailures clauses direction value path []) :
    Traced clauses root direction whole failure := by
  unfold Clause.insideFailures at member
  split at member
  next entries =>
    rw [List.append_nil] at member
    rcases List.mem_append.mp member with required | dependent
    · obtain ⟨key, among, rfl⟩ := List.mem_map.mp required
      obtain ⟨listed, lacking⟩ := List.mem_filter.mp among
      simp only [Bool.and_eq_true, Bool.not_eq_true'] at lacking
      exact .missing asked listed lacking.1 rfl rfl rfl
    · exact .refused asked (Clause.dependencyFailures_refused dependent)
  next items => exact .refused asked (Clause.uniqueFailures_refused (by simpa using member))
  · cases member

theorem entered_traced {fuel : Nat} {before after : Guard} {visited : List Failure}
    (visits : ∀ {path index value before failures after}, Asked clauses root whole path index value →
      (visit clauses direction fuel index value path).run before = some (failures, after) → failure ∈ failures →
      Traced clauses root direction whole failure)
    (asked : Asked clauses root whole path index value)
    (entered : (clauses.getD index {}).Entered (visit clauses direction fuel) path value before visited after)
    (member : failure ∈ visited) : Traced clauses root direction whole failure := by
  cases entered with
  | @object entries _ results _ run =>
      obtain ⟨result, among, inside⟩ := List.mem_flatten.mp member
      obtain ⟨⟨key, content⟩, entry, guard, later, ran⟩ := run.exists_step among
      rw [Clause.visitMember_run_iff] at ran
      split at ran
      next child found => exact visits (asked.member entry found) ran inside
      next =>
        obtain ⟨rfl, _⟩ := ran
        split at inside
        next forbidden =>
          obtain rfl := List.mem_singleton.mp inside
          exact .undeclared asked entry (.forbidden forbidden) rfl rfl rfl
        · cases inside
  | @array items child _ results _ wanted run =>
      obtain ⟨result, among, inside⟩ := List.mem_flatten.mp member
      obtain ⟨⟨item, position⟩, placed, guard, later, ran⟩ := run.exists_step among
      exact visits (asked.item (List.mem_zipIdx_iff_getElem?.mp placed) wanted) ran inside
  | unlooked => cases member

/-- Every failure of a visit is traced to what it is about. -/
theorem visit_traced (fuel : Nat) {before after : Guard} {failures : List Failure}
    (asked : Asked clauses root whole path index value)
    (ran : (visit clauses direction fuel index value path).run before = some (failures, after))
    (member : failure ∈ failures) : Traced clauses root direction whole failure := by
  induction fuel generalizing path index value before after failures with
  | zero => cases ran
  | succ fuel ih =>
      -- Clauses that join are asked about the same value.
      have joined (found : FromJoined clauses direction fuel value path index failure) :
          Traced clauses root direction whole failure := by
        obtain ⟨branch, joins, guard, found, later, ranBranch, inside⟩ := found
        exact ih (asked.beside joins) ranBranch inside
      cases (visit_run_iff _ _ _ _ _ _ _ _ _).mp ran with
      | null => cases member
      | mistyped _ mistyped =>
          rcases List.mem_append.mp member with denied | typed
          · exact .refused asked (Clause.denials_refused denied)
          · exact .refused asked (Clause.mistypedFailures_refused mistyped typed)
      | @examined visited branches any one routed inside all anyOf oneOf _ _ _ entered ranAll ranAny ranOne route =>
          simp only [List.mem_append] at member
          rcases member with (((((denied | scalar) | within) | branch) | any) | one) | routing
          · exact .refused asked (Clause.denials_refused denied)
          · exact .refused asked (Clause.scalarFailures_refused scalar)
          · rcases mem_insideFailures within with said | found
            · exact inside_traced asked said
            · exact entered_traced (fun asked ran member => ih asked ran member) asked entered found
          · obtain ⟨result, among, inside⟩ := List.mem_flatten.mp branch
            obtain ⟨target, branched, guard, later, ranBranch⟩ := ranAll.exists_step among
            exact joined ⟨target, .composed (.inl branched), guard, result, later, ranBranch, inside⟩
          · rcases anyOf_blamed ranAny any with rfl | inside
            · exact .refused asked (anyOf_rejects ranAny (List.ne_nil_of_mem any))
            · exact joined inside
          · rcases oneOf_blamed ranOne one with said | inside
            · have refuses := oneOf_rejects ranOne (List.ne_nil_of_mem one)
              simp only [List.mem_cons, List.not_mem_nil, or_false] at said
              rcases said with rfl | rfl
              · exact .refused asked ⟨rfl, rfl, refuses⟩
              · exact .refused asked ⟨rfl, rfl, refuses⟩
            · exact joined inside
          · cases route with
            | idle => cases routing
            | again => cases routing
            | @variant dispatch entries _ chosen failures _ routes fresh named ran =>
                rcases List.mem_append.mp routing with inside | shut
                · exact ih (asked.beside (.chosen routes rfl named)) ran inside
                · refine closure_traced asked routes ?_
                  simpa only [Clause.chosen, named] using shut
            | @lenient dispatch entries _ routes fresh unnamed =>
                refine closure_traced asked routes ?_
                simpa only [Clause.chosen, unnamed] using routing

end ApiContract.Validator
