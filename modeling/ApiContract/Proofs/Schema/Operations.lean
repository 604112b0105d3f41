import Mathlib.Data.List.Nodup
import Mathlib.Data.List.Pairwise
import ApiContract.Proofs.Assoc
import ApiContract.Proofs.Json.Place
import ApiContract.Proofs.Related
import ApiContract.Proofs.Stateful
import ApiContract.Schema.Reading

/-!
Operations are read at places that no two of them share. Their keys spell these places, so that keys tell operations
apart, and responses too (`Placed.eq_of_key`, `Placed.eq_of_response_key`).
-/

namespace ApiContract

open Json (Value)

theorem append_mark_inj {mark : Char} {first second rest other : List Char} (free : mark ∉ first)
    (freeToo : mark ∉ second) (same : first ++ mark :: rest = second ++ mark :: other) :
    first = second ∧ rest = other := by
  induction first generalizing second with
  | nil =>
      cases second with
      | nil => exact ⟨rfl, (List.cons.inj same).2⟩
      | cons c second => exact absurd (List.cons.inj same).1 (List.ne_of_not_mem_cons freeToo)
  | cons c first ih =>
      cases second with
      | nil => exact absurd (List.cons.inj same).1.symm (List.ne_of_not_mem_cons free)
      | cons d second =>
          obtain ⟨rfl, later⟩ := List.cons.inj same
          obtain ⟨rfl, rests⟩ := ih (List.not_mem_of_not_mem_cons free) (List.not_mem_of_not_mem_cons freeToo) later
          exact ⟨rfl, rests⟩

namespace Json.Value

variable {value inner : Value} {entries : Assoc Value} {key : String}

theorem hasUniqueKeys_object_iff :
    (Value.object entries).hasUniqueKeys = true ↔
      (Assoc.keys entries).Nodup ∧ ∀ entry ∈ entries, entry.2.hasUniqueKeys = true := by
  have inside : entriesHaveUniqueKeys entries = true ↔ ∀ entry ∈ entries, entry.2.hasUniqueKeys = true := by
    induction entries with
    | nil => simp [entriesHaveUniqueKeys]
    | cons first rest ih =>
        obtain ⟨name, other⟩ := first
        rw [entriesHaveUniqueKeys, Bool.and_eq_true, ih, List.forall_mem_cons]
  rw [hasUniqueKeys, Bool.and_eq_true, decide_eq_true_iff, inside]

theorem hasUniqueKeys_of_find? (unique : value.hasUniqueKeys = true) (found : value.find? key = some inner) :
    inner.hasUniqueKeys = true := by
  cases value with
  | object entries => exact (hasUniqueKeys_object_iff.mp unique).2 _ (Assoc.mem_of_find? found)
  | null | bool flag | number n | string text | array items => cases found

/-- The entries of an object inside, of which there are none if it is missing. -/
theorem unique_entries (unique : value.hasUniqueKeys = true) (key : String) :
    (Value.object ((value.objectAt? key).getD [])).hasUniqueKeys = true := by
  rw [objectAt?]
  cases found : value.find? key with
  | none => rfl
  | some inner =>
      have uniqueInner := hasUniqueKeys_of_find? unique found
      cases inner with
      | object entries => exact uniqueInner
      | null | bool flag | number n | string text | array items => rfl

end Json.Value

namespace Operation

open Schema.Reading (methods locationOf)

def place (operation : Operation) : String × String × String := (operation.url, operation.path, operation.method)

/-- The key spells the place, and each response adds its status. -/
structure Placed (operation : Operation) : Prop where
  key : operation.key = locationOf operation.url (Pointer.child "/paths" operation.path ++ "/" ++ operation.method)
  method : operation.method ∈ methods
  responses : ∀ entry ∈ operation.responses, entry.2.key = operation.key ++ "/responses/" ++ entry.1
  statuses : (Assoc.keys operation.responses).Nodup

namespace Placed

variable {operation other : Operation}

theorem place_of_key_append (placed : operation.Placed) (placedToo : other.Placed)
    (plain : '#' ∉ operation.url.toList) (plainToo : '#' ∉ other.url.toList) {text more : String}
    (same : operation.key ++ "/" ++ text = other.key ++ "/" ++ more) : operation.place = other.place ∧ text = more := by
  have free : ∀ method ∈ methods, '/' ∉ method.toList := by decide
  have chars := congrArg String.toList same
  simp only [placed.key, placedToo.key, locationOf, Pointer.child, String.toList_append, String.reduceToList,
    List.append_assoc, List.cons_append, List.nil_append] at chars
  obtain ⟨urls, pointers⟩ := append_mark_inj plain plainToo chars
  simp only [List.cons.injEq, true_and] at pointers
  obtain ⟨paths, later⟩ := append_mark_inj (Pointer.slash_notMem_escape _) (Pointer.slash_notMem_escape _) pointers
  obtain ⟨names, rests⟩ := append_mark_inj (free _ placed.method) (free _ placedToo.method) later
  refine ⟨?_, String.toList_injective rests⟩
  rw [place, place, String.toList_injective urls, String.toList_injective names,
    Pointer.escape_injective (String.toList_injective paths)]

theorem place_of_key (placed : operation.Placed) (placedToo : other.Placed) (plain : '#' ∉ operation.url.toList)
    (plainToo : '#' ∉ other.url.toList) (same : operation.key = other.key) : operation.place = other.place :=
  (placed.place_of_key_append placedToo plain plainToo (congrArg (· ++ "/" ++ "") same)).1

theorem place_of_response_key (placed : operation.Placed) (placedToo : other.Placed)
    (plain : '#' ∉ operation.url.toList) (plainToo : '#' ∉ other.url.toList) {entry last : String × Response}
    (member : entry ∈ operation.responses) (memberToo : last ∈ other.responses) (same : entry.2.key = last.2.key) :
    operation.place = other.place ∧ entry.1 = last.1 := by
  rw [placed.responses entry member, placedToo.responses last memberToo] at same
  have cut (key status : String) : key ++ "/responses/" ++ status = key ++ "/" ++ ("responses/" ++ status) := by
    apply String.toList_injective
    simp
  rw [cut, cut] at same
  obtain ⟨places, statuses⟩ := placed.place_of_key_append placedToo plain plainToo same
  exact ⟨places, (String.append_right_inj _).mp statuses⟩

end Placed

end Operation

namespace Schema.Reading

variable {α β : Type}

def Returns (read : Reading α) (good : α → Prop) : Prop :=
  ∀ before result after, read.run before = some (result, after) → good result

namespace Returns

theorem pure {good : α → Prop} {result : α} (holds : good result) : Returns (pure result) good := by
  intro _ _ _ ran
  cases ran
  exact holds

theorem bind {read : Reading α} {next : α → Reading β} {good : α → Prop} {goodNext : β → Prop}
    (first : Returns read good) (later : ∀ result, good result → Returns (next result) goodNext) :
    Returns (read >>= next) goodNext := by
  intro before last after ran
  obtain ⟨result, middle, firstRan, laterRan⟩ := (StateT.run_bind_eq_some _ _ _ _).mp ran
  exact later result (first before result middle firstRan) middle last after laterRan

theorem any (read : Reading α) : Returns read fun _ => True := fun _ _ _ _ => trivial

theorem weaken {read : Reading α} {good more : α → Prop} (returns : Returns read good)
    (weak : ∀ result, good result → more result) : Returns read more :=
  fun before result after ran => weak result (returns before result after ran)

theorem mapM {items : List α} {visit : α → Reading β} {each : α → β → Prop}
    (returns : ∀ item ∈ items, Returns (visit item) (each item)) :
    Returns (items.mapM visit) fun results => List.Forall₂ each items results := by
  induction items with
  | nil =>
      rw [List.mapM_nil]
      exact .pure .nil
  | cons item rest ih =>
      rw [List.mapM_cons]
      refine .bind (returns item List.mem_cons_self) fun result good => ?_
      refine .bind (ih fun item member => returns item (List.mem_cons_of_mem _ member)) fun results others => ?_
      exact .pure (.cons good others)

end Returns

variable {documents : DocumentSet} {fuel : Nat} {url : String}

theorem response_returns (pointer key status : String) (raw : Value) :
    Returns (response documents fuel url pointer key status raw)
      fun found => found.key = key ++ "/responses/" ++ status := by
  unfold response
  dsimp only
  split
  · exact .bind (.any _) fun _ _ => .pure rfl
  · split
    · exact .bind (.any _) fun _ _ => .bind (.any _) fun _ _ => .bind (.any _) fun _ _ => .pure rfl
    · exact .bind (.any _) fun _ _ => .bind (.any _) fun _ _ => .pure rfl

theorem operation_returns (document : Value) (path : String) (item : Value) {method : String} {raw : Value}
    (known : method ∈ methods) (unique : raw.hasUniqueKeys = true) :
    Returns (operation documents fuel url document path item method raw) fun operation =>
      operation.Placed ∧ operation.place = (url, path, method) := by
  refine .bind (.any _) fun _ _ => .bind (.any _) fun _ _ => ?_
  have each : ∀ entry ∈ (raw.objectAt? "responses").getD [], Returns (do
      let found ← response documents fuel url
        (Pointer.child (Pointer.child "/paths" path ++ "/" ++ method ++ "/responses") entry.1)
        (locationOf url (Pointer.child "/paths" path ++ "/" ++ method)) entry.1 entry.2
      return (entry.1, found)) fun result => result.1 = entry.1 ∧
        result.2.key = locationOf url (Pointer.child "/paths" path ++ "/" ++ method) ++ "/responses/" ++ result.1 :=
    fun entry _ => .bind (response_returns _ _ _ _) fun _ spelled => .pure ⟨rfl, spelled⟩
  refine .bind (.mapM each) fun responses alike => .pure ⟨⟨rfl, known, ?_, ?_⟩, rfl⟩
  · intro entry member
    obtain ⟨_, _, _, spelled⟩ := alike.exists_left member
    exact spelled
  · have statuses : Assoc.keys responses = Assoc.keys ((raw.objectAt? "responses").getD []) := by
      exact alike.map_eq fun _ _ same => same.1
    rw [statuses]
    exact (Value.hasUniqueKeys_object_iff.mp (Value.unique_entries unique "responses")).1

/-- Operations of one document, at different places of it. -/
def Apart (url : String) (paths : List String) (operations : List Operation) : Prop :=
  (operations.map Operation.place).Nodup ∧
    ∀ operation ∈ operations, operation.Placed ∧ operation.url = url ∧ operation.path ∈ paths

theorem pathOperations_returns (document : Value) (path : String) {item : Value} (unique : item.hasUniqueKeys = true) :
    Returns (pathOperations documents fuel url document path item) (Apart url [path]) := by
  unfold pathOperations
  dsimp only
  generalize listed : methods.filterMap (fun method => (item.find? method).map (method, ·)) = present
  have member : ∀ entry ∈ present, entry.1 ∈ methods ∧ entry.2.hasUniqueKeys = true := by
    intro entry member
    obtain ⟨method, known, entered⟩ := List.mem_filterMap.mp (listed ▸ member)
    obtain ⟨raw, found, rfl⟩ := Option.map_eq_some_iff.mp entered
    exact ⟨known, Value.hasUniqueKeys_of_find? unique found⟩
  have distinct : present.Pairwise fun first second => first.1 ≠ second.1 := by
    rw [← listed]
    have apart : methods.Pairwise (· ≠ ·) := by decide
    refine apart.filterMap _ fun method other different entry found last foundLast => ?_
    obtain ⟨_, _, rfl⟩ := Option.map_eq_some_iff.mp found
    obtain ⟨_, _, rfl⟩ := Option.map_eq_some_iff.mp foundLast
    exact different
  refine .weaken (.mapM fun entry among =>
    operation_returns document path item (member entry among).1 (member entry among).2) ?_
  refine fun operations alike => ⟨?_, fun operation among => ?_⟩
  · have places : operations.map Operation.place = present.map fun entry => (url, path, entry.1) :=
      alike.map_eq fun _ _ placed => placed.2
    rw [places]
    exact List.pairwise_map.mpr (distinct.imp fun different same => different (congrArg (·.2.2) same))
  · obtain ⟨entry, _, placed, found⟩ := alike.exists_left among
    exact ⟨placed, congrArg Prod.fst found, List.mem_singleton.mpr (congrArg (·.2.1) found)⟩

theorem Apart.flatten {paths : List String} {lists : List (List Operation)} (distinct : paths.Nodup)
    (alike : List.Forall₂ (fun path operations => Apart url [path] operations) paths lists) :
    Apart url paths lists.flatten := by
  induction alike with
  | nil => exact ⟨List.nodup_nil, nofun⟩
  | @cons path operations paths lists first _ ih =>
      obtain ⟨fresh, distinctRest⟩ := List.nodup_cons.mp distinct
      have rest := ih distinctRest
      rw [List.flatten_cons]
      refine ⟨?_, fun operation member => ?_⟩
      · rw [List.map_append, List.nodup_append]
        refine ⟨first.1, rest.1, fun place member other memberToo => ?_⟩
        obtain ⟨operation, among, rfl⟩ := List.mem_map.mp member
        obtain ⟨last, amongRest, rfl⟩ := List.mem_map.mp memberToo
        intro same
        have onPath := List.mem_singleton.mp (first.2 operation among).2.2
        have paths : operation.path = last.path := congrArg (·.2.1) same
        exact fresh (onPath ▸ paths ▸ (rest.2 last amongRest).2.2)
      · rcases List.mem_append.mp member with among | among
        · obtain ⟨placed, home, onPath⟩ := first.2 operation among
          exact ⟨placed, home, List.mem_cons.mpr (.inl (List.mem_singleton.mp onPath))⟩
        · obtain ⟨placed, home, onPath⟩ := rest.2 operation among
          exact ⟨placed, home, List.mem_cons_of_mem _ onPath⟩

theorem document_returns {value : Value} (found : documents.get? url = some value)
    (unique : value.hasUniqueKeys = true) :
    Returns (document documents fuel url) fun operations => ∃ paths, Apart url paths operations := by
  have uniquePaths := Value.hasUniqueKeys_object_iff.mp (Value.unique_entries unique "paths")
  rw [document, found]
  refine .bind (.mapM fun entry member => pathOperations_returns value entry.1 (uniquePaths.2 entry member)) ?_
  intro lists alike
  refine .bind (.any _) fun _ _ => .pure ⟨Assoc.keys ((value.objectAt? "paths").getD []), ?_⟩
  exact .flatten uniquePaths.1 (List.forall₂_map_left_iff.mpr alike)

end Schema.Reading

end ApiContract
