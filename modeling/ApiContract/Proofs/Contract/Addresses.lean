import ApiContract.Proofs.Contract.Loading
import ApiContract.Proofs.Url

/-!
Addresses of documents. What an address is normalized to starts with the prefix that it started with, and goes on with
parents, where nothing stops them, and then with names (`Url.normal_normalizeChars`). Documents are only ever put under
normalized addresses, however they come in (`addresses_stay_canonical`).

A reference that is no address itself and names no path from the root stays with the scheme and the authority of the
document that it stands in, however many parents it names (`join_keeps_origin`). A path from the root is taken as it is,
wherever it stands, and so leads from a remote document to no host at all (`root_path_leaves_origin`).
-/

namespace ApiContract

open Json (Value)

namespace Url

/-! ## The shape of an address -/

/-- The segments of a path; a path without characters has none. -/
def segments (path : List Char) : List (List Char) := if path = [] then [] else Text.split '/' path

/-- The segment names a document or a folder. -/
structure IsName (segment : List Char) : Prop where
  filled : segment ≠ []
  other : segment ≠ ['.']
  below : segment ≠ ['.', '.']

/-- A prefix that no parent segment leaves: the root slash, or scheme and authority. -/
inductive Anchor : List Char → Prop
  | root : Anchor ['/']
  | authority (scheme : List Char) {authority : List Char} : '/' ∉ authority →
      Anchor (scheme ++ "://".toList ++ authority ++ ['/'])

/-- An address in which nothing is left to resolve. Parents stand only where there is no prefix, in front of all names. -/
inductive Normal (text : List Char) : Prop
  | authority (scheme : List Char) {authority : List Char} : '/' ∉ authority →
      text = scheme ++ "://".toList ++ authority → Normal text
  | anchored {root path : List Char} : Anchor root → text = root ++ path → parts? text = some ⟨root, path⟩ →
      (∀ segment ∈ segments path, IsName segment) → Normal text
  | relative {parents : Nat} {names : List (List Char)} : parts? text = some ⟨[], text⟩ →
      segments text = List.replicate parents ['.', '.'] ++ names → (∀ name ∈ names, IsName name) → Normal text

variable {rooted : Bool} {reversed pieces : List (List Char)} {text path : List Char}

/-- Resolved segments are names after parents, and where there is a root they are names. -/
theorem Resolved.parents_names (resolved : Resolved rooted reversed) :
    ∃ parents names, reversed = names ++ List.replicate parents ['.', '.'] ∧ (rooted = true → parents = 0) ∧
      ∀ name ∈ names, IsName name := by
  induction resolved with
  | nil => exact ⟨0, [], rfl, fun _ => rfl, nofun⟩
  | @parent reversed free all _ _ =>
      refine ⟨reversed.length + 1, [], ?_, fun rooted => ?_, nofun⟩
      · rw [List.nil_append, List.replicate_succ, ← List.eq_replicate_of_mem all]
      · cases free.symm.trans rooted
  | @name segment _ filled other below _ _ ih =>
      obtain ⟨parents, names, rfl, unparented, named⟩ := ih
      exact ⟨parents, segment :: names, rfl, unparented, List.forall_mem_cons.mpr ⟨⟨filled, other, below⟩, named⟩⟩

/-- Segments are found again in the path that is made of them. -/
theorem segments_join (filled : ∀ piece ∈ pieces, piece ≠ [] ∧ '/' ∉ piece) : segments (Text.join '/' pieces) = pieces := by
  unfold segments
  cases pieces with
  | nil => rfl
  | cons piece rest =>
      have long : Text.join '/' (piece :: rest) ≠ [] := by
        have first := (filled piece List.mem_cons_self).1
        cases rest with
        | nil => exact first
        | cons next others => simp [Text.join]
      rw [if_neg long]
      exact Text.split_join (List.cons_ne_nil piece rest) fun other member => (filled other member).2

theorem slash_notMem_takeWhile (text : List Char) : '/' ∉ text.takeWhile (· ≠ '/') := by
  intro member
  simpa using List.mem_takeWhile_imp member

/-- An address has a prefix or is all path, unless it ends with its authority. -/
theorem parts?_cases (text : List Char) :
    (∃ scheme authority, '/' ∉ authority ∧ text = scheme ++ "://".toList ++ authority ∧ parts? text = none) ∨
      ∃ parts, parts? text = some parts ∧ (parts.root = [] ∨ Anchor parts.root) := by
  unfold parts?
  split
  next scheme after found =>
    have whole := Text.eq_of_cutAt? found
    have plain := slash_notMem_takeWhile after
    dsimp only
    split
    next none =>
      left
      have all := List.takeWhile_append_dropWhile (p := (· ≠ '/')) (l := after)
      rw [none, List.append_nil] at all
      exact ⟨scheme, after, all ▸ plain, whole, rfl⟩
    next => exact .inr ⟨_, rfl, .inr (.authority scheme plain)⟩
  next =>
    right
    split
    · exact ⟨_, rfl, .inr .root⟩
    · exact ⟨_, rfl, .inl rfl⟩

theorem Anchor.ne_nil {root : List Char} (anchor : Anchor root) : root ≠ [] := by
  cases anchor <;> simp

/-- Whatever is normalized has nothing left to resolve. -/
theorem normal_normalizeChars (text : List Char) : Normal (normalizeChars text) := by
  rcases parts?_cases text with ⟨scheme, authority, plain, whole, ends⟩ | ⟨parts, cut, start⟩
  · rw [normalizeChars, ends]
    exact .authority scheme plain whole
  · have resolved := resolved_resolveSegments (parts.root ≠ []) parts.path
    have filled : ∀ piece ∈ resolveSegments (parts.root ≠ []) (Text.split '/' parts.path), piece ≠ [] ∧ '/' ∉ piece :=
      fun piece member => resolved.filled (List.mem_reverse.mpr member)
    have again := parts?_join cut filled
    have pieces := segments_join filled
    obtain ⟨parents, names, backwards, unparented, named⟩ := resolved.parents_names
    rw [List.reverse_eq_iff, List.reverse_append, List.reverse_replicate] at backwards
    have namedToo : ∀ name ∈ names.reverse, IsName name := fun name member => named name (List.mem_reverse.mp member)
    rw [normalizeChars, cut]
    dsimp only
    rw [backwards] at again pieces ⊢
    rcases start with bare | anchor
    · rw [bare, List.nil_append] at again ⊢
      exact .relative again pieces namedToo
    · rw [unparented (by simpa using anchor.ne_nil), List.replicate_zero, List.nil_append] at again pieces ⊢
      exact .anchored anchor rfl again (pieces.symm ▸ namedToo)

end Url

namespace DocumentSet

variable {set : DocumentSet} {url target : String} {document : Value}

/-! ## Sets of documents -/

/-- The sets that documents can be put together to, one by one or by loading what others refer to. -/
inductive Gathered : DocumentSet → Prop
  | none : Gathered {}
  | root {set : DocumentSet} (url : String) (document : Value) : Gathered set → Gathered (set.insertRoot url document)
  | referenced {set : DocumentSet} (url : String) (document : Value) :
      Gathered set → Gathered (set.insertReferenced url document)
  | loaded {σ : Type} {set : DocumentSet} {fetch : String → StateM σ (Option Value)} {limit : Nat} {state final : σ}
      {last : Loading} :
      Gathered set → (Loading.run fetch limit (.start set)).run state = (some last, final) → Gathered last.documents

/-- All documents are under normalized addresses, each under one, and roots among them. -/
structure Addressed (set : DocumentSet) : Prop where
  normal : ∀ url ∈ set.urls, Url.normalize url = url
  once : set.urls.Nodup
  roots : ∀ url ∈ set.roots, url ∈ set.urls

theorem urls_insertRoot (set : DocumentSet) (url : String) (document : Value) :
    (set.insertRoot url document).urls =
      if set.contains (Url.normalize url) then set.urls else set.urls ++ [Url.normalize url] := by
  have absent {entries : Assoc Value} {key : String} (fresh : key ∉ Assoc.keys entries) :
      Assoc.keys (Assoc.insert entries key document) = Assoc.keys entries ++ [key] := by
    induction entries with
    | nil => rfl
    | cons entry rest ih =>
        rw [Assoc.keys, List.map_cons, List.mem_cons, not_or] at fresh
        rw [Assoc.insert, if_neg (Ne.symm fresh.1)]
        exact congrArg (entry.1 :: ·) (ih fresh.2)
  split
  next present => exact Assoc.keys_insert_of_mem document (Loading.mem_urls_of_contains present)
  next missing => exact absent fun present => missing ((Assoc.contains_iff_mem_keys _ _).mpr present)

theorem urls_insertReferenced (set : DocumentSet) (url : String) (document : Value) :
    (set.insertReferenced url document).urls =
      if set.contains (Url.normalize url) then set.urls else set.urls ++ [Url.normalize url] := by
  unfold insertReferenced urls contains Assoc.insertNew
  split
  · rfl
  · exact List.map_append

/-- A document that is put under an address is found there in place of what was there, and no other one is touched. -/
theorem get?_insertRoot (set : DocumentSet) (url other : String) (document : Value) :
    (set.insertRoot url document).get? other = if other = Url.normalize url then some document else set.get? other := by
  unfold insertRoot get?
  split
  next same => exact same ▸ Assoc.find?_insert_self _ _ _
  next different => exact Assoc.find?_insert_of_ne _ _ different

/-- A document that others refer to only fills a gap. -/
theorem get?_insertReferenced (set : DocumentSet) (url other : String) (document : Value) :
    (set.insertReferenced url document).get? other =
      (set.get? other).or (if other = Url.normalize url then some document else none) := by
  unfold insertReferenced get?
  rw [Assoc.find?_insertNew]
  by_cases same : Url.normalize url = other
  · simp [Assoc.find?, same]
  · simp [Assoc.find?, same, Ne.symm same]

namespace Addressed

theorem insert {more : DocumentSet} (addressed : Addressed set)
    (urls : more.urls = if set.contains (Url.normalize url) then set.urls else set.urls ++ [Url.normalize url])
    (roots : ∀ root ∈ more.roots, root ∈ set.roots ∨ root = Url.normalize url) : Addressed more := by
  have listed {other : String} (member : other ∈ more.urls) : other ∈ set.urls ∨ other = Url.normalize url := by
    rw [urls] at member
    split at member
    · exact .inl member
    · simpa using member
  have kept {other : String} (member : other ∈ set.urls ∨ other = Url.normalize url) : other ∈ more.urls := by
    rw [urls]
    split
    next present => exact member.elim id fun same => same ▸ Loading.mem_urls_of_contains present
    next => simpa using member
  refine ⟨fun other member => ?_, ?_, fun root member => ?_⟩
  · rcases listed member with old | rfl
    · exact addressed.normal other old
    · exact Url.normalize_normalize url
  · rw [urls]
    split
    · exact addressed.once
    next missing =>
      have fresh : Url.normalize url ∉ set.urls := mt (Assoc.contains_iff_mem_keys _ _).mpr missing
      exact List.nodup_append_comm.mp (List.nodup_cons.mpr ⟨fresh, addressed.once⟩)
  · exact kept ((roots root member).imp_left (addressed.roots root))

theorem insertRoot (addressed : Addressed set) (url : String) (document : Value) :
    Addressed (set.insertRoot url document) := by
  refine addressed.insert (urls_insertRoot set url document) fun root member => ?_
  unfold DocumentSet.insertRoot at member
  dsimp only at member
  split at member
  · exact .inl member
  · simpa using member

theorem insertReferenced (addressed : Addressed set) (url : String) (document : Value) :
    Addressed (set.insertReferenced url document) :=
  addressed.insert (urls_insertReferenced set url document) fun _ member => .inl member

end Addressed

namespace Loading

variable {σ : Type} {fetch : String → StateM σ (Option Value)} {state final : σ} {loading last : Loading}

/-- To ask for a document is no change of what is there. -/
theorem documents_next (loading : Loading) : loading.next.1.documents = loading.documents := by
  have found := loading.next_found
  generalize loading.next = answer at found
  cases found with
  | target documents => exact documents
  | none documents => exact documents

theorem supply_keeps {holds : DocumentSet → Prop}
    (kept : ∀ set url document, holds set → holds (set.insertReferenced url document)) (fetched : Option Value)
    (start : holds loading.documents) : holds (loading.supply target fetched).documents := by
  cases fetched with
  | none => exact start
  | some document => exact kept _ target document start

/-- Loading keeps what every document that it brings in keeps. -/
theorem run_keeps {holds : DocumentSet → Prop}
    (kept : ∀ set url document, holds set → holds (set.insertReferenced url document)) {limit : Nat}
    (ran : (run fetch limit loading).run state = (some last, final)) (start : holds loading.documents) :
    holds last.documents := by
  induction limit generalizing loading state with
  | zero => cases ran
  | succ limit ih =>
      have same := loading.documents_next
      rcases asks : loading.next with ⟨later, _ | target⟩
      · rw [run_of_done asks] at ran
        cases ran
        rw [asks] at same
        exact same ▸ start
      · rw [asks] at same
        rcases answered : (fetch target).run state with ⟨fetched, middle⟩
        rw [run_of_ask asks, run_bind_of_run answered] at ran
        exact ih ran (supply_keeps kept fetched (same ▸ start))

end Loading

theorem Gathered.addressed (gathered : Gathered set) : Addressed set := by
  induction gathered with
  | none => exact ⟨nofun, List.nodup_nil, nofun⟩
  | root url document _ ih => exact ih.insertRoot url document
  | referenced url document _ ih => exact ih.insertReferenced url document
  | loaded _ ran ih => exact Loading.run_keeps (fun _ url document addressed => addressed.insertReferenced url document) ran ih

/-- Normalizing leaves nothing to resolve, and nothing to normalize again; references are joined to normalized addresses.
So all documents of a set are under normalized addresses and roots are among them, however the set was put together. A
document that is only referred to never takes the place of another one, and a root always does, where the other one was. -/
theorem addresses_stay_canonical :
    (∀ path, Url.normalize (Url.normalize path) = Url.normalize path ∧ Url.Normal (Url.normalize path).toList) ∧
      (∀ base reference, reference ≠ "" → Url.normalize (Url.join base reference) = Url.join base reference) ∧
      ∀ set, Gathered set →
        (∀ url ∈ set.urls, Url.normalize url = url) ∧ (∀ url, set.isRoot url = true → set.contains url = true) ∧
          ∀ url document,
            (∀ other found, set.get? other = some found →
              (set.insertReferenced url document).get? other = some found) ∧
            (set.insertRoot url document).get? (Url.normalize url) = some document ∧
            (∀ other ≠ Url.normalize url, (set.insertRoot url document).get? other = set.get? other) ∧
            (set.insertRoot url document).urls =
              if set.contains (Url.normalize url) then set.urls else set.urls ++ [Url.normalize url] := by
  refine ⟨fun path => ⟨Url.normalize_normalize path, ?_⟩, fun base _ => Url.normalize_join base,
    fun set gathered => ⟨gathered.addressed.normal, fun url root => ?_, fun url document => ⟨?_, ?_, ?_, ?_⟩⟩⟩
  · rw [Url.normalize, String.toList_ofList]
    exact Url.normal_normalizeChars _
  · have listed := gathered.addressed.roots url (List.contains_iff_mem.mp root)
    exact (Assoc.contains_iff_mem_keys _ _).mpr listed
  · intro other found present
    rw [get?_insertReferenced, present, Option.some_or]
  · rw [get?_insertRoot, if_pos rfl]
  · intro other different
    rw [get?_insertRoot, if_neg different]
  · exact urls_insertRoot set url document

/-- A root under an address with detours, which refers to a document that refers to others. -/
def detours : DocumentSet :=
  insertRoot {} "/specs//./old/../main.json" (.object [("A", .object [("$ref", .string "a.json#/A")])])

theorem detours_stay_canonical : ∃ last asked, (Loading.run Loading.shelf 4 (.start detours)).run [] = (some last, asked) ∧
    Gathered last.documents ∧ last.documents.urls = ["/specs/main.json", "/specs/a.json", "/specs/b.json"] ∧
    (∀ url ∈ last.documents.urls, Url.normalize url = url) ∧ last.documents.isRoot "/specs/main.json" = true ∧
    last.documents.contains "/specs/main.json" = true ∧
    (∃ found, last.documents.get? "/specs/b.json" = some found ∧
      (last.documents.insertReferenced "/specs/./b.json" .null).get? "/specs/b.json" = some found) ∧
    "/specs/a.json" ≠ Url.normalize "/specs/./b.json" ∧
    (last.documents.insertRoot "/specs/./b.json" .null).get? "/specs/a.json" = last.documents.get? "/specs/a.json" ∧
    (last.documents.insertRoot "/specs/./b.json" .null).urls = last.documents.urls ∧
    "../../b/./types.json" ≠ "" ∧ Url.join "https://host/v1/main.json" "../../b/./types.json" = "https://host/b/types.json" ∧
    Url.normalize (Url.join "https://host/v1/main.json" "../../b/./types.json") =
      Url.join "https://host/v1/main.json" "../../b/./types.json" := by
  obtain ⟨_, joined, kept⟩ := addresses_stay_canonical
  have ends : ((Loading.run Loading.shelf 4 (.start detours)).run []).1.any (fun last =>
      last.documents.urls == ["/specs/main.json", "/specs/a.json", "/specs/b.json"] &&
        last.documents.isRoot "/specs/main.json" && last.documents.contains "/specs/b.json") = true := by
    decide +kernel
  rcases ran : (Loading.run Loading.shelf 4 (.start detours)).run [] with ⟨_ | last, asked⟩
  · rw [ran] at ends
    cases ends
  · rw [ran, Option.any_some, Bool.and_eq_true, Bool.and_eq_true] at ends
    obtain ⟨⟨urls, root⟩, present⟩ := ends
    have gathered : Gathered last.documents := .loaded (.root _ _ .none) ran
    have other : "/specs/a.json" ≠ Url.normalize "/specs/./b.json" := by decide +kernel
    have again : Url.normalize "/specs/./b.json" = "/specs/b.json" := by decide +kernel
    obtain ⟨normal, roots, inserting⟩ := kept last.documents gathered
    obtain ⟨fills, _, apart, listed⟩ := inserting "/specs/./b.json" .null
    obtain ⟨found, there⟩ := contains_iff.mp present
    rw [again, if_pos present] at listed
    exact ⟨last, asked, rfl, gathered, eq_of_beq urls, normal, root, roots _ root, ⟨found, there, fills _ found there⟩, other,
      apart _ other, listed, by decide, by decide +kernel, joined _ _ (by decide)⟩

end DocumentSet

end ApiContract

namespace ApiContract.Url

variable {scheme authority root path : List Char}

/-- What comes before a slash is in the directory, with the slash. -/
theorem directory_append (front back : List Char) :
    directory (front ++ '/' :: back) = front ++ '/' :: directory back := by
  have turned : (front ++ '/' :: back).reverse = back.reverse ++ '/' :: front.reverse := by simp
  unfold directory
  rw [turned, List.dropWhile_append]
  split
  next none =>
    rw [List.isEmpty_iff.mp none, List.dropWhile_cons_of_neg (by decide)]
    simp
  next => simp

/-- Scheme and authority are the prefix of an address with a path, if the mark between them is the first one. -/
theorem parts?_authority (first : Text.cutAt? "://".toList (scheme ++ "://".toList) = some (scheme, []))
    (plain : '/' ∉ authority) (path : List Char) :
    parts? (scheme ++ "://".toList ++ authority ++ ['/'] ++ path) =
      some ⟨scheme ++ "://".toList ++ authority ++ ['/'], path⟩ := by
  have found := Text.cutAt?_congr first (by decide) (authority ++ '/' :: path)
  have kept : ∀ c ∈ authority, decide (c ≠ '/') = true := by
    intro c member
    simpa using fun same : c = '/' => plain (same ▸ member)
  have spelled : scheme ++ "://".toList ++ authority ++ ['/'] ++ path =
      scheme ++ "://".toList ++ (authority ++ '/' :: path) := by simp
  rw [spelled]
  unfold parts?
  rw [found]
  dsimp only
  rw [List.takeWhile_append_of_pos kept, List.dropWhile_append_of_pos kept]
  simp

theorem root_prefix_normalizeChars {text : List Char} {parts : Parts} (cut : parts? text = some parts) :
    parts.root <+: normalizeChars text := by
  rw [normalizeChars, cut]
  exact List.prefix_append _ _

/-- What starts at the root starts there when it is normalized. -/
theorem slash_prefix_normalizeChars (path : List Char) : ['/'] <+: normalizeChars ('/' :: path) := by
  have cut : ∀ parts, parts? ('/' :: path) = some parts → ['/'] <+: parts.root := by
    intro parts cut
    unfold parts? at cut
    split at cut
    next scheme after found =>
      have whole := Text.eq_of_cutAt? found
      dsimp only at cut
      split at cut
      · cases cut
      · cases cut
        cases scheme with
        | nil => cases whole
        | cons c rest =>
            obtain ⟨rfl, _⟩ := List.cons.inj whole
            exact ⟨_, rfl⟩
    next => cases cut; exact List.prefix_rfl
  rcases known : parts? ('/' :: path) with _ | parts
  · rw [normalizeChars, known]
    exact ⟨path, rfl⟩
  · exact (cut parts known).trans (root_prefix_normalizeChars known)

theorem startsWith_iff_toList {text start : String} : Text.startsWith text start = true ↔ start.toList <+: text.toList :=
  List.isPrefixOf_iff_prefix

/-- A reference that is no remote address stays with scheme and authority, if the document has a path there, unless it
names a path from the root: that is a path from the root wherever it stands. -/
theorem join_keeps_origin {scheme authority path reference : String} (remote : scheme = "http" ∨ scheme = "https")
    (host : '/' ∉ authority.toList) (named : reference ≠ "") (own : isRemote reference = false) :
    (Text.startsWith reference "/" = false →
      Text.startsWith (join (scheme ++ "://" ++ authority ++ "/" ++ path) reference)
        (scheme ++ "://" ++ authority ++ "/") = true) ∧
      (Text.startsWith reference "/" = true → Text.startsWith (normalize reference) "/" = true ∧
        ∀ base, join base reference = normalize reference) := by
  constructor
  · intro relative
    have first : Text.cutAt? "://".toList (scheme.toList ++ "://".toList) = some (scheme.toList, []) := by
      rcases remote with rfl | rfl <;> decide
    have spelled : (scheme ++ "://" ++ authority ++ "/" ++ path).toList =
        (scheme.toList ++ "://".toList ++ authority.toList) ++ '/' :: path.toList := by simp
    have joined : directory (scheme ++ "://" ++ authority ++ "/" ++ path).toList ++ reference.toList =
        scheme.toList ++ "://".toList ++ authority.toList ++ ['/'] ++ (directory path.toList ++ reference.toList) := by
      rw [spelled, directory_append]
      simp
    have kept := root_prefix_normalizeChars (parts?_authority first host (directory path.toList ++ reference.toList))
    rw [join, if_neg named, own, relative, Bool.or_false, if_neg Bool.false_ne_true, joined, startsWith_iff_toList]
    simpa using kept
  · intro rooted
    refine ⟨?_, fun base => ?_⟩
    · obtain ⟨rest, whole⟩ := startsWith_iff_toList.mp rooted
      have chars : reference.toList = '/' :: rest := whole.symm
      rw [startsWith_iff_toList]
      simpa [normalize, chars] using slash_prefix_normalizeChars rest
    · rw [join, if_neg named, rooted, Bool.or_true, if_pos rfl]

/-- More parents than there are folders, and a path from the root. -/
theorem join_keeps_origin_parents : ('/' ∉ "host:8080".toList ∧ "../../../types.json" ≠ "" ∧
      isRemote "../../../types.json" = false ∧ Text.startsWith "../../../types.json" "/" = false ∧
      Text.startsWith (join ("https" ++ "://" ++ "host:8080" ++ "/" ++ "api/main.json") "../../../types.json")
        ("https" ++ "://" ++ "host:8080" ++ "/") = true) ∧
    "/shared/../types.json" ≠ "" ∧ isRemote "/shared/../types.json" = false ∧
      Text.startsWith "/shared/../types.json" "/" = true ∧
      Text.startsWith (normalize "/shared/../types.json") "/" = true ∧
      join "https://host/api/main.json" "/shared/../types.json" = normalize "/shared/../types.json" := by
  have plain : '/' ∉ "host:8080".toList := by decide
  have inside : isRemote "../../../types.json" = false := by decide
  have rooted := (@join_keeps_origin _ _ "" _ (.inl rfl) plain (by decide : "/shared/../types.json" ≠ "")
    (by decide)).2 (by decide)
  exact ⟨⟨plain, by decide, inside, by decide, (join_keeps_origin (.inr rfl) plain (by decide) inside).1 (by decide)⟩,
    by decide, by decide, by decide, rooted.1, rooted.2 _⟩

/-- A path from the root names no host, though the document that it stands in has one. -/
theorem root_path_leaves_origin : "/shared/types.json" ≠ "" ∧ isRemote "/shared/types.json" = false ∧
    join "https://host/api/main.json" "/shared/types.json" = "/shared/types.json" ∧
    Text.startsWith (join "https://host/api/main.json" "/shared/types.json") "https://host/" = false := by
  decide +kernel

end ApiContract.Url
