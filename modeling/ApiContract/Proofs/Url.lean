import ApiContract.Proofs.Json.Route
import ApiContract.Proofs.Text

/-!
Canonical addresses. What normalizing leaves of the segments of an address is resolved (`Resolved`), and resolved segments
are left as they are; the prefix is found again in the result. So an address is normalized once and for all, and the
addresses that references are joined to are normalized (`normalize_join`).
-/

namespace ApiContract

namespace Text

theorem split_join {separator : Char} {pieces : List (List Char)} (listed : pieces ≠ [])
    (plain : ∀ piece ∈ pieces, separator ∉ piece) : split separator (join separator pieces) = pieces := by
  induction pieces with
  | nil => exact absurd rfl listed
  | cons piece rest ih =>
      have first := plain piece List.mem_cons_self
      cases rest with
      | nil => exact split_of_notMem first
      | cons next others =>
          have later := ih (List.cons_ne_nil next others) fun other member => plain other (List.mem_cons_of_mem _ member)
          rw [join, split_append_cons first, later]
          simp

theorem eq_of_cutAt? {mark text before after : List Char} (cut : cutAt? mark text = some (before, after)) :
    text = before ++ mark ++ after := by
  induction text generalizing before with
  | nil =>
      rw [cutAt?] at cut
      split at cut
      next empty => simp_all
      next => cases cut
  | cons c rest ih =>
      rw [cutAt?] at cut
      split at cut
      next starts =>
        obtain ⟨later, same⟩ := List.isPrefixOf_iff_prefix.mp starts
        rw [← same, List.drop_left] at cut
        cases cut
        rw [← same, List.nil_append]
      next =>
        obtain ⟨⟨front, back⟩, found, same⟩ := Option.map_eq_some_iff.mp cut
        cases same
        rw [ih found]
        simp

/-- Where a mark is found first does not depend on what comes after it. -/
theorem cutAt?_congr {mark text before after : List Char} (cut : cutAt? mark text = some (before, after))
    (filled : mark ≠ []) (other : List Char) : cutAt? mark (before ++ mark ++ other) = some (before, other) := by
  induction text generalizing before with
  | nil =>
      rw [cutAt?, if_neg filled] at cut
      cases cut
  | cons c rest ih =>
      have whole := eq_of_cutAt? cut
      rw [cutAt?] at cut
      split at cut
      next starts =>
        cases cut
        obtain ⟨first, others, rfl⟩ := List.exists_cons_of_ne_nil filled
        simp [cutAt?]
      next differs =>
        obtain ⟨⟨front, back⟩, found, same⟩ := Option.map_eq_some_iff.mp cut
        cases same
        have starts : ¬mark.isPrefixOf (c :: (front ++ mark ++ other)) = true := by
          intro starts
          apply differs
          rw [whole]
          rw [List.isPrefixOf_iff_prefix] at starts ⊢
          have short : mark.length ≤ (c :: front ++ mark).length := by
            simp only [List.cons_append, List.length_cons, List.length_append]
            omega
          have inside : mark <+: c :: front ++ mark := List.prefix_of_prefix_length_le starts ⟨other, by simp⟩ short
          exact inside.trans (List.prefix_append _ _)
        rw [List.cons_append, List.cons_append, cutAt?, if_neg starts, ih found]
        rfl

end Text

namespace Url

/-- Segments in reverse that are named, after parent segments where no root stops them. -/
inductive Resolved (rooted : Bool) : List (List Char) → Prop
  | nil : Resolved rooted []
  | parent {reversed} : rooted = false → (∀ segment ∈ reversed, segment = ['.', '.']) → Resolved rooted reversed →
      Resolved rooted (['.', '.'] :: reversed)
  | name {segment reversed} : segment ≠ [] → segment ≠ ['.'] → segment ≠ ['.', '.'] → '/' ∉ segment →
      Resolved rooted reversed → Resolved rooted (segment :: reversed)

namespace Resolved

variable {rooted : Bool} {reversed : List (List Char)} {segment : List Char}

theorem tail (resolved : Resolved rooted (segment :: reversed)) : Resolved rooted reversed := by
  cases resolved with
  | parent _ _ rest => exact rest
  | name _ _ _ _ rest => exact rest

theorem parents (resolved : Resolved rooted (['.', '.'] :: reversed)) : ∀ other ∈ reversed, other = ['.', '.'] := by
  cases resolved with
  | parent _ all => exact all
  | name _ _ other => exact absurd rfl other

theorem filled (resolved : Resolved rooted reversed) (member : segment ∈ reversed) :
    segment ≠ [] ∧ '/' ∉ segment := by
  induction resolved with
  | nil => cases member
  | parent _ _ _ ih =>
      rcases List.mem_cons.mp member with rfl | later
      · decide
      · exact ih later
  | name filled _ _ plain _ ih =>
      rcases List.mem_cons.mp member with rfl | later
      · exact ⟨filled, plain⟩
      · exact ih later

theorem push (resolved : Resolved rooted reversed) (plain : '/' ∉ segment) :
    Resolved rooted (pushSegment rooted reversed segment) := by
  unfold pushSegment
  split
  next => exact resolved
  next skipped =>
    split
    next up =>
      subst up
      cases reversed with
      | nil =>
          cases rooted with
          | true => exact .nil
          | false => exact .parent rfl nofun .nil
      | cons last others =>
          by_cases back : last = ['.', '.']
          · subst back
            cases rooted with
            | true => simpa using resolved
            | false =>
                have all := resolved.parents
                have parent : Resolved false (['.', '.'] :: ['.', '.'] :: others) :=
                  .parent rfl (List.forall_mem_cons.mpr ⟨rfl, all⟩) resolved
                simpa using parent
          · simpa [back] using resolved.tail
    next named => exact .name (fun empty => skipped (.inl empty)) (fun here => skipped (.inr here)) named plain resolved

theorem foldl_push (resolved : Resolved rooted reversed) {segments : List (List Char)}
    (plain : ∀ segment ∈ segments, '/' ∉ segment) : Resolved rooted (segments.foldl (pushSegment rooted) reversed) := by
  induction segments generalizing reversed with
  | nil => exact resolved
  | cons first rest ih =>
      refine ih (resolved.push (plain first List.mem_cons_self)) ?_
      intro other member
      exact plain other (List.mem_cons_of_mem _ member)

/-- A segment that may stand after the others is put there. -/
theorem pushSegment_eq (resolved : Resolved rooted (segment :: reversed)) :
    pushSegment rooted reversed segment = segment :: reversed := by
  cases resolved with
  | parent free all _ =>
      cases reversed with
      | nil => simp [pushSegment, free]
      | cons last others =>
          have back := all last List.mem_cons_self
          simp [pushSegment, free, back]
  | name filled here up _ _ => simp [pushSegment, filled, here, up]

theorem foldl_eq (resolved : Resolved rooted reversed) : reversed.reverse.foldl (pushSegment rooted) [] = reversed := by
  induction reversed with
  | nil => rfl
  | cons segment rest ih =>
      rw [List.reverse_cons, List.foldl_append, ih resolved.tail]
      exact resolved.pushSegment_eq

end Resolved

theorem slash_notMem_split (path : List Char) : ∀ segment ∈ Text.split '/' path, '/' ∉ segment := by
  induction path with
  | nil => simp [Text.split]
  | cons c rest ih =>
      intro segment member
      rw [Text.split] at member
      split at member
      next =>
        rcases List.mem_cons.mp member with rfl | later
        · exact List.not_mem_nil
        · exact ih segment later
      next other =>
        split at member
        next absurd => exact (Text.split_ne_nil '/' rest absurd).elim
        next piece pieces found =>
          rcases List.mem_cons.mp member with rfl | later
          · have first := ih piece (found ▸ List.mem_cons_self)
            simp [first, Ne.symm other]
          · exact ih segment (found ▸ List.mem_cons_of_mem _ later)

theorem resolved_resolveSegments (rooted : Bool) (path : List Char) :
    Resolved rooted (resolveSegments rooted (Text.split '/' path)).reverse := by
  rw [resolveSegments, List.reverse_reverse]
  exact Resolved.nil.foldl_push (slash_notMem_split path)

variable {rooted : Bool} {segments : List (List Char)}

theorem resolveSegments_join (resolved : Resolved rooted segments.reverse) :
    resolveSegments rooted (Text.split '/' (Text.join '/' segments)) = segments := by
  by_cases listed : segments = []
  · subst listed
    simp [Text.join, Text.split, resolveSegments, pushSegment]
  · have plain : ∀ segment ∈ segments, '/' ∉ segment := fun segment member =>
      (resolved.filled (List.mem_reverse.mpr member)).2
    have kept := resolved.foldl_eq
    rw [List.reverse_reverse] at kept
    rw [Text.split_join listed plain, resolveSegments, kept, List.reverse_reverse]

/-! ## Prefixes -/

def Single (text : List Char) : Prop := ¬['/', '/'] <:+: text

theorem Single.cons {c : Char} {text : List Char} (single : Single text) (other : c ≠ '/') : Single (c :: text) := by
  intro inside
  rcases List.infix_cons_iff.mp inside with starts | later
  · exact other (List.cons_prefix_cons.mp starts).1.symm
  · exact single later

theorem Single.slash {c : Char} {text : List Char} (single : Single (c :: text)) (other : c ≠ '/') :
    Single ('/' :: c :: text) := by
  intro inside
  rcases List.infix_cons_iff.mp inside with starts | later
  · exact other (List.cons_prefix_cons.mp (List.cons_prefix_cons.mp starts).2).1.symm
  · exact single later

theorem Single.append {piece rest : List Char} (single : Single rest) (plain : '/' ∉ piece) : Single (piece ++ rest) := by
  induction piece with
  | nil => exact single
  | cons c piece ih =>
      have other : c ≠ '/' := fun same => plain (same ▸ List.mem_cons_self)
      exact (ih fun member => plain (List.mem_cons_of_mem _ member)).cons other

/-- Segments put together again keep their slashes apart. -/
theorem single_join (filled : ∀ segment ∈ segments, segment ≠ [] ∧ '/' ∉ segment) :
    Single ('/' :: Text.join '/' segments) := by
  induction segments with
  | nil =>
      intro inside
      have short := inside.length_le
      simp [Text.join] at short
  | cons segment rest ih =>
      obtain ⟨full, plain⟩ := filled segment List.mem_cons_self
      have later := ih fun other member => filled other (List.mem_cons_of_mem _ member)
      obtain ⟨c, others, rfl⟩ := List.exists_cons_of_ne_nil full
      have other : c ≠ '/' := fun same => plain (same ▸ List.mem_cons_self)
      cases rest with
      | nil =>
          have empty : Single [] := fun inside => by simpa using inside.length_le
          have alone := empty.append plain
          rw [List.append_nil] at alone
          exact alone.slash other
      | cons next more => exact (later.append plain).slash other

theorem cutAt?_of_single {text : List Char} (single : Single text) : Text.cutAt? "://".toList text = none := by
  rcases found : Text.cutAt? "://".toList text with _ | cut
  · rfl
  · have contained : Text.contains "://".toList text = true := by rw [Text.contains, found]; rfl
    have inside := (Text.contains_iff_isInfix _ _).mp contained
    exact absurd ((List.suffix_cons ':' ['/', '/']).isInfix.trans inside) single

theorem parts?_slash {path : List Char} (single : Single ('/' :: path)) : parts? ('/' :: path) = some ⟨['/'], path⟩ := by
  unfold parts?
  rw [cutAt?_of_single single]
  rfl

theorem parts?_bare {text : List Char} (single : Single text) (bare : ∀ path, text ≠ '/' :: path) :
    parts? text = some ⟨[], text⟩ := by
  unfold parts?
  rw [cutAt?_of_single single]
  split
  next absurd => cases absurd
  next =>
    split
    next path => exact absurd rfl (bare path)
    next => rfl

theorem join_ne_slash (filled : ∀ segment ∈ segments, segment ≠ [] ∧ '/' ∉ segment) (path : List Char) :
    Text.join '/' segments ≠ '/' :: path := by
  intro same
  cases segments with
  | nil => cases same
  | cons segment rest =>
      obtain ⟨full, plain⟩ := filled segment List.mem_cons_self
      obtain ⟨c, others, rfl⟩ := List.exists_cons_of_ne_nil full
      have start : c = '/' := by
        cases rest with
        | nil => exact (List.cons.inj same).1
        | cons next more => exact (List.cons.inj same).1
      exact plain (start ▸ List.mem_cons_self)

/-- The prefix of an address with resolved segments is found again. -/
theorem parts?_join {text : List Char} {parts : Parts} (cut : parts? text = some parts)
    (filled : ∀ segment ∈ segments, segment ≠ [] ∧ '/' ∉ segment) :
    parts? (parts.root ++ Text.join '/' segments) = some ⟨parts.root, Text.join '/' segments⟩ := by
  have single := single_join filled
  unfold parts? at cut
  split at cut
  next scheme after found =>
    dsimp only at cut
    split at cut
    next => cases cut
    next slash path rest =>
      cases cut
      have again := Text.cutAt?_congr found (by decide) (after.takeWhile (· ≠ '/') ++ '/' :: Text.join '/' segments)
      have kept : ∀ c ∈ after.takeWhile (· ≠ '/'), decide (c ≠ '/') = true := by
        intro c member
        simpa using List.mem_takeWhile_imp member
      have spelled : scheme ++ "://".toList ++ after.takeWhile (· ≠ '/') ++ ['/'] ++ Text.join '/' segments =
          scheme ++ "://".toList ++ (after.takeWhile (· ≠ '/') ++ '/' :: Text.join '/' segments) := by simp
      dsimp only
      rw [spelled]
      unfold parts?
      rw [again]
      dsimp only
      rw [List.takeWhile_append_of_pos kept, List.dropWhile_append_of_pos kept]
      simp
  next =>
    split at cut
    next path =>
      cases cut
      exact parts?_slash single
    next path other =>
      cases cut
      exact parts?_bare (fun inside => single (List.infix_cons inside)) (join_ne_slash filled)

/-! ## Canonical addresses -/

theorem normalizeChars_normalizeChars (text : List Char) : normalizeChars (normalizeChars text) = normalizeChars text := by
  rcases cut : parts? text with _ | parts
  · have kept : normalizeChars text = text := by rw [normalizeChars, cut]
    rw [kept, kept]
  · have resolved := resolved_resolveSegments (parts.root ≠ []) parts.path
    have spelled : normalizeChars text = parts.root ++
        Text.join '/' (resolveSegments (parts.root ≠ []) (Text.split '/' parts.path)) := by
      rw [normalizeChars, cut]
    have again := parts?_join cut fun segment member => resolved.filled (List.mem_reverse.mpr member)
    rw [spelled, normalizeChars, again]
    dsimp only
    rw [resolveSegments_join resolved]

theorem normalize_normalize (path : String) : normalize (normalize path) = normalize path := by
  rw [normalize, normalize, String.toList_ofList, normalizeChars_normalizeChars]

theorem normalize_join (base : String) {reference : String} (names : reference ≠ "") :
    normalize (join base reference) = join base reference := by
  rw [join, if_neg names]
  split
  next => exact normalize_normalize reference
  next => rw [normalize, String.toList_ofList, normalizeChars_normalizeChars]

end Url

end ApiContract
