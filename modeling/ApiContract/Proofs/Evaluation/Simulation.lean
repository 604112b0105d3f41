import ApiContract.Proofs.Evaluation.Renaming

/-!
The simulation behind renamed tables: answers, failures and marks of one visit are matched by those of
the corresponding visit (`visit_renamed`). Consequences for a single table: a visit that was answered
is answered alike with more fuel, it keeps the marks that were there, and failures stay below its place.
-/

namespace ApiContract.Validator

open Json (Value)

variable {rel : Nat → Nat → Prop} {path other : String}

/-- The marks at and below two paths correspond. -/
structure Agrees (rel : Nat → Nat → Prop) (path other : String) (guard moved : Guard) : Prop where
  marks : ∀ {index renamed rest}, rel index renamed → Tail rest →
    ((index, path ++ rest) ∈ guard.marks ↔ (renamed, other ++ rest) ∈ moved.marks)

/-- Both sides have made corresponding marks, at and below two paths. -/
structure Marked (rel : Nat → Nat → Prop) (path other : String) (before movedBefore after movedAfter : Guard)
    (made : List (Nat × Nat × String)) : Prop where
  corresponds : ∀ mark ∈ made, rel mark.1 mark.2.1 ∧ Tail mark.2.2
  gains : before.Gains after (made.map fun mark => (mark.1, path ++ mark.2.2))
  moved : movedBefore.Gains movedAfter (made.map fun mark => (mark.2.1, other ++ mark.2.2))

def Grown (rel : Nat → Nat → Prop) (path other : String) (before movedBefore after movedAfter : Guard) :
    Prop :=
  ∃ made, Marked rel path other before movedBefore after movedAfter made

theorem Agrees.widen {guard moved : Guard} (agrees : Agrees rel path other guard moved) {rest : String}
    (tail : Tail rest) : Agrees rel (path ++ rest) (other ++ rest) guard moved := by
  constructor
  intro index renamed suffix related suffixTail
  rw [String.append_assoc, String.append_assoc]
  exact agrees.marks related (tail.append suffixTail)

namespace Grown

variable {before movedBefore middle movedMiddle after movedAfter : Guard}

theorem refl (before movedBefore : Guard) : Grown rel path other before movedBefore before movedBefore :=
  ⟨[], by simp, .refl before, .refl movedBefore⟩

theorem trans (first : Grown rel path other before movedBefore middle movedMiddle)
    (second : Grown rel path other middle movedMiddle after movedAfter) :
    Grown rel path other before movedBefore after movedAfter := by
  obtain ⟨made, marked⟩ := first
  obtain ⟨later, markedLater⟩ := second
  refine ⟨later ++ made, ?_, ?_, ?_⟩
  · intro mark member
    rcases List.mem_append.mp member with new | old
    · exact markedLater.corresponds mark new
    · exact marked.corresponds mark old
  · rw [List.map_append]
    exact marked.gains.trans markedLater.gains
  · rw [List.map_append]
    exact marked.moved.trans markedLater.moved

theorem widen {rest : String} (tail : Tail rest)
    (grown : Grown rel (path ++ rest) (other ++ rest) before movedBefore after movedAfter) :
    Grown rel path other before movedBefore after movedAfter := by
  obtain ⟨made, marked⟩ := grown
  refine ⟨made.map fun mark => (mark.1, mark.2.1, rest ++ mark.2.2), ?_, ?_, ?_⟩
  · intro mark member
    obtain ⟨inner, innerMember, rfl⟩ := List.mem_map.mp member
    obtain ⟨related, innerTail⟩ := marked.corresponds inner innerMember
    exact ⟨related, tail.append innerTail⟩
  · simpa [Function.comp_def, String.append_assoc] using marked.gains
  · simpa [Function.comp_def, String.append_assoc] using marked.moved

theorem enter {index renamed : Nat} (related : rel index renamed) (fresh : (index, path) ∉ before.marks)
    (freshToo : (renamed, other) ∉ movedBefore.marks) :
    Grown rel path other before movedBefore (before.enter (index, path))
      (movedBefore.enter (renamed, other)) := by
  refine ⟨[(index, renamed, "")], by simpa using ⟨related, Tail.empty⟩, ?_, ?_⟩
  · simpa using Guard.Gains.enter fresh
  · simpa using Guard.Gains.enter freshToo

theorem release (grown : Grown rel path other before movedBefore after movedAfter) :
    after.release before.size = before ∧ movedAfter.release movedBefore.size = movedBefore := by
  obtain ⟨made, marked⟩ := grown
  exact ⟨marked.gains.release, marked.moved.release⟩

theorem agrees {left right : Array Clause} (renames : Renames rel left right)
    (grown : Grown rel path other before movedBefore after movedAfter)
    (agrees : Agrees rel path other before movedBefore) : Agrees rel path other after movedAfter := by
  obtain ⟨made, marked⟩ := grown
  constructor
  intro index renamed rest related tail
  have matched : (index, path ++ rest) ∈ made.map (fun mark => (mark.1, path ++ mark.2.2)) ↔
      (renamed, other ++ rest) ∈ made.map (fun mark => (mark.2.1, other ++ mark.2.2)) := by
    simp only [List.mem_map, Prod.mk.injEq]
    constructor
    · rintro ⟨mark, member, rfl, suffix⟩
      obtain rfl := append_right_inj path suffix
      exact ⟨mark, member, renames.forward (marked.corresponds mark member).1 related, rfl⟩
    · rintro ⟨mark, member, rfl, suffix⟩
      obtain rfl := append_right_inj other suffix
      exact ⟨mark, member, renames.backward (marked.corresponds mark member).1 related, rfl⟩
  rw [marked.gains.marks, marked.moved.marks, List.mem_append, List.mem_append, matched, agrees.marks related tail]

end Grown

/-- What a run answers is matched by a run on the other side. -/
def Matches (rel : Nat → Nat → Prop) (path other : String) (before movedBefore : Guard)
    (failures : List Failure) (after : Guard) (run : List Failure → Guard → Prop) : Prop :=
  ∃ moved movedAfter, run moved movedAfter ∧ AllMoved path other failures moved ∧
    Grown rel path other before movedBefore after movedAfter

/-- Every answered visit is matched by the visit of the corresponding clause. -/
structure Simulates (rel : Nat → Nat → Prop) (visit renamed : Visit) : Prop where
  matched : ∀ {index counterpart value path other before movedBefore failures after}, rel index counterpart →
    Agrees rel path other before movedBefore →
    (visit index value path).run before = some (failures, after) →
    Matches rel path other before movedBefore failures after fun moved movedAfter =>
      (renamed counterpart value other).run movedBefore = some (moved, movedAfter)

theorem threaded_simulates {left right : Array Clause} (renames : Renames rel left right)
    {α β : Type} {related : α → β → Prop}
    (step : α → Guard → List Failure → Guard → Prop) (movedStep : β → Guard → List Failure → Guard → Prop)
    (stepwise : ∀ {item counterpart before movedBefore failures after}, related item counterpart →
      Agrees rel path other before movedBefore → step item before failures after →
      Matches rel path other before movedBefore failures after fun moved movedAfter =>
        movedStep counterpart movedBefore moved movedAfter)
    {items : List α} {counterparts : List β} (alike : List.Forall₂ related items counterparts)
    {before movedBefore after : Guard} {results : List (List Failure)}
    (agrees : Agrees rel path other before movedBefore) (run : Threaded step items before results after) :
    ∃ moved movedAfter, Threaded movedStep counterparts movedBefore moved movedAfter ∧
      List.Forall₂ (AllMoved path other) results moved ∧
      Grown rel path other before movedBefore after movedAfter := by
  induction alike generalizing before movedBefore results with
  | nil =>
      cases run
      exact ⟨[], movedBefore, .nil, .nil, .refl _ _⟩
  | cons head _ ih =>
      rcases run with _ | ⟨first, rest⟩
      obtain ⟨moved, middle, ran, firstMoved, grown⟩ := stepwise head agrees first
      obtain ⟨later, last, restRan, laterMoved, grownLater⟩ := ih (grown.agrees renames agrees) rest
      exact ⟨moved :: later, last, .cons ran restRan, .cons firstMoved laterMoved, grown.trans grownLater⟩

theorem eq_nil_iff_of_alike {α β : Type} {related : α → β → Prop} {left : List α} {right : List β}
    (alike : List.Forall₂ related left right) : left = [] ↔ right = [] := by
  cases alike <;> simp

theorem branch_simulates {first : Visiting (List Failure)} {second : Visiting (List Failure)}
    {before movedBefore : Guard} {failures : List Failure} {after : Guard}
    (matched : ∀ {failures after}, first.run before = some (failures, after) →
      Matches rel path other before movedBefore failures after fun moved movedAfter =>
        second.run movedBefore = some (moved, movedAfter))
    (ran : (branch first).run before = some (failures, after)) :
    Matches rel path other before movedBefore failures after fun moved movedAfter =>
      (branch second).run movedBefore = some (moved, movedAfter) := by
  obtain ⟨middle, inner, rfl⟩ := (branch_run_iff _ _ _ _).mp ran
  obtain ⟨moved, movedMiddle, innerRan, allMoved, grown⟩ := matched inner
  by_cases passed : failures = []
  · refine ⟨moved, movedMiddle, (branch_run_iff _ _ _ _).mpr ⟨movedMiddle, innerRan, ?_⟩, allMoved, ?_⟩
    · rw [if_pos (allMoved.eq_nil_iff.mp passed)]
    · rw [if_pos passed]
      exact grown
  · refine ⟨moved, movedBefore, (branch_run_iff _ _ _ _).mpr ⟨movedMiddle, innerRan, ?_⟩, allMoved, ?_⟩
    · rw [if_neg (mt allMoved.eq_nil_iff.mpr passed), grown.release.2]
    · rw [if_neg passed, grown.release.1]
      exact .refl _ _

section

variable {left right : Array Clause} {direction : Direction} {visit renamed : Visit} {value : Value}

theorem firstPassing_simulates (renames : Renames rel left right) (simulates : Simulates rel visit renamed)
    (value : Value)
    {branches counterparts : List Nat} (alike : List.Forall₂ rel branches counterparts)
    {before movedBefore : Guard} {outcome : Option (List Failure)} {after : Guard}
    (agrees : Agrees rel path other before movedBefore)
    (ran : (firstPassing (fun index => visit index value path) branches).run before =
      some (outcome, after)) :
    ∃ moved movedAfter,
      (firstPassing (fun index => renamed index value other) counterparts).run movedBefore =
        some (moved, movedAfter) ∧
      Option.Rel (AllMoved path other) outcome moved ∧
      Grown rel path other before movedBefore after movedAfter := by
  induction alike generalizing before movedBefore outcome with
  | nil =>
      obtain ⟨rfl, rfl⟩ := (firstPassing_nil_run_iff _ _ _ _).mp ran
      exact ⟨some [], movedBefore, (firstPassing_nil_run_iff _ _ _ _).mpr ⟨rfl, rfl⟩, .some .nil, .refl _ _⟩
  | cons head _ ih =>
      have branchwise {failures : List Failure} {after : Guard}
          (ran : (branch (visit _ value path)).run before = some (failures, after)) :=
        branch_simulates (simulates.matched head agrees) ran
      rcases (firstPassing_cons_run_iff _ _ _ _ _ _).mp ran with
        ⟨passed, rfl⟩ | ⟨failures, middle, later, failed, first, rest, rfl⟩
      · obtain ⟨moved, movedAfter, movedRan, allMoved, grown⟩ := branchwise passed
        cases allMoved
        exact ⟨none, movedAfter, (firstPassing_cons_run_iff _ _ _ _ _ _).mpr (.inl ⟨movedRan, rfl⟩), .none,
          grown⟩
      · obtain ⟨moved, movedMiddle, movedRan, allMoved, grown⟩ := branchwise first
        obtain ⟨movedLater, movedAfter, laterRan, laterMoved, grownLater⟩ :=
          ih (grown.agrees renames agrees) rest
        refine ⟨movedLater.map (moved ++ ·), movedAfter, (firstPassing_cons_run_iff _ _ _ _ _ _).mpr
          (.inr ⟨moved, movedMiddle, movedLater, mt allMoved.eq_nil_iff.mpr failed, movedRan, laterRan,
            rfl⟩), ?_, grown.trans grownLater⟩
        rcases Option.Rel.none_or_some laterMoved with ⟨rfl, rfl⟩ | ⟨_, _, rfl, rfl, all⟩
        · exact .none
        · exact .some (allMoved.append all)

namespace Clause

variable {clause counterpart : Clause}

theorem visitMember_simulates (alike : Alike rel clause counterpart)
    (simulates : Simulates rel visit renamed) (entry : String × Value) {before movedBefore : Guard}
    {failures : List Failure} {after : Guard} (agrees : Agrees rel path other before movedBefore)
    (ran : (clause.visitMember visit path entry).run before = some (failures, after)) :
    Matches rel path other before movedBefore failures after fun moved movedAfter =>
      (counterpart.visitMember renamed other entry).run movedBefore = some (moved, movedAfter) := by
  obtain ⟨key, value⟩ := entry
  have answer := (clause.visitMember_run_iff visit path key value _ _ _).mp ran
  unfold Matches
  simp only [counterpart.visitMember_run_iff]
  rcases Option.Rel.none_or_some (alike.clauseFor? key) with ⟨absent, otherAbsent⟩ | ⟨_, _, found, otherFound, related⟩
  · rw [absent] at answer
    obtain ⟨rfl, rfl⟩ := answer
    rw [otherAbsent]
    refine ⟨_, movedBefore, ⟨rfl, rfl⟩, ?_, .refl _ _⟩
    rw [← alike.forbids key]
    split
    · refine .cons ?_ .nil
      unfold additionalFailure
      rw [← alike.fail]
      exact clause.additionalFailure_moved key
    · exact .nil
  · rw [found, child_eq_append] at answer
    rw [otherFound, child_eq_append]
    have tail := Tail.segment (Pointer.escape key)
    obtain ⟨moved, movedAfter, movedRan, allMoved, grown⟩ :=
      simulates.matched related (agrees.widen tail) answer
    exact ⟨moved, movedAfter, movedRan, allMoved.imp fun _ _ => Moved.widen tail, grown.widen tail⟩

theorem entered_simulates (renames : Renames rel left right) (alike : Alike rel clause counterpart)
    (simulates : Simulates rel visit renamed) {before movedBefore : Guard} {failures : List Failure}
    {after : Guard} (agrees : Agrees rel path other before movedBefore)
    (entered : Entered clause visit path value before failures after) :
    Matches rel path other before movedBefore failures after fun moved movedAfter =>
      Entered counterpart renamed other value movedBefore moved movedAfter := by
  cases entered with
  | object run =>
      obtain ⟨moved, movedAfter, movedRun, allMoved, grown⟩ := threaded_simulates renames
        (fun entry before result after =>
          (clause.visitMember visit path entry).run before = some (result, after))
        (fun entry before result after =>
          (counterpart.visitMember renamed other entry).run before = some (result, after))
        (fun {item _ _ _ _ _} same agrees ran => same ▸ visitMember_simulates alike simulates item agrees ran)
        (List.forall₂_same.mpr fun _ _ => rfl) agrees run
      exact ⟨_, movedAfter, .object movedRun, .flatten allMoved, grown⟩
  | array asked run =>
      rcases Option.Rel.none_or_some alike.items with ⟨absent, _⟩ | ⟨_, counterpart, found, otherAsked, related⟩
      · rw [absent] at asked
        contradiction
      · cases asked.symm.trans found
        obtain ⟨moved, movedAfter, movedRun, allMoved, grown⟩ := threaded_simulates renames
          (fun (item : Value × Nat) before result after =>
            (visit _ item.1 (Pointer.item path item.2)).run before = some (result, after))
          (fun (item : Value × Nat) before result after =>
            (renamed counterpart item.1 (Pointer.item other item.2)).run before = some (result, after))
          (fun {item _ before movedBefore failures after} same agrees ran => by
            subst same
            rw [item_eq_append] at ran ⊢
            have tail := Tail.segment (Nat.repr item.2)
            obtain ⟨moved, movedAfter, movedRan, allMoved, grown⟩ :=
              simulates.matched related (agrees.widen tail) ran
            exact ⟨moved, movedAfter, movedRan, allMoved.imp fun _ _ => Moved.widen tail,
              grown.widen tail⟩)
          (List.forall₂_same.mpr fun _ _ => rfl) agrees run
        exact ⟨_, movedAfter, .array otherAsked movedRun, .flatten allMoved, grown⟩
  | unlooked noObject noItems =>
      refine ⟨[], movedBefore, .unlooked noObject fun isArray => ?_, .nil, .refl _ _⟩
      rcases Option.Rel.none_or_some alike.items with ⟨_, otherAbsent⟩ | ⟨_, _, found, _, _⟩
      · exact otherAbsent
      · rw [noItems isArray] at found
        contradiction

theorem visitAnyOf_simulates (renames : Renames rel left right) (alike : Alike rel clause counterpart)
    (simulates : Simulates rel visit renamed) {before movedBefore : Guard} {failures : List Failure}
    {after : Guard} (agrees : Agrees rel path other before movedBefore)
    (ran : (clause.visitAnyOf visit value path).run before = some (failures, after)) :
    Matches rel path other before movedBefore failures after fun moved movedAfter =>
      (counterpart.visitAnyOf renamed value other).run movedBefore = some (moved, movedAfter) := by
  have empty := eq_nil_iff_of_alike alike.anyOf
  rcases (visitAnyOf_run_iff _ _ _ _ _ _ _).mp ran with ⟨unasked, rfl, rfl⟩ | ⟨asked, outcome, tried, rfl⟩
  · exact ⟨[], movedBefore, (visitAnyOf_run_iff _ _ _ _ _ _ _).mpr (.inl ⟨empty.mp unasked, rfl, rfl⟩),
      .nil, .refl _ _⟩
  · obtain ⟨moved, movedAfter, movedRan, outcomes, grown⟩ :=
      firstPassing_simulates renames simulates value alike.anyOf agrees tried
    refine ⟨_, movedAfter, (visitAnyOf_run_iff _ _ _ _ _ _ _).mpr
      (.inr ⟨mt empty.mpr asked, moved, movedRan, rfl⟩), ?_, grown⟩
    rcases Option.Rel.none_or_some outcomes with ⟨rfl, rfl⟩ | ⟨found, movedFound, rfl, rfl, all⟩
    · exact .nil
    · refine all.append (.cons ?_ .nil)
      rw [← alike.fail]
      exact clause.fail_here_moved _ _ _

theorem visitOneOf_simulates (renames : Renames rel left right) (alike : Alike rel clause counterpart)
    (simulates : Simulates rel visit renamed) {before movedBefore : Guard} {failures : List Failure}
    {after : Guard} (agrees : Agrees rel path other before movedBefore)
    (ran : (clause.visitOneOf visit value path).run before = some (failures, after)) :
    Matches rel path other before movedBefore failures after fun moved movedAfter =>
      (counterpart.visitOneOf renamed value other).run movedBefore = some (moved, movedAfter) := by
  have empty := eq_nil_iff_of_alike alike.oneOf
  rcases (visitOneOf_run_iff _ _ _ _ _ _ _).mp ran with ⟨unasked, rfl, rfl⟩ | ⟨asked, outcomes, tried, rfl⟩
  · exact ⟨[], movedBefore, (visitOneOf_run_iff _ _ _ _ _ _ _).mpr (.inl ⟨empty.mp unasked, rfl, rfl⟩),
      .nil, .refl _ _⟩
  · obtain ⟨moved, movedAfter, movedRun, allMoved, grown⟩ := threaded_simulates renames
      (fun index before result after =>
        (branch (visit index value path)).run before = some (result, after))
      (fun index before result after =>
        (branch (renamed index value other)).run before = some (result, after))
      (fun related agrees ran => branch_simulates (simulates.matched related agrees) ran)
      alike.oneOf agrees tried
    refine ⟨_, movedAfter, (visitOneOf_run_iff _ _ _ _ _ _ _).mpr
      (.inr ⟨mt empty.mpr asked, moved, movedRun, rfl⟩), ?_, grown⟩
    rw [← alike.same (·.oneOfFailures other _) fun _ => rfl]
    exact clause.oneOfFailures_moved allMoved

theorem closureFailures_alike {chosen chosenCounterpart : Clause} (alike : Alike rel clause counterpart)
    (chosenAlike : Alike rel chosen chosenCounterpart) (entries : Assoc Value) (path : String) :
    clause.closureFailures chosen entries path =
      counterpart.closureFailures chosenCounterpart entries path := by
  have undeclared {left right : Clause} (alike : Alike rel left right) :
      left.undeclared.isSome = right.undeclared.isSome := by
    rcases Option.Rel.none_or_some alike.undeclared with ⟨absent, otherAbsent⟩ | ⟨_, _, found, otherFound, _⟩
    · rw [absent, otherAbsent]
    · rw [found, otherFound, Option.isSome_some, Option.isSome_some]
  have declares : (clause.properties.getD []).isEmpty = (counterpart.properties.getD []).isEmpty := by
    rcases Option.Rel.none_or_some alike.properties with ⟨absent, otherAbsent⟩ | ⟨_, _, found, otherFound, entries⟩
    · rw [absent, otherAbsent]
    · rw [found, otherFound, Bool.eq_iff_iff]
      simpa using eq_nil_iff_of_alike entries
  unfold closureFailures
  rcases Option.Rel.none_or_some chosenAlike.properties with
    ⟨absent, otherAbsent⟩ | ⟨declared, otherDeclared, found, otherFound, table⟩
  · rw [absent, otherAbsent]
  · have known (key : String) : Assoc.contains declared key = Assoc.contains otherDeclared key := by
      unfold Assoc.contains
      rcases Option.Rel.none_or_some (find?_alike table key) with ⟨absent, otherAbsent⟩ | ⟨_, _, found, otherFound, _⟩
      · rw [absent, otherAbsent]
      · rw [found, otherFound, Option.isSome_some, Option.isSome_some]
    rw [found, otherFound]
    simp only [undeclared chosenAlike, undeclared alike, declares, known, additionalFailure,
      alike.fail]

theorem routed_simulates (renames : Renames rel left right) (alike : Alike rel clause counterpart)
    (simulates : Simulates rel visit renamed) {index twin : Nat} (related : rel index twin)
    {before movedBefore : Guard} {failures : List Failure} {after : Guard}
    (agrees : Agrees rel path other before movedBefore)
    (routed : Routed clause left visit index path value before failures after) :
    Matches rel path other before movedBefore failures after fun moved movedAfter =>
      Routed counterpart right renamed twin other value movedBefore moved movedAfter := by
  have seen : (index, path) ∈ before.marks ↔ (twin, other) ∈ movedBefore.marks := by
    simpa using agrees.marks related .empty
  cases routed with
  | idle unrouted =>
      refine ⟨[], movedBefore, .idle ?_, .nil, .refl _ _⟩
      rcases unrouted with unrouted | noObject
      · rcases Option.Rel.none_or_some alike.dispatch with ⟨_, absent⟩ | ⟨_, _, found, _⟩
        · exact .inl absent
        · rw [unrouted] at found
          contradiction
      · exact .inr noObject
  | again routes marked =>
      obtain ⟨_, found, _⟩ := (routes ▸ alike.dispatch).exists_right
      exact ⟨[], movedBefore, .again found (seen.mp marked), .nil, .refl _ _⟩
  | @variant dispatch entries _ chosen failures _ routes fresh leads ran =>
      obtain ⟨twinDispatch, otherFound, same, variants⟩ := (routes ▸ alike.dispatch).exists_right
      obtain ⟨twinChosen, otherChosen, chosenRelated⟩ := (leads ▸ Alike.variant? same variants entries).exists_right
      have entered : Grown rel path other before movedBefore _ _ := .enter related fresh (mt seen.mpr fresh)
      obtain ⟨moved, movedAfter, movedRan, allMoved, grown⟩ :=
        simulates.matched chosenRelated (entered.agrees renames agrees) ran
      refine ⟨_, movedAfter, .variant otherFound (mt seen.mpr fresh) otherChosen movedRan, allMoved.append ?_,
        entered.trans grown⟩
      rw [← closureFailures_alike alike (renames.alike chosenRelated)]
      exact clause.closureFailures_moved _ _
  | @lenient dispatch entries _ routes fresh leads =>
      obtain ⟨twinDispatch, otherFound, same, variants⟩ := (routes ▸ alike.dispatch).exists_right
      rcases Option.Rel.none_or_some (Alike.variant? same variants entries) with
        ⟨_, otherAbsent⟩ | ⟨_, _, foundChosen, _, _⟩
      · refine ⟨_, _, .lenient otherFound (mt seen.mpr fresh) otherAbsent, ?_,
          .enter related fresh (mt seen.mpr fresh)⟩
        rw [← closureFailures_alike alike alike]
        exact clause.closureFailures_moved _ _
      · cases leads.symm.trans foundChosen

theorem insideFailures_simulates (renames : Renames rel left right) (alike : Alike rel clause counterpart)
    {visited movedVisited : List Failure} (moved : AllMoved path other visited movedVisited) :
    AllMoved path other (clause.insideFailures left direction value path visited)
      (counterpart.insideFailures right direction value other movedVisited) := by
  have required : clause.required = counterpart.required := alike.same Clause.required fun _ => rfl
  have dependencies : clause.dependencies = counterpart.dependencies :=
    alike.same Clause.dependencies fun _ => rfl
  have uniqueItems : clause.uniqueItems = counterpart.uniqueItems :=
    alike.same Clause.uniqueItems fun _ => rfl
  have unreadable (key : String) :
      ((clause.property? key).any fun child => (left.getD child {}).access.unreadable) =
        (counterpart.property? key).any fun child => (right.getD child {}).access.unreadable := by
    rcases Option.Rel.none_or_some (alike.property? key) with ⟨absent, otherAbsent⟩ | ⟨_, _, found, otherFound, related⟩
    · rw [absent, otherAbsent]
      rfl
    · rw [found, otherFound]
      exact (renames.alike related).same (·.access.unreadable) fun _ => rfl
  cases value with
  | object entries =>
      simp only [insideFailures]
      refine AllMoved.append (AllMoved.append ?_ ?_) moved
      · simp only [requiredFailures, required, unreadable, ← alike.fail, child_eq_append]
        exact AllMoved.map fun key _ => clause.fail_moved _ _ (.segment _) _
      · simp only [dependencyFailures, dependencies, ← alike.fail]
        rw [List.flatMap_def, List.flatMap_def]
        apply AllMoved.flatten
        rw [List.forall₂_map_left_iff, List.forall₂_map_right_iff, List.forall₂_same]
        intro rule _
        exact AllMoved.map fun name _ => clause.fail_here_moved _ _ _
  | array items =>
      simp only [insideFailures, uniqueFailures, uniqueItems, ← alike.fail]
      refine AllMoved.append moved ?_
      split
      · split
        · exact .cons (clause.fail_here_moved _ _ _) .nil
        · exact .nil
      · exact .nil
  | null | bool flag | number n | string text => exact moved

end Clause

end

/-- Corresponding clauses of corresponding tables answer alike, also with more fuel. -/
theorem visit_renamed {left right : Array Clause} (renames : Renames rel left right) (direction : Direction)
    (fuel : Nat) : ∀ more, fuel ≤ more →
      Simulates rel (visit left direction fuel) (visit right direction more) := by
  induction fuel with
  | zero =>
      intro more _
      exact ⟨fun _ _ ran => nomatch ran⟩
  | succ fuel ih =>
      intro more enough
      refine ⟨@fun index counterpart value path other before movedBefore failures after related agrees ran => ?_⟩
      obtain ⟨more, rfl⟩ : ∃ fewer, more = fewer + 1 := ⟨more - 1, by omega⟩
      have simulates : Simulates rel (visit left direction fuel) (visit right direction more) :=
        ih more (by omega)
      have alike := renames.alike related
      have answer := (visit_run_iff _ _ _ _ _ _ _ _ _).mp ran
      have nullable := alike.same (·.admitsNull value) fun _ => rfl
      have typed := alike.same (·.admitsType value) fun _ => rfl
      have denied : AllMoved path other ((left.getD index {}).denials direction value path)
          ((right.getD counterpart {}).denials direction value other) := by
        rw [← alike.same (·.denials direction value other) fun _ => rfl]
        exact (left.getD index {}).denials_moved direction value
      unfold Matches
      simp only [visit_run_iff]
      cases answer with
      | null isNull => exact ⟨[], movedBefore, .null (nullable ▸ isNull), .nil, .refl _ _⟩
      | mistyped notNull mistyped =>
          refine ⟨_, movedBefore, .mistyped (nullable ▸ notNull) (typed ▸ mistyped), denied.append ?_,
            .refl _ _⟩
          rw [← alike.same (·.mistypedFailures direction value other) fun _ => rfl]
          exact (left.getD index {}).mistypedFailures_moved direction value
      | examined notNull wellTyped entered allRan anyRan oneRan routed =>
          obtain ⟨visited, _, movedEntered, visitedMoved, grownInside⟩ :=
            Clause.entered_simulates renames alike simulates agrees entered
          have agreesInside := grownInside.agrees renames agrees
          obtain ⟨branches, _, movedBranches, branchesMoved, grownAll⟩ := threaded_simulates renames
            (fun branch before result after =>
              (visit left direction fuel branch value path).run before = some (result, after))
            (fun branch before result after =>
              (visit right direction more branch value other).run before = some (result, after))
            (fun related agrees ran => simulates.matched related agrees ran) alike.allOf agreesInside allRan
          have agreesAll := grownAll.agrees renames agreesInside
          obtain ⟨any, _, movedAny, anyMoved, grownAny⟩ :=
            Clause.visitAnyOf_simulates renames alike simulates agreesAll anyRan
          have agreesAny := grownAny.agrees renames agreesAll
          obtain ⟨one, _, movedOne, oneMoved, grownOne⟩ :=
            Clause.visitOneOf_simulates renames alike simulates agreesAny oneRan
          have agreesOne := grownOne.agrees renames agreesAny
          obtain ⟨route, movedAfter, movedRoute, routeMoved, grownRoute⟩ :=
            Clause.routed_simulates renames alike simulates related agreesOne routed
          refine ⟨_, movedAfter, .examined (nullable ▸ notNull) (typed ▸ wellTyped) movedEntered movedBranches
            movedAny movedOne movedRoute, ?_,
            (((grownInside.trans grownAll).trans grownAny).trans grownOne).trans grownRoute⟩
          refine AllMoved.append (AllMoved.append (AllMoved.append (AllMoved.append (AllMoved.append
            (denied.append ?_) ?_) (.flatten branchesMoved)) anyMoved) oneMoved) routeMoved
          · rw [← alike.same (·.scalarFailures value other) fun _ => rfl]
            exact (left.getD index {}).scalarFailures_moved value
          · exact Clause.insideFailures_simulates renames alike visitedMoved

/-! ## One table -/

theorem Moved.eq {failure moved : Failure} (moves : Moved path path failure moved) : failure = moved := by
  obtain ⟨rest, _, placed, movedPlaced⟩ := moves.below
  have paths : failure.path = moved.path := placed.trans movedPlaced.symm
  have messages := moves.message rfl
  cases failure
  cases moved
  cases moves.keyword
  cases moves.code
  cases moves.skip
  cases moves.source
  simp_all

theorem AllMoved.eq {failures moved : List Failure} (all : AllMoved path path failures moved) :
    failures = moved := by
  induction all with
  | nil => rfl
  | cons head _ ih => rw [head.eq, ih]

theorem Renames.self (clauses : Array Clause) : Renames Eq clauses clauses where
  alike := by
    rintro index _ rfl
    have same {α : Type} {related : α → α → Prop} (value : Option α)
        (reflexive : ∀ value, related value value) : Option.Rel related value value := by
      cases value with
      | none => exact .none
      | some value => exact .some (reflexive value)
    refine ⟨rfl, ?_, ?_, ?_, ?_, ?_, ?_, ?_⟩
    · exact same _ fun entries => List.forall₂_same.mpr fun _ _ => ⟨rfl, rfl⟩
    · refine same _ fun others => ?_
      cases others with
      | allowed flag => exact .allowed flag
      | clause index => exact .clause rfl
    · exact same _ fun _ => rfl
    · exact List.forall₂_same.mpr fun _ _ => rfl
    · exact List.forall₂_same.mpr fun _ _ => rfl
    · exact List.forall₂_same.mpr fun _ _ => rfl
    · exact same _ fun _ => ⟨rfl, fun _ => same _ fun _ => same _ fun _ => rfl⟩
  forward := by rintro _ _ _ rfl same; exact same
  backward := by rintro _ _ _ same rfl; exact same

theorem Agrees.self (path : String) (guard : Guard) : Agrees Eq path path guard guard := by
  constructor
  rintro index _ rest rfl _
  exact Iff.rfl

section

variable {clauses : Array Clause} {direction : Direction} {fuel index : Nat} {value : Value}
  {before after : Guard} {failures : List Failure}

theorem visit_run_mono {more : Nat} (enough : fuel ≤ more)
    (ran : (visit clauses direction fuel index value path).run before = some (failures, after)) :
    (visit clauses direction more index value path).run before = some (failures, after) := by
  obtain ⟨moved, movedAfter, movedRan, allMoved, made, marked⟩ :=
    (visit_renamed (.self clauses) direction fuel more enough).matched rfl (.self path before) ran
  have same : made.map (fun mark => (mark.2.1, path ++ mark.2.2)) = made.map fun mark => (mark.1, path ++ mark.2.2) := by
    apply List.map_congr_left
    intro mark member
    rw [(marked.corresponds mark member).1]
  have guards : movedAfter = after := by
    apply Guard.ext
    · rw [marked.gains.marks, marked.moved.marks, same]
    · rw [marked.gains.undo, marked.moved.undo, same]
  rw [movedRan, allMoved.eq, guards]

/-- A visit only makes marks, at and below its place. -/
theorem visit_run_gains
    (ran : (visit clauses direction fuel index value path).run before = some (failures, after)) :
    ∃ made, before.Gains after made ∧ ∀ mark ∈ made, ∃ rest, Tail rest ∧ mark.2 = path ++ rest := by
  obtain ⟨_, _, _, _, made, marked⟩ :=
    (visit_renamed (.self clauses) direction fuel fuel (Nat.le_refl fuel)).matched rfl (.self path before) ran
  refine ⟨_, marked.gains, ?_⟩
  intro mark member
  obtain ⟨inner, innerMember, rfl⟩ := List.mem_map.mp member
  exact ⟨inner.2.2, (marked.corresponds inner innerMember).2, rfl⟩

theorem visit_run_failures_below
    (ran : (visit clauses direction fuel index value path).run before = some (failures, after)) :
    ∀ failure ∈ failures, ∃ rest, Tail rest ∧ failure.path = path ++ rest := by
  obtain ⟨moved, _, _, allMoved, _⟩ :=
    (visit_renamed (.self clauses) direction fuel fuel (Nat.le_refl fuel)).matched rfl (.self path before) ran
  intro failure member
  have same := allMoved.eq
  subst same
  obtain ⟨rest, tail, placed, _⟩ := (List.forall₂_same.mp allMoved failure member).below
  exact ⟨rest, tail, placed⟩

end

end ApiContract.Validator
