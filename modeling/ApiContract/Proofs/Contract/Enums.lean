import ApiContract.Proofs.Compilation.Wrapper
import ApiContract.Proofs.Contract.Closure
import ApiContract.Proofs.Evaluation.Meaning

/-!
What enums say about values (`enum_told`). An enum that is marked as open admits values that it does not list, but not
those that it lists in another case (`listed_text_recased`).
-/

namespace ApiContract

open Json (Value)

/-! ## What is written -/

namespace Schema

variable {node : Node} {raw : Assoc Value}

/-- The keywords of the node are those of a schema object. -/
def Node.WrittenAs (node : Node) (raw : Assoc Value) : Prop :=
  node.bare = Reading.nodeOf node.source node.identity raw

def IsOpen (raw : Assoc Value) : Prop :=
  ∃ extension, (Value.object raw).find? "x-ms-enum" = some extension ∧ extension.boolAt? "modelAsString" = some true

namespace Node.WrittenAs

theorem typeName (written : node.WrittenAs raw) : node.typeName = (Value.object raw).stringAt? "type" :=
  congrArg Node.typeName written

theorem enumValues (written : node.WrittenAs raw) : node.enumValues = (Value.object raw).arrayAt? "enum" :=
  congrArg Node.enumValues written

theorem enumAsString_iff (written : node.WrittenAs raw) : node.enumAsString = true ↔ IsOpen raw := by
  have flag : node.enumAsString =
      (((Value.object raw).find? "x-ms-enum").map (·.flagAt "modelAsString")).getD false :=
    congrArg Node.enumAsString written
  rw [flag, IsOpen]
  rcases (Value.object raw).find? "x-ms-enum" with _ | extension
  · simp
  · rcases marked : extension.boolAt? "modelAsString" with _ | flag <;> simp [Value.flagAt, marked]

theorem identify (written : node.WrittenAs raw) (identity : Option String) :
    (if node.identity.isNone then { node with identity } else node).WrittenAs raw := by
  split
  · exact congrArg (fun bare : Node => { bare with identity }) written
  · exact written

theorem attach (written : node.WrittenAs raw) (attachment : Attachment) : (attachment.attach node).WrittenAs raw := by
  rw [Node.WrittenAs, Reading.bare_attach, Reading.source_attach, Reading.identity_attach]
  exact written

end Node.WrittenAs

namespace Reading

variable {catalog : Catalog} {id : Nat}

theorem Built.exists_raw (built : Built catalog) {kind : Kind} (member : id ∈ catalog.collections.ofKind kind) :
    ∃ raw, (catalog.graph.node id).WrittenAs raw := by
  -- A node is collected in the step that adds it; later steps name it or attach subschemas to it.
  induction built with
  | refl => cases kind <;> exact absurd member List.not_mem_nil
  | @tail before after reached step ih =>
      have old (member : id ∈ before.collections.ofKind kind) : id ≠ before.graph.size :=
        Nat.ne_of_lt (Built.ofKind reached member).1
      cases step with
      | placeholder =>
          rw [node_place_of_ne (old member)]
          exact ih member
      | @schema url pointer identity raw free =>
          rw [Catalog.collect]
          rcases mem_ofKind_add.mp member with earlier | ⟨_, rfl⟩
          · rw [node_place_of_ne (old earlier)]
            exact ih earlier
          · rw [node_place_self]
            exact ⟨raw, rfl⟩
      | @identify other identity =>
          obtain ⟨raw, written⟩ := ih member
          refine ⟨raw, ?_⟩
          rw [node_change]
          split
          · exact written.identify identity
          · exact written
      | @attach other attachment =>
          obtain ⟨raw, written⟩ := ih member
          refine ⟨raw, ?_⟩
          rw [node_change]
          split
          · exact written.attach attachment
          · exact written
      | spoil => exact ih member

theorem Signed.eq_of_source {graph : Graph} {other : Nat} (signed : Signed graph) (inside : id < graph.size)
    (insideToo : other < graph.size) (same : (graph.node id).source = (graph.node other).source) : id = other := by
  have found := (signed.located _ id).mpr ⟨inside, rfl⟩
  have foundToo := (signed.located _ other).mpr ⟨insideToo, congrArg SourceLocation.location same.symm⟩
  exact Option.some.inj (found.symm.trans foundToo)

end Reading

end Schema

/-! ## What is said of values -/

def IsListed (listed : List Value) (value : Value) : Prop := ∃ entry ∈ listed, entry.same value = true

/-- The value is a text, and one of the list but for the case of ASCII letters. -/
def IsRecased (listed : List Value) (value : Value) : Prop :=
  ∃ text other, value = .string text ∧ .string other ∈ listed ∧
    other.toList.map Char.toLower = text.toList.map Char.toLower

/-- The codes by which values are reported that do not fit an enum. -/
def enumCodes : List ErrorCode := [.enumCaseMismatch, .enumMismatch]

namespace Validator

variable {clauses : Array Clause} {clause : Clause} {direction : Direction} {value : Value} {path : String} {index fuel : Nat}
  {before after : Guard} {failure : Failure} {failures : List Failure} {listed : List Value}

namespace Clause

theorem mem_enumFailures_iff (enum : clause.enumValues = some listed) :
    failure ∈ clause.enumFailures value path ↔ ¬IsListed listed value ∧
      (IsRecased listed value ∧ failure = clause.fail .enum .enumCaseMismatch path (.data value) ∨
        ¬IsRecased listed value ∧ clause.enumAsString = false ∧
          failure = clause.fail .enum .enumMismatch path (.data value)) := by
  have known : (listed.any (·.same value)) = true ↔ IsListed listed value := List.any_eq_true
  have recased : (value.asString?.any fun text => (listed.filterMap Value.asString?).any (sameIgnoringCase · text)) = true ↔
      IsRecased listed value := by
    rw [otherCase_iff, IsRecased]
    simp only [sameIgnoringCase, beq_iff_eq]
  rw [enumFailures, enum]
  dsimp only
  by_cases here : IsListed listed value
  · simp [known.mpr here, here]
  · rw [if_neg (mt known.mp here)]
    by_cases other : IsRecased listed value
    · rw [if_pos (recased.mpr other)]
      simp [here, other]
    · rw [if_neg (mt recased.mp other)]
      cases clause.enumAsString <;> simp [here, other]

theorem exists_recased_iff (enum : clause.enumValues = some listed) :
    (∃ failure ∈ clause.enumFailures value path, failure.code = .enumCaseMismatch) ↔
      ¬IsListed listed value ∧ IsRecased listed value := by
  simp only [mem_enumFailures_iff enum]
  constructor
  · rintro ⟨_, ⟨unlisted, ⟨recased, rfl⟩ | ⟨_, _, rfl⟩⟩, code⟩
    · exact ⟨unlisted, recased⟩
    · cases code
  · rintro ⟨unlisted, recased⟩
    exact ⟨_, ⟨unlisted, .inl ⟨recased, rfl⟩⟩, rfl⟩

theorem exists_mismatch_iff (enum : clause.enumValues = some listed) :
    (∃ failure ∈ clause.enumFailures value path, failure.code = .enumMismatch) ↔
      clause.enumAsString = false ∧ ¬IsListed listed value ∧ ¬IsRecased listed value := by
  simp only [mem_enumFailures_iff enum]
  constructor
  · rintro ⟨_, ⟨unlisted, ⟨_, rfl⟩ | ⟨foreign, closed, rfl⟩⟩, code⟩
    · cases code
    · exact ⟨closed, unlisted, foreign⟩
  · rintro ⟨closed, unlisted, foreign⟩
    exact ⟨_, ⟨unlisted, .inr ⟨foreign, closed, rfl⟩⟩, rfl⟩

theorem mem_enumFailures_of_own (member : failure ∈ clause.ownFailures clauses direction value path)
    (code : failure.code ∈ enumCodes) :
    failure ∈ clause.enumFailures value path ∨ ∃ check ∈ clause.checks, failure.code = check.keyword.code := by
  -- All other failures of a clause about the value itself have other codes.
  have foreign {codes : List ErrorCode} (apart : ∀ code ∈ enumCodes, code ∉ codes) (among : failure.code ∈ codes) :
      False := apart _ code among
  simp only [ownFailures, scalarFailures, List.mem_append] at member
  rcases member with (((denied | mistyped) | ((listed | formatted) | checked)) | inside) | summed
  · exact (foreign (by decide) (mem_denials denied).2.2).elim
  · exact (foreign (by decide) (List.mem_singleton.mpr (mem_mistypedFailures mistyped).2.2)).elim
  · exact .inl listed
  · obtain ⟨_, rfl⟩ := mem_formatFailures formatted
    exact (foreign (by decide) (List.mem_singleton_self ErrorCode.invalidFormat)).elim
  · obtain ⟨check, among, rfl⟩ := List.mem_map.mp checked
    exact .inr ⟨check, (List.mem_filter.mp among).1, rfl⟩
  · rcases (mem_insideFailures_nil inside).2 with missing | ⟨_, codes⟩
    · exact (foreign (by decide) (List.mem_singleton.mpr missing)).elim
    · exact (foreign (by decide) codes).elim
  · have codes : failure.code ∈ [ErrorCode.anyOfMissing, .oneOfMissing, .oneOfMultiple] := by
      simp only [List.mem_cons, List.not_mem_nil, or_false] at summed
      rcases summed with rfl | rfl | rfl <;> simp
    exact (foreign (by decide) codes).elim

theorem admitsType_of_untyped (untyped : clause.typeName = none) : clause.admitsType value = true := by
  simp [admitsType, untyped]

theorem admitsType_congr {other : Clause} (same : clause.typeName = other.typeName) :
    clause.admitsType value = other.admitsType value := by
  unfold admitsType
  rw [same]

end Clause

theorem mem_of_scalarFailures
    (ran : (visit clauses direction fuel index value path).run before = some (failures, after))
    (asked : (clauses.getD index {}).admitsNull value = false) (typed : (clauses.getD index {}).admitsType value = true)
    (member : failure ∈ (clauses.getD index {}).scalarFailures value path) : failure ∈ failures := by
  cases fuel with
  | zero => cases ran
  | succ fuel =>
      cases (visit_run_iff _ _ _ _ _ _ _ _ _).mp ran with
      | null admitted => cases asked.symm.trans admitted
      | mistyped _ mistyped => cases typed.symm.trans mistyped
      | examined =>
          simp only [List.mem_append]
          exact .inl (.inl (.inl (.inl (.inl (.inr member)))))

variable {catalog : Schema.Catalog} {slot : Nat → Nat → Prop} {validator : Validator} {id target place : Nat}

theorem Mirror.enum_blame (mirror : Mirror catalog slot validator id) (placed : slot target place)
    (ran : (visit validator.clauses direction fuel place value path).run before = some (failures, after))
    (member : failure ∈ failures) (code : failure.code ∈ enumCodes) (here : failure.path = path) :
    ∃ schema index, Schema.Beside catalog.graph value target schema ∧ slot schema index ∧
      failure ∈ (validator.clauses.getD index {}).enumFailures value path := by
  obtain ⟨index, beside, said⟩ := visit_blame_here fuel ran member here
  obtain ⟨schema, placedSchema, besideSchema⟩ := mirror.beside placed beside
  refine ⟨schema, index, besideSchema, placedSchema, ?_⟩
  rcases Clause.mem_enumFailures_of_own said code with listed | ⟨check, among, same⟩
  · exact listed
  · have limits : ∀ keyword ∈ Check.limitKeywords, keyword.code ∉ enumCodes := by decide
    exact absurd (same ▸ code) (limits _ ((mirror.depicts placedSchema).keyword_mem among))

end Validator

/-! ## What is told -/

namespace Draft

open Schema Schema.Graph
open Validator (ofSchema validatorOf)

variable {documents : DocumentSet} {written tagged merged final : Draft} {id : Nat} {validator : Validator}

/-- A schema with that source reports the value as a whole. -/
def Reports (failures : List Failure) (source : SourceLocation) (code : ErrorCode) : Prop :=
  ∃ failure ∈ failures, failure.code = code ∧ failure.path = "" ∧ failure.source = source ∧ failure.skip = false

/-- The value is of the type that a schema object asks for. -/
def HasType (raw : Assoc Value) (value : Value) : Prop :=
  ({ typeName := (Value.object raw).stringAt? "type" } : Validator.Clause).admitsType value = true

/-- What a clause keeps of a schema as it is written. An object of which nothing else is said loses its type. -/
structure Keeps (node : Node) (clause : Validator.Clause) : Prop where
  source : clause.source = node.source
  skip : clause.skip = false
  typeName : clause.typeName = node.typeName ∨ clause.typeName = none
  enumValues : clause.enumValues = node.enumValues
  enumAsString : clause.enumAsString = node.enumAsString

namespace Stages

theorem keeps (stages : Stages documents written tagged merged final) (inside : id < merged.graph.size)
    {slot : Nat → Nat → Prop} {clause : Validator.Clause} (depicts : Validator.Depicts slot (final.graph.node id) clause) :
    Keeps (written.graph.node id) clause := by
  have merge := stages.merged_node id
  have ends := stages.last.ends id inside
  refine ⟨?_, ?_, ?_, ?_, ?_⟩
  · rw [depicts.source, stages.final_source inside, merge]
  · rw [depicts.skip, stages.final_skipErrors inside]
  · rw [depicts.typeName]
    rcases ends.typeName with same | ⟨loosened, _⟩
    · rw [same, merge]
      exact .inl rfl
    · exact .inr loosened
  · rw [depicts.enum.1, ends.apart, merge]
  · rw [depicts.enum.2, ends.apart, merge]

/-- A schema reports against its enum what its clause says, and no other schema does so in its name. -/
theorem reports_iff (stages : Stages documents written tagged merged final) (inside : id < merged.graph.size)
    {slot : Nat → Nat → Prop} (mirror : Validator.Mirror final.catalog slot validator id) {fuel : Nat}
    {direction : Direction} {value : Value} {failures : List Failure}
    (answered : validator.evaluateWithin fuel direction value = some failures)
    (asked : (validator.clauses.getD validator.root {}).admitsNull value = false)
    (typed : (validator.clauses.getD validator.root {}).admitsType value = true) {code : ErrorCode}
    (among : code ∈ enumCodes) :
    Reports failures (written.graph.node id).source code ↔
      ∃ failure ∈ (validator.clauses.getD validator.root {}).enumFailures value "", failure.code = code := by
  obtain ⟨after, ran⟩ := Validator.evaluateWithin_eq_some.mp answered
  constructor
  · rintro ⟨failure, member, rfl, here, source, _⟩
    obtain ⟨schema, index, beside, placed, said⟩ := mirror.enum_blame mirror.root ran member among here
    have insideToo := stages.beside_lt inside beside
    have keeps := stages.keeps insideToo (mirror.depicts placed)
    obtain ⟨_, _, same⟩ := Validator.Clause.mem_enumFailures said
    -- The sources of what was read tell the schemas apart.
    have own : schema = id := by
      apply stages.read.signed.eq_of_source (stages.size ▸ insideToo) (stages.size ▸ inside)
      rw [← keeps.source, ← source, same, Validator.Clause.fail_source]
    subst own
    obtain rfl := mirror.places placed mirror.root
    exact ⟨failure, said, rfl⟩
  · rintro ⟨failure, said, rfl⟩
    have keeps := stages.keeps inside (mirror.depicts mirror.root)
    have member := Validator.mem_of_scalarFailures ran asked typed
      (List.mem_append_left _ (List.mem_append_left _ said))
    obtain ⟨_, _, same⟩ := Validator.Clause.mem_enumFailures said
    refine ⟨failure, member, rfl, ?_, ?_, ?_⟩
    · rw [same, Validator.Clause.fail_path]
    · rw [same, Validator.Clause.fail_source, keeps.source]
    · rw [same, Validator.Clause.fail_skip, keeps.skip]

end Stages

/-- What a schema with an enum says about a value of its type that is no admitted null. A text that is listed in another
case is reported as such; any other value that is not listed is reported as not listed, unless the enum is open. -/
theorem enum_told (read : IsRead documents written) (finished : IsFinished documents final)
    (collected : id ∈ written.catalog.collections.listing) (compiled : ofSchema final.catalog id = .ok validator) :
    (∃ raw, (written.graph.node id).WrittenAs raw) ∧
      (∀ raw listed, (written.graph.node id).WrittenAs raw → (Value.object raw).arrayAt? "enum" = some listed →
        ∀ fuel direction value failures, validator.evaluateWithin fuel direction value = some failures →
          HasType raw value → ¬(value = .null ∧ (final.graph.node id).nullable = true) →
          (Reports failures (written.graph.node id).source .enumCaseMismatch ↔
            ¬IsListed listed value ∧ IsRecased listed value) ∧
          (Reports failures (written.graph.node id).source .enumMismatch ↔
            ¬IsOpen raw ∧ ¬IsListed listed value ∧ ¬IsRecased listed value) ∧
          (¬IsOpen raw → ((∀ code ∈ enumCodes, ¬Reports failures (written.graph.node id).source code) ↔
            IsListed listed value))) ∧
      (Validator.Acyclic validator.clauses → ∀ direction value, (validator.evaluate direction value).isSome = true) := by
  obtain ⟨writtenToo, tagged, merged, stages⟩ := finished.stages
  obtain rfl := read.unique stages.read
  obtain ⟨kind, member⟩ := Collections.mem_listing.mp collected
  have inside : id < merged.graph.size := stages.size ▸ (stages.built.ofKind member).1
  obtain ⟨slot, mirror⟩ := Validator.ofSchema_mirror compiled
  have depicts := mirror.depicts mirror.root
  have keeps := stages.keeps inside depicts
  refine ⟨stages.built.exists_raw member, ?_, fun acyclic => Validator.evaluate_isSome acyclic⟩
  intro raw listed spelled enum fuel direction value failures answered hasType notNull
  have asked : (validator.clauses.getD validator.root {}).admitsNull value = false := by
    rw [Validator.Clause.admitsNull, Bool.eq_false_iff]
    intro admitted
    obtain ⟨null, nullable⟩ := Bool.and_eq_true_iff.mp admitted
    rw [depicts.nullable] at nullable
    exact notNull ⟨Validator.eq_null_of_isNull null, nullable⟩
  have typed : (validator.clauses.getD validator.root {}).admitsType value = true := by
    rcases keeps.typeName with same | untyped
    · rw [← hasType]
      exact Validator.Clause.admitsType_congr (same.trans spelled.typeName)
    · exact Validator.Clause.admitsType_of_untyped untyped
  have values : (validator.clauses.getD validator.root {}).enumValues = some listed := by
    rw [keeps.enumValues, ← enum]
    exact spelled.enumValues
  have shut : (validator.clauses.getD validator.root {}).enumAsString = false ↔ ¬IsOpen raw := by
    rw [keeps.enumAsString, ← Bool.not_eq_true]
    exact not_congr spelled.enumAsString_iff
  have recased : Reports failures (written.graph.node id).source .enumCaseMismatch ↔
      ¬IsListed listed value ∧ IsRecased listed value := by
    rw [← Validator.Clause.exists_recased_iff values]
    exact stages.reports_iff inside mirror answered asked typed (by decide)
  have mismatch : Reports failures (written.graph.node id).source .enumMismatch ↔
      ¬IsOpen raw ∧ ¬IsListed listed value ∧ ¬IsRecased listed value := by
    rw [← shut, ← Validator.Clause.exists_mismatch_iff values]
    exact stages.reports_iff inside mirror answered asked typed (by decide)
  refine ⟨recased, mismatch, fun closed => ?_⟩
  simp only [enumCodes, List.forall_mem_cons, recased, mismatch]
  by_cases known : IsListed listed value
  · simp [known]
  · by_cases other : IsRecased listed value <;> simp [known, other, closed]

/-- Colors are listed, and so are paints, but there may be others of these. -/
def colorDocuments : DocumentSet := .ofDefinitions [
  ("Color", .object [("type", .string "string"), ("enum", .array [.string "Red", .string "Green"])]),
  ("Paint", .object [("type", .string "string"), ("enum", .array [.string "Red"]),
    ("x-ms-enum", .object [("name", .string "Paint"), ("modelAsString", .bool true)])])]

instance : Finishing colorDocuments :=
  ⟨by decide +kernel⟩

theorem hasType_string {node : Node} {raw : Assoc Value} (written : node.WrittenAs raw)
    (typed : node.typeName = some "string") (text : String) : HasType raw (.string text) := by
  rw [HasType, ← written.typeName, typed]
  rfl

theorem eq_texts {values : List Value} {texts : List String} (shown : values.map Value.asString? = texts.map some) :
    values = texts.map Value.string := by
  induction texts generalizing values with
  | nil => exact List.map_eq_nil_iff.mp shown
  | cons text rest ih =>
      obtain ⟨value, others, rfl, first, later⟩ := List.map_eq_cons_iff.mp shown
      cases value <;> cases first
      rw [List.map_cons, ← ih later]

theorem colors_read :
    let graph := (readOf colorDocuments).graph
    (readOf colorDocuments).catalog.collections.listing = [0, 1] ∧ (graph.node 0).typeName = some "string" ∧
      (graph.node 0).enumValues = some [.string "Red", .string "Green"] ∧ (graph.node 0).enumAsString = false ∧
      (graph.node 1).typeName = some "string" ∧ (graph.node 1).enumValues = some [.string "Red"] ∧
      (graph.node 1).enumAsString = true := by
  have shown :
      let graph := (readOf colorDocuments).graph
      (readOf colorDocuments).catalog.collections.listing = [0, 1] ∧ (graph.node 0).typeName = some "string" ∧
        (graph.node 0).enumValues.map (·.map Value.asString?) = some (["Red", "Green"].map some) ∧
        (graph.node 0).enumAsString = false ∧ (graph.node 1).typeName = some "string" ∧
        (graph.node 1).enumValues.map (·.map Value.asString?) = some (["Red"].map some) ∧
        (graph.node 1).enumAsString = true := by
    decide +kernel
  obtain ⟨listing, typedColor, colors, closed, typedPaint, paints, opened⟩ := shown
  obtain ⟨_, listed, shown⟩ := Option.map_eq_some_iff.mp colors
  obtain ⟨_, listedToo, shownToo⟩ := Option.map_eq_some_iff.mp paints
  rw [eq_texts shown] at listed
  rw [eq_texts shownToo] at listedToo
  exact ⟨listing, typedColor, listed, closed, typedPaint, listedToo, opened⟩

/-- A color in another case is reported as such, and a paint that is not listed is not reported. -/
theorem enum_told_colors :
    (∃ failures, (validatorOf (finalOf colorDocuments).catalog 0).evaluate .request (.string "red") = some failures ∧
      Reports failures ((readOf colorDocuments).graph.node 0).source .enumCaseMismatch ∧
      ¬Reports failures ((readOf colorDocuments).graph.node 0).source .enumMismatch) ∧
    ∃ failures, (validatorOf (finalOf colorDocuments).catalog 1).evaluate .request (.string "Blue") = some failures ∧
      ∀ code ∈ enumCodes, ¬Reports failures ((readOf colorDocuments).graph.node 1).source code := by
  obtain ⟨read, _, finished⟩ := Finishing.stages colorDocuments
  obtain ⟨listing, typedColor, colors, closed, typedPaint, paints, opened⟩ := colors_read
  have computed : (ofSchema (finalOf colorDocuments).catalog 0).toOption.isSome = true ∧
      (ofSchema (finalOf colorDocuments).catalog 1).toOption.isSome = true ∧
      ((validatorOf (finalOf colorDocuments).catalog 0).evaluate .request (.string "red")).isSome = true ∧
      ((validatorOf (finalOf colorDocuments).catalog 1).evaluate .request (.string "Blue")).isSome = true := by
    decide +kernel
  obtain ⟨compilesColor, compilesPaint, answersColor, answersPaint⟩ := computed
  obtain ⟨found, answeredColor⟩ := Option.isSome_iff_exists.mp answersColor
  obtain ⟨foundToo, answeredPaint⟩ := Option.isSome_iff_exists.mp answersPaint
  obtain ⟨⟨raw, color⟩, tellsColor, _⟩ :=
    enum_told read finished (listing ▸ by simp) (Validator.ofSchema_eq_validatorOf compilesColor)
  obtain ⟨⟨rawToo, paint⟩, tellsPaint, _⟩ :=
    enum_told read finished (listing ▸ by simp) (Validator.ofSchema_eq_validatorOf compilesPaint)
  have recased : IsRecased [.string "Red", .string "Green"] (.string "red") :=
    ⟨"red", "Red", rfl, by simp, by decide⟩
  have unlisted : ¬IsListed [.string "Red", .string "Green"] (.string "red") := by
    unfold IsListed
    decide
  obtain ⟨tells, mismatch, _⟩ :=
    tellsColor raw _ color (color.enumValues.symm.trans colors) _ _ _ _ answeredColor
      (hasType_string color typedColor _) nofun
  obtain ⟨tellsToo, mismatchToo, _⟩ :=
    tellsPaint rawToo _ paint (paint.enumValues.symm.trans paints) _ _ _ _ answeredPaint
      (hasType_string paint typedPaint _) nofun
  refine ⟨⟨found, answeredColor, tells.mpr ⟨unlisted, recased⟩, ?_⟩, foundToo, answeredPaint, ?_⟩
  · exact fun reported => (mismatch.mp reported).2.2 recased
  · simp only [enumCodes, List.forall_mem_cons, tellsToo, mismatchToo]
    refine ⟨?_, ?_, nofun⟩
    · rintro ⟨_, text, other, same, listed, folded⟩
      cases same
      obtain rfl : other = "Red" := by simpa using listed
      revert folded
      decide
    · exact fun reported => reported.1 (paint.enumAsString_iff.mp opened)

/-- An open enum refuses a listed text in another case, and accepts other texts. -/
theorem listed_text_recased :
    let node := (readOf colorDocuments).graph.node 1
    let paints := validatorOf (finalOf colorDocuments).catalog 1
    IsRead colorDocuments (readOf colorDocuments) ∧ IsFinished colorDocuments (finalOf colorDocuments) ∧
      ofSchema (finalOf colorDocuments).catalog 1 = .ok paints ∧
      (∃ raw, node.WrittenAs raw ∧ (Value.object raw).arrayAt? "enum" = some [.string "Red"] ∧ IsOpen raw ∧
        HasType raw (.string "red")) ∧
      (paints.evaluate .request (.string "red")).map
          (·.map fun failure => (failure.code, failure.path, failure.source, failure.skip)) =
        some [(.enumCaseMismatch, "", node.source, false)] ∧
      paints.evaluate .request (.string "Blue") = some [] := by
  obtain ⟨read, _, finished⟩ := Finishing.stages colorDocuments
  obtain ⟨_, _, _, _, typed, paints, opened⟩ := colors_read
  have computed : 1 ∈ (readOf colorDocuments).catalog.collections.ofKind .primitive ∧
      (ofSchema (finalOf colorDocuments).catalog 1).toOption.isSome = true := by
    decide +kernel
  obtain ⟨raw, paint⟩ := read.fresh.built.exists_raw computed.1
  refine ⟨read, finished, Validator.ofSchema_eq_validatorOf computed.2, ⟨raw, paint, ?_, ?_, ?_⟩, by decide +kernel⟩
  · exact paint.enumValues.symm.trans paints
  · exact paint.enumAsString_iff.mp opened
  · exact hasType_string paint typed _

end Draft

end ApiContract
