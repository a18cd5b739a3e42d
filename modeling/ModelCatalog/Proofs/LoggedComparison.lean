import ModelCatalog.Proofs.GatheringRemarks
import ModelCatalog.Proofs.Omissions

/-! What a comparison logs. The two passes over the lists of codes remark on placeholders, the second
one only if nothing ends the first. A comparison that succeeds then tells what it has found, code by
code and suggestion by suggestion. -/
namespace ModelCatalog

/-- A policy that logs no objections: it ends the work at the first, or has none. -/
def CodePolicy.IsQuiet (policy : CodePolicy) : Prop :=
  policy.fatal = true ∨ policy.allowEmpty = true ∧ policy.allowShared = true

def placeholderEvents (kind : CodeKind) (uses : List CodeUse) : Log :=
  (uses.filter fun use => isPlaceholder use.code).map (placeholderEvent kind)

section Placeholders

variable {kind : CodeKind} {policy : CodePolicy} {earlier : List String} {use : CodeUse}

theorem objection?_of_allowed (empty : policy.allowEmpty = true)
    (shared : policy.allowShared = true) : objection? kind policy earlier use = none := by
  simp [objection?, empty, shared]

theorem remark?_of_quiet (quiet : policy.IsQuiet) : remark? kind policy earlier use =
    if isPlaceholder use.code then some (placeholderEvent kind use) else none := by
  unfold remark?
  rcases quiet with fatal | ⟨empty, shared⟩
  · simp [fatal]
  · simp [objection?_of_allowed empty shared]

theorem remarks_of_quiet (quiet : policy.IsQuiet) (uses : List CodeUse) :
    remarks kind policy earlier uses = placeholderEvents kind uses := by
  induction uses generalizing earlier with
  | nil => rfl
  | cons use rest ih =>
    rw [remarks, remark?_of_quiet quiet, ih]
    cases placeholder : isPlaceholder use.code <;> simp [placeholderEvents, placeholder]

theorem placeholderEvent_board_ne (first second : CodeUse) :
    placeholderEvent .board first ≠ placeholderEvent .model second := by
  intro same
  have texts := congrArg (fun event => event.message.toList) same
  simp only [placeholderEvent, String.toList_append] at texts
  have fronts := (List.append_inj' texts rfl).1
  have keys := (List.append_inj' fronts (by decide)).2
  exact absurd keys (by decide)

end Placeholders

section Cover

variable {db : Database} {registry : Registry} {family : Family} {used : List String}
  {fault : Fault}

/-- What is found is told code by code, then suggestion by suggestion. -/
def findingEvents (omitted : List (String × Product)) (suggestions : List Suggestion) : Log :=
  omitted.map omissionEvent ++ suggestions.flatMap suggestionEvents

theorem log_gather_board :
    (db.gather .board .lenient).log = placeholderEvents .board (db.codeUses .board) := by
  rw [log_gather_of_passed fun fatal => absurd fatal (by decide)]
  exact remarks_of_quiet (.inr ⟨rfl, rfl⟩) _

theorem log_gather_model (gathered : (db.gather .model .strict).result = .ok used) :
    (db.gather .model .strict).log = placeholderEvents .model (db.codeUses .model) := by
  rw [log_gather_of_passed (gather_eq_ok_iff.mp gathered).1]
  exact remarks_of_quiet (.inl rfl) _

theorem log_cover_of_opposed (failed : (db.gather .model .strict).result = .error fault) :
    (cover db registry family).log = (db.gather .model .strict).log :=
  Logged.log_bind_of_error failed _

/-- Behind both passes the findings are logged, unless the registry rejects a code. -/
theorem log_cover_of_gathered (registry : Registry) (family : Family)
    (gathered : (db.gather .model .strict).result = .ok used) :
    (cover db registry family).log =
      placeholderEvents .model (db.codeUses .model) ++
      (placeholderEvents .board (db.codeUses .board) ++
        match checkUsed registry used with
        | .error _ => []
        | .ok _ => findingEvents (registry.omitted family used)
            (suggest db (groupByName (registry.omitted family used)))) := by
  have boards : (db.gather .board .lenient).result = .ok (db.distinctCodes .board) :=
    gather_of_mild db .board rfl
  unfold cover
  rw [Logged.log_bind_of_ok gathered, Logged.log_bind_of_ok boards, log_gather_model gathered,
    log_gather_board]
  cases checkUsed registry used with
  | error fault => rfl
  | ok =>
    refine congrArg (_ ++ ·) (congrArg (_ ++ ·) ?_)
    exact List.append_nil _

end Cover

section Groups

variable {omitted : List (String × Product)} {code name : String}

/-- The codes of the groups, each with the name of its group. -/
def groupedCodes (groups : OrderedMap String (List String)) : List (String × String) :=
  groups.entries.flatMap fun group => group.2.map fun code => (code, group.1)

theorem mem_groupedCodes : (code, name) ∈ groupedCodes (groupByName omitted) ↔
    ∃ product, (code, product) ∈ omitted ∧ product.name = name := by
  unfold groupedCodes
  rw [List.mem_flatMap, ← mem_codesNamed]
  constructor
  · rintro ⟨group, among, inside⟩
    obtain ⟨_, listed, same⟩ := List.mem_map.mp inside
    obtain ⟨rfl, rfl⟩ := Prod.mk.inj same
    obtain ⟨_, codes⟩ := mem_groupByName.mp among
    exact codes ▸ listed
  · intro listed
    have named : name ∈ namesOf omitted := by
      by_contra absent
      rw [codesNamed_eq_nil_iff.mpr absent] at listed
      exact absurd listed List.not_mem_nil
    exact ⟨_, mem_groupByName.mpr ⟨named, rfl⟩, List.mem_map.mpr ⟨code, listed, rfl⟩⟩

theorem nodup_groupedCodes (distinct : (omitted.map Prod.fst).Nodup) :
    (groupedCodes (groupByName omitted)).Nodup := by
  apply List.nodup_flatMap.mpr
  constructor
  · intro group among
    obtain ⟨_, codes⟩ := mem_groupByName.mp among
    apply List.Nodup.of_map Prod.fst
    rw [List.map_map]
    simpa [codes, Function.comp_def] using distinct.sublist (codesNamed_sublist omitted group.1)
  · have apart := List.pairwise_map.mp (OrderedMap.distinct (groupByName omitted))
    apply apart.imp
    intro group other different pair here there
    obtain ⟨_, _, rfl⟩ := List.mem_map.mp here
    obtain ⟨_, _, same⟩ := List.mem_map.mp there
    exact different (congrArg Prod.snd same).symm

theorem groupedCodes_perm (distinct : (omitted.map Prod.fst).Nodup) :
    (groupedCodes (groupByName omitted)).Perm
      (omitted.map fun omission => (omission.1, omission.2.name)) := by
  have distinct' : (omitted.map fun omission => (omission.1, omission.2.name)).Nodup := by
    apply List.Nodup.of_map Prod.fst
    rwa [List.map_map]
  apply (List.perm_ext_iff_of_nodup (nodup_groupedCodes distinct) distinct').mpr
  rintro ⟨code, name⟩
  rw [mem_groupedCodes]
  simp

theorem omitted_eq_filter (registry : Registry) (family : Family) (used : List String) :
    registry.omitted family used = registry.entries.filter fun entry =>
      decide ((entry.1, entry.2.name) ∈ groupedCodes (groupByName (registry.omitted family used))) := by
  refine List.filter_congr fun entry member => ?_
  rw [Bool.eq_iff_iff, decide_eq_true_eq, mem_groupedCodes]
  constructor
  · intro omitted
    exact ⟨entry.2, List.mem_filter.mpr ⟨member, omitted⟩, rfl⟩
  · rintro ⟨product, among, _⟩
    obtain ⟨listed, omitted⟩ := List.mem_filter.mp among
    -- no two products of the registry have one code
    have first := (registry.mem_entries_iff ..).mp listed
    have second := (registry.mem_entries_iff ..).mp member
    obtain rfl : product = entry.2 := Option.some.inj (first.symm.trans second)
    exact omitted

end Groups

/-- The warnings of the placeholders in a list of codes, under the name of the model and the key of
the list. -/
def placeholderWarnings (key name : String) (codes : List String) : Log :=
  (codes.filter fun code => !decide (Genuine code)).map fun _ =>
    ⟨.warn, .collect, name ++ " contains zero " ++ key ++ ", skipping"⟩

section Warnings

variable {kind : CodeKind}

theorem placeholderEvents_list (name : String) (codes : List String) :
    placeholderEvents kind (codes.map (CodeUse.mk name)) =
      placeholderWarnings kind.key name codes := by
  have same (code : String) : isPlaceholder code = !decide (Genuine code) := by
    rw [Bool.eq_iff_iff]
    simp [genuine_iff]
  rw [placeholderEvents, List.filter_map, List.map_map, placeholderWarnings]
  refine congrArg _ (List.filter_congr fun code _ => same code)

theorem placeholderEvents_models (models : List Model) :
    placeholderEvents kind (models.flatMap (·.codeUses kind)) =
      models.flatMap fun m => placeholderWarnings kind.key m.name (m.codes kind) := by
  simp only [← placeholderEvents_list]
  simp [placeholderEvents, List.filter_flatMap, List.map_flatMap, Model.codeUses]

theorem placeholderEvents_append (first second : List CodeUse) :
    placeholderEvents kind (first ++ second) =
      placeholderEvents kind first ++ placeholderEvents kind second := by
  simp [placeholderEvents]

end Warnings

section Endings

variable {db : Database} {registry : Registry} {family : Family} {coverage : Coverage}
  {used : List String} {fault : Fault}

/-- The first pass has remarked on what comes before the use that ends it. -/
theorem log_cover_of_firstObjection (failed : (db.gather .model .strict).result = .error fault) :
    ∃ before use after, db.codeUses .model = before ++ use :: after ∧
      Unopposed .model .strict [] before ∧
      Objection .model .strict (before.map (·.code)) use fault ∧
      (cover db registry family).log = placeholderEvents .model before := by
  obtain ⟨_, before, use, after, split, unopposed, objection⟩ := gather_eq_error_iff.mp failed
  refine ⟨before, use, after, split, unopposed, objection, ?_⟩
  rw [log_cover_of_opposed failed, log_gather_of_objection rfl split unopposed objection]
  exact remarks_of_quiet (.inl rfl) before

theorem log_cover_of_rejected (gathered : (db.gather .model .strict).result = .ok used)
    (failed : (cover db registry family).result = .error fault) :
    (cover db registry family).log =
      placeholderEvents .model (db.codeUses .model) ++
        placeholderEvents .board (db.codeUses .board) := by
  rw [result_cover, gathered] at failed
  have logged := log_cover_of_gathered registry family gathered
  cases checked : checkUsed registry used with
  | error _ => rwa [checked, List.append_nil] at logged
  | ok _ =>
    simp only [checked, bind, Except.bind, pure, Except.pure] at failed
    cases failed

theorem log_cover_of_ok (accepted : (cover db registry family).result = .ok coverage) :
    (cover db registry family).log =
      placeholderEvents .model (db.codeUses .model) ++
        placeholderEvents .board (db.codeUses .board) ++
        (registry.omitted family coverage.used).map omissionEvent ++
        coverage.suggestions.flatMap suggestionEvents := by
  obtain ⟨unopposed, valid, rfl⟩ := cover_eq_ok_iff.mp accepted
  have gathered := gather_of_passed fun _ : CodePolicy.strict.fatal = true => unopposed
  rw [log_cover_of_gathered registry family gathered, checkUsed_eq_ok_iff.mpr valid]
  simp only [findingEvents, coverageOf, List.append_assoc]

theorem gather_eq_ok_iff_faultless : (∃ used, (db.gather .model .strict).result = .ok used) ↔
    Faultless (db.models.flatMap fun m => m.codes .model) := by
  have fatal : CodePolicy.strict.fatal = true := rfl
  simp only [gather_eq_ok_iff, fatal, forall_const, exists_and_left, exists_eq, and_true]
  rw [unopposed_iff_faultless, ← listedCodes_eq, Database.listedCodes]

theorem log_cover_of_fault (failed : (db.gather .model .strict).result = .error fault) :
    ∃ above m below before code after, db.models = above ++ m :: below ∧
      m.codes .model = before ++ code :: after ∧
      Faultless (above.flatMap (fun m => m.codes .model) ++ before) ∧
      ListFault (above.flatMap (fun m => m.codes .model) ++ before) m code fault ∧
      (cover db registry family).log =
        (above.flatMap fun m => placeholderWarnings "AppleModelCode" m.name (m.codes .model)) ++
          placeholderWarnings "AppleModelCode" m.name before := by
  obtain ⟨above, m, below, split, before, code, after, parts, unopposed, objection, logged⟩ :=
    (exists_use_iff db .model (p := fun before use => Unopposed .model .strict [] before ∧
      Objection .model .strict (before.map (·.code)) use fault ∧
      (cover db registry family).log = placeholderEvents .model before)).mp
        (log_cover_of_firstObjection failed)
  rw [unopposed_iff_faultless, map_code_uses] at unopposed
  rw [map_code_uses, objection_iff_listFault] at objection
  refine ⟨above, m, below, before, code, after, split, parts, unopposed, objection, ?_⟩
  rw [logged, placeholderEvents_append, placeholderEvents_models, placeholderEvents_list]
  rfl

theorem remark_of_failed (failed : (cover db registry family).result = .error fault)
    {event : LogEvent} (member : event ∈ (cover db registry family).log) :
    event.level = .warn ∧ event.source = .collect := by
  have remark {kind : CodeKind} {uses : List CodeUse}
      (inside : event ∈ placeholderEvents kind uses) :
      event.level = .warn ∧ event.source = .collect := by
    obtain ⟨_, _, rfl⟩ := List.mem_map.mp inside
    exact ⟨rfl, rfl⟩
  -- the first pass decides how far the log goes
  cases gathered : (db.gather .model .strict).result with
  | error cause =>
    obtain ⟨before, _, _, _, _, _, logged⟩ := log_cover_of_firstObjection gathered
    exact remark (logged ▸ member)
  | ok used =>
    rw [log_cover_of_rejected gathered failed] at member
    rcases List.mem_append.mp member with first | second
    · exact remark first
    · exact remark second

theorem board_remark_not_mem (failed : (db.gather .model .strict).result = .error fault)
    (use : CodeUse) : placeholderEvent .board use ∉ (cover db registry family).log := by
  intro member
  obtain ⟨before, _, _, _, _, _, logged⟩ := log_cover_of_firstObjection failed
  rw [logged] at member
  obtain ⟨second, _, same⟩ := List.mem_map.mp member
  exact placeholderEvent_board_ne use second same.symm

end Endings

/-- A comparison that succeeds warns of each placeholder in the lists of model codes, then of each in
those of board codes; it warns of each omitted code, in the order of the registry and under its name
there, and then tells suggestion by suggestion the model and the codes. One that fails tells nothing
that it has found, and it warns of the placeholders among the board codes only if nothing is wrong
with the lists of model codes. -/
theorem log_agrees_with_coverage (db : Database) (registry : Registry) (family : Family) :
    let codes := db.models.flatMap fun m => m.codes .model
    let log := (cover db registry family).log
    let warnings := db.models.flatMap fun m =>
      placeholderWarnings "AppleModelCode" m.name (m.codes .model)
    let boardWarnings := db.models.flatMap fun m =>
      placeholderWarnings "AppleBoardCode" m.name (m.codes .board)
    ((∃ used, (db.gather .model .strict).result = .ok used) ↔ Faultless codes) ∧
    (∀ coverage, (cover db registry family).result = .ok coverage →
      ∃ omitted : List (String × Product),
        omitted = registry.entries.filter (fun entry =>
          decide ((entry.1, entry.2.name) ∈ groupedCodes coverage.omissions)) ∧
        (omitted.map Prod.fst).Nodup ∧
        (groupedCodes coverage.omissions).Perm
          (omitted.map fun omission => (omission.1, omission.2.name)) ∧
        log = warnings ++ boardWarnings ++
          (omitted.map fun omission => ⟨.warn, .validate, "Model " ++ omission.1 ++ " (" ++
            omission.2.name ++ ") is known but is not used in DataBase"⟩) ++
          coverage.suggestions.flatMap fun s =>
            ⟨.info, .validate, "New AppleModelCode for " ++ s.model ++ ":"⟩ ::
              s.codes.map fun code => ⟨.info, .validate, "  - \"" ++ code ++ "\""⟩) ∧
    ∀ fault, (cover db registry family).result = .error fault →
      (∀ event ∈ log, event.level = .warn ∧ event.source = .collect) ∧
      (Faultless codes → log = warnings ++ boardWarnings) ∧
      (¬Faultless codes →
        (∃ above m below before code after, db.models = above ++ m :: below ∧
          m.codes .model = before ++ code :: after ∧
          Faultless (above.flatMap (fun m => m.codes .model) ++ before) ∧
          ListFault (above.flatMap (fun m => m.codes .model) ++ before) m code fault ∧
          log = (above.flatMap fun m =>
              placeholderWarnings "AppleModelCode" m.name (m.codes .model)) ++
            placeholderWarnings "AppleModelCode" m.name before) ∧
        ∀ name, ⟨.warn, .collect, name ++ " contains zero " ++ "AppleBoardCode" ++ ", skipping"⟩ ∉
          log) := by
  intro codes log warnings boardWarnings
  have modelRemarks : placeholderEvents .model (db.codeUses .model) = warnings :=
    placeholderEvents_models db.models
  have boardRemarks : placeholderEvents .board (db.codeUses .board) = boardWarnings :=
    placeholderEvents_models db.models
  have passes : (∃ used, (db.gather .model .strict).result = .ok used) ↔ Faultless codes :=
    gather_eq_ok_iff_faultless
  refine ⟨passes, fun coverage accepted => ?_, fun fault failed => ⟨?_, ?_, ?_⟩⟩
  · have distinct := nodup_codes_omitted registry family coverage.used
    have logged := log_cover_of_ok accepted
    rw [modelRemarks, boardRemarks] at logged
    obtain ⟨_, _, same⟩ := cover_eq_ok_iff.mp accepted
    have omissions : coverage.omissions = groupByName (registry.omitted family coverage.used) := by
      rw [same]
      rfl
    refine ⟨registry.omitted family coverage.used, ?_, distinct, ?_, logged⟩
    · rw [omissions]
      exact omitted_eq_filter registry family coverage.used
    · rw [omissions]
      exact groupedCodes_perm distinct
  · intro event member
    exact remark_of_failed failed member
  · intro faultless
    obtain ⟨used, gathered⟩ := passes.mpr faultless
    have logged := log_cover_of_rejected gathered failed
    rwa [modelRemarks, boardRemarks] at logged
  · intro faulty
    cases gathered : (db.gather .model .strict).result with
    | ok used => exact absurd (passes.mp ⟨used, gathered⟩) faulty
    | error cause =>
      obtain rfl : cause = fault := by
        rw [result_cover, gathered] at failed
        exact Except.error.inj failed
      exact ⟨log_cover_of_fault gathered, fun name => board_remark_not_mem gathered ⟨name, ""⟩⟩

/-- A laptop with placeholders in both lists. -/
def remarkedLaptop : Model := { laptop with boardCodes := some ["0000", "", "F5Q", "F5Q"] }

def remarkedDatabase : Database := ⟨[remarkedLaptop], List.pairwise_singleton ..⟩

/-- Its first pass ends at a code that comes again, behind one placeholder and before another. -/
def repeatingDatabase : Database :=
  ⟨[{ remarkedLaptop with modelCodes := some ["000", "FGYY", "FGYY", "0000"] }],
    List.pairwise_singleton ..⟩

theorem result_cover_remarked :
    (cover remarkedDatabase scatteredRegistry .standard).result = .ok scatteredCoverage := by
  decide +kernel

theorem passes_and_findings_logged :
    (cover remarkedDatabase scatteredRegistry .standard).result = .ok scatteredCoverage ∧
    (cover remarkedDatabase scatteredRegistry .standard).log =
      [⟨.warn, .collect, "MacBookPro11,1 contains zero AppleModelCode, skipping"⟩,
        ⟨.warn, .collect, "MacBookPro11,1 contains zero AppleBoardCode, skipping"⟩,
        ⟨.warn, .validate, "Model FH00 (MacBook Pro) is known but is not used in DataBase"⟩,
        ⟨.warn, .validate, "Model XS01 (Xserve) is known but is not used in DataBase"⟩,
        ⟨.warn, .validate, "Model FH01 (MacBook Pro) is known but is not used in DataBase"⟩,
        ⟨.info, .validate, "New AppleModelCode for MacBookPro11,1:"⟩,
        ⟨.info, .validate, "  - \"FH00\""⟩, ⟨.info, .validate, "  - \"FH01\""⟩] ∧
    (cover remarkedDatabase .empty .standard).result = .error (.unknownProduct "FGYY") ∧
    (cover remarkedDatabase .empty .standard).log =
      [⟨.warn, .collect, "MacBookPro11,1 contains zero AppleModelCode, skipping"⟩,
        ⟨.warn, .collect, "MacBookPro11,1 contains zero AppleBoardCode, skipping"⟩] ∧
    (cover repeatingDatabase scatteredRegistry .standard).result =
      .error (.sharedCode "MacBookPro11,1" .model "FGYY") ∧
    (∀ event ∈ (cover repeatingDatabase scatteredRegistry .standard).log,
      event.level = .warn ∧ event.source = .collect) ∧
    ∀ name, ⟨.warn, .collect, name ++ " contains zero " ++ "AppleBoardCode" ++ ", skipping"⟩ ∉
      (cover repeatingDatabase scatteredRegistry .standard).log := by
  have rejected : (cover remarkedDatabase .empty .standard).result =
      .error (.unknownProduct "FGYY") := by decide +kernel
  have opposed : (cover repeatingDatabase scatteredRegistry .standard).result =
      .error (.sharedCode "MacBookPro11,1" .model "FGYY") := by decide +kernel
  obtain ⟨_, told, _⟩ := log_agrees_with_coverage remarkedDatabase scatteredRegistry .standard
  obtain ⟨_, _, failing⟩ := log_agrees_with_coverage remarkedDatabase .empty .standard
  obtain ⟨_, _, ending⟩ := log_agrees_with_coverage repeatingDatabase scatteredRegistry .standard
  obtain ⟨omitted, rfl, _, _, logged⟩ := told _ result_cover_remarked
  obtain ⟨_, both, _⟩ := failing _ rejected
  obtain ⟨remarks, _, first⟩ := ending _ opposed
  refine ⟨result_cover_remarked, logged.trans ?_, rejected, (both ?_).trans ?_, opposed, remarks,
    (first ?_).2⟩
  · decide +kernel
  · exact ⟨by decide, by decide⟩
  · decide +kernel
  · exact fun faultless => absurd faultless.distinct (by decide)

end ModelCatalog
