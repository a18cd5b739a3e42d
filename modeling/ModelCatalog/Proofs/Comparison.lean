import ModelCatalog.Coverage
import ModelCatalog.Proofs.Gathering

/-! When a database agrees with the registry, and otherwise what is reported. Objections to the
lists of the database come before codes that the registry rejects; board codes never matter. -/
namespace ModelCatalog

/-- The registry knows the code as valid. -/
def Registry.Accepts (registry : Registry) (code : String) : Prop :=
  ∃ product, registry.get? code = some product ∧ product.isValid = true

inductive Registry.Rejects (registry : Registry) (code : String) : Fault → Prop
  | unknown (absent : registry.get? code = none) : Rejects registry code (.unknownProduct code)
  | invalid {product : Product} (present : registry.get? code = some product)
      (retired : product.isValid = false) : Rejects registry code (.invalidProduct code)

/-- The registry rejects one of the codes, placeholders aside, and accepts all before it. -/
def FirstRejected (registry : Registry) (codes : List String) (fault : Fault) : Prop :=
  ∃ before code after, codes = before ++ code :: after ∧
    (∀ earlier ∈ before, isPlaceholder earlier = true ∨ registry.Accepts earlier) ∧
    isPlaceholder code = false ∧ registry.Rejects code fault

section Registry

variable {registry : Registry} {code : String} {rest codes : List String} {fault : Fault}

theorem Registry.not_accepts_of_rejects (rejected : registry.Rejects code fault) :
    ¬ registry.Accepts code := by
  rintro ⟨product, present, valid⟩
  cases rejected with
  | unknown absent => simp [absent] at present
  | invalid known retired =>
    obtain rfl : _ = product := Option.some.inj (known.symm.trans present)
    simp [retired] at valid

theorem firstRejected_cons :
    FirstRejected registry (code :: rest) fault ↔
      isPlaceholder code = false ∧ registry.Rejects code fault ∨
      (isPlaceholder code = true ∨ registry.Accepts code) ∧ FirstRejected registry rest fault :=
  exists_first_cons (by simp) fun _ => List.forall_mem_cons

theorem checkUsed_of_accepts (accepted : registry.Accepts code) :
    checkUsed registry (code :: rest) = checkUsed registry rest := by
  obtain ⟨product, present, valid⟩ := accepted
  simp [checkUsed, present, valid]

theorem checkUsed_of_rejects (rejected : registry.Rejects code fault) :
    checkUsed registry (code :: rest) = .error fault := by
  cases rejected with
  | unknown absent => simp [checkUsed, absent]
  | invalid present retired => simp [checkUsed, present, retired]

theorem Registry.Rejects.unique {other : Fault} (first : registry.Rejects code fault)
    (second : registry.Rejects code other) : fault = other := by
  have alone : checkUsed registry [code] = .error fault := checkUsed_of_rejects first
  exact Except.error.inj (alone.symm.trans (checkUsed_of_rejects second))

theorem Registry.accepts_or_rejects (registry : Registry) (code : String) :
    registry.Accepts code ∨ ∃ fault, registry.Rejects code fault := by
  cases known : registry.get? code with
  | none => exact .inr ⟨_, .unknown known⟩
  | some product =>
    cases valid : product.isValid with
    | true => exact .inl ⟨product, known, valid⟩
    | false => exact .inr ⟨_, .invalid known valid⟩

theorem checkUsed_eq_ok_iff :
    checkUsed registry codes = .ok () ↔ ∀ code ∈ codes, registry.Accepts code := by
  induction codes with
  | nil => simp [checkUsed]
  | cons code rest ih =>
    rw [List.forall_mem_cons]
    rcases registry.accepts_or_rejects code with accepted | ⟨fault, rejected⟩
    · simp [checkUsed_of_accepts accepted, ih, accepted]
    · simp [checkUsed_of_rejects rejected, Registry.not_accepts_of_rejects rejected]

theorem checkUsed_eq_error_iff :
    checkUsed registry (codes.filter fun code => !isPlaceholder code) = .error fault ↔
      FirstRejected registry codes fault := by
  induction codes with
  | nil => simp [checkUsed, FirstRejected]
  | cons code rest ih =>
    rw [firstRejected_cons]
    cases genuine : isPlaceholder code with
    | true => simp [genuine, ih]
    | false =>
      rw [List.filter_cons_of_pos (by simp [genuine])]
      rcases registry.accepts_or_rejects code with accepted | ⟨other, rejected⟩
      · have clear : ¬ registry.Rejects code fault := fun rejected =>
          Registry.not_accepts_of_rejects rejected accepted
        simp [checkUsed_of_accepts accepted, ih, accepted, clear]
      · have refused := Registry.not_accepts_of_rejects rejected
        have same : registry.Rejects code fault ↔ other = fault :=
          ⟨fun given => rejected.unique given, fun same => same ▸ rejected⟩
        simp [checkUsed_of_rejects rejected, refused, same]

end Registry

/-- What a comparison reports that nothing ends, given the codes in use. -/
def coverageOf (db : Database) (registry : Registry) (family : Family) (used : List String) :
    Coverage :=
  let groups := groupByName (registry.omitted family used)
  ⟨used, groups, suggest db groups⟩

section Cover

variable {db : Database} {registry : Registry} {family : Family} {coverage : Coverage}
  {fault : Fault}

theorem result_cover (db : Database) (registry : Registry) (family : Family) :
    (cover db registry family).result = do
      let used ← (db.gather .model .strict).result
      checkUsed registry used
      return coverageOf db registry family used := by
  have boards : (db.gather .board .lenient).result = .ok (db.distinctCodes .board) :=
    gather_of_mild db .board rfl
  simp only [cover, Logged.result_bind, Logged.result_ofExcept, boards]
  rfl

theorem result_cover_of_unopposed (unopposed : Unopposed .model .strict [] (db.codeUses .model)) :
    (cover db registry family).result = (checkUsed registry (db.distinctCodes .model)).map
      fun _ => coverageOf db registry family (db.distinctCodes .model) := by
  rw [result_cover, gather_of_passed fun _ => unopposed]
  change (do
    checkUsed registry (db.distinctCodes .model)
    return coverageOf db registry family (db.distinctCodes .model)) = _
  cases checkUsed registry (db.distinctCodes .model) <;> rfl

theorem result_cover_of_firstObjection
    (first : FirstObjection .model .strict [] (db.codeUses .model) fault) :
    (cover db registry family).result = .error fault := by
  rw [result_cover, gather_eq_error_iff.mpr ⟨rfl, first⟩]
  rfl

theorem cover_eq_ok_iff :
    (cover db registry family).result = .ok coverage ↔
      Unopposed .model .strict [] (db.codeUses .model) ∧
      (∀ code ∈ db.distinctCodes .model, registry.Accepts code) ∧
      coverage = coverageOf db registry family (db.distinctCodes .model) := by
  rcases unopposed_or_firstObjection [] (db.codeUses .model) with unopposed | ⟨fault, first⟩
  · rw [result_cover_of_unopposed unopposed, ← checkUsed_eq_ok_iff]
    cases checkUsed registry (db.distinctCodes .model) <;>
      simp [Except.map, unopposed, eq_comm]
  · have opposed : ¬ Unopposed .model .strict [] (db.codeUses .model) := fun unopposed =>
      not_firstObjection_of_unopposed unopposed first
    simp [result_cover_of_firstObjection first, opposed]

/-- Objections to the lists come before codes that the registry rejects. -/
theorem cover_eq_error_iff :
    (cover db registry family).result = .error fault ↔
      FirstObjection .model .strict [] (db.codeUses .model) fault ∨
      Unopposed .model .strict [] (db.codeUses .model) ∧
        FirstRejected registry (db.listedCodes .model) fault := by
  rcases unopposed_or_firstObjection [] (db.codeUses .model) with unopposed | ⟨other, first⟩
  · have clear : ¬ FirstObjection .model .strict [] (db.codeUses .model) fault :=
      not_firstObjection_of_unopposed unopposed
    obtain ⟨filled, _⟩ := unopposed_codeUses_iff.mp unopposed
    rw [result_cover_of_unopposed unopposed, distinctCodes_of_unopposed unopposed,
      filter_isProper filled, ← checkUsed_eq_error_iff]
    cases checkUsed registry ((db.listedCodes .model).filter fun code => !isPlaceholder code) <;>
      simp [Except.map, unopposed, clear]
  · have opposed : ¬ Unopposed .model .strict [] (db.codeUses .model) := fun unopposed =>
      not_firstObjection_of_unopposed unopposed first
    have same : FirstObjection .model .strict [] (db.codeUses .model) fault ↔ other = fault := by
      refine ⟨fun given => ?_, fun same => same ▸ first⟩
      exact Except.error.inj ((gather_eq_error_iff.mpr ⟨rfl, first⟩).symm.trans
        (gather_eq_error_iff.mpr ⟨rfl, given⟩))
    simp [result_cover_of_firstObjection first, opposed, same]

end Cover

/-- The suggestions that come from one group. -/
def suggestFor (db : Database) (group : String × List String) : List Suggestion :=
  (db.models.filter (·.reports group.1)).map fun m => ⟨m.name, group.2⟩

theorem suggest_eq_flatMap (db : Database) (groups : OrderedMap String (List String)) :
    suggest db groups = groups.entries.flatMap (suggestFor db) := rfl

theorem suggestFor_congr {db other : Database}
    (alike : db.models.map (fun m => (m.name, m.reportNames)) =
      other.models.map fun m => (m.name, m.reportNames)) :
    suggestFor db = suggestFor other := by
  have read (db : Database) (group : String × List String) : suggestFor db group =
      ((db.models.map fun m => (m.name, m.reportNames)).filter fun pair =>
        pair.2.any fun report => Text.contains report group.1).map fun pair =>
          ⟨pair.1, group.2⟩ := by
    rw [List.filter_map, List.map_map]
    rfl
  funext group
  rw [read, alike, ← read]

/-- What a comparison reads of a model. -/
def Model.compared (m : Model) : String × List String × List String :=
  (m.name, m.codes .model, m.reportNames)

theorem codeUses_eq_compared (db : Database) :
    db.codeUses .model = (db.models.map Model.compared).flatMap fun (name, codes, _) =>
      codes.map fun code => ⟨name, code⟩ := by
  rw [List.flatMap_map]
  rfl

section Compared

variable {db other : Database}

theorem codeUses_of_compared
    (alike : db.models.map Model.compared = other.models.map Model.compared) :
    db.codeUses .model = other.codeUses .model := by
  rw [codeUses_eq_compared, alike, ← codeUses_eq_compared]

theorem suggestFor_of_compared
    (alike : db.models.map Model.compared = other.models.map Model.compared) :
    suggestFor db = suggestFor other := by
  have reports := congrArg (List.map fun (name, _, reports) => (name, reports)) alike
  rw [List.map_map, List.map_map] at reports
  exact suggestFor_congr reports

theorem result_cover_congr (alike : db.models.map Model.compared = other.models.map Model.compared)
    (registry : Registry) (family : Family) :
    (cover db registry family).result = (cover other registry family).result := by
  simp only [result_cover, Database.gather, codeUses_of_compared alike, coverageOf,
    suggest_eq_flatMap, suggestFor_of_compared alike]

end Compared

/-- The database with every model changed by a function that leaves its name. -/
def Database.mapModels (db : Database) (change : Model → Model)
    (keeps : ∀ m, (change m).name = m.name) : Database where
  models := db.models.map change
  increasing := by
    rw [List.pairwise_map]
    simpa only [keeps] using db.increasing

def Database.withBoardCodes (db : Database) (boards : Model → Option (List String)) : Database :=
  db.mapModels (fun m => { m with boardCodes := boards m }) fun _ => rfl

/-- Neither of the two codes that stand for an unknown product. -/
def Genuine (code : String) : Prop := code ≠ "000" ∧ code ≠ "0000"

instance : DecidablePred Genuine := fun _ => inferInstanceAs (Decidable (_ ∧ _))

/-- No code is empty, and none but placeholders comes twice. -/
structure Faultless (codes : List String) : Prop where
  filled : "" ∉ codes
  distinct : (codes.filter fun code => Genuine code).Nodup

/-- The model lists the code. The codes in `earlier` stand before it, in the lists of the models
before this one and in its own. -/
def Database.Lists (db : Database) (earlier : List String) (m : Model) (code : String) : Prop :=
  ∃ above below, db.models = above ++ m :: below ∧
    ∃ before after, m.codes .model = before ++ code :: after ∧
      earlier = above.flatMap (fun m => m.codes .model) ++ before

/-- What is wrong with a code that a model lists, given the codes before it. -/
inductive ListFault (earlier : List String) (m : Model) (code : String) : Fault → Prop
  | empty (blank : code = "") : ListFault earlier m code (.emptyCode m.name .model)
  | shared (filled : code ≠ "") (genuine : Genuine code) (again : code ∈ earlier) :
    ListFault earlier m code (.sharedCode m.name .model code)

section Records

variable {db : Database} {registry : Registry} {earlier codes : List String} {m : Model}
  {code : String} {fault : Fault}

theorem genuine_iff : Genuine code ↔ isPlaceholder code = false := by
  simp [Genuine, isPlaceholder]

theorem faultless_iff :
    Faultless codes ↔ "" ∉ codes ∧ (codes.filter isProper).Nodup := by
  have same (filled : "" ∉ codes) :
      codes.filter isProper = codes.filter fun code => Genuine code := by
    rw [filter_isProper filled]
    refine List.filter_congr fun code _ => ?_
    rw [Bool.eq_iff_iff, decide_eq_true_eq, genuine_iff, Bool.not_eq_true']
  constructor
  · rintro ⟨filled, distinct⟩
    exact ⟨filled, same filled ▸ distinct⟩
  · rintro ⟨filled, distinct⟩
    exact ⟨filled, same filled ▸ distinct⟩

theorem unopposed_iff_faultless {uses : List CodeUse} :
    Unopposed .model .strict [] uses ↔ Faultless (uses.map (·.code)) := by
  rw [unopposed_strict_iff, faultless_iff]
  simp

theorem objection_iff_listFault :
    Objection .model .strict earlier ⟨m.name, code⟩ fault ↔ ListFault earlier m code fault := by
  constructor
  · rintro (_ | ⟨_, proper, again⟩)
    · exact .empty rfl
    · obtain ⟨filled, genuine⟩ := isProper_iff.mp proper
      exact .shared (by simpa using filled) (genuine_iff.mpr genuine) again
  · rintro (blank | ⟨filled, genuine, again⟩)
    · subst blank
      exact .empty rfl
    · exact .shared rfl (isProper_iff.mpr ⟨by simpa using filled, genuine_iff.mp genuine⟩) again

theorem exists_use_iff (db : Database) (kind : CodeKind) {p : List CodeUse → CodeUse → Prop} :
    (∃ before use after, db.codeUses kind = before ++ use :: after ∧ p before use) ↔
      ∃ above m below, db.models = above ++ m :: below ∧
        ∃ before code after, m.codes kind = before ++ code :: after ∧
          p (above.flatMap (·.codeUses kind) ++ before.map (CodeUse.mk m.name)) ⟨m.name, code⟩ := by
  rw [Database.codeUses, exists_place_flatMap]
  constructor
  · rintro ⟨above, m, below, split, front, use, back, cut, here⟩
    obtain ⟨before, rest, parts, rfl, behind⟩ := List.map_eq_append_iff.mp cut
    obtain ⟨code, after, rfl, rfl, _⟩ := List.map_eq_cons_iff.mp behind
    exact ⟨above, m, below, split, before, code, after, parts, here⟩
  · rintro ⟨above, m, below, split, before, code, after, parts, here⟩
    exact ⟨above, m, below, split, before.map (CodeUse.mk m.name), ⟨m.name, code⟩,
      after.map (CodeUse.mk m.name), by simp [Model.codeUses, parts], here⟩

theorem map_code_uses (above : List Model) (m : Model) (before : List String) (kind : CodeKind) :
    (above.flatMap (·.codeUses kind) ++ before.map (CodeUse.mk m.name)).map CodeUse.code =
      above.flatMap (·.codes kind) ++ before := by
  simp [List.map_flatMap, Model.codeUses, Function.comp_def]

theorem exists_lists_iff {p : List String → Model → String → Prop} :
    (∃ above m below, db.models = above ++ m :: below ∧
      ∃ before code after, m.codes .model = before ++ code :: after ∧
        p (above.flatMap (·.codes .model) ++ before) m code) ↔
      ∃ earlier m code, db.Lists earlier m code ∧ p earlier m code := by
  constructor
  · rintro ⟨above, m, below, split, before, code, after, parts, here⟩
    exact ⟨_, m, code, ⟨above, below, split, before, after, parts, rfl⟩, here⟩
  · rintro ⟨_, m, code, ⟨above, below, split, before, after, parts, rfl⟩, here⟩
    exact ⟨above, m, below, split, before, code, after, parts, here⟩

theorem firstObjection_iff : FirstObjection .model .strict [] (db.codeUses .model) fault ↔
    ∃ earlier m code, db.Lists earlier m code ∧ Faultless earlier ∧
      ListFault earlier m code fault := by
  unfold FirstObjection
  simp only [unopposed_iff_faultless, List.nil_append]
  rw [exists_use_iff]
  simp only [map_code_uses, objection_iff_listFault]
  exact exists_lists_iff (p := fun earlier m code =>
    Faultless earlier ∧ ListFault earlier m code fault)

theorem firstRejected_iff :
    FirstRejected registry (db.models.flatMap fun m => m.codes .model) fault ↔
      ∃ earlier m code, db.Lists earlier m code ∧
        (∀ other ∈ earlier, Genuine other → registry.Accepts other) ∧ Genuine code ∧
        registry.Rejects code fault := by
  have passed (other : String) : isPlaceholder other = true ∨ registry.Accepts other ↔
      (Genuine other → registry.Accepts other) := by
    rw [genuine_iff]
    cases isPlaceholder other <;> simp
  unfold FirstRejected
  simp only [passed, ← genuine_iff]
  rw [exists_place_flatMap (p := fun before code =>
    (∀ other ∈ before, Genuine other → registry.Accepts other) ∧ Genuine code ∧
      registry.Rejects code fault)]
  exact exists_lists_iff (p := fun earlier _ code =>
    (∀ other ∈ earlier, Genuine other → registry.Accepts other) ∧ Genuine code ∧
      registry.Rejects code fault)

end Records

/-- A comparison succeeds exactly if no model code is empty, none but placeholders comes twice and
the registry accepts all but placeholders. Otherwise the first code that is empty or comes again is
reported, wherever it is, and only without such a code the first that the registry rejects. -/
theorem cover_verdict (db : Database) (registry : Registry) (family : Family) :
    let codes := db.models.flatMap fun m => m.codes .model
    ((∃ coverage, (cover db registry family).result = .ok coverage) ↔
      Faultless codes ∧ ∀ code ∈ codes, Genuine code → registry.Accepts code) ∧
    (∀ fault, (cover db registry family).result = .error fault ↔
      (∃ earlier m code, db.Lists earlier m code ∧ Faultless earlier ∧
        ListFault earlier m code fault) ∨
      Faultless codes ∧ ∃ earlier m code, db.Lists earlier m code ∧
        (∀ other ∈ earlier, Genuine other → registry.Accepts other) ∧ Genuine code ∧
        registry.Rejects code fault) ∧
    ∀ boards, (cover (db.withBoardCodes boards) registry family).result =
      (cover db registry family).result := by
  intro codes
  have listed : db.listedCodes .model = codes := listedCodes_eq db .model
  have faultless : Unopposed .model .strict [] (db.codeUses .model) ↔ Faultless codes :=
    listed ▸ unopposed_iff_faultless
  refine ⟨?_, fun fault => ?_, fun boards => ?_⟩
  · simp only [cover_eq_ok_iff, exists_and_left, exists_eq, and_true]
    rw [faultless]
    refine and_congr_right fun ⟨filled, _⟩ => ?_
    rw [Database.distinctCodes, listed, filter_isProper filled]
    simp [List.mem_eraseDups, genuine_iff]
  · rw [cover_eq_error_iff, faultless, listed, firstObjection_iff, firstRejected_iff]
  · have alike : (db.withBoardCodes boards).models.map Model.compared =
        db.models.map Model.compared := List.map_map
    exact result_cover_congr alike registry family

def listing (name : String) (codes : List String) : Model where
  productName := some name
  modelCodes := some codes

def listingDatabase (first second : List String) : Database where
  models := [listing "MacPro6,1" first, listing "MacPro7,1" second]
  increasing := List.pairwise_pair.mpr (by decide : "MacPro6,1" < "MacPro7,1")

def rackRegistry : Registry :=
  OrderedMap.ofList [("F5Q", ⟨"Mac Pro", .ok⟩), ("F9H", ⟨"Mac Pro", .notOk⟩)]

/-- Placeholders come again, and the registry knows the code that does not. A code comes again behind
one that the registry does not know and before one that is empty; one is empty behind an unknown one;
one is unknown and one, in another list, is retired. -/
theorem listed_codes_judged :
    (∃ coverage, (cover (listingDatabase ["000", "F5Q"] ["0000", "000"]) rackRegistry
      .standard).result = .ok coverage) ∧
    (cover (listingDatabase ["ZZZ", "F5Q"] ["000", "F5Q", ""]) rackRegistry .standard).result =
      .error (.sharedCode "MacPro7,1" .model "F5Q") ∧
    (cover (listingDatabase ["ZZZ", ""] ["ZZZ"]) rackRegistry .standard).result =
      .error (.emptyCode "MacPro6,1" .model) ∧
    (cover (listingDatabase ["000", "ZZZ"] ["F9H"]) rackRegistry .standard).result =
      .error (.unknownProduct "ZZZ") ∧
    (cover (listingDatabase ["F5Q", "F9H"] ["ZZZ"]) rackRegistry .standard).result =
      .error (.invalidProduct "F9H") := by
  have verdict (first second : List String) :=
    cover_verdict (listingDatabase first second) rackRegistry .standard
  have accepted : rackRegistry.Accepts "F5Q" := ⟨⟨"Mac Pro", .ok⟩, rfl, rfl⟩
  have retired : rackRegistry.Rejects "F9H" (.invalidProduct "F9H") :=
    have known : rackRegistry.get? "F9H" = some ⟨"Mac Pro", .notOk⟩ := rfl
    .invalid known rfl
  refine ⟨(verdict _ _).1.mpr ⟨⟨by decide, by decide⟩, ?_⟩, ?_, ?_, ?_, ?_⟩
  · simp [listingDatabase, listing, Model.codes, Model.codes?, Genuine, accepted]
  · refine ((verdict _ _).2.1 _).mpr (.inl ⟨["ZZZ", "F5Q", "000"], listing "MacPro7,1" _, "F5Q",
      ⟨[listing "MacPro6,1" _], [], rfl, ["000"], [""], rfl, rfl⟩, ⟨by decide, by decide⟩, ?_⟩)
    exact .shared (by decide) (by decide) (by decide)
  · exact ((verdict _ _).2.1 _).mpr (.inl ⟨["ZZZ"], listing "MacPro6,1" _, "",
      ⟨[], [listing "MacPro7,1" _], rfl, ["ZZZ"], [], rfl, rfl⟩, ⟨by decide, by decide⟩, .empty rfl⟩)
  · exact ((verdict _ _).2.1 _).mpr (.inr ⟨⟨by decide, by decide⟩, ["000"],
      listing "MacPro6,1" _, "ZZZ", ⟨[], [listing "MacPro7,1" _], rfl, ["000"], [], rfl, rfl⟩,
      by simp [Genuine], by decide, .unknown rfl⟩)
  · exact ((verdict _ _).2.1 _).mpr (.inr ⟨⟨by decide, by decide⟩, ["F5Q"],
      listing "MacPro6,1" _, "F9H", ⟨[], [listing "MacPro7,1" _], rfl, ["F5Q"], [], rfl, rfl⟩,
      by simp [accepted], by decide, retired⟩)

end ModelCatalog
