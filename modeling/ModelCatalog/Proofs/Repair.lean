import ModelCatalog.Proofs.Omissions

/-! Following a suggestion. Adding its codes to the model that it names takes their group out of the
omissions, with the suggestions that come from it, and leaves all else as it was. -/
namespace ModelCatalog

/-- The model with codes added to its list; a missing list counts as empty. -/
def Model.addCodes (m : Model) (codes : List String) : Model :=
  { m with modelCodes := some (m.codes .model ++ codes) }

@[simp] theorem Model.codes_addCodes (m : Model) (codes : List String) :
    (m.addCodes codes).codes .model = m.codes .model ++ codes := rfl

/-- The database with codes added to the model of that name. -/
def Database.addCodes (db : Database) (name : String) (codes : List String) : Database :=
  db.mapModels (fun m => if m.name = name then m.addCodes codes else m) fun m => by split <;> rfl

/-- The codes that models contribute to those in use. -/
def properCodes (models : List Model) : List String :=
  (models.flatMap (·.codes .model)).filter isProper

section AddCodes

variable {db : Database} {front back : List Model} {m : Model} {codes : List String}

/-- Names being distinct, one model changes. -/
theorem models_addCodes (place : db.models = front ++ m :: back) :
    (db.addCodes m.name codes).models = front ++ m.addCodes codes :: back := by
  have distinct := db.nodup_names
  rw [place] at distinct
  obtain ⟨before, behind⟩ := ne_of_nodup_map distinct
  have unchanged (models : List Model) (others : ∀ other ∈ models, other.name ≠ m.name) :
      models.map (fun other => if other.name = m.name then other.addCodes codes else other) =
        models :=
    (List.map_congr_left fun other member => if_neg (others other member)).trans (List.map_id _)
  simp only [Database.addCodes, Database.mapModels, place, List.map_append, List.map_cons, if_true,
    unchanged front before, unchanged back behind]

theorem listedCodes_addCodes (place : db.models = front ++ m :: back) :
    (db.addCodes m.name codes).listedCodes .model =
      (front ++ [m]).flatMap (·.codes .model) ++ (codes ++ back.flatMap (·.codes .model)) := by
  simp [listedCodes_eq, models_addCodes place]

theorem suggestFor_addCodes (name : String) :
    suggestFor (db.addCodes name codes) = suggestFor db := by
  apply suggestFor_congr
  rw [Database.addCodes, Database.mapModels, List.map_map]
  refine List.map_congr_left fun m _ => ?_
  simp only [Function.comp_apply]
  split <;> rfl

/-- New proper codes stand between those of the models up to the one that they are added to and
those of the models behind it. -/
theorem distinctCodes_addCodes (place : db.models = front ++ m :: back)
    (unopposed : Unopposed .model .strict [] (db.codeUses .model))
    (proper : ∀ code ∈ codes, isProper code = true) (distinct : codes.Nodup)
    (fresh : ∀ code ∈ codes, code ∉ db.distinctCodes .model) :
    Unopposed .model .strict [] ((db.addCodes m.name codes).codeUses .model) ∧
    db.distinctCodes .model = properCodes (front ++ [m]) ++ properCodes back ∧
    (db.addCodes m.name codes).distinctCodes .model =
      properCodes (front ++ [m]) ++ codes ++ properCodes back := by
  have listed : db.listedCodes .model =
      (front ++ [m]).flatMap (·.codes .model) ++ back.flatMap (·.codes .model) := by
    simp [listedCodes_eq, place]
  have used : db.distinctCodes .model = properCodes (front ++ [m]) ++ properCodes back := by
    rw [distinctCodes_of_unopposed unopposed, listed, List.filter_append]
    rfl
  have filtered : ((db.addCodes m.name codes).listedCodes .model).filter isProper =
      properCodes (front ++ [m]) ++ (codes ++ properCodes back) := by
    rw [listedCodes_addCodes place, List.filter_append, List.filter_append,
      List.filter_eq_self.mpr proper]
    rfl
  have disjoint : (codes ++ (properCodes (front ++ [m]) ++ properCodes back)).Nodup := by
    rw [← used]
    exact List.nodup_append.mpr ⟨distinct, nodup_distinctCodes .., fun code new other old same =>
      fresh code new (same ▸ old)⟩
  have still : Unopposed .model .strict [] ((db.addCodes m.name codes).codeUses .model) := by
    refine unopposed_codeUses_iff.mpr ⟨fun empty => ?_, ?_⟩
    · obtain ⟨filled, _⟩ := unopposed_codeUses_iff.mp unopposed
      rw [listedCodes_addCodes place] at empty
      rw [listed] at filled
      simp only [List.mem_append, not_or] at filled empty
      rcases empty with inside | inside | inside
      · exact filled.1 inside
      · exact absurd (proper "" inside) (by simp)
      · exact filled.2 inside
    · rw [filtered]
      exact (List.perm_append_comm_assoc ..).nodup_iff.mp disjoint
  exact ⟨still, used, by rw [distinctCodes_of_unopposed still, filtered, List.append_assoc]⟩

end AddCodes

/-- The first coverage without the group of a suggestion, and with its codes in use. -/
structure Repaired (db : Database) (s : Suggestion) (old new : Coverage) : Prop where
  /-- One group of omissions is gone, and what was suggested because of it. -/
  group : ∃ name before after,
    old.omissions.entries = before ++ (name, s.codes) :: after ∧
    new.omissions.entries = before ++ after ∧
    old.suggestions = before.flatMap (suggestFor db) ++ suggestFor db (name, s.codes) ++
      after.flatMap (suggestFor db) ∧
    new.suggestions = before.flatMap (suggestFor db) ++ after.flatMap (suggestFor db) ∧
    s ∈ suggestFor db (name, s.codes)
  /-- The codes come behind those of the models up to the one that the suggestion names. -/
  used : ∃ front m back, db.models = front ++ m :: back ∧ m.name = s.model ∧
    old.used = properCodes (front ++ [m]) ++ properCodes back ∧
    new.used = properCodes (front ++ [m]) ++ s.codes ++ properCodes back

/-- To follow a suggestion, placeholders aside, repairs its group and nothing else. -/
theorem suggestion_repairs (db : Database) (registry : Registry) (family : Family)
    (coverage : Coverage) (accepted : (cover db registry family).result = .ok coverage)
    (s : Suggestion) (suggested : s ∈ coverage.suggestions)
    (genuine : ∀ code ∈ s.codes, isPlaceholder code = false) :
    ∃ repaired, (cover (db.addCodes s.model s.codes) registry family).result = .ok repaired ∧
      Repaired db s coverage repaired := by
  obtain ⟨unopposed, valid, rfl⟩ := cover_eq_ok_iff.mp accepted
  let omitted := registry.omitted family (db.distinctCodes .model)
  have suggested : s ∈ (groupByName omitted).entries.flatMap (suggestFor db) := suggested
  obtain ⟨⟨name, codes⟩, group, origin⟩ := List.mem_flatMap.mp suggested
  obtain ⟨m, found, rfl⟩ := List.mem_map.mp origin
  obtain ⟨_, rfl⟩ := mem_groupByName.mp group
  obtain ⟨front, back, place⟩ := List.append_of_mem (List.mem_filter.mp found).1
  obtain ⟨before, after, split⟩ := List.append_of_mem group
  have fresh : ∀ code ∈ codesNamed omitted name, code ∉ db.distinctCodes .model :=
    fun code inside => (mem_codesNamed_omitted.mp inside).1
  have proper : ∀ code ∈ codesNamed omitted name, isProper code = true := fun code inside => by
    obtain ⟨_, product, expected, _⟩ := mem_codesNamed_omitted.mp inside
    exact expected.isProper (genuine code inside)
  have distinct : (codesNamed omitted name).Nodup :=
    (nodup_codes_omitted ..).sublist (codesNamed_sublist ..)
  obtain ⟨still, used, used'⟩ := distinctCodes_addCodes place unopposed proper distinct fresh
  have grown : ∀ code, code ∈ (db.addCodes m.name (codesNamed omitted name)).distinctCodes .model ↔
      code ∈ db.distinctCodes .model ∨ code ∈ codesNamed omitted name := by
    intro code
    rw [used, used']
    simp only [List.mem_append]
    grind
  have entries := entries_groupByName_filter (fun other => !decide (other = name)) omitted
  rw [← omitted_of_used grown, OrderedMap.filter_entries_ne _ split] at entries
  refine ⟨_, cover_eq_ok_iff.mpr ⟨still, fun code inUse => ?_, rfl⟩, ?_, ?_⟩
  · rcases (grown code).mp inUse with old | new
    · exact valid code old
    · obtain ⟨_, product, expected, _⟩ := mem_codesNamed_omitted.mp new
      exact expected.accepts
  · refine ⟨name, before, after, split, entries, ?_, ?_, origin⟩
    · simp only [coverageOf, suggest_eq_flatMap]
      rw [split, List.flatMap_append, List.flatMap_cons, List.append_assoc]
    · simp only [coverageOf, suggest_eq_flatMap]
      rw [entries, List.flatMap_append, suggestFor_addCodes]
  · exact ⟨front, m, back, place, rfl, used, used'⟩

theorem scattered_codes_repaired :
    (cover laptopDatabase scatteredRegistry .standard).result = .ok scatteredCoverage ∧
    ⟨"MacBookPro11,1", ["FH00", "FH01"]⟩ ∈ scatteredCoverage.suggestions ∧
    (∀ code ∈ ["FH00", "FH01"], isPlaceholder code = false) ∧
    ∃ repaired, (cover (laptopDatabase.addCodes "MacBookPro11,1" ["FH00", "FH01"])
        scatteredRegistry .standard).result = .ok repaired ∧
      Repaired laptopDatabase ⟨"MacBookPro11,1", ["FH00", "FH01"]⟩ scatteredCoverage repaired := by
  have suggested : ⟨"MacBookPro11,1", ["FH00", "FH01"]⟩ ∈ scatteredCoverage.suggestions := by decide
  have genuine : ∀ code ∈ ["FH00", "FH01"], isPlaceholder code = false := by decide
  refine ⟨result_cover_scattered, suggested, genuine, ?_⟩
  exact suggestion_repairs laptopDatabase scatteredRegistry .standard scatteredCoverage
    result_cover_scattered ⟨"MacBookPro11,1", ["FH00", "FH01"]⟩ suggested genuine

end ModelCatalog
