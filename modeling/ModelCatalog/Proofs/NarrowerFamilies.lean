import ModelCatalog.Proofs.Suggestions

/-! Comparisons for a narrower family. A family that includes names by fewer markers, excludes them
by more, or leaves out longer codes, expects less. What is omitted for it is omitted for the wider
one as well, and neither the codes in use nor the faults depend on the family. -/
namespace ModelCatalog

/-- The family includes names by none but the markers of the other, and excludes them by all of its
markers. -/
structure Family.Narrows (narrow wide : Family) : Prop where
  includes : narrow.includes ⊆ wide.includes
  excludes : wide.excludes ⊆ narrow.excludes

/-- The codes that stand in the groups of omissions. -/
def Coverage.omittedCodes (c : Coverage) : List String := c.omissions.entries.flatMap Prod.snd

theorem flatMap_filter {α β : Type} (keep : α → Bool) (f : α → List β) (items : List α) :
    (items.filter keep).flatMap f = items.flatMap fun a => if keep a then f a else [] := by
  induction items with
  | nil => rfl
  | cons a rest ih => cases kept : keep a <;> simp [kept, ih]

section Restriction

variable {db : Database} {registry : Registry} {narrow wide : Family} {name code : String}
  {product : Product} {fault : Fault} {coverage : Coverage} {omitted : List (String × Product)}

theorem Family.Narrows.matchesName (narrows : narrow.Narrows wide)
    (matched : narrow.matchesName name = true) : wide.matchesName name = true := by
  simp only [Family.matchesName, Bool.and_eq_true, Bool.not_eq_true', List.any_eq_true,
    List.any_eq_false] at matched ⊢
  obtain ⟨⟨marker, among, found⟩, clear⟩ := matched
  refine ⟨⟨marker, narrows.includes among, found⟩, fun marker among => ?_⟩
  exact clear marker (narrows.excludes among)

/-- Of what is omitted for the wider family, the names decide what is omitted for the narrower
one. -/
theorem omitted_of_narrows (narrows : narrow.Narrows wide)
    (same : narrow.shortCode = wide.shortCode) (used : List String) :
    registry.omitted narrow used =
      (registry.omitted wide used).filter fun omission => narrow.matchesName omission.2.name := by
  rw [Registry.omitted, Registry.omitted, List.filter_filter]
  refine List.filter_congr fun omission _ => ?_
  obtain ⟨code, product⟩ := omission
  cases matched : narrow.matchesName product.name with
  | false => simp [isOmitted, matched]
  | true => simp [isOmitted, matched, narrows.matchesName matched, Family.admits, same]

theorem expects_longer {length : Nat} (longer : wide.shortCode ≤ length) :
    registry.Expects { wide with shortCode := length } code product ↔
      registry.Expects wide code product ∧ length < code.utf8ByteSize := by
  constructor
  · rintro ⟨listed, valid, named, long⟩
    exact ⟨⟨listed, valid, named, Nat.lt_of_le_of_lt longer long⟩, long⟩
  · rintro ⟨⟨listed, valid, named, _⟩, long⟩
    exact ⟨listed, valid, named, long⟩

theorem mem_group_iff : (∃ group ∈ (groupByName omitted).entries, code ∈ group.2) ↔
    ∃ product, (code, product) ∈ omitted := by
  constructor
  · rintro ⟨⟨name, codes⟩, group, inside⟩
    obtain ⟨_, rfl⟩ := mem_groupByName.mp group
    obtain ⟨product, member, _⟩ := mem_codesNamed.mp inside
    exact ⟨product, member⟩
  · rintro ⟨product, member⟩
    have group : (product.name, codesNamed omitted product.name) ∈ (groupByName omitted).entries :=
      mem_groupByName.mpr ⟨mem_namesOf.mpr ⟨_, member, rfl⟩, rfl⟩
    exact ⟨_, group, mem_codesNamed.mpr ⟨product, member, rfl⟩⟩

theorem mem_omittedCodes_coverageOf {used : List String} :
    code ∈ (coverageOf db registry wide used).omittedCodes ↔
      ∃ product, registry.Expects wide code product ∧ code ∉ used := by
  simp only [Coverage.omittedCodes, List.mem_flatMap, coverageOf, mem_group_iff, mem_omitted_iff]

theorem cover_eq_ok_of_family (accepted : (cover db registry wide).result = .ok coverage)
    (family : Family) :
    (cover db registry family).result = .ok (coverageOf db registry family coverage.used) := by
  obtain ⟨unopposed, valid, rfl⟩ := cover_eq_ok_iff.mp accepted
  exact cover_eq_ok_iff.mpr ⟨unopposed, valid, rfl⟩

theorem filter_suggest (distinct : (omitted.map Prod.fst).Nodup) (counts : String → Bool) :
    (suggest db (groupByName omitted)).filter (fun s =>
        ∃ group ∈ (groupByName omitted).entries, counts group.1 = true ∧ s.codes = group.2) =
      ((groupByName omitted).entries.filter fun group => counts group.1).flatMap
        (suggestFor db) := by
  rw [suggest_eq_flatMap, List.filter_flatMap, flatMap_filter]
  refine List.flatMap_congr fun group among => ?_
  have told : ∀ s ∈ suggestFor db group, (∃ other ∈ (groupByName omitted).entries,
      counts other.1 = true ∧ s.codes = other.2) ↔ counts group.1 = true := by
    intro s suggested
    obtain ⟨m, _, _, rfl⟩ := mem_suggestFor.mp suggested
    constructor
    · rintro ⟨other, second, counted, same⟩
      rwa [eq_of_same_codes distinct among second same]
    · intro counted
      exact ⟨group, among, counted, rfl⟩
  split
  · next counted =>
    refine List.filter_eq_self.mpr fun s suggested => ?_
    simpa using (told s suggested).mpr counted
  · next passed =>
    refine List.filter_eq_nil_iff.mpr fun s suggested => ?_
    simpa using mt (told s suggested).mp passed

end Restriction

/-- A coverage without the groups whose names do not count, and without what is suggested because of
them. -/
structure Restricts (db : Database) (counts : String → Bool) (old new : Coverage) : Prop where
  used : new.used = old.used
  omissions : new.omissions.entries = old.omissions.entries.filter fun group => counts group.1
  /-- Suggestions are made group by group. -/
  groupwise : old.suggestions = old.omissions.entries.flatMap (suggestFor db) ∧
    new.suggestions = new.omissions.entries.flatMap (suggestFor db)
  /-- A suggestion comes from the group that has its codes. -/
  suggestions : new.suggestions = old.suggestions.filter fun s =>
    ∃ group ∈ old.omissions.entries, counts group.1 = true ∧ s.codes = group.2

/-- For a family that includes fewer names, and leaves out codes of the same length, the same fault
is reported or the same codes are in use; the omissions are the groups with a name that the family
matches, unchanged and in their order, and the suggestions are those that come from these groups, in
their order. A family that only leaves out longer codes has the same omitted codes down to that
length. -/
theorem narrower_family_restricts (db : Database) (registry : Registry) (wide : Family) :
    (∀ narrow : Family, narrow.Narrows wide → narrow.shortCode = wide.shortCode →
      (∀ name, narrow.matchesName name = true → wide.matchesName name = true) ∧
      (∀ fault, (cover db registry narrow).result = .error fault ↔
        (cover db registry wide).result = .error fault) ∧
      ∀ coverage, (cover db registry wide).result = .ok coverage →
        ∃ restricted, (cover db registry narrow).result = .ok restricted ∧
          Restricts db narrow.matchesName coverage restricted) ∧
    ∀ length, wide.shortCode < length →
      ∀ coverage, (cover db registry wide).result = .ok coverage →
        ∃ shortened,
          (cover db registry { wide with shortCode := length }).result = .ok shortened ∧
          ∀ code, code ∈ shortened.omittedCodes ↔
            code ∈ coverage.omittedCodes ∧ length < code.utf8ByteSize := by
  refine ⟨fun narrow narrows same => ⟨fun name => narrows.matchesName, fun fault => ?_, ?_⟩, ?_⟩
  · rw [cover_eq_error_iff, cover_eq_error_iff]
  · intro coverage accepted
    refine ⟨_, cover_eq_ok_of_family accepted narrow, ?_⟩
    obtain ⟨_, _, rfl⟩ := cover_eq_ok_iff.mp accepted
    have entries := entries_groupByName_filter narrow.matchesName
      (registry.omitted wide (db.distinctCodes .model))
    rw [← omitted_of_narrows narrows same] at entries
    refine ⟨rfl, entries, ⟨rfl, rfl⟩, ?_⟩
    exact (congrArg (List.flatMap (suggestFor db)) entries).trans
      (filter_suggest (nodup_codes_omitted ..) _).symm
  · intro length longer coverage accepted
    refine ⟨_, cover_eq_ok_of_family accepted _, fun code => ?_⟩
    obtain ⟨_, _, rfl⟩ := cover_eq_ok_iff.mp accepted
    rw [mem_omittedCodes_coverageOf, mem_omittedCodes_coverageOf]
    simp only [expects_longer (Nat.le_of_lt longer), coverageOf]
    grind

/-- Every name holds the one marker of this family, and a name that holds the other is excluded. -/
def otherFamily : Family := { anyFamily with excludes := ["Mac"] }

def shortFamily : Family := { Family.standard with shortCode := 2 }

def shortCoverage : Coverage where
  used := ["FGYY"]
  omissions := OrderedMap.ofList [("MacBook Pro", ["FH00", "FH01"]), ("Xserve", ["XS1", "XS01"])]
  suggestions := [⟨"MacBookPro11,1", ["FH00", "FH01"]⟩]

/-- The group of one name is gone with its suggestion. Of two codes the one that is not longer than
three bytes is gone. -/
theorem other_family_restricts : otherFamily.Narrows anyFamily ∧
    otherFamily.shortCode = anyFamily.shortCode ∧ shortFamily.shortCode < 3 ∧
    (cover stutteredDatabase stutteredRegistry anyFamily).result = .ok stutteredCoverage ∧
    (∃ restricted, (cover stutteredDatabase stutteredRegistry otherFamily).result = .ok restricted ∧
      restricted.omissions.entries = [("", ["FH01"]), ("Xserve", ["FH03"])] ∧
      restricted.suggestions = [⟨"MacPro6,1", ["FH01"]⟩, ⟨"MacPro7,1", ["FH01"]⟩]) ∧
    (cover laptopDatabase scatteredRegistry shortFamily).result = .ok shortCoverage ∧
    ∃ shortened, (cover laptopDatabase scatteredRegistry .standard).result = .ok shortened ∧
      "XS01" ∈ shortened.omittedCodes ∧ "XS1" ∉ shortened.omittedCodes := by
  have narrows : otherFamily.Narrows anyFamily := ⟨by decide, by decide⟩
  have accepted : (cover stutteredDatabase stutteredRegistry anyFamily).result =
      .ok stutteredCoverage := by decide +kernel
  have passed : (cover laptopDatabase scatteredRegistry shortFamily).result =
      .ok shortCoverage := by decide +kernel
  obtain ⟨narrowed, _⟩ := narrower_family_restricts stutteredDatabase stutteredRegistry anyFamily
  obtain ⟨_, _, restricts⟩ := narrowed otherFamily narrows rfl
  obtain ⟨restricted, found, rest⟩ := restricts stutteredCoverage accepted
  obtain ⟨_, longer⟩ := narrower_family_restricts laptopDatabase scatteredRegistry shortFamily
  obtain ⟨shortened, left, codes⟩ := longer 3 (by decide) shortCoverage passed
  refine ⟨narrows, rfl, by decide, accepted, ⟨restricted, found, ?_, ?_⟩, passed, shortened, left,
    ?_, ?_⟩
  · exact rest.omissions.trans (by decide)
  · exact rest.suggestions.trans (by decide)
  · exact (codes "XS01").mpr (by decide)
  · exact fun omitted => absurd ((codes "XS1").mp omitted).2 (by decide)

end ModelCatalog
