import Mathlib.Data.List.Induction
import Mathlib.Data.List.Nodup
import ModelCatalog.Proofs.Comparison

/-! The groups of omitted codes. A group holds the codes of one product name in the order of the
registry, and the groups stand in the order in which their names first come among the omissions. -/
namespace ModelCatalog

/-- The codes of a product name, in order. -/
def codesNamed (omitted : List (String × Product)) (name : String) : List String :=
  (omitted.filter fun omission => omission.2.name = name).map Prod.fst

/-- The product names, in the order in which they first come. -/
def namesOf (omitted : List (String × Product)) : List String :=
  (omitted.map fun omission => omission.2.name).eraseDups

section Groups

variable {omitted : List (String × Product)} {name code : String} {codes : List String}

theorem namesOf_concat (omitted : List (String × Product)) (omission : String × Product) :
    namesOf (omitted ++ [omission]) =
      if omission.2.name ∈ namesOf omitted then namesOf omitted
      else namesOf omitted ++ [omission.2.name] := by
  simp only [namesOf, List.map_append, List.map_singleton, eraseDups_concat, List.mem_eraseDups]

theorem codesNamed_concat (omitted : List (String × Product)) (omission : String × Product)
    (name : String) :
    codesNamed (omitted ++ [omission]) name =
      codesNamed omitted name ++ if omission.2.name = name then [omission.1] else [] := by
  by_cases same : omission.2.name = name <;> simp [codesNamed, same]

theorem mem_codesNamed :
    code ∈ codesNamed omitted name ↔
      ∃ product, (code, product) ∈ omitted ∧ product.name = name := by
  simp [codesNamed]

theorem mem_namesOf : name ∈ namesOf omitted ↔ ∃ omission ∈ omitted, omission.2.name = name := by
  rw [namesOf, List.mem_eraseDups, List.mem_map]

theorem codesNamed_eq_nil_iff : codesNamed omitted name = [] ↔ name ∉ namesOf omitted := by
  rw [mem_namesOf, List.eq_nil_iff_forall_not_mem]
  simp only [mem_codesNamed, Prod.exists]
  grind

theorem groupByName_concat (omitted : List (String × Product)) (omission : String × Product) :
    groupByName (omitted ++ [omission]) = addOmission (groupByName omitted) omission := by
  rw [groupByName, List.foldl_append]
  rfl

theorem keys_groupByName (omitted : List (String × Product)) :
    (groupByName omitted).keys = namesOf omitted := by
  induction omitted using List.reverseRecOn with
  | nil => rfl
  | append_singleton omitted omission ih =>
    rw [groupByName_concat, addOmission, OrderedMap.keys_set, ih, namesOf_concat]

theorem get?_groupByName (omitted : List (String × Product)) (name : String) :
    ((groupByName omitted).get? name).getD [] = codesNamed omitted name := by
  induction omitted using List.reverseRecOn with
  | nil => rfl
  | append_singleton omitted omission ih =>
    rw [groupByName_concat, addOmission, OrderedMap.get?_set, codesNamed_concat]
    by_cases same : name = omission.2.name
    · subst same
      simp [← ih]
    · simp [same, Ne.symm same, ih]

theorem entries_groupByName (omitted : List (String × Product)) :
    (groupByName omitted).entries = (namesOf omitted).map fun name =>
      (name, codesNamed omitted name) := by
  rw [OrderedMap.entries_eq_map_keys _ [], keys_groupByName]
  simp only [get?_groupByName]

theorem mem_groupByName :
    (name, codes) ∈ (groupByName omitted).entries ↔
      name ∈ namesOf omitted ∧ codes = codesNamed omitted name := by
  rw [entries_groupByName, List.mem_map]
  grind

theorem namesOf_filter (keep : String → Bool) (omitted : List (String × Product)) :
    namesOf (omitted.filter fun omission => keep omission.2.name) =
      (namesOf omitted).filter keep := by
  rw [namesOf, namesOf, ← eraseDups_filter, List.filter_map]
  rfl

theorem codesNamed_filter {keep : String → Bool} (kept : keep name = true)
    (omitted : List (String × Product)) :
    codesNamed (omitted.filter fun omission => keep omission.2.name) name =
      codesNamed omitted name := by
  rw [codesNamed, codesNamed, List.filter_filter]
  refine congrArg _ (List.filter_congr fun omission _ => ?_)
  by_cases same : omission.2.name = name <;> simp [same, kept]

theorem entries_groupByName_filter (keep : String → Bool) (omitted : List (String × Product)) :
    (groupByName (omitted.filter fun omission => keep omission.2.name)).entries =
      (groupByName omitted).entries.filter fun group => keep group.1 := by
  rw [entries_groupByName, entries_groupByName, namesOf_filter, List.filter_map]
  refine List.map_congr_left fun name member => ?_
  rw [codesNamed_filter (List.mem_filter.mp member).2]

theorem heads_groupByName (omitted : List (String × Product)) :
    ((groupByName omitted).entries.filterMap fun group => group.2.head?).Sublist
      (omitted.map Prod.fst) := by
  simp only [entries_groupByName, List.filterMap_map, Function.comp_def]
  induction omitted using List.reverseRecOn with
  | nil => exact List.Sublist.slnil
  | append_singleton omitted omission ih =>
    -- A group that is there keeps its first code when one is added at its end.
    have kept : (namesOf omitted).filterMap (fun name =>
          (codesNamed (omitted ++ [omission]) name).head?) =
        (namesOf omitted).filterMap fun name => (codesNamed omitted name).head? := by
      refine List.filterMap_congr fun name member => ?_
      obtain ⟨first, rest, group⟩ : ∃ first rest, codesNamed omitted name = first :: rest :=
        List.exists_cons_of_ne_nil fun empty => codesNamed_eq_nil_iff.mp empty member
      simp [codesNamed_concat, group]
    rw [namesOf_concat, List.map_append]
    split
    · rw [kept]
      exact ih.trans (List.sublist_append_left ..)
    · next fresh =>
      have empty : codesNamed omitted omission.2.name = [] := codesNamed_eq_nil_iff.mpr fresh
      rw [List.filterMap_append, kept]
      simpa [codesNamed_concat, empty] using ih

theorem codesNamed_sublist (omitted : List (String × Product)) (name : String) :
    (codesNamed omitted name).Sublist (omitted.map Prod.fst) :=
  List.filter_sublist.map Prod.fst

/-- The code stands at one position of the group of that name and in no other group. -/
def OmittedOnce (groups : OrderedMap String (List String)) (code name : String) : Prop :=
  ∃ codes, (name, codes) ∈ groups.entries ∧ codes.count code = 1 ∧
    ∀ group ∈ groups.entries, code ∈ group.2 → group = (name, codes)

theorem omittedOnce_of_mem (distinct : (omitted.map Prod.fst).Nodup) {product : Product}
    (member : (code, product) ∈ omitted) : OmittedOnce (groupByName omitted) code product.name := by
  have listed : code ∈ codesNamed omitted product.name := mem_codesNamed.mpr ⟨product, member, rfl⟩
  refine ⟨codesNamed omitted product.name, ?_, ?_, ?_⟩
  · exact mem_groupByName.mpr ⟨mem_namesOf.mpr ⟨_, member, rfl⟩, rfl⟩
  · exact List.count_eq_one_of_mem (distinct.sublist (codesNamed_sublist ..)) listed
  · rintro ⟨name, codes⟩ group inside
    obtain ⟨_, rfl⟩ := mem_groupByName.mp group
    obtain ⟨other, among, rfl⟩ := mem_codesNamed.mp inside
    have same : some other = some product :=
      ((mem_iff_pairValue? distinct _ _).mp among).symm.trans
        ((mem_iff_pairValue? distinct _ _).mp member)
    rw [Option.some.inj same]

end Groups

/-- The registry has a valid product under the code that the family is expected to cover. -/
structure Registry.Expects (registry : Registry) (family : Family) (code : String)
    (product : Product) : Prop where
  listed : registry.get? code = some product
  valid : product.isValid = true
  named : family.matchesName product.name = true
  long : family.shortCode < code.utf8ByteSize

section Omitted

variable {registry : Registry} {family : Family} {used codes : List String} {code name : String}
  {product : Product}

theorem isOmitted_iff (listed : registry.get? code = some product) :
    isOmitted family used code product = true ↔
      registry.Expects family code product ∧ code ∉ used := by
  simp only [isOmitted, Family.admits, Bool.and_eq_true, decide_eq_true_eq, Bool.not_eq_true',
    List.contains_eq_mem, decide_eq_false_iff_not]
  constructor
  · rintro ⟨⟨⟨valid, named⟩, long⟩, unused⟩
    exact ⟨⟨listed, valid, named, long⟩, unused⟩
  · rintro ⟨⟨_, valid, named, long⟩, unused⟩
    exact ⟨⟨⟨valid, named⟩, long⟩, unused⟩

theorem mem_omitted_iff :
    (code, product) ∈ registry.omitted family used ↔
      registry.Expects family code product ∧ code ∉ used := by
  rw [Registry.omitted, List.mem_filter, OrderedMap.mem_entries_iff]
  constructor
  · rintro ⟨listed, omitted⟩
    exact (isOmitted_iff listed).mp omitted
  · rintro ⟨expected, unused⟩
    exact ⟨expected.listed, (isOmitted_iff expected.listed).mpr ⟨expected, unused⟩⟩

theorem codes_omitted_sublist (registry : Registry) (family : Family) (used : List String) :
    ((registry.omitted family used).map Prod.fst).Sublist registry.keys :=
  List.filter_sublist.map Prod.fst

theorem nodup_codes_omitted (registry : Registry) (family : Family) (used : List String) :
    ((registry.omitted family used).map Prod.fst).Nodup :=
  registry.distinct.sublist (codes_omitted_sublist ..)

theorem mem_codesNamed_omitted :
    code ∈ codesNamed (registry.omitted family used) name ↔
      code ∉ used ∧ ∃ product, registry.Expects family code product ∧ product.name = name := by
  rw [mem_codesNamed]
  simp only [mem_omitted_iff]
  grind

theorem Registry.Expects.accepts (expected : registry.Expects family code product) :
    registry.Accepts code :=
  ⟨product, expected.listed, expected.valid⟩

theorem Registry.Expects.isProper (expected : registry.Expects family code product)
    (genuine : isPlaceholder code = false) : isProper code = true := by
  have filled : code ≠ "" := by
    rintro rfl
    exact absurd expected.long (Nat.not_lt_zero _)
  simp [ModelCatalog.isProper, filled, genuine]

theorem omitted_of_used {more : List String} {name : String}
    (grown : ∀ code, code ∈ more ↔
      code ∈ used ∨ code ∈ codesNamed (registry.omitted family used) name) :
    registry.omitted family more =
      (registry.omitted family used).filter fun omission => !decide (omission.2.name = name) := by
  rw [Registry.omitted, Registry.omitted, List.filter_filter]
  refine List.filter_congr fun ⟨code, product⟩ member => ?_
  have listed : registry.get? code = some product := (registry.mem_entries_iff ..).mp member
  have named : code ∈ codesNamed (registry.omitted family used) name ↔
      code ∉ used ∧ registry.Expects family code product ∧ product.name = name := by
    rw [mem_codesNamed_omitted]
    refine and_congr_right fun _ => ⟨?_, fun found => ⟨product, found⟩⟩
    rintro ⟨other, expected, same⟩
    obtain rfl : other = product := Option.some.inj (expected.listed.symm.trans listed)
    exact ⟨expected, same⟩
  rw [Bool.eq_iff_iff, Bool.and_eq_true, isOmitted_iff listed, isOmitted_iff listed, grown, named]
  simp only [Bool.not_eq_true', decide_eq_false_iff_not]
  grind

theorem groupByName_omitted_isEmpty_iff :
    (groupByName (registry.omitted family used)).isEmpty = true ↔
      ∀ code product, registry.Expects family code product → code ∈ used := by
  rw [OrderedMap.isEmpty, entries_groupByName, List.isEmpty_iff, List.map_eq_nil_iff,
    List.eq_nil_iff_forall_not_mem]
  simp only [mem_namesOf, Prod.exists, mem_omitted_iff]
  grind

end Omitted

/-- Whatever a family expects is either in use or omitted, at one place in the group of its name,
and nothing else is omitted. The groups and their codes come in the order of the registry. -/
theorem expected_used_or_omitted (db : Database) (registry : Registry) (family : Family)
    (coverage : Coverage) (accepted : (cover db registry family).result = .ok coverage) :
    (∀ code product, registry.Expects family code product →
      (code ∈ coverage.used ∧ ∀ group ∈ coverage.omissions.entries, code ∉ group.2) ∨
      (code ∉ coverage.used ∧ OmittedOnce coverage.omissions code product.name)) ∧
    (∀ group ∈ coverage.omissions.entries,
      group.2 ≠ [] ∧ group.2.Sublist registry.keys ∧
      ∀ code ∈ group.2, ∃ product, registry.Expects family code product) ∧
    coverage.omissions.keys.Nodup ∧
    (coverage.omissions.entries.filterMap fun group => group.2.head?).Sublist registry.keys ∧
    coverage.used.Nodup ∧ (∀ code ∈ coverage.used, registry.Accepts code) ∧
    (coverage.isClean = true ↔
      ∀ code product, registry.Expects family code product → code ∈ coverage.used) := by
  obtain ⟨_, valid, rfl⟩ := cover_eq_ok_iff.mp accepted
  refine ⟨fun code product expected => ?_, ?_, OrderedMap.distinct _, ?_,
    nodup_distinctCodes db .model, valid, groupByName_omitted_isEmpty_iff⟩
  · by_cases used : code ∈ db.distinctCodes .model
    · refine .inl ⟨used, fun ⟨name, codes⟩ group inside => ?_⟩
      obtain ⟨_, rfl⟩ := mem_groupByName.mp group
      exact (mem_codesNamed_omitted.mp inside).1 used
    · exact .inr ⟨used, omittedOnce_of_mem (nodup_codes_omitted ..)
        (mem_omitted_iff.mpr ⟨expected, used⟩)⟩
  · rintro ⟨name, codes⟩ group
    obtain ⟨named, rfl⟩ := mem_groupByName.mp group
    refine ⟨fun empty => codesNamed_eq_nil_iff.mp empty named, ?_, fun code inside => ?_⟩
    · exact (codesNamed_sublist ..).trans (codes_omitted_sublist ..)
    · obtain ⟨_, product, expected, _⟩ := mem_codesNamed_omitted.mp inside
      exact ⟨product, expected⟩
  · exact (heads_groupByName _).trans (codes_omitted_sublist ..)

theorem mem_distinctCodes {db : Database} {kind : CodeKind} {code : String} :
    code ∈ db.distinctCodes kind ↔
      (∃ m ∈ db.models, code ∈ m.codes kind) ∧ isProper code = true := by
  rw [Database.distinctCodes, List.mem_eraseDups, List.mem_filter, listedCodes_eq, List.mem_flatMap]

theorem exists_group_of_suggest {db : Database} {groups : OrderedMap String (List String)}
    {s : Suggestion} (suggested : s ∈ suggest db groups) :
    ∃ group ∈ groups.entries, s.codes = group.2 := by
  rw [suggest_eq_flatMap] at suggested
  obtain ⟨group, member, origin⟩ := List.mem_flatMap.mp suggested
  obtain ⟨m, _, rfl⟩ := List.mem_map.mp origin
  exact ⟨group, member, rfl⟩

/-- Of the codes that a model lists, the omissions hold the placeholders that the registry expects,
because these are never gathered, and no others. -/
theorem mem_omissions_of_listed {db : Database} {registry : Registry} {family : Family}
    {coverage : Coverage} (accepted : (cover db registry family).result = .ok coverage) {m : Model}
    {code : String} (member : m ∈ db.models) (listed : code ∈ m.codes .model) :
    (∃ group ∈ coverage.omissions.entries, code ∈ group.2) ↔
      isPlaceholder code = true ∧ ∃ product, registry.Expects family code product := by
  obtain ⟨_, _, rfl⟩ := cover_eq_ok_iff.mp accepted
  constructor
  · rintro ⟨⟨name, codes⟩, group, inside⟩
    obtain ⟨_, rfl⟩ := mem_groupByName.mp group
    obtain ⟨unused, product, expected, _⟩ := mem_codesNamed_omitted.mp inside
    refine ⟨?_, product, expected⟩
    by_contra genuine
    have proper : isProper code = true := expected.isProper (Bool.eq_false_iff.mpr genuine)
    exact unused (mem_distinctCodes.mpr ⟨⟨m, member, listed⟩, proper⟩)
  · rintro ⟨placeholder, product, expected⟩
    have unused : code ∉ db.distinctCodes .model := by
      intro used
      have proper := (mem_distinctCodes.mp used).2
      simp [isProper, placeholder] at proper
    obtain ⟨codes, group, once, _⟩ := omittedOnce_of_mem (nodup_codes_omitted ..)
      (mem_omitted_iff.mpr ⟨expected, unused⟩)
    exact ⟨_, group, List.count_pos_iff.mp (once ▸ Nat.zero_lt_one)⟩

/-- A code that a model lists is omitted, and suggested, exactly if it is a placeholder that the
registry has as a valid product of the family. A family that leaves out codes of four bytes has no
such codes, and one that leaves out codes of three has one at most. -/
theorem listed_code_omitted_iff {db : Database} {registry : Registry} {family : Family}
    {coverage : Coverage} (accepted : (cover db registry family).result = .ok coverage) :
    (∀ m ∈ db.models, ∀ code ∈ m.codes .model,
      ((∃ group ∈ coverage.omissions.entries, code ∈ group.2) ↔
        isPlaceholder code = true ∧ ∃ product, registry.Expects family code product)) ∧
    (∀ group ∈ coverage.omissions.entries, ∀ code ∈ group.2, isPlaceholder code = false →
      ∀ m ∈ db.models, code ∉ m.codes .model) ∧
    (∀ s ∈ coverage.suggestions, ∃ group ∈ coverage.omissions.entries, s.codes = group.2) ∧
    (∀ group ∈ coverage.omissions.entries, ∀ code ∈ group.2, ∀ m ∈ db.models,
      code ∈ m.codes .model →
        family.shortCode < 4 ∧ (3 ≤ family.shortCode → code = "0000")) := by
  refine ⟨fun m member code listed => mem_omissions_of_listed accepted member listed, ?_, ?_, ?_⟩
  · intro group member code inside genuine m among listed
    have blank := ((mem_omissions_of_listed accepted among listed).mp ⟨group, member, inside⟩).1
    exact absurd blank (by simp [genuine])
  · obtain ⟨_, _, rfl⟩ := cover_eq_ok_iff.mp accepted
    exact fun s suggested => exists_group_of_suggest suggested
  · intro group member code inside m among listed
    obtain ⟨placeholder, product, expected⟩ :=
      (mem_omissions_of_listed accepted among listed).mp ⟨group, member, inside⟩
    have long := expected.long
    rcases (by simpa [isPlaceholder] using placeholder : code = "000" ∨ code = "0000") with
      rfl | rfl
    · have size : "000".utf8ByteSize = 3 := by decide
      exact ⟨by omega, fun short => by omega⟩
    · have size : "0000".utf8ByteSize = 4 := by decide
      exact ⟨by omega, fun _ => rfl⟩

/-- Codes of one name that are no neighbours, one of them in use, and a code too short to count. -/
def scatteredRegistry : Registry := OrderedMap.ofList
  [("FH00", ⟨"MacBook Pro", .ok⟩), ("XS1", ⟨"Xserve", .ok⟩), ("XS01", ⟨"Xserve", .ok⟩),
    ("FGYY", ⟨"MacBook Pro", .ok⟩), ("Q05R", ⟨"Mac mini", .notOk⟩), ("FH01", ⟨"MacBook Pro", .ok⟩)]

def laptop : Model where
  productName := some "MacBookPro11,1"
  modelCodes := some ["FGYY", "000"]
  specifications := some ⟨none, some ["MacBook Pro (13-inch)"]⟩

def laptopDatabase : Database := ⟨[laptop], List.pairwise_singleton ..⟩

def scatteredCoverage : Coverage where
  used := ["FGYY"]
  omissions := OrderedMap.ofList [("MacBook Pro", ["FH00", "FH01"]), ("Xserve", ["XS01"])]
  suggestions := [⟨"MacBookPro11,1", ["FH00", "FH01"]⟩]

theorem result_cover_scattered :
    (cover laptopDatabase scatteredRegistry .standard).result = .ok scatteredCoverage := by
  decide +kernel

theorem scattered_code_omitted :
    (cover laptopDatabase scatteredRegistry .standard).result = .ok scatteredCoverage ∧
    OmittedOnce scatteredCoverage.omissions "FH01" "MacBook Pro" := by
  have expected : Registry.Expects scatteredRegistry .standard "FH01" ⟨"MacBook Pro", .ok⟩ :=
    ⟨by decide, by decide, by decide, by decide⟩
  refine ⟨result_cover_scattered, ?_⟩
  rcases (expected_used_or_omitted _ _ _ _ result_cover_scattered).1 "FH01" _ expected with
    ⟨used, _⟩ | ⟨_, once⟩
  · exact absurd used (by decide)
  · exact once

/-- A placeholder that is a valid product, beside codes that are none. -/
def blankRegistry : Registry := OrderedMap.ofList
  [("FH00", ⟨"MacBook Pro", .ok⟩), ("0000", ⟨"MacBook Pro", .ok⟩), ("000", ⟨"MacBook Pro", .ok⟩)]

def blankLaptop : Model := { laptop with modelCodes := some ["0000", "000"] }

def blankDatabase : Database := ⟨[blankLaptop], List.pairwise_singleton ..⟩

def blankCoverage : Coverage where
  used := []
  omissions := OrderedMap.ofList [("MacBook Pro", ["FH00", "0000"])]
  suggestions := [⟨"MacBookPro11,1", ["FH00", "0000"]⟩]

theorem result_cover_blank :
    (cover blankDatabase blankRegistry .standard).result = .ok blankCoverage := by
  decide +kernel

/-- Of the two placeholders that the model lists, the one that is long enough is omitted. -/
theorem blank_code_omitted_iff :
    (cover blankDatabase blankRegistry .standard).result = .ok blankCoverage ∧
    (∃ group ∈ blankCoverage.omissions.entries, "0000" ∈ group.2) ∧
    ¬ ∃ group ∈ blankCoverage.omissions.entries, "000" ∈ group.2 := by
  have named := (listed_code_omitted_iff result_cover_blank).1 blankLaptop (List.mem_singleton_self _)
  have expected : Registry.Expects blankRegistry .standard "0000" ⟨"MacBook Pro", .ok⟩ :=
    ⟨by decide, by decide, by decide, by decide⟩
  refine ⟨result_cover_blank, (named "0000" (by decide)).mpr ⟨rfl, _, expected⟩, fun omitted => ?_⟩
  obtain ⟨_, _, short⟩ := (named "000" (by decide)).mp omitted
  exact absurd short.long (by decide)

/-- The model lists the code that it is suggested to list. -/
theorem listed_code_suggested :
    (cover blankDatabase blankRegistry .standard).result = .ok blankCoverage ∧
    "0000" ∈ blankLaptop.codes .model ∧ blankLaptop ∈ blankDatabase.models ∧
    ("MacBook Pro", ["FH00", "0000"]) ∈ blankCoverage.omissions.entries ∧
    ⟨blankLaptop.name, ["FH00", "0000"]⟩ ∈ blankCoverage.suggestions :=
  ⟨result_cover_blank, by decide, List.mem_singleton_self _, by decide, by decide⟩

end ModelCatalog
