import Mathlib.Data.List.Nodup
import ModelCatalog.Proofs.Omissions

/-! What is suggested. Group by group, each model that mentions the product of the group is told all
its codes. Groups have no code in common and models have no name in common, so that a suggestion
comes from one group and one model. -/
namespace ModelCatalog

/-- The name stands somewhere in a report of the model. -/
def Model.Mentions (m : Model) (name : String) : Prop :=
  ∃ report ∈ m.reportNames, ∃ before after, report = before ++ name ++ after

theorem reports_iff_mentions {m : Model} {name : String} :
    m.reports name = true ↔ m.Mentions name := by
  simp [Model.reports, Model.Mentions, Text.contains_iff]

instance (m : Model) : DecidablePred m.Mentions := fun _ =>
  decidable_of_iff _ reports_iff_mentions

section Suggested

variable {db : Database} {groups : OrderedMap String (List String)} {s : Suggestion}
  {omitted : List (String × Product)} {group other : String × List String}

theorem suggestFor_eq (db : Database) (group : String × List String) :
    suggestFor db group = (db.models.filter (·.Mentions group.1)).map fun m =>
      ⟨m.name, group.2⟩ := by
  have same : (db.models.filter fun m => m.reports group.1) =
      db.models.filter (·.Mentions group.1) := by
    apply List.filter_congr
    intro m _
    rw [Bool.eq_iff_iff, reports_iff_mentions, decide_eq_true_iff]
  rw [suggestFor, same]

theorem mem_suggestFor :
    s ∈ suggestFor db group ↔ ∃ m ∈ db.models, m.Mentions group.1 ∧ s = ⟨m.name, group.2⟩ := by
  rw [suggestFor_eq]
  simp only [List.mem_map, List.mem_filter, decide_eq_true_eq, and_assoc, @eq_comm _ s]

theorem mem_suggest :
    s ∈ suggest db groups ↔ ∃ group ∈ groups.entries, ∃ m ∈ db.models,
      m.Mentions group.1 ∧ s = ⟨m.name, group.2⟩ := by
  simp only [suggest_eq_flatMap, List.mem_flatMap, mem_suggestFor]

theorem eq_of_same_codes (distinct : (omitted.map Prod.fst).Nodup)
    (first : group ∈ (groupByName omitted).entries)
    (second : other ∈ (groupByName omitted).entries) (same : group.2 = other.2) :
    group = other := by
  obtain ⟨named, codes⟩ := mem_groupByName.mp first
  have some : group.2 ≠ [] := fun empty => codesNamed_eq_nil_iff.mp (codes ▸ empty) named
  obtain ⟨code, rest, split⟩ := List.exists_cons_of_ne_nil some
  have inside : code ∈ group.2 := by simp [split]
  obtain ⟨product, among, _⟩ := mem_codesNamed.mp (codes ▸ inside)
  obtain ⟨_, _, _, only⟩ := omittedOnce_of_mem distinct among
  rw [only group first inside, only other second (same ▸ inside)]

/-- A group is suggested to a model once, however many reports of the model mention its product. -/
theorem nodup_suggestFor (db : Database) (group : String × List String) :
    (suggestFor db group).Nodup := by
  apply List.Nodup.of_map Suggestion.model
  rw [suggestFor, List.map_map]
  exact db.nodup_names.sublist (List.filter_sublist.map _)

theorem nodup_suggest (distinct : (omitted.map Prod.fst).Nodup) :
    (suggest db (groupByName omitted)).Nodup := by
  rw [suggest_eq_flatMap, List.nodup_flatMap]
  refine ⟨fun group _ => nodup_suggestFor db group, ?_⟩
  have apart : (groupByName omitted).entries.Pairwise (· ≠ ·) :=
    (OrderedMap.distinct _).of_map
  refine apart.imp_of_mem ?_
  intro group other first second different s here there
  obtain ⟨m, _, _, rfl⟩ := mem_suggestFor.mp here
  obtain ⟨n, _, _, same⟩ := mem_suggestFor.mp there
  exact different (eq_of_same_codes distinct first second (congrArg Suggestion.codes same))

theorem suggested_iff_mentions (distinct : (omitted.map Prod.fst).Nodup) {m : Model}
    (member : m ∈ db.models) (among : group ∈ (groupByName omitted).entries) :
    ⟨m.name, group.2⟩ ∈ suggest db (groupByName omitted) ↔ m.Mentions group.1 := by
  rw [mem_suggest]
  constructor
  · rintro ⟨other, second, n, inside, mentions, same⟩
    obtain ⟨names, codes⟩ := Suggestion.mk.inj same
    obtain rfl : m = n := List.inj_on_of_nodup_map db.nodup_names member inside names
    obtain rfl : group = other := eq_of_same_codes distinct among second codes
    exact mentions
  · intro mentions
    exact ⟨group, among, m, member, mentions, rfl⟩

end Suggested

/-- The suggestions go through the groups in order and, for each, through the models that mention its
product, in order. Each such pair of a group and a model makes one suggestion, and a group that no
model mentions makes none. -/
theorem suggestions_follow_mentions {db : Database} {registry : Registry} {family : Family}
    {coverage : Coverage} (accepted : (cover db registry family).result = .ok coverage) :
    coverage.suggestions = coverage.omissions.entries.flatMap (fun group =>
      (db.models.filter (·.Mentions group.1)).map fun m => ⟨m.name, group.2⟩) ∧
    (∀ group ∈ coverage.omissions.entries, ∀ m ∈ db.models,
      coverage.suggestions.count ⟨m.name, group.2⟩ = if m.Mentions group.1 then 1 else 0) ∧
    (∀ s ∈ coverage.suggestions, ∃ group ∈ coverage.omissions.entries, ∃ m ∈ db.models,
      m.Mentions group.1 ∧ s = ⟨m.name, group.2⟩) ∧
    (∀ group ∈ coverage.omissions.entries, (∀ m ∈ db.models, ¬ m.Mentions group.1) →
      ∀ s ∈ coverage.suggestions, s.codes ≠ group.2) := by
  obtain ⟨_, _, rfl⟩ := cover_eq_ok_iff.mp accepted
  have distinct := nodup_codes_omitted registry family (db.distinctCodes .model)
  refine ⟨?_, ?_, fun s suggested => mem_suggest.mp suggested, ?_⟩
  · simp only [coverageOf, suggest_eq_flatMap, ← suggestFor_eq]
  · intro group among m member
    have made := suggested_iff_mentions distinct member among
    split
    · next mentions =>
      exact List.count_eq_one_of_mem (nodup_suggest distinct) (made.mpr mentions)
    · next silent => exact List.count_eq_zero_of_not_mem (mt made.mp silent)
  · intro group among unmentioned s suggested same
    obtain ⟨other, second, m, member, mentions, rfl⟩ := mem_suggest.mp suggested
    obtain rfl : other = group := eq_of_same_codes distinct second among same
    exact unmentioned m member mentions

/-- Every product is expected, the one without a name as well. -/
def anyFamily : Family := ⟨[""], [], 3⟩

def stutteredRegistry : Registry := OrderedMap.ofList
  [("FH00", ⟨"Mac Mac Pro", .ok⟩), ("FH01", ⟨"", .ok⟩), ("FH02", ⟨"Mac Mac Pro", .ok⟩),
    ("FH03", ⟨"Xserve", .ok⟩)]

/-- One model mentions a name in two reports, after a beginning of it that leads nowhere. One has
reports in which only the empty name stands, and one has no reports. -/
def stutteredDatabase : Database :=
  ⟨[{ productName := some "MacPro6,1",
      specifications := some ⟨none, some ["Mac Mac Mac Pro (Été 2013)", "The Mac Mac Pro"]⟩ },
    { productName := some "MacPro7,1", specifications := some ⟨none, some ["Mac Mac", ""]⟩ },
    { productName := some "Xserve3,1" }], by decide⟩

def stutteredCoverage : Coverage where
  used := []
  omissions := OrderedMap.ofList
    [("Mac Mac Pro", ["FH00", "FH02"]), ("", ["FH01"]), ("Xserve", ["FH03"])]
  suggestions := [⟨"MacPro6,1", ["FH00", "FH02"]⟩, ⟨"MacPro6,1", ["FH01"]⟩, ⟨"MacPro7,1", ["FH01"]⟩]

theorem stuttered_name_suggested_once :
    (cover stutteredDatabase stutteredRegistry anyFamily).result = .ok stutteredCoverage ∧
    stutteredCoverage.suggestions.count ⟨"MacPro6,1", ["FH00", "FH02"]⟩ = 1 ∧
    stutteredCoverage.suggestions.count ⟨"MacPro7,1", ["FH00", "FH02"]⟩ = 0 ∧
    ∀ s ∈ stutteredCoverage.suggestions, s.codes ≠ ["FH03"] := by
  have accepted : (cover stutteredDatabase stutteredRegistry anyFamily).result =
      .ok stutteredCoverage := by decide +kernel
  obtain ⟨_, counts, _, unmentioned⟩ := suggestions_follow_mentions accepted
  have group : ("Mac Mac Pro", ["FH00", "FH02"]) ∈ stutteredCoverage.omissions.entries := by decide
  refine ⟨accepted, ?_, ?_, unmentioned ("Xserve", ["FH03"]) (by decide) (by decide)⟩
  · exact (counts _ group _ (.head _)).trans (if_pos (by decide))
  · exact (counts _ group _ (.tail _ (.head _))).trans (if_neg (by decide))

end ModelCatalog
