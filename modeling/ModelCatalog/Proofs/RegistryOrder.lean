import Mathlib.Data.Finset.Dedup
import Mathlib.Data.List.Perm.Basic
import ModelCatalog.Generation
import ModelCatalog.Proofs.Omissions
import ModelCatalog.Proofs.SerialTableText

/-! Registries with the same products in another order. Nothing that is written depends on the
order, and of what is reported only the order in which groups, codes and suggestions come. -/
namespace ModelCatalog

theorem OrderedMap.perm_of_get? {κ β : Type} [DecidableEq κ] {a b : OrderedMap κ β}
    (same : ∀ key, a.get? key = b.get? key) : a.entries.Perm b.entries := by
  refine (List.perm_ext_iff_of_nodup a.distinct.of_map b.distinct.of_map).mpr ?_
  rintro ⟨key, value⟩
  rw [mem_entries_iff, mem_entries_iff, same]

def Suggestion.unordered (s : Suggestion) : String × Finset String := (s.model, s.codes.toFinset)

/-- The same is found, in any order. -/
structure SameFindings (a b : Coverage) : Prop where
  used : a.used = b.used
  names : ∀ name, name ∈ a.omissions.keys ↔ name ∈ b.omissions.keys
  groups : ∀ name codes codes', a.omissions.get? name = some codes →
    b.omissions.get? name = some codes' → codes.Perm codes'
  suggestions : (a.suggestions.map Suggestion.unordered).Perm
    (b.suggestions.map Suggestion.unordered)

section Findings

variable {db : Database} {registry other : Registry} {family : Family} {coverage : Coverage}
  {omitted omitted' : List (String × Product)}

theorem checkUsed_congr (same : ∀ code, registry.get? code = other.get? code)
    (codes : List String) : checkUsed registry codes = checkUsed other codes := by
  induction codes with
  | nil => rfl
  | cons code rest ih => rw [checkUsed, checkUsed, same, ih]

theorem codesNamed_perm (same : omitted.Perm omitted') (name : String) :
    (codesNamed omitted name).Perm (codesNamed omitted' name) :=
  (same.filter _).map Prod.fst

theorem namesOf_perm (same : omitted.Perm omitted') : (namesOf omitted).Perm (namesOf omitted') := by
  refine (List.perm_ext_iff_of_nodup (nodup_eraseDups _) (nodup_eraseDups _)).mpr fun name => ?_
  rw [← namesOf, ← namesOf, mem_namesOf, mem_namesOf]
  simp only [same.mem_iff]

theorem codes_of_group {name : String} {codes : List String}
    (group : (groupByName omitted).get? name = some codes) : codes = codesNamed omitted name :=
  (mem_groupByName.mp ((OrderedMap.mem_entries_iff ..).mpr group)).2

theorem unordered_suggest (db : Database) (omitted : List (String × Product)) :
    (suggest db (groupByName omitted)).map Suggestion.unordered =
      (namesOf omitted).flatMap fun name => (db.models.filter (·.reports name)).map fun m =>
        (m.name, (codesNamed omitted name).toFinset) := by
  rw [suggest_eq_flatMap, entries_groupByName, List.flatMap_map, List.map_flatMap]
  simp only [suggestFor, List.map_map]
  rfl

theorem suggest_perm (same : omitted.Perm omitted') :
    ((suggest db (groupByName omitted)).map Suggestion.unordered).Perm
      ((suggest db (groupByName omitted')).map Suggestion.unordered) := by
  rw [unordered_suggest, unordered_suggest]
  refine (namesOf_perm same).flatMap fun name _ => ?_
  rw [List.toFinset_eq_of_perm _ _ (codesNamed_perm same name)]

theorem sameFindings_of_perm (same : registry.entries.Perm other.entries) (used : List String) :
    SameFindings (coverageOf db registry family used) (coverageOf db other family used) := by
  have omitted : (registry.omitted family used).Perm (other.omitted family used) := same.filter _
  refine ⟨rfl, fun name => ?_, fun name codes codes' group group' => ?_, suggest_perm omitted⟩
  · simp only [coverageOf, keys_groupByName, (namesOf_perm omitted).mem_iff]
  · rw [codes_of_group group, codes_of_group group']
    exact codesNamed_perm omitted name

theorem cover_eq_ok_of_perm (same : ∀ code, registry.get? code = other.get? code)
    (accepted : (cover db registry family).result = .ok coverage) :
    ∃ coverage', (cover db other family).result = .ok coverage' ∧
      SameFindings coverage coverage' := by
  obtain ⟨unopposed, valid, rfl⟩ := cover_eq_ok_iff.mp accepted
  refine ⟨_, cover_eq_ok_iff.mpr ⟨unopposed, fun code used => ?_, rfl⟩,
    sameFindings_of_perm (OrderedMap.perm_of_get? same) _⟩
  obtain ⟨product, present, sound⟩ := valid code used
  exact ⟨product, same code ▸ present, sound⟩

theorem cover_eq_error_congr {fault : Fault}
    (same : ∀ code, registry.get? code = other.get? code) :
    (cover db registry family).result = .error fault ↔
      (cover db other family).result = .error fault := by
  have rejected : FirstRejected registry (db.listedCodes .model) fault ↔
      FirstRejected other (db.listedCodes .model) fault := by
    rw [← checkUsed_eq_error_iff, checkUsed_congr same, checkUsed_eq_error_iff]
  rw [cover_eq_error_iff, cover_eq_error_iff, rejected]

end Findings

namespace SerialTable

variable {a b c : String} {registry other : Registry}

theorem codeLe_iff : codeLe a b = true ↔
    a.utf8ByteSize < b.utf8ByteSize ∨ a.utf8ByteSize = b.utf8ByteSize ∧ a ≤ b := by
  simp [codeLe]

theorem codeLe_trans (first : codeLe a b = true) (second : codeLe b c = true) :
    codeLe a c = true := by
  rw [codeLe_iff] at *
  rcases first with less | ⟨size, before⟩
  · exact .inl (by omega)
  · rcases second with less | ⟨size', before'⟩
    · exact .inl (by omega)
    · exact .inr ⟨size.trans size', String.le_trans before before'⟩

theorem codeLe_total (a b : String) : (codeLe a b || codeLe b a) = true := by
  rw [Bool.or_eq_true, codeLe_iff, codeLe_iff]
  rcases Nat.lt_trichotomy a.utf8ByteSize b.utf8ByteSize with less | same | greater
  · exact .inl (.inl less)
  · exact (String.le_total a b).imp (fun before => .inr ⟨same, before⟩)
      fun before => .inr ⟨same.symm, before⟩
  · exact .inr (.inl greater)

theorem codeLe_antisymm (first : codeLe a b = true) (second : codeLe b a = true) : a = b := by
  rw [codeLe_iff] at first second
  rcases first with less | ⟨size, before⟩
  · omega
  · rcases second with less | ⟨_, after⟩
    · omega
    · exact String.le_antisymm before after

theorem sorted_described (registry : Registry) :
    (described registry).Pairwise fun a b => codeLe a.1 b.1 = true :=
  @List.pairwise_mergeSort (String × Product) (fun a b => codeLe a.1 b.1)
    (fun _ _ _ => codeLe_trans) (fun a b => codeLe_total a.1 b.1) _

/-- The codes of the descriptions are distinct and sorted, which leaves them one order. -/
theorem described_of_perm (same : registry.entries.Perm other.entries) :
    described registry = described other := by
  have listed := described_perm registry
  have perm := listed.trans ((same.filter _).trans (described_perm other).symm)
  refine perm.eq_of_pairwise ?_ (sorted_described registry) (sorted_described other)
  rintro ⟨code, product⟩ ⟨code', product'⟩ first second before after
  obtain rfl : code = code' := codeLe_antisymm before after
  -- a code has one product
  have present := (registry.mem_entries_iff ..).mp
    (List.mem_of_mem_filter (listed.mem_iff.mp first))
  have present' := (registry.mem_entries_iff ..).mp
    (same.mem_iff.mpr (List.mem_of_mem_filter ((described_perm other).mem_iff.mp second)))
  rw [Option.some.inj (present.symm.trans present')]

end SerialTable

/-- With the products of a registry in another order the same fault is reported, or the same is
found but for the order of groups, of codes in a group, and of suggestions with their codes; and
every artifact is the same text. -/
theorem order_shows_in_findings {registry other : Registry}
    (same : ∀ code, registry.get? code = other.get? code) (db : Database) (family : Family) :
    (∀ fault, (cover db registry family).result = .error fault ↔
      (cover db other family).result = .error fault) ∧
    (∀ coverage, (cover db registry family).result = .ok coverage →
      ∃ coverage', (cover db other family).result = .ok coverage' ∧
        SameFindings coverage coverage') ∧
    ∀ (kind : ArtifactKind) (minYear : UInt32),
      kind.content db registry minYear = kind.content db other minYear := by
  refine ⟨fun fault => cover_eq_error_congr same,
    fun coverage accepted => cover_eq_ok_of_perm same accepted, fun kind minYear => ?_⟩
  cases kind with
  | infoTable => rfl
  | serialTable =>
    simp only [ArtifactKind.content, SerialTable.render,
      SerialTable.described_of_perm (OrderedMap.perm_of_get? same)]
  | boardMap => rfl

/-- The registry with its products in the opposite order. -/
def scatteredReversed : Registry := OrderedMap.ofList scatteredRegistry.entries.reverse

def reversedCoverage : Coverage where
  used := ["FGYY"]
  omissions := OrderedMap.ofList [("MacBook Pro", ["FH01", "FH00"]), ("Xserve", ["XS01"])]
  suggestions := [⟨"MacBookPro11,1", ["FH01", "FH00"]⟩]

theorem reversed_findings :
    (∀ code, scatteredRegistry.get? code = scatteredReversed.get? code) ∧
    (cover laptopDatabase scatteredReversed .standard).result = .ok reversedCoverage ∧
    SameFindings scatteredCoverage reversedCoverage := by
  have entries : scatteredReversed.entries = scatteredRegistry.entries.reverse := by decide
  have same (code : String) : scatteredRegistry.get? code = scatteredReversed.get? code := by
    rw [OrderedMap.get?, OrderedMap.get?, entries]
    exact pairValue?_of_perm (List.reverse_perm _).symm
      (List.nodup_iff_count.mp scatteredRegistry.distinct code)
  have reversed : (cover laptopDatabase scatteredReversed .standard).result =
      .ok reversedCoverage := by decide +kernel
  obtain ⟨_, found, _⟩ := order_shows_in_findings same laptopDatabase .standard
  obtain ⟨coverage, accepted, findings⟩ := found _ result_cover_scattered
  obtain rfl : reversedCoverage = coverage := Except.ok.inj (reversed.symm.trans accepted)
  exact ⟨same, reversed, findings⟩

end ModelCatalog
