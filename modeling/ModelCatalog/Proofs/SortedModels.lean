import ModelCatalog.Database
import ModelCatalog.Proofs.ByteOrder

/-! Sorting models by name. A database holds the models that it is made of; it cannot be made if
some share a name, and then the least such name is reported. Their order does not matter. -/
namespace ModelCatalog

/-- At least two of the models have the name. -/
def SharedName (models : List Model) (name : String) : Prop :=
  1 < (models.map Model.name).count name

namespace Database

variable {models others : List Model} {a : Model} {name : String} {db : Database} {fault : Fault}

theorem sharedName_perm (same : models.Perm others) :
    SharedName models name ↔ SharedName others name := by
  rw [SharedName, SharedName, (same.map Model.name).count_eq]

theorem mem_of_sharedName (shared : SharedName models name) : name ∈ models.map Model.name :=
  List.count_pos_iff.mp (Nat.zero_lt_of_lt shared)

theorem sharedName_cons (fresh : a.name ∉ models.map Model.name) :
    SharedName (a :: models) name ↔ SharedName models name := by
  unfold SharedName
  rw [List.map_cons, List.count_cons]
  by_cases same : a.name = name
  · subst same
    simp [List.count_eq_zero.mpr fresh]
  · simp [same]

theorem repeated?_spec (sorted : models.Pairwise fun a b => a.name ≤ b.name) :
    (repeated? models = none ∧ ∀ name, ¬ SharedName models name) ∨
    ∃ name, repeated? models = some name ∧ SharedName models name ∧
      ∀ other, SharedName models other → name ≤ other := by
  induction models with
  | nil => exact .inl ⟨rfl, fun name shared => by simp [SharedName] at shared⟩
  | cons a rest ih =>
    obtain ⟨least, behind⟩ := List.pairwise_cons.mp sorted
    cases rest with
    | nil =>
      refine .inl ⟨rfl, fun name shared => ?_⟩
      have few : ([a].map Model.name).count name ≤ 1 := List.count_le_length
      exact Nat.not_lt.mpr few shared
    | cons b rest =>
      by_cases same : a.name = b.name
      · refine .inr ⟨a.name, by rw [repeated?, if_pos same], ?_, fun other shared => ?_⟩
        · simp [SharedName, same]
        · rcases List.mem_cons.mp (mem_of_sharedName shared) with rfl | member
          · exact String.le_refl _
          · obtain ⟨m, among, rfl⟩ := List.mem_map.mp member
            exact least m among
      · have fresh : a.name ∉ (b :: rest).map Model.name := by
          intro member
          obtain ⟨m, among, equal⟩ := List.mem_map.mp member
          have first : b.name ≤ m.name := by
            rcases List.mem_cons.mp among with rfl | among
            · exact String.le_refl _
            · exact (List.pairwise_cons.mp behind).1 m among
          exact same (String.le_antisymm (least b (List.mem_cons_self ..)) (equal ▸ first))
        rw [repeated?, if_neg same]
        simpa only [sharedName_cons fresh] using ih behind

/-- Models that share no name make a database; of those that do, the least name that is shared is
reported. -/
theorem ofModels_spec (models : List Model) :
    (∃ db, ofModels models = .ok db ∧ db.models.Perm models) ∨
    ∃ name, ofModels models = .error (.duplicateModel name) ∧ SharedName models name ∧
      ∀ other, SharedName models other → name ≤ other := by
  have same : (sortByName models).Perm models := List.mergeSort_perm ..
  rcases repeated?_spec (sorted_sortByName models) with ⟨unique, _⟩ | ⟨name, twice, shared, least⟩
  · refine .inl ⟨⟨sortByName models, increasing_of_sorted (sorted_sortByName models) unique⟩, ?_,
      same⟩
    unfold ofModels
    split
    · next other =>
      rw [unique] at other
      cases other
    · rfl
  · refine .inr ⟨name, ?_, (sharedName_perm same).mp shared, fun other again =>
      least other ((sharedName_perm same).mpr again)⟩
    unfold ofModels
    split
    · next other =>
      rw [twice] at other
      cases other
      rfl
    · next unique =>
      rw [twice] at unique
      cases unique

theorem not_sharedName (db : Database) (name : String) : ¬ SharedName db.models name :=
  Nat.not_lt.mpr (List.nodup_iff_count.mp db.nodup_names name)

theorem eq_of_perm {db other : Database} (same : db.models.Perm other.models) : db = other := by
  refine ext_models (same.eq_of_pairwise ?_ db.increasing other.increasing)
  intro a b _ _ less greater
  exact absurd greater (String.lt_asymm less)

theorem ofModels_eq_ok_iff : ofModels models = .ok db ↔ db.models.Perm models := by
  rcases ofModels_spec models with ⟨found, made, same⟩ | ⟨name, refused, shared, _⟩
  · rw [made, Except.ok.injEq]
    refine ⟨?_, fun held => eq_of_perm (same.trans held.symm)⟩
    rintro rfl
    exact same
  · rw [refused]
    refine ⟨nofun, fun held => ?_⟩
    exact absurd ((sharedName_perm held).mpr shared) (not_sharedName db name)

theorem ofModels_eq_error_iff : ofModels models = .error fault ↔
    ∃ name, fault = .duplicateModel name ∧ SharedName models name ∧
      ∀ other, SharedName models other → name ≤ other := by
  rcases ofModels_spec models with ⟨found, made, same⟩ | ⟨name, refused, shared, least⟩
  · rw [made]
    refine ⟨nofun, ?_⟩
    rintro ⟨name, _, shared, _⟩
    exact absurd ((sharedName_perm same).mpr shared) (not_sharedName found name)
  · rw [refused, Except.error.injEq]
    constructor
    · rintro rfl
      exact ⟨name, rfl, shared, least⟩
    · rintro ⟨other, rfl, otherShared, otherLeast⟩
      rw [String.le_antisymm (least other otherShared) (otherLeast name shared)]

theorem ofModels_perm (same : models.Perm others) : ofModels models = ofModels others := by
  cases made : ofModels others with
  | ok db => exact ofModels_eq_ok_iff.mpr ((ofModels_eq_ok_iff.mp made).trans same.symm)
  | error fault =>
    refine ofModels_eq_error_iff.mpr ?_
    simpa only [sharedName_perm same] using ofModels_eq_error_iff.mp made

theorem not_sharedName_iff :
    (∀ name, ¬ SharedName models name) ↔ models.Pairwise fun a b => a.name ≠ b.name := by
  have few (name : String) : ¬ SharedName models name ↔ (models.map Model.name).count name ≤ 1 :=
    Nat.not_lt
  simp only [few, ← List.nodup_iff_count, List.Nodup, List.pairwise_map]

theorem exists_ofModels_iff :
    (∃ db, ofModels models = .ok db) ↔ models.Pairwise fun a b => a.name ≠ b.name := by
  rw [← not_sharedName_iff]
  constructor
  · rintro ⟨db, made⟩ name shared
    have held := ofModels_eq_ok_iff.mp made
    exact not_sharedName db name ((sharedName_perm held).mpr shared)
  · intro different
    rcases ofModels_spec models with ⟨db, made, _⟩ | ⟨name, _, shared, _⟩
    · exact ⟨db, made⟩
    · exact absurd shared (different name)

/-- Models with different names make a database. It holds these models, and the bytes of their names
increase. Otherwise the first name in the order of bytes that comes more than once is reported. In
either case the order in which the models are given does not matter. -/
theorem different_names_make_database (models : List Model) :
    ((∃ db, ofModels models = .ok db) ↔ models.Pairwise fun a b => a.name ≠ b.name) ∧
    (∀ db, ofModels models = .ok db →
      db.models.Perm models ∧ (db.models.map fun m => bytesOf m.name).Pairwise (· < ·)) ∧
    (∀ fault, ofModels models = .error fault ↔
      ∃ name, fault = .duplicateModel name ∧ SharedName models name ∧
        ∀ other, SharedName models other → bytesOf name ≤ bytesOf other) ∧
    ∀ others, models.Perm others → ofModels others = ofModels models := by
  refine ⟨exists_ofModels_iff, ?_, ?_, ?_⟩
  · intro db made
    refine ⟨ofModels_eq_ok_iff.mp made, ?_⟩
    rw [List.pairwise_map]
    exact db.increasing.imp lt_iff_bytesOf_lt.mp
  · intro fault
    simp only [ofModels_eq_error_iff, le_iff_bytesOf_le]
  · intro others same
    exact (ofModels_perm same).symm

/-- Three models in no order, one of them without a name. -/
def unsortedModels : List Model :=
  [{ productName := some "Éclair1,1" }, { productName := some "iMac20,1" }, {}]

/-- A name comes twice, and another is once missing and once empty. -/
def repeatingModels : List Model :=
  [{ productName := some "iMac20,1" }, {}, { productName := some "iMac20,1", boardType := some 1 },
    { productName := some "" }]

theorem unsorted_make_database :
    (∃ db, ofModels unsortedModels = .ok db ∧ db.models.Perm unsortedModels ∧
      (db.models.map fun m => bytesOf m.name).Pairwise (· < ·)) ∧
    ofModels unsortedModels.reverse = ofModels unsortedModels ∧
    ofModels repeatingModels = .error (.duplicateModel "") := by
  obtain ⟨made, sorted, _, same⟩ := different_names_make_database unsortedModels
  obtain ⟨_, _, refused, _⟩ := different_names_make_database repeatingModels
  obtain ⟨db, given⟩ := made.mpr (by decide)
  have shared : SharedName repeatingModels "" := by
    unfold SharedName
    decide
  refine ⟨⟨db, given, sorted db given⟩, same _ (List.reverse_perm _).symm, ?_⟩
  exact (refused _).mpr ⟨"", rfl, shared, fun other _ => List.not_lt.mp (List.not_lt_nil _)⟩

end Database

end ModelCatalog
