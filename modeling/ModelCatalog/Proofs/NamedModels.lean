import ModelCatalog.Proofs.SortedModels

/-! Looking up a model by its name. The search leaves aside one half after the other, and what it
looks for is never in a half that it leaves aside; so it finds what a scan of all models finds. -/
namespace ModelCatalog.Database

section Search

variable {models : List Model} {name : String} {i j : Nat} {a b : Model}

theorem name_lt_iff (increasing : models.Pairwise fun a b => a.name < b.name)
    (first : models[i]? = some a) (second : models[j]? = some b) : a.name < b.name ↔ i < j := by
  obtain ⟨insideFirst, rfl⟩ := List.getElem?_eq_some_iff.mp first
  obtain ⟨insideSecond, rfl⟩ := List.getElem?_eq_some_iff.mp second
  have ordered := List.pairwise_iff_getElem.mp increasing
  rcases Nat.lt_trichotomy i j with earlier | rfl | later
  · simp [earlier, ordered i j insideFirst insideSecond earlier]
  · exact iff_of_false (String.lt_irrefl _) (Nat.lt_irrefl _)
  · have greater := ordered j i insideSecond insideFirst later
    simp [String.lt_asymm greater, Nat.le_of_lt later]

theorem position_unique (increasing : models.Pairwise fun a b => a.name < b.name)
    (first : models[i]? = some a) (second : models[j]? = some b) (same : a.name = b.name) :
    i = j := by
  have notBefore := mt (name_lt_iff increasing first second).mpr (same ▸ String.lt_irrefl _)
  have notBehind := mt (name_lt_iff increasing second first).mpr (same ▸ String.lt_irrefl _)
  omega

/-- The search finds the position of the name from `low` up to `high`, if it is there. -/
theorem search_eq_some_iff {low high : Nat}
    (increasing : models.Pairwise fun a b => a.name < b.name) (bound : high ≤ models.length) :
    search models.toArray name low high = some i ↔
      low ≤ i ∧ i < high ∧ ∃ m, models[i]? = some m ∧ m.name = name := by
  fun_induction search models.toArray name low high with
  | case1 low high active middle outside =>
    simp [middle] at outside
    omega
  | case2 low high active middle m atMiddle found =>
    rw [List.getElem?_toArray] at atMiddle
    constructor
    · intro same
      obtain rfl := Option.some.inj same
      exact ⟨by omega, by omega, m, atMiddle, found⟩
    · rintro ⟨_, _, other, atPlace, named⟩
      rw [position_unique increasing atMiddle atPlace (found.trans named.symm)]
  | case3 low high active middle m atMiddle differs less ih =>
    rw [List.getElem?_toArray] at atMiddle
    rw [ih bound]
    constructor
    · rintro ⟨above, below, found⟩
      exact ⟨by omega, below, found⟩
    · -- up to the middle all names are too small
      rintro ⟨_, below, other, atPlace, rfl⟩
      have behind : middle < i := (name_lt_iff increasing atMiddle atPlace).mp less
      exact ⟨behind, below, other, atPlace, rfl⟩
  | case4 low high active middle m atMiddle differs notLess ih =>
    rw [List.getElem?_toArray] at atMiddle
    rw [ih (by omega)]
    constructor
    · rintro ⟨above, below, found⟩
      exact ⟨above, by omega, found⟩
    · -- from the middle on all names are too great
      rintro ⟨above, _, other, atPlace, rfl⟩
      have greater : other.name < m.name :=
        Std.lt_of_le_of_ne (String.not_lt.mp notLess) (Ne.symm differs)
      have before : i < middle := (name_lt_iff increasing atPlace atMiddle).mp greater
      exact ⟨above, before, other, atPlace, rfl⟩
  | case5 low high inactive =>
    simp
    omega

end Search

section Lookup

variable {db : Database} {name : String} {m : Model} {i : Nat}

theorem position?_eq_some_iff :
    db.position? name = some i ↔ ∃ m, db.models[i]? = some m ∧ m.name = name := by
  rw [position?, search_eq_some_iff db.increasing (Nat.le_refl db.size)]
  constructor
  · rintro ⟨_, _, found⟩
    exact found
  · rintro ⟨m, atPlace, named⟩
    obtain ⟨inside, _⟩ := List.getElem?_eq_some_iff.mp atPlace
    exact ⟨Nat.zero_le _, inside, m, atPlace, named⟩

theorem position?_eq_findIdx? (db : Database) (name : String) :
    db.position? name = db.models.findIdx? fun m => m.name = name := by
  apply Option.ext
  intro i
  rw [position?_eq_some_iff, List.findIdx?_eq_some_iff_getElem]
  constructor
  · rintro ⟨m, atPlace, named⟩
    obtain ⟨inside, rfl⟩ := List.getElem?_eq_some_iff.mp atPlace
    refine ⟨inside, by simpa using named, ?_⟩
    intro j earlier again
    have same : db.models[j].name = db.models[i].name := by
      rw [named]
      simpa using again
    have unique := position_unique db.increasing (List.getElem?_eq_getElem (by omega)) atPlace same
    omega
  · rintro ⟨inside, named, _⟩
    exact ⟨_, List.getElem?_eq_getElem inside, by simpa using named⟩

theorem find?_eq_some_iff : db.find? name = some m ↔ m ∈ db.models ∧ m.name = name := by
  rw [find?, Option.bind_eq_some_iff]
  constructor
  · rintro ⟨i, found, atPlace⟩
    obtain ⟨other, atOther, named⟩ := position?_eq_some_iff.mp found
    obtain rfl : other = m := Option.some.inj (atOther.symm.trans atPlace)
    exact ⟨List.mem_of_getElem? atPlace, named⟩
  · rintro ⟨member, named⟩
    obtain ⟨i, atPlace⟩ := List.mem_iff_getElem?.mp member
    exact ⟨i, position?_eq_some_iff.mpr ⟨m, atPlace, named⟩, atPlace⟩

theorem find?_eq_none_iff : db.find? name = none ↔ ∀ m ∈ db.models, m.name ≠ name := by
  rw [Option.eq_none_iff_forall_ne_some]
  constructor
  · intro missing m member named
    exact missing m (find?_eq_some_iff.mpr ⟨member, named⟩)
  · intro absent m found
    obtain ⟨member, named⟩ := find?_eq_some_iff.mp found
    exact absent m member named

theorem filter_named (db : Database) (name : String) :
    db.models.filter (fun m => m.name = name) = (db.find? name).toList := by
  cases found : db.find? name with
  | none => simpa [List.filter_eq_nil_iff] using find?_eq_none_iff.mp found
  | some m =>
    obtain ⟨member, rfl⟩ := find?_eq_some_iff.mp found
    exact filter_eq_singleton db.nodup_names member

end Lookup

/-- Looking a name up comes to the same as scanning all models for it. It finds the model of that
name, which is the only one, whatever the order in which the models were given; and it finds nothing
if no model has the name. -/
theorem find?_as_by_scan (db : Database) (name : String) :
    db.find? name = db.models.find? (fun m => m.name = name) ∧
    db.position? name = db.models.findIdx? (fun m => m.name = name) ∧
    (∀ m, db.find? name = some m ↔ m ∈ db.models ∧ m.name = name) ∧
    db.models.filter (fun m => m.name = name) = (db.find? name).toList ∧
    (db.find? name = none ↔ ∀ m ∈ db.models, m.name ≠ name) ∧
    ∀ models, ofModels models = .ok db →
      ∀ m, db.find? name = some m ↔ m ∈ models ∧ m.name = name := by
  refine ⟨?_, position?_eq_findIdx? db name, ?_, filter_named db name, find?_eq_none_iff, ?_⟩
  · rw [← List.head?_filter, filter_named, Option.head?_toList]
  · intro m
    exact find?_eq_some_iff
  · intro models made m
    rw [find?_eq_some_iff, (ofModels_eq_ok_iff.mp made).mem_iff]

/-- A nameless model is found under the empty name, and capital letters are told from small ones. -/
theorem unsorted_found : ∃ db, ofModels unsortedModels = .ok db ∧
    db.find? "Éclair1,1" = some { productName := some "Éclair1,1" } ∧ db.find? "" = some {} ∧
    db.find? "IMac20,1" = none ∧ db.find? "Éclair1,2" = none := by
  obtain ⟨db, made⟩ := exists_ofModels_iff.mpr
    (show unsortedModels.Pairwise fun a b => a.name ≠ b.name by decide)
  obtain ⟨_, _, _, _, _, accented⟩ := find?_as_by_scan db "Éclair1,1"
  obtain ⟨_, _, _, _, _, nameless⟩ := find?_as_by_scan db ""
  have missing (name : String) (absent : ∀ m ∈ unsortedModels, m.name ≠ name) :
      db.find? name = none := by
    obtain ⟨_, _, _, _, none, _⟩ := find?_as_by_scan db name
    exact none.mpr fun m member => absent m ((ofModels_eq_ok_iff.mp made).mem_iff.mp member)
  exact ⟨db, made, (accented _ made _).mpr (by decide), (nameless _ made _).mpr (by decide),
    missing _ (by decide), missing _ (by decide)⟩

end ModelCatalog.Database
