import ModelCatalog.Proofs.InfoTableText
import ModelCatalog.Proofs.MissingFields

/-! The table of firmware information for a later first year. Whether a model is in the table is a
matter of its years alone, and what is written about it is a matter of the model alone. So a later
first year takes initializers out of the table, and asks nothing that was not asked before. -/
namespace ModelCatalog.InfoTable

def initializer (m : Model) : String := (entry m).toOption.getD ""

/-- The models that have a year from the first one on. -/
def lateModels (minYear : UInt32) (models : List Model) : List Model :=
  models.filter (IsLate minYear ·)

section Years

variable {db : Database} {minYear early late : UInt32} {m : Model} {models : List Model}
  {texts : List String} {text : String} {fault : Fault}

theorem lateModels_eq_filter_any (minYear : UInt32) (models : List Model) :
    lateModels minYear models = models.filter fun m => m.years.any (minYear ≤ ·) := by
  refine List.filter_congr fun m _ => Bool.eq_iff_iff.mpr ?_
  rw [decide_eq_true_iff]
  simp [IsLate]

theorem lateModels_eq_filter_all (minYear : UInt32) (models : List Model) :
    lateModels minYear models = models.filter fun m => !m.years.all (· < minYear) := by
  refine List.filter_congr fun m _ => Bool.eq_iff_iff.mpr ?_
  rw [decide_eq_true_iff]
  simp [IsLate]

theorem IsLate.mono (order : early ≤ late) (isLate : IsLate late m) : IsLate early m := by
  obtain ⟨year, listed, bound⟩ := isLate
  exact ⟨year, listed, UInt32.le_trans order bound⟩

theorem lateModels_lateModels (order : early ≤ late) (models : List Model) :
    lateModels late (lateModels early models) = lateModels late models := by
  rw [lateModels, lateModels, List.filter_filter]
  refine List.filter_congr fun m _ => ?_
  have weaker : IsLate late m → IsLate early m := IsLate.mono order
  by_cases isLate : IsLate late m <;> simp [isLate, weaker]

/-- A later first year asks of no model what an earlier one does not ask. -/
theorem demands_subset (order : early ≤ late) (m : Model) : demands late m ⊆ demands early m := by
  unfold demands
  by_cases isLate : IsLate late m
  · rw [if_pos isLate, if_pos (isLate.mono order)]
    exact List.Subset.refl _
  · simp [isLate]

theorem entries_eq_initializers (made : entries minYear models = .ok texts) :
    (∀ m ∈ lateModels minYear models, entry m = .ok (initializer m)) ∧
    texts = (lateModels minYear models).map initializer := by
  induction models generalizing texts with
  | nil => exact ⟨by simp [lateModels], (Except.ok.inj made).symm⟩
  | cons m rest ih =>
    obtain ⟨year, others, latest, behind, inTable⟩ := entries_cons_eq_ok made
    obtain ⟨each, rfl⟩ := ih behind
    have bound : IsLate minYear m ↔ ¬ year < minYear := by rw [isLate_iff latest, UInt32.not_lt]
    rcases inTable with ⟨old, rfl⟩ | ⟨new, text, first, rfl⟩
    · have dropped : lateModels minYear (m :: rest) = lateModels minYear rest :=
        List.filter_cons_of_neg (by simpa [bound] using old)
      rw [dropped]
      exact ⟨each, rfl⟩
    · have taken : lateModels minYear (m :: rest) = m :: lateModels minYear rest :=
        List.filter_cons_of_pos (by simpa [bound] using new)
      have written : initializer m = text := by simp [initializer, first, Except.toOption]
      rw [taken, List.forall_mem_cons, List.map_cons, written]
      exact ⟨⟨first, each⟩, rfl⟩

theorem render_eq_initializers (made : render db minYear = .ok text) :
    (∀ m ∈ lateModels minYear db.models, entry m = .ok (initializer m)) ∧
    text = heading ++ String.join ((lateModels minYear db.models).map initializer) ++ ending := by
  obtain ⟨texts, inside, rfl⟩ := entries_of_render made
  obtain ⟨each, rfl⟩ := entries_eq_initializers inside
  exact ⟨each, rfl⟩

theorem exists_render_of_le (order : early ≤ late) (made : ∃ text, render db early = .ok text) :
    ∃ text, render db late = .ok text := by
  rw [exists_render_iff, exists_entries_iff] at made ⊢
  intro m member need demanded
  exact made m member need (demands_subset order m demanded)

theorem exists_error_of_le (order : early ≤ late) (failed : render db late = .error fault) :
    ∃ earlier, render db early = .error earlier := by
  cases made : render db early with
  | error earlier => exact ⟨earlier, rfl⟩
  | ok text =>
    obtain ⟨_, later⟩ := exists_render_of_le order ⟨text, made⟩
    rw [failed] at later
    cases later

end Years

/-- If the table can be made for a first year, it can be made for a later one, and then it is the
same text without the initializers of the models whose years all lie before the later one. The other
initializers stay as they are and in their order. And if it cannot be made for a later first year,
it cannot be made for an earlier one either. -/
theorem raised_year_removes_initializers (db : Database) {early late : UInt32}
    (order : early ≤ late) :
    (∀ text, render db early = .ok text → ∃ models : List Model,
      models = db.models.filter (fun m => m.years.any (early ≤ ·)) ∧
      (∀ m ∈ models, entry m = .ok (initializer m)) ∧
      text = heading ++ String.join (models.map initializer) ++ ending ∧
      render db late = .ok (heading ++ String.join
        ((models.filter fun m => !m.years.all (· < late)).map initializer) ++ ending)) ∧
    ∀ fault, render db late = .error fault → ∃ earlier, render db early = .error earlier := by
  refine ⟨fun text made => ?_, fun fault failed => exists_error_of_le order failed⟩
  obtain ⟨each, rfl⟩ := render_eq_initializers made
  obtain ⟨later, remade⟩ := exists_render_of_le order ⟨_, made⟩
  obtain ⟨_, rfl⟩ := render_eq_initializers remade
  refine ⟨lateModels early db.models, lateModels_eq_filter_any .., each, rfl, ?_⟩
  have left : (lateModels early db.models).filter (fun m => !m.years.all (· < late)) =
      lateModels late db.models := by
    rw [← lateModels_eq_filter_all, lateModels_lateModels order]
  rw [remade, left]

def olderModel : Model := plainModel "MacPro3,1" 2008 (some [1])

def newerModel : Model := plainModel "MacPro7,1" 2019 none

theorem isOk_render_mixed : (render mixedDatabase 2008).isOk = true ∧
    (render lackingDatabase 2011).isOk = false := by
  decide +kernel

/-- Of two initializers the second one is left. In another database the first model that is asked
for an initializer lacks something. -/
theorem raised_year_leaves_second : (2008 : UInt32) ≤ 2011 ∧
    (∃ text first second, render mixedDatabase 2008 = .ok text ∧
      text = heading ++ (first ++ second) ++ ending ∧
      render mixedDatabase 2011 = .ok (heading ++ second ++ ending)) ∧
    ∃ fault earlier, render lackingDatabase 2011 = .error fault ∧
      render lackingDatabase 2008 = .error earlier := by
  have order : (2008 : UInt32) ≤ 2011 := by decide
  obtain ⟨passed, stopped⟩ := isOk_render_mixed
  refine ⟨order, ?_, ?_⟩
  · obtain ⟨text, made⟩ := exists_ok_of_isOk passed
    obtain ⟨removed, _⟩ := raised_year_removes_initializers mixedDatabase order
    obtain ⟨models, taken, _, split, remade⟩ := removed text made
    have both : models = [olderModel, newerModel] := taken.trans (by decide +kernel)
    have left : models.filter (fun m => !m.years.all (· < 2011)) = [newerModel] := by
      rw [both]
      decide +kernel
    have joined (first second : String) : String.join [first, second] = first ++ second := by
      simp [String.join]
    have single (text : String) : String.join [text] = text := by simp [String.join]
    rw [both, List.map_cons, List.map_singleton, joined] at split
    rw [left, List.map_singleton, single] at remade
    exact ⟨text, _, _, made, split, remade⟩
  · cases failed : render lackingDatabase 2011 with
    | ok text => rw [failed] at stopped; cases stopped
    | error fault =>
      obtain ⟨_, earlier⟩ := raised_year_removes_initializers lackingDatabase order
      obtain ⟨other, stopped⟩ := earlier fault failed
      exact ⟨fault, other, rfl, stopped⟩

end ModelCatalog.InfoTable
