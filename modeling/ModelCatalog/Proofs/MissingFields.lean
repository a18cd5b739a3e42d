import Mathlib.Data.List.Nodup
import ModelCatalog.Artifact.InfoTable
import ModelCatalog.Proofs.Traversal

/-! What the table of firmware information asks of the models. Every model is asked for its years,
and one that is new enough for all that is written about it. The table is made if nothing is missing;
otherwise the first field that the first model lacks is reported. -/
namespace ModelCatalog

/-- A field that is asked for, and whether a model has it. -/
structure Need where
  key : String
  isMet : Model → Bool

/-- The model lacks one of the fields and has all before it. -/
def FirstUnmet (needs : List Need) (m : Model) (fault : Fault) : Prop :=
  ∃ before need after, needs = before ++ need :: after ∧
    (∀ earlier ∈ before, earlier.isMet m = true) ∧ need.isMet m = false ∧
    fault = .missingField m.name need.key

section Needs

variable {m : Model} {need : Need} {needs rest : List Need} {fault : Fault}

theorem firstUnmet_cons : FirstUnmet (need :: rest) m fault ↔
    need.isMet m = false ∧ fault = .missingField m.name need.key ∨
      need.isMet m = true ∧ FirstUnmet rest m fault :=
  exists_first_cons (by simp) fun _ => List.forall_mem_cons

theorem met_or_firstUnmet (needs : List Need) (m : Model) :
    (∀ need ∈ needs, need.isMet m = true) ∨ ∃ fault, FirstUnmet needs m fault := by
  induction needs with
  | nil => exact .inl (by simp)
  | cons need rest ih =>
    cases met : need.isMet m with
    | false => exact .inr ⟨_, firstUnmet_cons.mpr (.inl ⟨met, rfl⟩)⟩
    | true =>
      rcases ih with all | ⟨fault, first⟩
      · exact .inl (List.forall_mem_cons.mpr ⟨met, all⟩)
      · exact .inr ⟨fault, firstUnmet_cons.mpr (.inr ⟨met, first⟩)⟩

theorem not_firstUnmet_of_met (all : ∀ need ∈ needs, need.isMet m = true) :
    ¬ FirstUnmet needs m fault := by
  rintro ⟨before, need, after, rfl, _, unmet, _⟩
  simp [all need] at unmet

theorem require_bind_eq_error_iff {α β : Type} {key : String} {isMet : Model → Bool}
    {value : Option α} {next : α → Except Fault β} (same : isMet m = value.isSome)
    (behind : ∀ a, next a = .error fault ↔ FirstUnmet rest m fault) :
    m.require key value >>= next = .error fault ↔ FirstUnmet (⟨key, isMet⟩ :: rest) m fault := by
  rw [firstUnmet_cons]
  cases value with
  | none => simp [Model.require, bind, Except.bind, same, eq_comm]
  | some a => simp [Model.require, bind, Except.bind, same, behind]

end Needs

namespace InfoTable

def needs : List Need :=
  [⟨"BoardProduct", fun m => !m.boards.isEmpty⟩,
    ⟨"BIOSVersion", fun m => m.biosVersion.isSome⟩,
    ⟨"BIOSReleaseDate", fun m => m.biosReleaseDate.isSome⟩,
    ⟨"SystemVersion", fun m => m.systemVersion.isSome⟩,
    ⟨"SystemSKUNumber", fun m => m.skuNumber.isSome⟩,
    ⟨"SystemFamily", fun m => m.family.isSome⟩,
    ⟨"BoardVersion", fun m => m.boardVersion.isSome⟩,
    ⟨"BoardAssetTag", fun m => m.boardAssetTag.isSome⟩,
    ⟨"BoardLocationInChassis", fun m => m.boardLocation.isSome⟩,
    ⟨"SmcGeneration", fun m => m.smcGeneration.isSome⟩,
    ⟨"BoardType", fun m => m.boardType.isSome⟩,
    ⟨"ChassisType", fun m => m.chassisType.isSome⟩,
    ⟨"MemoryFormFactor", fun m => m.memoryFormFactor.isSome⟩,
    ⟨"ChassisAssetTag", fun m => m.chassisAssetTag.isSome⟩]

/-- The model has a year that is not before `minYear`. -/
def IsLate (minYear : UInt32) (m : Model) : Prop := ∃ year ∈ m.years, minYear ≤ year

instance (minYear : UInt32) (m : Model) : Decidable (IsLate minYear m) :=
  inferInstanceAs (Decidable (∃ year ∈ m.years, minYear ≤ year))

def yearNeed : Need := ⟨"AppleModelYear", fun m => !m.years.isEmpty⟩

/-- All that is asked of a model. -/
def demands (minYear : UInt32) (m : Model) : List Need :=
  yearNeed :: if IsLate minYear m then needs else []

section Demands

variable {db : Database} {minYear year : UInt32} {m : Model} {rest models : List Model}
  {fault : Fault}

instance lawfulMax : Std.LawfulOrderMax UInt32 :=
  .of_max_le_iff
    (fun a b c => by
      change (if a ≤ b then b else a) ≤ c ↔ _
      simp only [UInt32.le_iff_toNat_le]
      split <;> omega)
    fun a b => by
      change (if a ≤ b then b else a) = a ∨ (if a ≤ b then b else a) = b
      split <;> simp

theorem isLate_iff (latest : m.latestYear? = some year) : IsLate minYear m ↔ minYear ≤ year := by
  obtain ⟨member, bound⟩ := List.max?_eq_some_iff.mp latest
  constructor
  · rintro ⟨other, among, late⟩
    exact UInt32.le_trans late (bound other among)
  · intro late
    exact ⟨year, member, late⟩

theorem entry_eq_error_iff : entry m = .error fault ↔ FirstUnmet needs m fault := by
  unfold entry needs
  refine require_bind_eq_error_iff (by cases m.boards <;> rfl) fun _ => ?_
  -- the scalars, in the order in which they are asked for
  iterate 13 refine require_bind_eq_error_iff rfl fun _ => ?_
  simp [FirstUnmet, pure, Except.pure]

theorem exists_entry_iff : (∃ text, entry m = .ok text) ↔ ∀ need ∈ needs, need.isMet m = true := by
  rw [exists_ok_iff]
  simp only [ne_eq, entry_eq_error_iff]
  rcases met_or_firstUnmet needs m with all | ⟨fault, first⟩
  · exact iff_of_true (fun _ => not_firstUnmet_of_met all) all
  · exact iff_of_false (fun none => none fault first) fun all => not_firstUnmet_of_met all first

theorem entries_of_yearless (none : m.years = []) :
    entries minYear (m :: rest) = .error (.missingField m.name "AppleModelYear") := by
  simp [entries, Model.latestYear?, none, Model.require, bind, Except.bind]

theorem entries_of_some (latest : m.latestYear? = some year) :
    entries minYear (m :: rest) = if IsLate minYear m then do
        let first ← entry m
        let others ← entries minYear rest
        return first :: others
      else entries minYear rest := by
  have late : IsLate minYear m ↔ ¬ year < minYear := by rw [isLate_iff latest, UInt32.not_lt]
  by_cases old : year < minYear <;>
    simp [entries, latest, Model.require, late, old, bind, Except.bind]

theorem entries_cons_eq_error_iff : entries minYear (m :: rest) = .error fault ↔
    FirstUnmet (demands minYear m) m fault ∨
      (∀ need ∈ demands minYear m, need.isMet m = true) ∧ entries minYear rest = .error fault := by
  rw [demands, firstUnmet_cons, List.forall_mem_cons]
  cases latest : m.latestYear? with
  | none =>
    have none : m.years = [] := by simpa [Model.latestYear?] using latest
    rw [entries_of_yearless none]
    simp [yearNeed, none, @eq_comm _ fault]
  | some year =>
    have met : yearNeed.isMet m = true := by
      cases listed : m.years with
      | nil => simp [Model.latestYear?, listed] at latest
      | cons first others => simp [yearNeed, listed]
    rw [entries_of_some latest]
    split
    · have last (others : Except Fault (List String)) (first : String) :
          (others >>= fun others => pure (first :: others)) = .error fault ↔
            others = .error fault := by
        cases others <;> simp [bind, Except.bind, pure, Except.pure]
      simp only [bind_eq_error_iff, last, exists_and_right, exists_entry_iff, entry_eq_error_iff]
      simp [met]
    · simp [met, FirstUnmet]

/-- The first model that lacks something decides. -/
theorem entries_eq_error_iff : entries minYear models = .error fault ↔
    ∃ before m after, models = before ++ m :: after ∧
      (∀ b ∈ before, ∀ need ∈ demands minYear b, need.isMet b = true) ∧
      FirstUnmet (demands minYear m) m fault := by
  induction models with
  | nil => simp [entries]
  | cons m rest ih =>
    rw [exists_first_cons (by simp) fun before => List.forall_mem_cons, ← ih,
      entries_cons_eq_error_iff]

theorem exists_entries_iff : (∃ texts, entries minYear models = .ok texts) ↔
    ∀ m ∈ models, ∀ need ∈ demands minYear m, need.isMet m = true := by
  rw [exists_ok_iff]
  induction models with
  | nil => simp [entries]
  | cons m rest ih =>
    simp only [ne_eq, entries_cons_eq_error_iff, not_or, List.forall_mem_cons]
    rcases met_or_firstUnmet (demands minYear m) m with all | ⟨fault, first⟩
    · simpa [not_firstUnmet_of_met all, eq_true all] using ih
    · exact iff_of_false (fun clear => (clear fault).1 first)
        fun all => not_firstUnmet_of_met all.1 first

theorem render_eq_error_iff :
    render db minYear = .error fault ↔ entries minYear db.models = .error fault := by
  simp [render, bind_eq_error_iff, pure, Except.pure]

theorem exists_render_iff :
    (∃ text, render db minYear = .ok text) ↔ ∃ texts, entries minYear db.models = .ok texts := by
  simp only [exists_ok_iff, ne_eq, render_eq_error_iff]

theorem demands_met_iff : (∀ need ∈ demands minYear m, need.isMet m = true) ↔
    m.years ≠ [] ∧ (IsLate minYear m → ∀ need ∈ needs, need.isMet m = true) := by
  rw [demands, List.forall_mem_cons]
  by_cases late : IsLate minYear m <;> simp [yearNeed, late]

end Demands

/-- The table is made exactly if every model has a year, and every model that is new enough has a
board and all the scalars. Otherwise the first model that lacks something is reported, with the first
field that it lacks; and a model that is too old can lack nothing but its years. -/
theorem missing_fields_reported (db : Database) (minYear : UInt32) :
    ((∃ text, render db minYear = .ok text) ↔ ∀ m ∈ db.models,
      m.years ≠ [] ∧ (IsLate minYear m → ∀ need ∈ needs, need.isMet m = true)) ∧
    (∀ fault, render db minYear = .error fault ↔
      ∃ before m after, db.models = before ++ m :: after ∧
        (∀ b ∈ before, b.years ≠ [] ∧ (IsLate minYear b → ∀ need ∈ needs, need.isMet b = true)) ∧
        FirstUnmet (demands minYear m) m fault) ∧
    ∀ m ∈ db.models, ¬ IsLate minYear m → ∀ key,
      render db minYear = .error (.missingField m.name key) → key = "AppleModelYear" := by
  simp only [exists_render_iff, exists_entries_iff, render_eq_error_iff, entries_eq_error_iff,
    demands_met_iff, implies_true, true_and]
  rintro m member old key ⟨before, other, after, split, _, first⟩
  obtain ⟨_, need, _, asked, _, _, fault⟩ := first
  obtain ⟨name, rfl⟩ := Fault.missingField.inj fault
  have among : other ∈ db.models := by simp [split]
  obtain rfl : m = other := List.inj_on_of_nodup_map db.nodup_names member among name
  -- an old model is asked for its years only
  have only : need ∈ demands minYear m := by simp [asked]
  simp only [demands, old, if_false, List.mem_singleton] at only
  rw [only, yearNeed]

/-- The first model is too old to lack anything. The second one is new enough by one of its years and
lacks two scalars, of which the one that comes first in the table is reported. The third one, which
has no year, is not reached. -/
def lackingDatabase : Database :=
  ⟨[{ productName := some "MacPro1,1", modelYears := some [2006, 2007] },
    { productName := some "MacPro3,1", modelYears := some [2007, 2011, 2008]
      boardProduct := some (.many ["Mac-F42C88C8"]), biosVersion := some "370.0.0.0.0"
      biosReleaseDate := some "07/30/2018", systemVersion := some "1.3", skuNumber := some ""
      family := some "MacPro", boardVersion := some "", boardLocation := some "Part Component"
      smcGeneration := some 1, boardType := some 11, chassisType := some 6
      memoryFormFactor := some 15 },
    { productName := some "MacPro4,1", modelYears := some [] }], by decide⟩

theorem first_lacking_field_reported :
    render lackingDatabase 2011 = .error (.missingField "MacPro3,1" "BoardAssetTag") ∧
    (¬ ∃ text, render lackingDatabase 2011 = .ok text) ∧
    render lackingDatabase 2011 ≠ .error (.missingField "MacPro1,1" "BoardProduct") := by
  obtain ⟨made, reported, old⟩ := missing_fields_reported lackingDatabase 2011
  refine ⟨(reported _).mpr ⟨lackingDatabase.models.take 1, _, _, rfl, by decide, ?_⟩, ?_, ?_⟩
  · exact ⟨yearNeed :: needs.take 7, _, _, rfl, by decide, by decide, rfl⟩
  · intro some
    obtain ⟨years, _⟩ := made.mp some _ (.tail _ (.tail _ (.head _)))
    exact years rfl
  · intro failed
    exact absurd (old _ (.head _) (by decide) "BoardProduct" failed) (by decide)

end InfoTable

end ModelCatalog
