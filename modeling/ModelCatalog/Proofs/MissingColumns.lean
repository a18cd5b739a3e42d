import ModelCatalog.Proofs.MissingFields
import ModelCatalog.Proofs.SerialTableText

/-! What the tables of serial numbers ask of the models. The tables are made one behind the other
and each asks all models for one field. So a field that is asked for earlier is reported before one
that is asked for later, whichever models lack them. -/
namespace ModelCatalog

/-- One of the models lacks the field, and all before it have it. -/
def FirstWithout (need : Need) (models : List Model) (fault : Fault) : Prop :=
  ∃ front m back, models = front ++ m :: back ∧ (∀ b ∈ front, need.isMet b = true) ∧
    need.isMet m = false ∧ fault = .missingField m.name need.key

/-- A model lacks one of the fields, and no model lacks a field before it. -/
def FirstMissing (needs : List Need) (models : List Model) (fault : Fault) : Prop :=
  ∃ before need after, needs = before ++ need :: after ∧
    (∀ earlier ∈ before, ∀ m ∈ models, earlier.isMet m = true) ∧ FirstWithout need models fault

/-- Work that fails exactly for the models that lack the field. -/
structure Asks {α : Type} (need : Need) (work : Model → Except Fault α) : Prop where
  met : ∀ m, need.isMet m = true → ∃ value, work m = .ok value
  unmet : ∀ m, need.isMet m = false → work m = .error (.missingField m.name need.key)

section Columns

variable {α β : Type} {need : Need} {rest : List Need} {models : List Model} {m : Model}
  {fault : Fault} {work : Model → Except Fault α}

theorem firstMissing_cons : FirstMissing (need :: rest) models fault ↔
    FirstWithout need models fault ∨
      (∀ m ∈ models, need.isMet m = true) ∧ FirstMissing rest models fault :=
  exists_first_cons (by simp) fun _ => List.forall_mem_cons

theorem exists_firstWithout (member : m ∈ models) (unmet : need.isMet m = false) :
    ∃ first ∈ models, need.isMet first = false ∧
      FirstWithout need models (.missingField first.name need.key) := by
  obtain ⟨first, found⟩ : ∃ first, models.find? (fun m => !need.isMet m) = some first :=
    Option.isSome_iff_exists.mp (List.find?_isSome.mpr ⟨m, member, by simp [unmet]⟩)
  obtain ⟨lacking, front, back, split, clear⟩ := List.find?_eq_some_iff_append.mp found
  have without : need.isMet first = false := by simpa using lacking
  refine ⟨first, by simp [split], without, front, first, back, split, ?_, without, rfl⟩
  simpa using clear

theorem all_met_iff : (∀ m ∈ models, need.isMet m = true) ↔
    ∀ fault, ¬ FirstWithout need models fault := by
  constructor
  · rintro all fault ⟨front, m, back, rfl, _, unmet, _⟩
    simp [all m] at unmet
  · intro none m member
    cases met : need.isMet m with
    | true => rfl
    | false =>
      obtain ⟨first, _, _, without⟩ := exists_firstWithout member met
      exact absurd without (none _)

namespace Asks

theorem row (asks : Asks need work) (make : Model → α → β) : Asks need fun m => do
    let value ← work m
    return make m value := by
  constructor <;> intro m given
  · obtain ⟨value, made⟩ := asks.met m given
    exact ⟨make m value, by rw [made]; rfl⟩
  · rw [asks.unmet m given]
    rfl

theorem exists_ok_iff (asks : Asks need work) :
    (∃ value, work m = .ok value) ↔ need.isMet m = true := by
  cases met : need.isMet m with
  | true => exact iff_of_true (asks.met m met) rfl
  | false => simp [asks.unmet m met]

theorem eq_error_iff (asks : Asks need work) :
    work m = .error fault ↔ need.isMet m = false ∧ fault = .missingField m.name need.key := by
  cases met : need.isMet m with
  | true =>
    obtain ⟨value, made⟩ := asks.met m met
    simp [made]
  | false => simp [asks.unmet m met, eq_comm]

theorem mapM_eq_error_iff (asks : Asks need work) :
    models.mapM work = .error fault ↔ FirstWithout need models fault := by
  simp only [ModelCatalog.mapM_eq_error_iff, asks.exists_ok_iff, asks.eq_error_iff, FirstWithout]

theorem exists_mapM_iff (asks : Asks need work) :
    (∃ rows, models.mapM work = .ok rows) ↔ ∀ m ∈ models, need.isMet m = true := by
  simp only [ModelCatalog.exists_ok_iff, ne_eq, asks.mapM_eq_error_iff, all_met_iff]

/-- All models are asked for the field before any is asked for the rest. -/
theorem bind_eq_error_iff {next : List α → Except Fault β} (asks : Asks need work)
    (behind : ∀ rows, next rows = .error fault ↔ FirstMissing rest models fault) :
    models.mapM work >>= next = .error fault ↔ FirstMissing (need :: rest) models fault := by
  simp only [ModelCatalog.bind_eq_error_iff, behind, exists_and_right, asks.exists_mapM_iff,
    asks.mapM_eq_error_iff, firstMissing_cons]

end Asks

end Columns

def Model.processors (m : Model) : List String := (m.specifications.bind (·.cpu)).getD []

theorem Model.isEmpty_processors (m : Model) : (!m.processors.isEmpty) = m.primaryCpu?.isSome := by
  unfold processors primaryCpu?
  cases m.specifications.bind (·.cpu) with
  | none => rfl
  | some cpus => cases cpus <;> rfl

namespace SerialTable

def needs : List Need :=
  [⟨"Specifications.CPU", fun m => !m.processors.isEmpty⟩,
    ⟨"SystemSerialNumber", fun m => m.serialNumber.isSome⟩,
    ⟨"AppleModelCode", fun m => m.modelCodes.isSome⟩,
    ⟨"AppleBoardCode", fun m => m.boardCodes.isSome⟩,
    ⟨"AppleModelYear", fun m => m.modelYears.isSome⟩]

section Demands

variable {α : Type} {db : Database} {registry : Registry} {m : Model} {fault : Fault}
  {key : String} {isMet : Model → Bool} {read : Model → Option α}

theorem asks_require (same : ∀ m, isMet m = (read m).isSome) :
    Asks ⟨key, isMet⟩ fun m => m.require key (read m) := by
  constructor <;> intro m given <;> simp only [same] at given
  · obtain ⟨value, present⟩ := Option.isSome_iff_exists.mp given
    exact ⟨value, by rw [present]; rfl⟩
  · have absent : read m = none := by simpa using given
    rw [absent]
    rfl

theorem render_eq_error_iff :
    render db registry = .error fault ↔ FirstMissing needs db.models fault := by
  unfold render needs
  refine ((asks_require Model.isEmpty_processors).row _).bind_eq_error_iff fun _ => ?_
  refine ((asks_require fun _ => rfl).row _).bind_eq_error_iff fun _ => ?_
  -- the two lists of codes and the years
  iterate 3 refine (asks_require fun _ => rfl).bind_eq_error_iff fun _ => ?_
  simp [FirstMissing, pure, Except.pure]

theorem complete_iff : Complete m ↔ ∀ need ∈ needs, need.isMet m = true := by
  simp only [needs, List.forall_mem_cons, Model.isEmpty_processors]
  constructor
  · intro complete
    exact ⟨complete.cpu, complete.serial, complete.modelCodes, complete.boardCodes, complete.years,
      by simp⟩
  · rintro ⟨cpu, serial, modelCodes, boardCodes, years, _⟩
    exact ⟨cpu, serial, modelCodes, boardCodes, years⟩

theorem exists_render_iff : (∃ header, render db registry = .ok header) ↔
    ∀ m ∈ db.models, ∀ need ∈ needs, need.isMet m = true := by
  simp only [render_eq_ok_iff, complete_iff, exists_and_left, exists_eq, and_true]

end Demands

/-- The tables are made exactly if every model lists a processor and has a serial number, both lists
of codes and its years, which may be empty lists. Otherwise the first of these fields that any model
lacks is reported, for the first model that lacks it; so where a processor is lacking nothing else
is reported. The registry has no say in it. -/
theorem missing_columns_reported (db : Database) (registry : Registry) :
    ((∃ header, render db registry = .ok header) ↔ ∀ m ∈ db.models,
      m.processors ≠ [] ∧ m.serialNumber.isSome = true ∧ m.modelCodes.isSome = true ∧
        m.boardCodes.isSome = true ∧ m.modelYears.isSome = true) ∧
    (∀ fault, render db registry = .error fault ↔
      ∃ before need after, needs = before ++ need :: after ∧
        (∀ earlier ∈ before, ∀ m ∈ db.models, earlier.isMet m = true) ∧
        ∃ front m back, db.models = front ++ m :: back ∧ (∀ b ∈ front, need.isMet b = true) ∧
          need.isMet m = false ∧ fault = .missingField m.name need.key) ∧
    ((∃ m ∈ db.models, m.processors = []) → ∃ m ∈ db.models, m.processors = [] ∧
      render db registry = .error (.missingField m.name "Specifications.CPU")) ∧
    ∀ other fault, render db other = .error fault ↔ render db registry = .error fault := by
  refine ⟨?_, fun fault => render_eq_error_iff, ?_, fun other fault => ?_⟩
  · simp [exists_render_iff, needs]
  · rintro ⟨m, member, none⟩
    have unmet : Need.isMet ⟨"Specifications.CPU", fun m => !m.processors.isEmpty⟩ m = false := by
      simp [none]
    obtain ⟨first, among, lacking, without⟩ := exists_firstWithout member unmet
    refine ⟨first, among, by simpa using lacking, render_eq_error_iff.mpr ?_⟩
    exact firstMissing_cons.mpr (.inl without)
  · rw [render_eq_error_iff, render_eq_error_iff]

/-- The first model has no serial number and the last one lists no processor, in a list that is
there but empty. -/
def sparseDatabase : Database :=
  ⟨[{ listedModel "iMac20,1" ["FGYY"] with serialNumber := none },
    { listedModel "iMac20,2" [] with modelYears := none },
    { listedModel "iMacPro1,1" ["FH00"] with specifications := some ⟨some [], none⟩ }], by decide⟩

theorem late_processor_reported_first :
    (∃ m ∈ sparseDatabase.models, m.processors = []) ∧
    render sparseDatabase OrderedMap.empty =
      .error (.missingField "iMacPro1,1" "Specifications.CPU") ∧
    ¬ ∃ header, render sparseDatabase OrderedMap.empty = .ok header := by
  obtain ⟨made, _, missed, _⟩ := missing_columns_reported sparseDatabase OrderedMap.empty
  have some : ∃ m ∈ sparseDatabase.models, m.processors = [] := by decide
  obtain ⟨m, member, none, failed⟩ := missed some
  have last : ∀ m ∈ sparseDatabase.models, m.processors = [] → m.name = "iMacPro1,1" := by decide
  refine ⟨some, last m member none ▸ failed, fun header => ?_⟩
  exact (made.mp header m member).1 none

end SerialTable

end ModelCatalog
