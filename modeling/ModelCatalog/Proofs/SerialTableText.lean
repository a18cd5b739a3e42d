import ModelCatalog.Artifact.SerialTable
import ModelCatalog.Proofs.Traversal

/-! The text of the tables of serial numbers. It is made exactly if no model lacks anything that the
tables need, and then each table has a row for each model. -/
namespace ModelCatalog.SerialTable

structure Complete (m : Model) : Prop where
  cpu : m.primaryCpu?.isSome = true
  serial : m.serialNumber.isSome = true
  modelCodes : m.modelCodes.isSome = true
  boardCodes : m.boardCodes.isSome = true
  years : m.modelYears.isSome = true

def enumeratorLine (m : Model) (cpu : String) : String :=
  "  " ++ enumerator m ++ ", // " ++ cpu ++ "\n"

def platformLine (m : Model) (serial : String) : String :=
  "  \x7b " ++ quoted m.name ++ ", " ++ quoted serial ++ " \x7d,\n"

def codeRows (db : Database) (kind : CodeKind) : List (List String) := db.models.map (·.codes kind)

def yearRows (db : Database) : List (List UInt32) := db.models.map Model.years

def text (db : Database) (registry : Registry) : String :=
  heading ++
  "typedef enum \x7b\n" ++
  String.join (db.models.map fun m => enumeratorLine m (m.primaryCpu?.getD "")) ++
  "\x7d AppleModel;\n\n" ++
  "#define APPLE_MODEL_MAX " ++ toString db.size ++ "\n\n" ++
  "static PLATFORMDATA ApplePlatformData[] = \x7b\n" ++
  String.join (db.models.map fun m => platformLine m (m.serialNumber.getD "")) ++ "\x7d;\n\n" ++
  codeTable db "AppleModelCode" "APPLE_MODEL_CODE_MAX" (codeRows db .model) ++
  codeTable db "AppleBoardCode" "APPLE_BOARD_CODE_MAX" (codeRows db .board) ++
  yearTable db (yearRows db) ++
  "static uint32_t ApplePreferredModelYear[] = \x7b\n" ++
  String.join (db.models.map preferredYearRow) ++ "\x7d;\n\n" ++
  "static APPLE_MODEL_DESC AppleModelDesc[] = \x7b\n" ++
  String.join ((described registry).map fun (code, product) => descriptionRow code product) ++
  "\x7d;\n\n" ++
  "#endif // GENSERIAL_MODELINFO_AUTOGEN_H\n"

section Rows

variable {α β : Type} {models : List Model} {m : Model}

theorem mapM_require_eq_ok_iff {work : Model → Except Fault β} {read : Model → Option α}
    {row : Model → α → β} {rows : List β} {field : String} (missing : α)
    (each : ∀ m, work m = (m.require field (read m)).map (row m)) :
    models.mapM work = .ok rows ↔
      (∀ m ∈ models, (read m).isSome = true) ∧
      rows = models.map fun m => row m ((read m).getD missing) := by
  rw [mapM_eq_ok_iff]
  induction models generalizing rows with
  | nil => simp
  | cons m rest ih =>
    cases rows with
    | nil => simp
    | cons first others =>
      rw [List.map_cons, List.map_cons, List.cons.injEq, ih, each, List.forall_mem_cons,
        List.map_cons, List.cons.injEq]
      cases read m with
      | none => simp [Model.require, Except.map]
      | some value =>
        simp only [Model.require, Except.map, Except.ok.injEq, Option.isSome_some, true_and,
          Option.getD_some, @eq_comm _ first]
        exact and_left_comm

theorem mapM_field_eq_ok_iff {read : Model → Option α} {rows : List α} {field : String}
    (missing : α) :
    (models.mapM fun m => m.require field (read m)) = .ok rows ↔
      (∀ m ∈ models, (read m).isSome = true) ∧
      rows = models.map fun m => (read m).getD missing := by
  have each (m : Model) : m.require field (read m) =
      (m.require field (read m)).map fun value => value := by
    cases m.require field (read m) <;> rfl
  exact mapM_require_eq_ok_iff missing each

theorem mapM_enumeratorRow_eq_ok_iff {rows : List String} :
    models.mapM enumeratorRow = .ok rows ↔
      (∀ m ∈ models, m.primaryCpu?.isSome = true) ∧
      rows = models.map fun m => enumeratorLine m (m.primaryCpu?.getD "") := by
  have each (m : Model) : enumeratorRow m =
      (m.require "Specifications.CPU" m.primaryCpu?).map (enumeratorLine m) := by
    rw [enumeratorRow]
    cases m.require "Specifications.CPU" m.primaryCpu? <;> rfl
  exact mapM_require_eq_ok_iff "" each

theorem mapM_platformRow_eq_ok_iff {rows : List String} :
    models.mapM platformRow = .ok rows ↔
      (∀ m ∈ models, m.serialNumber.isSome = true) ∧
      rows = models.map fun m => platformLine m (m.serialNumber.getD "") := by
  have each (m : Model) : platformRow m =
      (m.require "SystemSerialNumber" m.serialNumber).map (platformLine m) := by
    rw [platformRow]
    cases m.require "SystemSerialNumber" m.serialNumber <;> rfl
  exact mapM_require_eq_ok_iff "" each

end Rows

variable {db : Database} {registry : Registry} {header : String}

/-- The text is made exactly if no model lacks anything. -/
theorem render_eq_ok_iff : render db registry = .ok header ↔
    (∀ m ∈ db.models, Complete m) ∧ header = text db registry := by
  unfold render
  simp only [bind_eq_ok_iff, mapM_enumeratorRow_eq_ok_iff, mapM_platformRow_eq_ok_iff,
    mapM_field_eq_ok_iff []]
  constructor
  · rintro ⟨_, ⟨cpus, rfl⟩, _, ⟨serials, rfl⟩, _, ⟨modelCodes, rfl⟩, _, ⟨boardCodes, rfl⟩,
      _, ⟨years, rfl⟩, made⟩
    refine ⟨fun m member => ?_, (Except.ok.inj made).symm⟩
    exact ⟨cpus m member, serials m member, modelCodes m member, boardCodes m member,
      years m member⟩
  · rintro ⟨complete, rfl⟩
    exact ⟨_, ⟨fun m member => (complete m member).cpu, rfl⟩,
      _, ⟨fun m member => (complete m member).serial, rfl⟩,
      _, ⟨fun m member => (complete m member).modelCodes, rfl⟩,
      _, ⟨fun m member => (complete m member).boardCodes, rfl⟩,
      _, ⟨fun m member => (complete m member).years, rfl⟩, rfl⟩

theorem append_of_append {a b start : String} (given : ∃ rest, a = start ++ rest) :
    ∃ rest, a ++ b = start ++ rest := by
  obtain ⟨rest, rfl⟩ := given
  exact ⟨rest ++ b, String.append_assoc⟩

theorem splitOn_append_cons {α : Type} [DecidableEq α] {part : List α} {mark : α}
    (absent : mark ∉ part) (rest : List α) :
    (part ++ mark :: rest).splitOn mark = part :: rest.splitOn mark := by
  have within : ∀ a ∈ part, (a == mark) = false := fun a member =>
    beq_false_of_ne fun same => absent (same ▸ member)
  rw [List.splitOn_eq_splitOnP,
    List.splitOnP_append_cons_of_forall_mem within mark (beq_self_eq_true _),
    ← List.splitOn_eq_splitOnP]

theorem le_foldl_max (lengths : List Nat) (start : Nat) :
    start ≤ lengths.foldl max start ∧ ∀ length ∈ lengths, length ≤ lengths.foldl max start := by
  induction lengths generalizing start with
  | nil => simp
  | cons first rest ih =>
    obtain ⟨least, others⟩ := ih (max start first)
    refine ⟨Nat.le_trans (Nat.le_max_left ..) least, List.forall_mem_cons.mpr ⟨?_, others⟩⟩
    exact Nat.le_trans (Nat.le_max_right ..) least

theorem length_le_width {α : Type} {rows : List (List α)} {row : List α} (member : row ∈ rows) :
    row.length ≤ width rows :=
  (le_foldl_max _ 0).2 _ (List.mem_map_of_mem member)

theorem described_perm (registry : Registry) :
    (described registry).Perm (registry.entries.filter fun entry => entry.2.isValid) :=
  List.mergeSort_perm _ _

theorem filter_described {code : String} {product : Product}
    (present : registry.get? code = some product) (valid : product.isValid = true) :
    (described registry).filter (fun row => decide (row.1 = code)) = [(code, product)] := by
  have one : (registry.entries.filter fun (_, product) => product.isValid).filter
      (fun row => decide (row.1 = code)) = [(code, product)] := by
    have order (row : String × Product) : (decide (row.1 = code) && row.2.isValid) =
        (row.2.isValid && decide (row.1 = code)) := Bool.and_comm ..
    rw [List.filter_filter, funext order, ← List.filter_filter,
      OrderedMap.filter_entries_eq present]
    simp [valid]
  have rows := (described_perm registry).filter fun row => decide (row.1 = code)
  rw [one] at rows
  exact List.perm_singleton.mp rows

/-- A model that lacks nothing and lists these codes. -/
def listedModel (name : String) (codes : List String) : Model where
  productName := some name
  modelCodes := some codes
  boardCodes := some ["FY1"]
  modelYears := some [2013]
  serialNumber := some "C02JB041DV33"
  specifications := some ⟨some ["Intel Core i5-4258U"], none⟩

theorem complete_listedModel (name : String) (codes : List String) :
    Complete (listedModel name codes) :=
  ⟨rfl, rfl, rfl, rfl, rfl⟩

end ModelCatalog.SerialTable
