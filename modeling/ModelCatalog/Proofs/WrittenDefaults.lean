import ModelCatalog.Generation
import ModelCatalog.Proofs.Comparison

/-! Defaults that are written out. A model may leave fields to their defaults, and some fields can be
given in more than one way. What is made from a database does not tell these apart: with every model
in its normal form, the comparison and the artifacts are what they were. -/
namespace ModelCatalog

/-- The extended value of a field in place of the plain one, and zero in place of none. -/
def effective : Option UInt64 → Option UInt64 → UInt64
  | some extended, _ => extended
  | none, some plain => plain
  | none, none => 0

def Boards.listed : Boards → Boards
  | .one board => .many [board]
  | .many boards => .many boards

namespace Model

/-- The model with its defaults written out, and each field in the one way that says the same. -/
def normalForm (m : Model) : Model :=
  { m with
    boardProduct := m.boardProduct.map Boards.listed
    smcRevision := some (m.smcRevision.getD [0])
    smcBranch := some (m.smcBranch.getD [0])
    smcPlatform := some (m.smcPlatform.getD [0])
    firmwareFeatures := some (effective m.extendedFeatures m.firmwareFeatures)
    firmwareFeaturesMask := some (effective m.extendedFeaturesMask m.firmwareFeaturesMask)
    extendedFeatures := none
    extendedFeaturesMask := none
    modelId := if m.modelId = some "" then none else m.modelId
    preferredYear := some (m.preferredYear.getD 0)
    maximumOs := if m.maximumOs.getD "" = "" then some "latest" else m.maximumOs }

@[simp] theorem name_normalForm (m : Model) : m.normalForm.name = m.name := rfl

@[simp] theorem codes_normalForm (m : Model) (kind : CodeKind) :
    m.normalForm.codes kind = m.codes kind := by
  cases kind <;> rfl

@[simp] theorem boards_normalForm (m : Model) : m.normalForm.boards = m.boards := by
  unfold boards normalForm
  rcases m.boardProduct with _ | ⟨_ | _⟩ <;> rfl

@[simp] theorem features_normalForm (m : Model) : m.normalForm.features = m.features := by
  unfold features normalForm
  cases m.extendedFeatures <;> cases m.firmwareFeatures <;> rfl

@[simp] theorem featuresMask_normalForm (m : Model) :
    m.normalForm.featuresMask = m.featuresMask := by
  unfold featuresMask normalForm
  cases m.extendedFeaturesMask <;> cases m.firmwareFeaturesMask <;> rfl

@[simp] theorem newestOs_normalForm (m : Model) : m.normalForm.newestOs = m.newestOs := by
  unfold newestOs normalForm
  cases m.maximumOs with
  | none => rfl
  | some version => by_cases empty : version = "" <;> simp [empty]

end Model

namespace InfoTable

@[simp] theorem secureBootModel_normalForm (m : Model) :
    secureBootModel m.normalForm = secureBootModel m := by
  unfold secureBootModel Model.normalForm
  cases m.modelId with
  | none => rfl
  | some id => by_cases empty : id = "" <;> simp [empty]

theorem entry_normalForm (m : Model) : entry m.normalForm = entry m := by
  unfold entry
  simp only [Model.boards_normalForm, Model.features_normalForm, Model.featuresMask_normalForm,
    secureBootModel_normalForm]
  rfl

theorem entries_normalForm (minYear : UInt32) (models : List Model) :
    entries minYear (models.map Model.normalForm) = entries minYear models := by
  induction models with
  | nil => rfl
  | cons m rest ih =>
    simp only [List.map_cons, entries, entry_normalForm, ih]
    rfl

end InfoTable

namespace Database

/-- The database with every model in its normal form. The names, and so the order, stay. -/
def normalForm (db : Database) : Database := db.mapModels Model.normalForm fun _ => rfl

@[simp] theorem models_normalForm (db : Database) :
    db.normalForm.models = db.models.map Model.normalForm := rfl

@[simp] theorem codeUses_normalForm (db : Database) (kind : CodeKind) :
    db.normalForm.codeUses kind = db.codeUses kind := by
  simp [codeUses, Model.codeUses, List.flatMap_map]

end Database

section Readers

variable (db : Database) (registry : Registry)

theorem suggestFor_normalForm : suggestFor db.normalForm = suggestFor db := by
  apply suggestFor_congr
  rw [Database.models_normalForm, List.map_map]
  rfl

theorem InfoTable.render_normalForm (minYear : UInt32) :
    InfoTable.render db.normalForm minYear = InfoTable.render db minYear := by
  unfold InfoTable.render
  rw [Database.models_normalForm, InfoTable.entries_normalForm]

/-- The rows of each table are made of fields that have no default, but for the preferred year. -/
theorem SerialTable.render_normalForm :
    SerialTable.render db.normalForm registry = SerialTable.render db registry := by
  have size : db.normalForm.size = db.size := List.length_map _
  unfold SerialTable.render SerialTable.codeTable SerialTable.yearTable
  simp only [Database.models_normalForm, List.mapM_map, List.map_map, List.zipWith_map_left, size]
  rfl

theorem BoardMap.render_normalForm : BoardMap.render db.normalForm = BoardMap.render db := by
  have recoverable : isRecoverable ∘ Model.normalForm = isRecoverable := rfl
  have pairs : pairs db.normalForm = pairs db := by
    simp [pairs, List.filter_map, List.flatMap_map, recoverable]
  unfold BoardMap.render ofDatabase
  rw [pairs]

theorem content_normalForm (minYear : UInt32) (kind : ArtifactKind) :
    kind.content db.normalForm registry minYear = kind.content db registry minYear := by
  cases kind with
  | infoTable => exact InfoTable.render_normalForm db minYear
  | serialTable => exact SerialTable.render_normalForm db registry
  | boardMap => exact congrArg Except.ok (BoardMap.render_normalForm db)

end Readers

/-- To write out the defaults of all models changes neither the comparison with the registry nor the
artifacts, whether they are made or a fault is reported, and nothing that is logged. -/
theorem defaults_may_be_written_out (db : Database) (registry : Registry) (family : Family)
    (layout : Layout) :
    cover db.normalForm registry family = cover db registry family ∧
    render db.normalForm registry layout = render db registry layout := by
  constructor
  · simp only [cover, Database.gather, Database.codeUses_normalForm, suggest_eq_flatMap,
      suggestFor_normalForm]
  · have each : renderOne db.normalForm registry layout = renderOne db registry layout := by
      funext kind
      unfold renderOne
      rw [content_normalForm]
    unfold render
    rw [each]

end ModelCatalog
