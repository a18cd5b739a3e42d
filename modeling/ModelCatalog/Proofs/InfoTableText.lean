import ModelCatalog.Proofs.Numerals
import ModelCatalog.Proofs.Traversal

/-! The table of firmware information tells all that is put into it. An initializer has as many
lines as any other, so the lines of a table fall into initializers, and each line tells its value;
only a line feed inside a text could pretend that a line ends. -/
namespace ModelCatalog.InfoTable

structure Initializer where
  name : String
  board : String
  boardRevision : Option UInt32
  smcRevision : List UInt8
  smcBranch : List UInt8
  smcPlatform : List UInt8
  biosVersion : String
  biosReleaseDate : String
  systemVersion : String
  skuNumber : String
  family : String
  boardVersion : String
  boardAssetTag : String
  boardLocation : String
  smcGeneration : UInt32
  boardType : UInt32
  chassisType : UInt32
  memoryFormFactor : UInt32
  platformFeature : Option UInt32
  chassisAssetTag : String
  features : UInt64
  featuresMask : UInt64
  /-- The identifier of the model in lower case, unless it has none or an empty one. -/
  secureBootModel : Option String
deriving DecidableEq, Repr

namespace Initializer

/-- What the table says about a model that lacks nothing. -/
def ofModel? (m : Model) : Option Initializer := do
  let board ← m.boards.head?
  let biosVersion ← m.biosVersion
  let biosReleaseDate ← m.biosReleaseDate
  let systemVersion ← m.systemVersion
  let skuNumber ← m.skuNumber
  let family ← m.family
  let boardVersion ← m.boardVersion
  let boardAssetTag ← m.boardAssetTag
  let boardLocation ← m.boardLocation
  let smcGeneration ← m.smcGeneration
  let boardType ← m.boardType
  let chassisType ← m.chassisType
  let memoryFormFactor ← m.memoryFormFactor
  let chassisAssetTag ← m.chassisAssetTag
  return {
    name := m.name
    board, biosVersion, biosReleaseDate, systemVersion, skuNumber, family, boardVersion
    boardAssetTag, boardLocation, smcGeneration, boardType, chassisType, memoryFormFactor
    chassisAssetTag
    boardRevision := m.boardRevision
    smcRevision := m.smcRevision.getD [0]
    smcBranch := m.smcBranch.getD [0]
    smcPlatform := m.smcPlatform.getD [0]
    platformFeature := m.platformFeature
    features := m.features
    featuresMask := m.featuresMask
    secureBootModel := (m.modelId.filter fun id => !id.isEmpty).map Text.lowercase }

def texts (i : Initializer) : List String :=
  [i.name, i.board, i.biosVersion, i.biosReleaseDate, i.systemVersion, i.skuNumber, i.family,
    i.boardVersion, i.boardAssetTag, i.boardLocation, i.chassisAssetTag] ++
    i.secureBootModel.toList

def fieldNames : List String :=
  ["SystemProductName", "BoardProduct", "BoardRevision", "SmcRevision", "SmcBranch", "SmcPlatform",
    "BIOSVersion", "BIOSReleaseDate", "SystemVersion", "SystemSKUNumber", "SystemFamily",
    "BoardVersion", "BoardAssetTag", "BoardLocationInChassis", "SmcGeneration", "BoardType",
    "ChassisType", "MemoryFormFactor", "PlatformFeature", "ChassisAssetTag", "FirmwareFeatures",
    "FirmwareFeaturesMask", "SecureBootModel"]

/-- The values as they are written, field by field. -/
def written (i : Initializer) : List String :=
  [quoted i.name, quoted i.board, hexOr "MAC_INFO_BOARD_REVISION_MISSING" i.boardRevision,
    bytes (some i.smcRevision), bytes (some i.smcBranch), bytes (some i.smcPlatform),
    quoted i.biosVersion, quoted i.biosReleaseDate, quoted i.systemVersion, quoted i.skuNumber,
    quoted i.family, quoted i.boardVersion, quoted i.boardAssetTag, quoted i.boardLocation,
    hex i.smcGeneration.toNat, hex i.boardType.toNat, hex i.chassisType.toNat,
    hex i.memoryFormFactor.toNat, hexOr "MAC_INFO_PLATFORM_FEATURE_MISSING" i.platformFeature,
    quoted i.chassisAssetTag, hex i.features.toNat ++ "ULL", hex i.featuresMask.toNat ++ "ULL",
    (i.secureBootModel.map quoted).getD "NULL"]

def text (i : Initializer) : String :=
  " \x7b\n" ++ String.join (List.zipWith line fieldNames i.written) ++ " \x7d,\n"

end Initializer

theorem secureBootModel_eq (m : Model) : secureBootModel m =
    (((m.modelId.filter fun id => !id.isEmpty).map Text.lowercase).map quoted).getD "NULL" := by
  unfold secureBootModel
  cases m.modelId with
  | none => rfl
  | some id => cases empty : id.isEmpty <;> simp [Option.filter, empty]

theorem bytes_getD (row : Option (List UInt8)) : bytes (some (row.getD [0])) = bytes row := by
  cases row <;> rfl

theorem toOption_require_bind {α β γ : Type} {m : Model} {field : String} {value : Option α}
    {next : α → Except Fault β} {next' : α → Option γ} {f : γ → β}
    (each : ∀ a, (next a).toOption = (next' a).map f) :
    (m.require field value >>= next).toOption = (value >>= next').map f := by
  cases value with
  | none => rfl
  | some a => exact each a

theorem toOption_entry (m : Model) :
    (entry m).toOption = (Initializer.ofModel? m).map Initializer.text := by
  unfold entry Initializer.ofModel?
  -- the required values, in the order in which they are asked for
  iterate 14 refine toOption_require_bind fun _ => ?_
  refine congrArg some ?_
  simp only [Initializer.text, Initializer.fieldNames, Initializer.written,
    List.zipWith_cons_cons, List.zipWith_nil_left, String.join_cons, String.join_nil,
    String.append_empty, String.append_assoc, bytes_getD, secureBootModel_eq]

section Values

end Values

section Lines

def unlines (lines : List (List Char)) : List Char := lines.flatMap (· ++ ['\n'])

def row (field value : String) : List Char := ("  ." ++ field ++ " = " ++ value ++ ",").toList

namespace Initializer

def lines (i : Initializer) : List (List Char) :=
  " \x7b".toList :: List.zipWith row fieldNames i.written ++ [" \x7d,".toList]

/-- Whether no text among the values has a line feed in it. -/
def Flat (i : Initializer) : Prop := ∀ text ∈ i.texts, '\n' ∉ text.toList

instance (i : Initializer) : Decidable i.Flat :=
  inferInstanceAs (Decidable (∀ text ∈ i.texts, '\n' ∉ text.toList))

theorem newline_not_mem_written {i : Initializer} (flat : i.Flat) :
    ∀ value ∈ i.written, '\n' ∉ value.toList := by
  have text {s : String} (member : s ∈ i.texts) : '\n' ∉ (quoted s).toList := by
    simpa [quoted] using flat s member
  have word (n : Nat) : '\n' ∉ (hex n).toList := by
    simpa [hex] using Number.newline_not_mem_upperHex n
  have wordOr {missing : String} (plain : '\n' ∉ missing.toList) (n : Option UInt32) :
      '\n' ∉ (hexOr missing n).toList := by
    cases n <;> simp [hexOr, plain, word]
  have long (n : Nat) : '\n' ∉ (hex n ++ "ULL").toList := by simp [word]
  have row (xs : List UInt8) : '\n' ∉ (bytes (some xs)).toList := by
    simp [bytes, newline_not_mem_decimalRow]
  have secure : '\n' ∉ ((i.secureBootModel.map quoted).getD "NULL").toList := by
    cases found : i.secureBootModel with
    | none => decide
    | some s => exact text (by simp [texts, found])
  simp only [written, List.forall_mem_cons, List.not_mem_nil, false_imp_iff, implies_true, and_true]
  refine ⟨text ?_, text ?_, wordOr (by decide) _, row _, row _, row _, text ?_, text ?_, text ?_,
    text ?_, text ?_, text ?_, text ?_, text ?_, word _, word _, word _, word _,
    wordOr (by decide) _, text ?_, long _, long _, secure⟩ <;> simp [texts]

theorem newline_not_mem_lines {i : Initializer} (flat : i.Flat) :
    ∀ line ∈ i.lines, '\n' ∉ line := by
  intro line member
  simp only [lines, List.cons_append, List.mem_cons, List.mem_append, List.not_mem_nil,
    or_false] at member
  rcases member with rfl | inside | rfl
  · decide
  · rw [← List.map_uncurry_zip_eq_zipWith] at inside
    obtain ⟨⟨field, value⟩, pair, rfl⟩ := List.mem_map.mp inside
    obtain ⟨known, held⟩ := List.of_mem_zip pair
    have plain : ∀ field ∈ fieldNames, '\n' ∉ field.toList := by decide
    simp [row, plain field known, newline_not_mem_written flat value held]
  · decide

end Initializer

end Lines

section Tables

def kept (minYear : UInt32) (models : List Model) : List Model :=
  models.filter fun m => m.latestYear?.any fun year => decide (minYear ≤ year)

/-- The values of the models that are new enough, in order; a model that lacks one has none. -/
def initializers (minYear : UInt32) (models : List Model) : List (Option Initializer) :=
  (kept minYear models).map Initializer.ofModel?

theorem entries_cons_eq_ok {minYear : UInt32} {m : Model} {rest : List Model}
    {texts : List String} (made : entries minYear (m :: rest) = .ok texts) :
    ∃ year others, m.latestYear? = some year ∧ entries minYear rest = .ok others ∧
      (year < minYear ∧ texts = others ∨
        ¬ year < minYear ∧ ∃ text, entry m = .ok text ∧ texts = text :: others) := by
  rw [entries, bind_eq_ok_iff] at made
  obtain ⟨year, asked, made⟩ := made
  have latest : m.latestYear? = some year := by
    cases known : m.latestYear? with
    | none => simp [known, Model.require] at asked
    | some latest => simpa [known, Model.require] using asked
  by_cases old : year < minYear
  · rw [if_pos old] at made
    exact ⟨year, texts, latest, made, .inl ⟨old, rfl⟩⟩
  · rw [if_neg old, bind_eq_ok_iff] at made
    obtain ⟨text, first, made⟩ := made
    obtain ⟨others, behind, ended⟩ := bind_eq_ok_iff.mp made
    exact ⟨year, others, latest, behind, .inr ⟨old, text, first, (Except.ok.inj ended).symm⟩⟩

theorem entries_eq_ok {minYear : UInt32} {models : List Model} {texts : List String}
    (made : entries minYear models = .ok texts) :
    ∃ table : List Initializer, initializers minYear models = table.map some ∧
      texts = table.map Initializer.text := by
  simp only [initializers]
  induction models generalizing texts with
  | nil => exact ⟨[], rfl, (Except.ok.inj made).symm⟩
  | cons m rest ih =>
    obtain ⟨year, others, latest, behind, ⟨old, rfl⟩ | ⟨late, text, first, rfl⟩⟩ :=
      entries_cons_eq_ok made
    · have dropped : kept minYear (m :: rest) = kept minYear rest :=
        List.filter_cons_of_neg (by simpa [latest] using old)
      rw [dropped]
      exact ih behind
    · have taken : kept minYear (m :: rest) = m :: kept minYear rest :=
        List.filter_cons_of_pos (by simpa [latest] using late)
      have values := toOption_entry m
      rw [first] at values
      obtain ⟨i, known, rfl⟩ := Option.map_eq_some_iff.mp values.symm
      obtain ⟨table, listed, rfl⟩ := ih behind
      exact ⟨i :: table, by rw [taken, List.map_cons, List.map_cons, known, listed], rfl⟩

theorem latestYear?_of_entries {minYear : UInt32} {models : List Model} {texts : List String}
    (made : entries minYear models = .ok texts) :
    ∀ m ∈ models, m.latestYear?.isSome = true := by
  induction models generalizing texts with
  | nil => simp
  | cons m rest ih =>
    obtain ⟨year, others, latest, behind, _⟩ := entries_cons_eq_ok made
    exact List.forall_mem_cons.mpr ⟨by rw [latest]; rfl, ih behind⟩

theorem entries_of_render {db : Database} {minYear : UInt32} {text : String}
    (made : render db minYear = .ok text) :
    ∃ texts, entries minYear db.models = .ok texts ∧
      text = heading ++ String.join texts ++ ending := by
  obtain ⟨texts, inside, ended⟩ := bind_eq_ok_iff.mp made
  exact ⟨texts, inside, (Except.ok.inj ended).symm⟩

theorem render_eq_ok {db : Database} {minYear : UInt32} {text : String}
    (made : render db minYear = .ok text) :
    ∃ table : List Initializer, initializers minYear db.models = table.map some ∧
      text = heading ++ String.join (table.map Initializer.text) ++ ending := by
  obtain ⟨texts, inside, rfl⟩ := entries_of_render made
  obtain ⟨table, listed, rfl⟩ := entries_eq_ok inside
  exact ⟨table, listed, rfl⟩

end Tables

/-- A model that lacks nothing but, perhaps, its row of bytes. -/
def plainModel (name : String) (year : UInt32) (row : Option (List UInt8)) : Model where
  productName := some name
  boardProduct := some (.many ["Mac-AA95B1DDAB278B95", "Mac-B"])
  smcRevision := row
  biosVersion := some "220.270.99.0.0"
  biosReleaseDate := some "05/24/2019"
  systemVersion := some "1.0"
  skuNumber := some ""
  family := some "MacPro \"7\""
  boardVersion := some "1.0"
  boardAssetTag := some ""
  boardLocation := some "Part Component"
  chassisAssetTag := some "\\"
  smcGeneration := some 3
  boardType := some 0xA
  chassisType := some 0xD
  memoryFormFactor := some 9
  platformFeature := some 0
  modelYears := some [2007, year]
  firmwareFeatures := some 0xE00FE137
  extendedFeatures := some 0x8E00FE137
  modelId := some "J137"

def mixedDatabase : Database :=
  ⟨[plainModel "MacPro3,1" 2008 (some [1]), plainModel "MacPro7,1" 2019 none], by decide⟩

end ModelCatalog.InfoTable
