import ModelCatalog.Artifact.Basic
import ModelCatalog.Database
import ModelCatalog.Number.Notation
import ModelCatalog.Text.Lowercase

/-! The table of firmware information: one initializer for each model that is new enough. -/
namespace ModelCatalog.InfoTable

def hex (n : Nat) : String := "0x" ++ Number.upperHex n

/-- A number, or the word that marks its absence. -/
def hexOr (missing : String) (value : Option UInt32) : String :=
  match value with
  | some n => hex n.toNat
  | none => missing

/-- A row of bytes; a single zero stands for an absent one. -/
def bytes (row : Option (List UInt8)) : String :=
  "\x7b" ++ decimalRow ((row.getD [0]).map (·.toNat)) ++ "\x7d"

/-- The identifier in lower case; an empty one counts as absent. -/
def secureBootModel (m : Model) : String :=
  match m.modelId with
  | some id => if id.isEmpty then "NULL" else quoted (Text.lowercase id)
  | none => "NULL"

def line (field value : String) : String := "  ." ++ field ++ " = " ++ value ++ ",\n"

def entry (m : Model) : Except Fault String := do
  let board ← m.require "BoardProduct" m.boards.head?
  let biosVersion ← m.require "BIOSVersion" m.biosVersion
  let biosReleaseDate ← m.require "BIOSReleaseDate" m.biosReleaseDate
  let systemVersion ← m.require "SystemVersion" m.systemVersion
  let skuNumber ← m.require "SystemSKUNumber" m.skuNumber
  let family ← m.require "SystemFamily" m.family
  let boardVersion ← m.require "BoardVersion" m.boardVersion
  let boardAssetTag ← m.require "BoardAssetTag" m.boardAssetTag
  let boardLocation ← m.require "BoardLocationInChassis" m.boardLocation
  let smcGeneration ← m.require "SmcGeneration" m.smcGeneration
  let boardType ← m.require "BoardType" m.boardType
  let chassisType ← m.require "ChassisType" m.chassisType
  let memoryFormFactor ← m.require "MemoryFormFactor" m.memoryFormFactor
  let chassisAssetTag ← m.require "ChassisAssetTag" m.chassisAssetTag
  return " \x7b\n" ++
    line "SystemProductName" (quoted m.name) ++
    line "BoardProduct" (quoted board) ++
    line "BoardRevision" (hexOr "MAC_INFO_BOARD_REVISION_MISSING" m.boardRevision) ++
    line "SmcRevision" (bytes m.smcRevision) ++
    line "SmcBranch" (bytes m.smcBranch) ++
    line "SmcPlatform" (bytes m.smcPlatform) ++
    line "BIOSVersion" (quoted biosVersion) ++
    line "BIOSReleaseDate" (quoted biosReleaseDate) ++
    line "SystemVersion" (quoted systemVersion) ++
    line "SystemSKUNumber" (quoted skuNumber) ++
    line "SystemFamily" (quoted family) ++
    line "BoardVersion" (quoted boardVersion) ++
    line "BoardAssetTag" (quoted boardAssetTag) ++
    line "BoardLocationInChassis" (quoted boardLocation) ++
    line "SmcGeneration" (hex smcGeneration.toNat) ++
    line "BoardType" (hex boardType.toNat) ++
    line "ChassisType" (hex chassisType.toNat) ++
    line "MemoryFormFactor" (hex memoryFormFactor.toNat) ++
    line "PlatformFeature" (hexOr "MAC_INFO_PLATFORM_FEATURE_MISSING" m.platformFeature) ++
    line "ChassisAssetTag" (quoted chassisAssetTag) ++
    line "FirmwareFeatures" (hex m.features.toNat ++ "ULL") ++
    line "FirmwareFeaturesMask" (hex m.featuresMask.toNat ++ "ULL") ++
    line "SecureBootModel" (secureBootModel m) ++
    " \x7d,\n"

/-- The initializers of the models whose latest year is not before `minYear`. -/
def entries (minYear : UInt32) : List Model → Except Fault (List String)
  | [] => .ok []
  | m :: rest => do
    let year ← m.require "AppleModelYear" m.latestYear?
    if year < minYear then entries minYear rest
    else
      let first ← entry m
      let others ← entries minYear rest
      return first :: others

def heading : String :=
  "// DO NOT EDIT! This is an autogenerated file.\n" ++
  "#include \"MacInfoInternal.h\"\n" ++
  "CONST MAC_INFO_INTERNAL_ENTRY gMacInfoModels[] = \x7b\n"

def ending : String :=
  "\x7d;\n" ++
  "CONST UINTN gMacInfoModelCount = ARRAY_SIZE (gMacInfoModels);\n" ++
  "CONST UINTN gMacInfoDefaultModel = 0;\n"

def render (db : Database) (minYear : UInt32) : Except Fault String := do
  let entries ← entries minYear db.models
  return heading ++ String.join entries ++ ending

end ModelCatalog.InfoTable
