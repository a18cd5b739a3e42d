import ModelCatalog.Markup.Decode
import ModelCatalog.Model.Basic

/-! Models read from marked-up text. -/
namespace ModelCatalog

open Markup

/-- A single board or a list; only scalars that stand for their own text are boards. -/
def Boards.decode : Decoder Boards := fun doc node =>
  match node with
  | .sequence tag items =>
    if (tag.map isLocalTag).getD false then none
    else (list ownText doc (.sequence tag items)).map .many
  | node => (ownText doc node).map .one

namespace Specifications

def keys : List String := ["CPU", "SystemReportName"]

def ofFields? (doc : Document) (fields : Fields) : Option Specifications := do
  let cpu ← fields.get? doc "CPU" (list freeText)
  let reportNames ← fields.get? doc "SystemReportName" (list freeText)
  return ⟨cpu, reportNames⟩

def decode : Decoder Specifications := structure? keys ofFields?

end Specifications

namespace Model

def keys : List String :=
  ["SystemProductName", "BoardProduct", "BoardRevision", "SmcRevision", "SmcBranch", "SmcPlatform",
   "BIOSVersion", "BIOSReleaseDate", "SystemVersion", "SystemSKUNumber", "SystemFamily",
   "BoardVersion", "BoardAssetTag", "BoardLocationInChassis", "ChassisAssetTag", "SmcGeneration",
   "BoardType", "ChassisType", "MemoryFormFactor", "PlatformFeature", "FirmwareFeatures",
   "FirmwareFeaturesMask", "ExtendedFirmwareFeatures", "ExtendedFirmwareFeaturesMask",
   "AppleModelId", "AppleModelCode", "AppleBoardCode", "AppleModelYear", "MacserialModelYear",
   "SystemSerialNumber", "MaximumOSVersion", "Specifications"]

def ofFields? (doc : Document) (fields : Fields) : Option Model := do
  return {
    productName := ← fields.get? doc "SystemProductName" freeText
    boardProduct := ← fields.get? doc "BoardProduct" Boards.decode
    boardRevision := ← fields.get? doc "BoardRevision" word32
    smcRevision := ← fields.get? doc "SmcRevision" (list word8)
    smcBranch := ← fields.get? doc "SmcBranch" (list word8)
    smcPlatform := ← fields.get? doc "SmcPlatform" (list word8)
    biosVersion := ← fields.get? doc "BIOSVersion" freeText
    biosReleaseDate := ← fields.get? doc "BIOSReleaseDate" freeText
    systemVersion := ← fields.get? doc "SystemVersion" freeText
    skuNumber := ← fields.get? doc "SystemSKUNumber" freeText
    family := ← fields.get? doc "SystemFamily" freeText
    boardVersion := ← fields.get? doc "BoardVersion" freeText
    boardAssetTag := ← fields.get? doc "BoardAssetTag" freeText
    boardLocation := ← fields.get? doc "BoardLocationInChassis" freeText
    chassisAssetTag := ← fields.get? doc "ChassisAssetTag" freeText
    smcGeneration := ← fields.get? doc "SmcGeneration" word32
    boardType := ← fields.get? doc "BoardType" word32
    chassisType := ← fields.get? doc "ChassisType" word32
    memoryFormFactor := ← fields.get? doc "MemoryFormFactor" word32
    platformFeature := ← fields.get? doc "PlatformFeature" word32
    firmwareFeatures := ← fields.get? doc "FirmwareFeatures" word64
    firmwareFeaturesMask := ← fields.get? doc "FirmwareFeaturesMask" word64
    extendedFeatures := ← fields.get? doc "ExtendedFirmwareFeatures" word64
    extendedFeaturesMask := ← fields.get? doc "ExtendedFirmwareFeaturesMask" word64
    modelId := ← fields.get? doc "AppleModelId" freeText
    modelCodes := ← fields.get? doc "AppleModelCode" (list freeText)
    boardCodes := ← fields.get? doc "AppleBoardCode" (list freeText)
    modelYears := ← fields.get? doc "AppleModelYear" (list word32)
    preferredYear := ← fields.get? doc "MacserialModelYear" word32
    serialNumber := ← fields.get? doc "SystemSerialNumber" freeText
    maximumOs := ← fields.get? doc "MaximumOSVersion" freeText
    specifications := ← fields.get? doc "Specifications" Specifications.decode }

def decode : Decoder Model := structure? keys ofFields?

/-- Reads a model from a text; a text without a document gives a model without fields. -/
def read? (text : String) : Option Model := do
  let doc ← Document.read? text
  match doc.root with
  | none => some {}
  | some root => decode doc root

end Model

end ModelCatalog
