/-! Hardware models: what the catalog says about one line of machines. -/
namespace ModelCatalog

/-- One board identifier or a list of them. -/
inductive Boards
  | one (board : String)
  | many (boards : List String)
deriving DecidableEq, Repr

def Boards.toList : Boards → List String
  | .one board => [board]
  | .many boards => boards

/-- Marketing details. -/
structure Specifications where
  cpu : Option (List String)
  reportNames : Option (List String)
deriving DecidableEq, Repr

/-- Every field may be left out; what a table needs is checked when the table is written. -/
structure Model where
  productName : Option String := none
  boardProduct : Option Boards := none
  boardRevision : Option UInt32 := none
  smcRevision : Option (List UInt8) := none
  smcBranch : Option (List UInt8) := none
  smcPlatform : Option (List UInt8) := none
  biosVersion : Option String := none
  biosReleaseDate : Option String := none
  systemVersion : Option String := none
  skuNumber : Option String := none
  family : Option String := none
  boardVersion : Option String := none
  boardAssetTag : Option String := none
  boardLocation : Option String := none
  chassisAssetTag : Option String := none
  smcGeneration : Option UInt32 := none
  boardType : Option UInt32 := none
  chassisType : Option UInt32 := none
  memoryFormFactor : Option UInt32 := none
  platformFeature : Option UInt32 := none
  firmwareFeatures : Option UInt64 := none
  firmwareFeaturesMask : Option UInt64 := none
  extendedFeatures : Option UInt64 := none
  extendedFeaturesMask : Option UInt64 := none
  modelId : Option String := none
  modelCodes : Option (List String) := none
  boardCodes : Option (List String) := none
  modelYears : Option (List UInt32) := none
  preferredYear : Option UInt32 := none
  serialNumber : Option String := none
  maximumOs : Option String := none
  specifications : Option Specifications := none
deriving DecidableEq, Repr

/-- The two lists of product codes of a model. -/
inductive CodeKind
  | model | board
deriving DecidableEq, Repr

def CodeKind.key : CodeKind → String
  | .model => "AppleModelCode"
  | .board => "AppleBoardCode"

namespace Model

/-- The display name; empty if the model has none. -/
def name (m : Model) : String := m.productName.getD ""

def boards (m : Model) : List String := (m.boardProduct.map Boards.toList).getD []

def codes? (m : Model) : CodeKind → Option (List String)
  | .model => m.modelCodes
  | .board => m.boardCodes

def codes (m : Model) (kind : CodeKind) : List String := (m.codes? kind).getD []

def years (m : Model) : List UInt32 := m.modelYears.getD []

def latestYear? (m : Model) : Option UInt32 := m.years.max?

/-- Extended features stand in place of the plain ones. -/
def features (m : Model) : UInt64 := (m.extendedFeatures.or m.firmwareFeatures).getD 0

def featuresMask (m : Model) : UInt64 := (m.extendedFeaturesMask.or m.firmwareFeaturesMask).getD 0

/-- The newest system that the model runs; `latest` if nothing limits it. -/
def newestOs (m : Model) : String :=
  match m.maximumOs with
  | some version => if version.isEmpty then "latest" else version
  | none => "latest"

def reportNames (m : Model) : List String := (m.specifications.bind (·.reportNames)).getD []

def primaryCpu? (m : Model) : Option String :=
  (m.specifications.bind (·.cpu)).bind List.head?

end Model

end ModelCatalog
