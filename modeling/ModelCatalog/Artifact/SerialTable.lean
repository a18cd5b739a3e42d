import ModelCatalog.Artifact.Basic
import ModelCatalog.Database
import ModelCatalog.Registry.Basic
import ModelCatalog.Text.Accents

/-! The tables of serial numbers. Each has one row for each model, in the order in which the models
are enumerated, and the rows of a table are as wide as its widest. -/
namespace ModelCatalog.SerialTable

/-- The name of a model as an identifier. -/
def enumerator (m : Model) : String :=
  String.ofList (m.name.toList.map fun c => if c = ',' then '_' else c)

def enumeratorRow (m : Model) : Except Fault String := do
  let cpu ← m.require "Specifications.CPU" m.primaryCpu?
  return "  " ++ enumerator m ++ ", // " ++ cpu ++ "\n"

def platformRow (m : Model) : Except Fault String := do
  let serial ← m.require "SystemSerialNumber" m.serialNumber
  return "  \x7b " ++ quoted m.name ++ ", " ++ quoted serial ++ " \x7d,\n"

/-- The name in a comment, filled up with blanks to fourteen characters. -/
def label (m : Model) : String :=
  "  /* " ++ m.name ++ String.ofList (List.replicate (14 - m.name.length) ' ') ++ " */ "

def codeRow (m : Model) (codes : List String) : String :=
  label m ++ "\x7b\"" ++ "\", \"".intercalate codes ++ "\"\x7d,\n"

def yearRow (m : Model) (years : List UInt32) : String :=
  label m ++ "\x7b" ++ decimalRow (years.map (·.toNat)) ++ "\x7d,\n"

def preferredYearRow (m : Model) : String :=
  label m ++ toString ((m.preferredYear.getD 0).toNat) ++ ",\n"

def width {α : Type} (rows : List (List α)) : Nat := (rows.map List.length).foldl max 0

/-- The definition of a width. -/
def widthLine (name : String) (width : Nat) : String :=
  "#define " ++ name ++ " " ++ toString width ++ "\n"

def codeTable (db : Database) (table maximum : String) (rows : List (List String)) : String :=
  widthLine maximum (width rows) ++
  "static const char *" ++ table ++ "[][" ++ maximum ++ "] = \x7b\n" ++
  String.join (List.zipWith codeRow db.models rows) ++ "\x7d;\n\n"

def yearTable (db : Database) (rows : List (List UInt32)) : String :=
  widthLine "APPLE_MODEL_YEAR_MAX" (width rows) ++
  "static uint32_t AppleModelYear[][APPLE_MODEL_YEAR_MAX] = \x7b\n" ++
  String.join (List.zipWith yearRow db.models rows) ++ "\x7d;\n\n"

/-- Shorter codes come first, and codes of one length in the order of their bytes. -/
def codeLe (a b : String) : Bool :=
  a.utf8ByteSize < b.utf8ByteSize || (a.utf8ByteSize == b.utf8ByteSize && decide (a ≤ b))

/-- The valid products in the order of their codes. -/
def described (registry : Registry) : List (String × Product) :=
  (registry.entries.filter fun (_, product) => product.isValid).mergeSort fun a b => codeLe a.1 b.1

def descriptionRow (code : String) (product : Product) : String :=
  " \x7b" ++ quoted code ++ ", " ++ quoted (Text.removeAccents product.name) ++ "\x7d,\n"

def heading : String :=
  "#ifndef GENSERIAL_MODELINFO_AUTOGEN_H\n" ++
  "#define GENSERIAL_MODELINFO_AUTOGEN_H\n\n" ++
  "// DO NOT EDIT! This is an autogenerated file.\n\n" ++
  "#include \"macserial.h\"\n\n"

/-- The text of the tables. What a model lacks is found table by table. -/
def render (db : Database) (registry : Registry) : Except Fault String := do
  let enumerators ← db.models.mapM enumeratorRow
  let platforms ← db.models.mapM platformRow
  let modelCodes ← db.models.mapM fun m => m.require "AppleModelCode" m.modelCodes
  let boardCodes ← db.models.mapM fun m => m.require "AppleBoardCode" m.boardCodes
  let years ← db.models.mapM fun m => m.require "AppleModelYear" m.modelYears
  return heading ++
    "typedef enum \x7b\n" ++ String.join enumerators ++ "\x7d AppleModel;\n\n" ++
    "#define APPLE_MODEL_MAX " ++ toString db.size ++ "\n\n" ++
    "static PLATFORMDATA ApplePlatformData[] = \x7b\n" ++ String.join platforms ++ "\x7d;\n\n" ++
    codeTable db "AppleModelCode" "APPLE_MODEL_CODE_MAX" modelCodes ++
    codeTable db "AppleBoardCode" "APPLE_BOARD_CODE_MAX" boardCodes ++
    yearTable db years ++
    "static uint32_t ApplePreferredModelYear[] = \x7b\n" ++
    String.join (db.models.map preferredYearRow) ++ "\x7d;\n\n" ++
    "static APPLE_MODEL_DESC AppleModelDesc[] = \x7b\n" ++
    String.join ((described registry).map fun (code, product) => descriptionRow code product) ++
    "\x7d;\n\n" ++
    "#endif // GENSERIAL_MODELINFO_AUTOGEN_H\n"

end ModelCatalog.SerialTable
