import ModelCatalog.Files.Tree
import ModelCatalog.Model.Basic

/-! Why work on the catalog stops. -/
namespace ModelCatalog

/-- How a registry fails to load. -/
inductive RegistryFault
  | unreadable (path : Path) (cause : FileFault)
  | notInflated
  | malformed
deriving DecidableEq, Repr

inductive Fault
  | databaseNotFound (path : Path)
  | unreadable (path : Path) (cause : FileFault)
  | malformed (path : Path)
  | emptyDatabase (path : Path)
  | duplicateModel (name : String)
  | registry (cause : RegistryFault)
  | emptyCode (model : String) (kind : CodeKind)
  | sharedCode (model : String) (kind : CodeKind) (code : String)
  | unknownProduct (code : String)
  | invalidProduct (code : String)
  | missingField (model field : String)
  | unwritable (path : Path) (cause : FileFault)
deriving DecidableEq, Repr

def RegistryFault.message : RegistryFault → String
  | .unreadable path cause => "cannot read " ++ path.text ++ ": " ++ cause.message
  | .notInflated => "cannot inflate"
  | .malformed => "malformed registry"

namespace Fault

def message : Fault → String
  | .databaseNotFound path =>
    "cannot find database directory " ++ path.quoted ++ ", rerun from the model database directory"
  | .unreadable path cause => "failed to read " ++ path.quoted ++ ": " ++ cause.message
  | .malformed path => "failed to parse file " ++ path.quoted
  | .emptyDatabase path => "empty database in " ++ path.quoted
  | .duplicateModel name => "model " ++ name ++ " is defined more than once"
  | .registry cause => "products registry error: " ++ cause.message
  | .emptyCode model kind => model ++ " contains empty " ++ kind.key
  | .sharedCode model kind code =>
    model ++ " shares " ++ kind.key ++ " " ++ code ++ " with other model"
  | .unknownProduct code => "model " ++ code ++ " is used in DataBase but not present in Products"
  | .invalidProduct code => "model " ++ code ++ " is used in DataBase but not valid in Products"
  | .missingField model field => model ++ " is missing required field " ++ field
  | .unwritable path cause => "failed to write " ++ path.quoted ++ ": " ++ cause.message

/-- The fault of the file system behind a fault, if there is one. -/
def cause? : Fault → Option FileFault
  | .unreadable _ cause | .unwritable _ cause => some cause
  | _ => none

end Fault

end ModelCatalog
