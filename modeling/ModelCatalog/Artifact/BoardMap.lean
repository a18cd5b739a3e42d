import ModelCatalog.Database
import ModelCatalog.Json.Writer
import ModelCatalog.OrderedMap

/-! The map from boards to the newest system that they run. -/
namespace ModelCatalog.BoardMap

/-- Serial numbers of this length belong to models that recovery knows. -/
def serialLength : Nat := 12

def isRecoverable (m : Model) : Bool := (m.serialNumber.getD "").length == serialLength

/-- Boards of recoverable models with their systems, in the order of the database. -/
def pairs (db : Database) : List (String × String) :=
  (db.models.filter isRecoverable).flatMap fun m => m.boards.map fun board => (board, m.newestOs)

/-- A later model replaces the system of a board that an earlier one lists, in its place. -/
def ofDatabase (db : Database) : OrderedMap String String := OrderedMap.ofList (pairs db)

def render (db : Database) : String :=
  String.ofList (Json.indentedObject
    ((ofDatabase db).entries.map fun (board, os) => (board, Json.quote os)))

end ModelCatalog.BoardMap
