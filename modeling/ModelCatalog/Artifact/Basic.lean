import ModelCatalog.Fault

/-! Files that are made from the catalog. -/
namespace ModelCatalog

structure Artifact where
  path : Path
  content : String
deriving DecidableEq, Repr

/-- A field that a table needs. -/
def Model.require {α : Type} (m : Model) (field : String) (value : Option α) : Except Fault α :=
  match value with
  | some value => .ok value
  | none => .error (.missingField m.name field)

/-- A text between quotation marks; nothing in it is escaped. -/
def quoted (s : String) : String := "\"" ++ s ++ "\""

/-- Decimal numbers separated by commas. -/
def decimalRow (numbers : List Nat) : String := ", ".intercalate (numbers.map toString)

end ModelCatalog
