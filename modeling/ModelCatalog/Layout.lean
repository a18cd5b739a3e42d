import ModelCatalog.Family
import ModelCatalog.Files.Path

/-! Where the catalog lies and what is made from it. -/
namespace ModelCatalog

/-- Paths that are not given are seen from the root, or else from the working directory. -/
structure Layout where
  root : Option Path := none
  database : Option Path := none
  products : Option Path := none
  infoTable : Option Path := none
  serialTable : Option Path := none
  boardMap : Option Path := none
  /-- The oldest year that the table of firmware information keeps. -/
  minYear : UInt32 := 0
  family : Family := Family.standard
  /-- Whether to make everything and write nothing. -/
  checkOnly : Bool := false
deriving DecidableEq, Repr

namespace Layout

def fromRoot (l : Layout) (path : String) : Path :=
  match l.root with
  | some root => root.join ⟨path⟩
  | none => ⟨path⟩

def databasePath (l : Layout) : Path := l.database.getD (l.fromRoot "DataBase")

def productsPath (l : Layout) : Path := l.products.getD (l.fromRoot "DataBase/Products.zjson")

def infoTablePath (l : Layout) : Path :=
  l.infoTable.getD (l.fromRoot "../Library/OcMacInfoLib/AutoGenerated.c")

def serialTablePath (l : Layout) : Path :=
  l.serialTable.getD (l.fromRoot "../Utilities/macserial/modelinfo_autogen.h")

def boardMapPath (l : Layout) : Path :=
  l.boardMap.getD (l.fromRoot "../Utilities/macrecovery/boards.json")

end Layout

end ModelCatalog
