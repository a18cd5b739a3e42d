import ModelCatalog.Text.Substring

/-! Which products a database is expected to cover. -/
namespace ModelCatalog

structure Family where
  /-- A name holds at least one of these. -/
  includes : List String
  /-- A name that holds one of these is left out. -/
  excludes : List String
  /-- Codes of this length in bytes, or shorter, are left out. -/
  shortCode : Nat
deriving DecidableEq, Repr

namespace Family

def standard : Family := ⟨["Mac", "Xserve"], ["M1"], 3⟩

def matchesName (f : Family) (name : String) : Bool :=
  f.includes.any (Text.contains name) && !f.excludes.any (Text.contains name)

/-- Whether a code is long enough to count. -/
def admits (f : Family) (code : String) : Bool := decide (f.shortCode < code.utf8ByteSize)

end Family

end ModelCatalog
