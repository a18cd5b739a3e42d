import ModelCatalog.OrderedMap

/-! The registry of known products: codes, names of products, and whether a code is valid. -/
namespace ModelCatalog

inductive Status
  /-- The code is known and valid. -/
  | ok
  /-- The code is retired or was never valid. -/
  | notOk
deriving DecidableEq, Repr

def Status.word : Status → String
  | .ok => "ok"
  | .notOk => "not_ok"

def Status.ofWord? (word : String) : Option Status :=
  if word = "ok" then some .ok else if word = "not_ok" then some .notOk else none

structure Product where
  name : String
  status : Status
deriving DecidableEq, Repr

def Product.isValid (p : Product) : Bool := p.status = .ok

/-- Products by code, in the order in which the codes first came. -/
abbrev Registry := OrderedMap String Product

end ModelCatalog
