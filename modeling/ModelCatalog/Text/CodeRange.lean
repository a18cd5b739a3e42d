/-! Sets of characters given as runs of code points. -/
namespace ModelCatalog.Text

/-- First and last code point of a run. -/
abbrev CodeRange := Nat × Nat

def CodeRange.mem (ranges : List CodeRange) (c : Char) : Bool :=
  ranges.any fun range => range.1 ≤ c.toNat && c.toNat ≤ range.2

end ModelCatalog.Text
