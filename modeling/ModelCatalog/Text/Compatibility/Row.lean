/-! Shape of the tables of compatibility decompositions. -/
namespace ModelCatalog.Text.Compatibility

/-- A code point and the code points of its full decomposition. -/
abbrev Row := Nat × List Nat

/-- A page holds the rows of the code points that share all but the last eight bits. -/
abbrev Page := Nat × List Row

end ModelCatalog.Text.Compatibility
