import ModelCatalog.Deflate.Bits

/-! Prefix codes that are given by the lengths of their words: words of one length are consecutive
numbers in the order of their symbols, and shorter words come first. -/
namespace ModelCatalog.Deflate

def longestWord : Nat := 15

/-- The number of words of each length from one to fifteen, and the symbols in the order of their
words. -/
structure Code where
  counts : List Nat
  symbols : Array Nat
deriving Repr

namespace Code

def ofLengths (lengths : List Nat) : Code :=
  let widths := List.range' 1 longestWord
  ⟨widths.map fun width => lengths.count width,
    (widths.flatMap fun width =>
      (lengths.zipIdx.filter fun (length, _) => length == width).map Prod.snd).toArray⟩

/-- Share of the words of length fifteen that have a word of the code as their beginning. -/
def coverage (code : Code) : Nat :=
  (code.counts.zipIdx 1).foldl
    (fun sum (count, width) => sum + count * Nat.pow 2 (longestWord - width)) 0

def isComplete (code : Code) : Bool := code.coverage == Nat.pow 2 longestWord

/-- A code with at most one word may leave words unused. -/
def isUsable (code : Code) : Bool := code.isComplete || code.symbols.size ≤ 1

/-- Follows the bits to a word. Among the words of the current length, `first` is the least and
`index` the place of its symbol. -/
def symbolFrom? (symbols : Array Nat) :
    List Nat → Nat → Nat → Nat → List Bool → Option (Nat × List Bool)
  | count :: counts, word, first, index, bit :: bits =>
    let word := word + bit.toNat
    if word < first + count then
      symbols[index + (word - first)]?.map fun symbol => (symbol, bits)
    else symbolFrom? symbols counts (2 * word) (2 * (first + count)) (index + count) bits
  | _, _, _, _, _ => none

def symbol? (code : Code) (bits : List Bool) : Option (Nat × List Bool) :=
  symbolFrom? code.symbols code.counts 0 0 0 bits

end Code

end ModelCatalog.Deflate
