import ModelCatalog.Text.Compatibility.Latin
import ModelCatalog.Text.Compatibility.Greek
import ModelCatalog.Text.Compatibility.Scripts
import ModelCatalog.Text.Compatibility.Symbols
import ModelCatalog.Text.Compatibility.Ideographs
import ModelCatalog.Text.Compatibility.Presentation
import ModelCatalog.Text.Compatibility.Alphanumerics

/-! Full compatibility decomposition of single characters: a table, and arithmetic for the
syllables that are composed of two or three letters each. -/
namespace ModelCatalog.Text

namespace Compatibility

def pages : List Page :=
  latin ++ greek ++ scripts ++ symbols ++ ideographs ++ presentation ++ alphanumerics

/-- The decomposition in the table, if the table has the code point. -/
def lookup? (code : Nat) : Option (List Nat) :=
  (pages.lookup (code / 256)).bind (·.lookup code)

end Compatibility

namespace Syllable

def base : Nat := 0xAC00
def leadBase : Nat := 0x1100
def vowelBase : Nat := 0x1161
def tailBase : Nat := 0x11A7
def vowelCount : Nat := 21
def tailCount : Nat := 28
def count : Nat := 19 * vowelCount * tailCount

/-- The letters of the syllable with the given index: lead, vowel, and a tail unless it is open. -/
def letters (index : Nat) : List Nat :=
  let lead := leadBase + index / (vowelCount * tailCount)
  let vowel := vowelBase + index % (vowelCount * tailCount) / tailCount
  let tail := index % tailCount
  if tail == 0 then [lead, vowel] else [lead, vowel, tailBase + tail]

end Syllable

/-- Code points of the full decomposition; a character without one stands for itself. -/
def decomposeCode (code : Nat) : List Nat :=
  if Syllable.base ≤ code && code < Syllable.base + Syllable.count then
    Syllable.letters (code - Syllable.base)
  else (Compatibility.lookup? code).getD [code]

def decompose (c : Char) : List Char := (decomposeCode c.toNat).map Char.ofNat

end ModelCatalog.Text
