/-! Compressed data as a row of bits. -/
namespace ModelCatalog.Deflate

/-- The bits of a byte, least significant first. -/
def bitsOfByte (byte : UInt8) : List Bool :=
  (List.range 8).map fun i => byte.toNat.testBit i

def bitsOf (bytes : List UInt8) : List Bool := bytes.flatMap bitsOfByte

/-- Reads a number of the given width, least significant bit first. -/
def number? : Nat → List Bool → Option (Nat × List Bool)
  | 0, bits => some (0, bits)
  | _ + 1, [] => none
  | width + 1, bit :: bits => do
    let (n, rest) ← number? width bits
    return (2 * n + bit.toNat, rest)

def numbers? (width : Nat) : Nat → List Bool → Option (List Nat × List Bool)
  | 0, bits => some ([], bits)
  | count + 1, bits => do
    let (n, bits) ← number? width bits
    let (more, bits) ← numbers? width count bits
    return (n :: more, bits)

/-- Drops the bits before the next byte boundary; the row ends at one. -/
def align (bits : List Bool) : List Bool := bits.drop (bits.length % 8)

end ModelCatalog.Deflate
