import ModelCatalog.Deflate.Block

/-! Compressed streams: a header of two bytes, blocks, and a checksum of what they hold. -/
namespace ModelCatalog.Deflate

/-- Two running sums modulo the greatest prime below `2 ^ 16`. -/
def checksum (bytes : Array UInt8) : Nat :=
  let (a, b) := bytes.foldl (fun (a, b) byte =>
    let a := (a + byte.toNat) % 65521
    (a, (b + a) % 65521)) (1, 0)
  b * 65536 + a

/-- The method is the only one there is, the window is not too large, no dictionary is needed, and
the two bytes are a multiple of 31. -/
def isHeader (method flags : UInt8) : Bool :=
  method.toNat % 16 == 8 && method.toNat / 16 ≤ 7 && flags.toNat / 32 % 2 == 0 &&
    (method.toNat * 256 + flags.toNat) % 31 == 0

/-- The bytes that a stream holds. What follows its checksum, which is written with the most
significant byte first, is ignored. -/
def inflate? : List UInt8 → Option (Array UInt8)
  | method :: flags :: body =>
    if isHeader method flags then do
      let bits := bitsOf body
      let (bits, out) ← blocks? (bits.length + 1) bits #[]
      let (sum, _) ← numbers? 8 4 (align bits)
      if sum.foldl (fun n byte => n * 256 + byte) 0 = checksum out then some out else none
    else none
  | _ => none

end ModelCatalog.Deflate
