import ModelCatalog.Deflate.Code

/-! Blocks of compressed data: stored bytes, and literals and copies under a fixed code or under one
that the block describes. -/
namespace ModelCatalog.Deflate

/-- The bits that remain, and the bytes written so far. -/
abbrev Progress := List Bool × Array UInt8

def lengthBases : List Nat :=
  [3, 4, 5, 6, 7, 8, 9, 10, 11, 13, 15, 17, 19, 23, 27, 31, 35, 43, 51, 59, 67, 83, 99, 115, 131,
   163, 195, 227, 258]

def lengthWidths : List Nat :=
  [0, 0, 0, 0, 0, 0, 0, 0, 1, 1, 1, 1, 2, 2, 2, 2, 3, 3, 3, 3, 4, 4, 4, 4, 5, 5, 5, 5, 0]

def distanceBases : List Nat :=
  [1, 2, 3, 4, 5, 7, 9, 13, 17, 25, 33, 49, 65, 97, 129, 193, 257, 385, 513, 769, 1025, 1537, 2049,
   3073, 4097, 6145, 8193, 12289, 16385, 24577]

def distanceWidths : List Nat :=
  [0, 0, 0, 0, 1, 1, 2, 2, 3, 3, 4, 4, 5, 5, 6, 6, 7, 7, 8, 8, 9, 9, 10, 10, 11, 11, 12, 12, 13, 13]

/-- A base and the extra bits that are added to it. -/
def extended? (bases widths : List Nat) (symbol : Nat) (bits : List Bool) :
    Option (Nat × List Bool) := do
  let (extra, rest) ← number? (← widths[symbol]?) bits
  return ((← bases[symbol]?) + extra, rest)

/-- Copies bytes from a distance behind the end. Before the first byte there are zeros. -/
def copyBack (distance : Nat) : Nat → Array UInt8 → Array UInt8
  | 0, out => out
  | length + 1, out =>
    let byte := if distance ≤ out.size then out.getD (out.size - distance) 0 else 0
    copyBack distance length (out.push byte)

/-- A literal byte, a length and a distance, or the end of the block. -/
inductive Item
  | literal (byte : UInt8)
  | copy (length distance : Nat)
  | endOfBlock

def item? (literals distances : Code) (bits : List Bool) : Option (Item × List Bool) := do
  let (symbol, bits) ← literals.symbol? bits
  if symbol < 256 then return (.literal (UInt8.ofNat symbol), bits)
  else if symbol = 256 then return (.endOfBlock, bits)
  else
    let (length, bits) ← extended? lengthBases lengthWidths (symbol - 257) bits
    let (symbol, bits) ← distances.symbol? bits
    let (distance, bits) ← extended? distanceBases distanceWidths symbol bits
    return (.copy length distance, bits)

def items? (literals distances : Code) : Nat → List Bool → Array UInt8 → Option Progress
  | 0, _, _ => none
  | fuel + 1, bits, out =>
    match item? literals distances bits with
    | none => none
    | some (.endOfBlock, rest) => some (rest, out)
    | some (.literal byte, rest) => items? literals distances fuel rest (out.push byte)
    | some (.copy length distance, rest) =>
      items? literals distances fuel rest (copyBack distance length out)

/-- Reads a length, its complement, and as many bytes. -/
def stored? (bits : List Bool) (out : Array UInt8) : Option Progress := do
  let (length, bits) ← number? 16 (align bits)
  let (complement, bits) ← number? 16 bits
  if length + complement = 0xFFFF then
    let (bytes, bits) ← numbers? 8 length bits
    return (bits, out ++ (bytes.map UInt8.ofNat).toArray)
  else none

def fixedLiterals : Code :=
  Code.ofLengths (List.replicate 144 8 ++ List.replicate 112 9 ++ List.replicate 24 7 ++
    List.replicate 8 8)

def fixedDistances : Code := Code.ofLengths (List.replicate 32 5)

/-- The order in which a block lists the lengths of the code for lengths. -/
def lengthOrder : List Nat := [16, 17, 18, 0, 8, 7, 9, 6, 10, 5, 11, 4, 12, 3, 13, 2, 14, 1, 15]

/-- The length that a symbol repeats, how often at least, and the width of what is added. -/
def repetition? (symbol : Nat) (lengths : List Nat) : Option (Nat × Nat × Nat) :=
  if symbol < 16 then some (symbol, 1, 0)
  else if symbol = 16 then lengths.head?.map fun last => (last, 3, 2)
  else if symbol = 17 then some (0, 3, 3)
  else some (0, 11, 7)

/-- Reads code lengths until `wanted` of them are known; `lengths` holds the last one first. A run
may not reach beyond the end. -/
def codeLengths? (code : Code) (wanted : Nat) :
    Nat → List Nat → List Bool → Option (List Nat × List Bool)
  | 0, _, _ => none
  | fuel + 1, lengths, bits =>
    if lengths.length = wanted then some (lengths.reverse, bits)
    else if lengths.length > wanted then none
    else do
      let (symbol, bits) ← code.symbol? bits
      let (length, least, width) ← repetition? symbol lengths
      let (extra, bits) ← number? width bits
      codeLengths? code wanted fuel (List.replicate (least + extra) length ++ lengths) bits

/-- The two codes that a block describes. -/
def describedCodes? (bits : List Bool) : Option (Code × Code × List Bool) := do
  let (literalCount, bits) ← number? 5 bits
  let (distanceCount, bits) ← number? 5 bits
  let (lengthCount, bits) ← number? 4 bits
  let literalCount := literalCount + 257
  let distanceCount := distanceCount + 1
  if literalCount > 286 || distanceCount > 30 then none
  else
    let (widths, bits) ← numbers? 3 (lengthCount + 4) bits
    let given := lengthOrder.zip widths
    let lengthCode := Code.ofLengths ((List.range 19).map fun symbol =>
      (given.lookup symbol).getD 0)
    if !lengthCode.isComplete then none
    else
      let wanted := literalCount + distanceCount
      let (lengths, bits) ← codeLengths? lengthCode wanted (wanted + 1) [] bits
      let literals := Code.ofLengths (lengths.take literalCount)
      let distances := Code.ofLengths (lengths.drop literalCount)
      if literals.isUsable && distances.isUsable then return (literals, distances, bits)
      else none

/-- Reads the body of a block of the given kind. -/
def block? (kind : Nat) (bits : List Bool) (out : Array UInt8) : Option Progress :=
  match kind with
  | 0 => stored? bits out
  | 1 => items? fixedLiterals fixedDistances (bits.length + 1) bits out
  | 2 => do
    let (literals, distances, bits) ← describedCodes? bits
    items? literals distances (bits.length + 1) bits out
  | _ => none

/-- Reads blocks until one is marked as the last. -/
def blocks? : Nat → List Bool → Array UInt8 → Option Progress
  | 0, _, _ => none
  | fuel + 1, bits, out => do
    let (last, bits) ← number? 1 bits
    let (kind, bits) ← number? 2 bits
    let (bits, out) ← block? kind bits out
    if last = 1 then some (bits, out) else blocks? fuel bits out

end ModelCatalog.Deflate
