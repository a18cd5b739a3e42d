import ModelCatalog.Json.Basic

/-! Reading JSON. The grammar is the strict one: no comments, no trailing commas, no leading zeros,
and nothing but blanks after the document. -/
namespace ModelCatalog.Json

/-- A character of the text, or a byte that belongs to none. -/
abbrev Symbol := Option Char

/-- Decodes the characters that are well formed and keeps a mark for every other byte. -/
def garbledSymbols (bytes : ByteArray) : Nat → Nat → List Symbol
  | 0, _ => []
  | fuel + 1, position =>
    if position < bytes.size then
      match bytes.utf8DecodeChar? position with
      | some c => some c :: garbledSymbols bytes fuel (position + c.utf8Size)
      | none => none :: garbledSymbols bytes fuel (position + 1)
    else []

def symbols (bytes : ByteArray) : List Symbol :=
  match String.fromUTF8? bytes with
  | some text => text.toList.map some
  | none => garbledSymbols bytes bytes.size 0

/-- Part of a string literal: a symbol that stands for itself, or the code of an escape. -/
inductive Piece
  | symbol (s : Symbol)
  | code (n : Nat)

def isHighSurrogate (n : Nat) : Bool := 0xD800 ≤ n && n ≤ 0xDBFF

def isLowSurrogate (n : Nat) : Bool := 0xDC00 ≤ n && n ≤ 0xDFFF

/-- The text of a literal. The codes of a surrogate pair make one character. -/
def textOf? : List Piece → Option (List Char)
  | [] => some []
  | .symbol none :: _ => none
  | .symbol (some c) :: rest => (textOf? rest).map (c :: ·)
  | .code high :: .code low :: rest =>
    if isHighSurrogate high then
      if isLowSurrogate low then
        let code := 0x10000 + (high - 0xD800) * 0x400 + (low - 0xDC00)
        (textOf? rest).map (Char.ofNat code :: ·)
      else none
    else if isLowSurrogate high then none
    else (textOf? (.code low :: rest)).map (Char.ofNat high :: ·)
  | .code n :: rest =>
    if isHighSurrogate n || isLowSurrogate n then none
    else (textOf? rest).map (Char.ofNat n :: ·)

def hexValue? : Symbol → Option Nat
  | some c =>
    if '0' ≤ c && c ≤ '9' then some (c.toNat - 0x30)
    else if 'a' ≤ c && c ≤ 'f' then some (c.toNat - 0x57)
    else if 'A' ≤ c && c ≤ 'F' then some (c.toNat - 0x37)
    else none
  | none => none

def hexCode? (a b c d : Symbol) : Option Nat := do
  return (((← hexValue? a) * 16 + (← hexValue? b)) * 16 + (← hexValue? c)) * 16 + (← hexValue? d)

def shortEscape? : Char → Option Char
  | '"' => some '"'
  | '\\' => some '\\'
  | '/' => some '/'
  | 'b' => some '\x08'
  | 'f' => some '\x0c'
  | 'n' => some '\n'
  | 'r' => some '\r'
  | 't' => some '\t'
  | _ => none

/-- Reads the rest of a string literal, behind its opening quote. -/
def pieces? : List Symbol → Option (List Piece × List Symbol)
  | [] => none
  | some '"' :: rest => some ([], rest)
  | some '\\' :: some 'u' :: a :: b :: c :: d :: rest => do
    let code ← hexCode? a b c d
    let (more, rest) ← pieces? rest
    return (.code code :: more, rest)
  | some '\\' :: some e :: rest => do
    let c ← shortEscape? e
    let (more, rest) ← pieces? rest
    return (.symbol (some c) :: more, rest)
  | none :: rest => do
    let (more, rest) ← pieces? rest
    return (.symbol none :: more, rest)
  | some c :: rest =>
    if c.toNat < 0x20 || c == '\\' then none
    else do
      let (more, rest) ← pieces? rest
      return (.symbol (some c) :: more, rest)

def string? (symbols : List Symbol) : Option (Option String × List Symbol) := do
  let (pieces, rest) ← pieces? symbols
  return ((textOf? pieces).map String.ofList, rest)

def isBlank : Symbol → Bool
  | some c => c == ' ' || c == '\t' || c == '\n' || c == '\r'
  | none => false

def skipBlanks (symbols : List Symbol) : List Symbol := symbols.dropWhile isBlank

def isDigit : Symbol → Bool
  | some c => c.isDigit
  | none => false

/-- Skips a nonempty row of digits. -/
def digits? (symbols : List Symbol) : Option (List Symbol) :=
  match symbols with
  | s :: rest => if isDigit s then some (rest.dropWhile isDigit) else none
  | [] => none

def integer? : List Symbol → Option (List Symbol)
  | some '0' :: rest => if (rest.head?.map isDigit).getD false then none else some rest
  | symbols => digits? symbols

def fraction? : List Symbol → Option (List Symbol)
  | some '.' :: rest => digits? rest
  | symbols => some symbols

def exponent? : List Symbol → Option (List Symbol)
  | some 'e' :: rest | some 'E' :: rest =>
    match rest with
    | some '+' :: more | some '-' :: more => digits? more
    | _ => digits? rest
  | symbols => some symbols

def number? (symbols : List Symbol) : Option (List Symbol) :=
  let unsigned := match symbols with
    | some '-' :: rest => rest
    | _ => symbols
  (integer? unsigned).bind fraction? |>.bind exponent?

mutual

/-- Reads one value; `fuel` bounds the depth of the calls. -/
def value? : Nat → List Symbol → Option (Json × List Symbol)
  | 0, _ => none
  | fuel + 1, symbols =>
    match skipBlanks symbols with
    | some 'n' :: some 'u' :: some 'l' :: some 'l' :: rest => some (.null, rest)
    | some 't' :: some 'r' :: some 'u' :: some 'e' :: rest => some (.boolean true, rest)
    | some 'f' :: some 'a' :: some 'l' :: some 's' :: some 'e' :: rest =>
      some (.boolean false, rest)
    | some '"' :: rest => (string? rest).map fun (text, rest) => (.string text, rest)
    | some '[' :: rest =>
      match skipBlanks rest with
      | some ']' :: rest => some (.array [], rest)
      | rest => (items? fuel rest).map fun (items, rest) => (.array items, rest)
    | some '\x7b' :: rest =>
      match skipBlanks rest with
      | some '\x7d' :: rest => some (.object [], rest)
      | rest => (members? fuel rest).map fun (members, rest) => (.object members, rest)
    | rest => (number? rest).map fun rest => (.number, rest)

/-- Reads the items of an array and its closing bracket. -/
def items? : Nat → List Symbol → Option (List Json × List Symbol)
  | 0, _ => none
  | fuel + 1, symbols => do
    let (item, rest) ← value? fuel symbols
    match skipBlanks rest with
    | some ',' :: rest =>
      let (more, rest) ← items? fuel rest
      return (item :: more, rest)
    | some ']' :: rest => return ([item], rest)
    | _ => none

/-- Reads the members of an object and its closing brace. -/
def members? : Nat → List Symbol → Option (List (Option String × Json) × List Symbol)
  | 0, _ => none
  | fuel + 1, symbols =>
    match skipBlanks symbols with
    | some '"' :: rest => do
      let (name, rest) ← string? rest
      match skipBlanks rest with
      | some ':' :: rest =>
        let (value, rest) ← value? fuel rest
        match skipBlanks rest with
        | some ',' :: rest =>
          let (more, rest) ← members? fuel rest
          return ((name, value) :: more, rest)
        | some '\x7d' :: rest => return ([(name, value)], rest)
        | _ => none
      | _ => none
    | _ => none

end

def read? (bytes : ByteArray) : Option Json := do
  let symbols := symbols bytes
  let (value, rest) ← value? (symbols.length + 1) symbols
  if (skipBlanks rest).isEmpty then some value else none

end ModelCatalog.Json
