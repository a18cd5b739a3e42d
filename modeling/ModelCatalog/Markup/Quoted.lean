import ModelCatalog.Markup.Cursor

/-! Text that runs over lines: blanks and line breaks between words, and quoted scalars. -/
namespace ModelCatalog.Markup

/-- What lies between two words. Blanks count on one line only; the first line break is folded. -/
structure Gap where
  blanks : List Char
  broken : Bool
  first : Option Char
  later : List Char
deriving Repr

namespace Gap

def empty : Gap := ⟨[], false, none, []⟩

/-- The gap behind a line break that was escaped. -/
def escaped : Gap := ⟨[], true, none, []⟩

/-- A folded line feed is a blank unless more breaks follow it. -/
def text (gap : Gap) : List Char :=
  if gap.broken then
    match gap.first with
    | some '\n' => if gap.later.isEmpty then [' '] else gap.later
    | some b => b :: gap.later
    | none => gap.later
  else gap.blanks

def addBlank (gap : Gap) (c : Char) : Gap :=
  if gap.broken then gap else { gap with blanks := gap.blanks ++ [c] }

def addBreak (gap : Gap) (b : Char) : Gap :=
  if gap.broken then { gap with later := gap.later ++ [b] }
  else ⟨[], true, some b, []⟩

end Gap

/-- Reads blanks and line breaks. Behind a break, a tab before the column `margin` is refused. -/
def Cursor.gap? (margin : Int) : Nat → Gap → Cursor → Option (Gap × Cursor)
  | 0, gap, cursor => some (gap, cursor)
  | fuel + 1, gap, cursor =>
    match cursor.peek? with
    | none => some (gap, cursor)
    | some c =>
      if isBlank c then
        if gap.broken && c == '\t' && cursor.column < margin then none
        else cursor.skip 1 |>.gap? margin fuel (gap.addBlank c)
      else
        match cursor.takeBreak? with
        | some (b, next) => next.gap? margin fuel (gap.addBreak b)
        | none => some (gap, cursor)

def hexDigit? (c : Char) : Option Nat :=
  if c.isDigit then some (c.toNat - 0x30)
  else if 'a' ≤ c && c ≤ 'f' then some (c.toNat - 0x57)
  else if 'A' ≤ c && c ≤ 'F' then some (c.toNat - 0x37)
  else none

/-- The number that exactly `width` hexadecimal digits denote. -/
def hexNumber? (width : Nat) (cs : List Char) : Option Nat := do
  let digits ← (cs.take width).mapM hexDigit?
  if digits.length = width then some (digits.foldl (fun n d => n * 16 + d) 0) else none

/-- Escapes of one character. -/
def shortEscape? : Char → Option Char
  | '0' => some '\x00'
  | 'a' => some '\x07'
  | 'b' => some '\x08'
  | 't' | '\t' => some '\t'
  | 'n' => some '\n'
  | 'v' => some '\x0b'
  | 'f' => some '\x0c'
  | 'r' => some '\r'
  | 'e' => some '\x1b'
  | ' ' => some ' '
  | '"' => some '"'
  | '/' => some '/'
  | '\\' => some '\\'
  | 'N' => some '\u0085'
  | '_' => some '\u00A0'
  | 'L' => some '\u2028'
  | 'P' => some '\u2029'
  | _ => none

/-- Digits of an escape that gives a code point. -/
def codeWidth? : Char → Option Nat
  | 'x' => some 2
  | 'u' => some 4
  | 'U' => some 8
  | _ => none

def isScalarCode (n : Nat) : Bool := n < 0xD800 || (0xDFFF < n && n ≤ 0x10FFFF)

/-- Reads an escape behind its backslash. -/
def Cursor.escape? (cursor : Cursor) : Option (Char × Cursor) := do
  let mark ← cursor.peek?
  match codeWidth? mark with
  | some width =>
    let code ← hexNumber? width (cursor.rest.drop 1)
    if isScalarCode code then some (Char.ofNat code, cursor.skip (1 + width)) else none
  | none => (shortEscape? mark).map fun c => (c, cursor.skip 1)

/-- Reads a word of a quoted scalar, and tells whether an escaped line break ends it. -/
def Cursor.quotedWord? (quote : Char) :
    Nat → List Char → Cursor → Option (List Char × Bool × Cursor)
  | 0, _, _ => none
  | fuel + 1, word, cursor =>
    match cursor.peek? with
    | none => some (word.reverse, false, cursor)
    | some c =>
      if isBlankOrBreak c then some (word.reverse, false, cursor)
      else if c == quote then
        if quote == '\'' && cursor.ahead 1 (· == '\'') then
          (cursor.skip 2).quotedWord? quote fuel ('\'' :: word)
        else some (word.reverse, false, cursor)
      else if quote == '"' && c == '\\' then
        if cursor.ahead 1 isBreak then some (word.reverse, true, (cursor.skip 1).skipBreak)
        else do
          let (d, next) ← (cursor.skip 1).escape?
          next.quotedWord? quote fuel (d :: word)
      else (cursor.skip 1).quotedWord? quote fuel (c :: word)

/-- Reads words and gaps up to the closing quote. A document marker or the end is refused. -/
def Cursor.quotedTail? (quote : Char) : Nat → List Char → Cursor → Option (List Char × Cursor)
  | 0, _, _ => none
  | fuel + 1, text, cursor =>
    if cursor.startsDocumentMarker || cursor.rest.isEmpty then none
    else do
      let (word, escaped, cursor) ← cursor.quotedWord? quote (cursor.size + 1) []
      if cursor.peek? == some quote then some (text ++ word, cursor.skip 1)
      else
        let start := if escaped then Gap.escaped else Gap.empty
        let (gap, cursor) ← cursor.gap? 0 (cursor.size + 1) start
        cursor.quotedTail? quote fuel (text ++ word ++ gap.text)

def Cursor.quoted? (cursor : Cursor) (quote : Char) : Option (List Char × Cursor) :=
  (cursor.skip 1).quotedTail? quote (cursor.size + 1) []

end ModelCatalog.Markup
