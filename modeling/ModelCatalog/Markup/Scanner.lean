import ModelCatalog.Markup.Block
import ModelCatalog.Markup.Plain
import ModelCatalog.Markup.Property

/-! Words of a text. Indentation opens and closes block collections, and a word that turns out to be
a key is marked as one when the colon behind it is met. -/
namespace ModelCatalog.Markup

/-- A place where a key may have begun: how many tokens came before it, and where it stands. A
required one stands at the indentation of a block collection and has to become a key. -/
structure PossibleKey where
  required : Bool
  position : Nat
  index : Nat
  line : Nat
  column : Nat
deriving Repr

/-- A key that no colon has followed ends with its line, or after 1024 characters. -/
def PossibleKey.isStale (key : PossibleKey) (cursor : Cursor) : Bool :=
  key.line < cursor.line || key.index + 1024 < cursor.index

structure Scanner where
  cursor : Cursor
  /-- The last token comes first. -/
  tokens : List Token
  /-- The column of the innermost block collection, or -1. -/
  indent : Int
  outerIndents : List Int
  /-- Whether a key may begin here. -/
  keyAllowed : Bool
  key : Option PossibleKey
  /-- One for each open flow collection, the innermost first. -/
  outerKeys : List (Option PossibleKey)

namespace Scanner

def start (cs : List Char) : Scanner := ⟨Cursor.start cs, [], -1, [], true, none, []⟩

def inFlow (s : Scanner) : Bool := !s.outerKeys.isEmpty

def emit (s : Scanner) (token : Token) : Scanner := { s with tokens := token :: s.tokens }

def emitSkip (s : Scanner) (token : Token) (width : Nat) : Scanner :=
  { s with tokens := token :: s.tokens, cursor := s.cursor.skip width }

/-- Puts tokens, the last first, behind the first `position` ones. -/
def insertAt (s : Scanner) (position : Nat) (tokens : List Token) : Scanner :=
  let later := s.tokens.length - position
  { s with tokens := s.tokens.take later ++ tokens ++ s.tokens.drop later }

/-- Opens a block collection at a column that lies further in. -/
def indentTo (s : Scanner) (column : Nat) : Scanner :=
  { s with indent := column, outerIndents := s.indent :: s.outerIndents }

/-- Closes the block collections that lie further in than the column. -/
def closeBlocks (column : Int) : List Int → Scanner → Scanner
  | [], s => s
  | outer :: rest, s =>
    if s.indent > column then
      closeBlocks column rest ({ s with indent := outer, outerIndents := rest }.emit .blockEnd)
    else s

def unindentTo (s : Scanner) (column : Int) : Scanner :=
  if s.inFlow then s else closeBlocks column s.outerIndents s

/-- Forgets the place where a key may have begun, unless it is required. -/
def dropKey? (s : Scanner) : Option Scanner :=
  match s.key with
  | some key => if key.required then none else some { s with key := none }
  | none => some s

/-- Notes that a key may begin here. -/
def noteKey? (s : Scanner) : Option Scanner :=
  if s.keyAllowed then
    s.dropKey?.map fun s => { s with
      key := some ⟨!s.inFlow && s.indent == s.cursor.column, s.tokens.length, s.cursor.index,
        s.cursor.line, s.cursor.column⟩ }
  else some s

/-- Whether a required key has become stale. -/
def missesKey (s : Scanner) : Bool :=
  (s.key :: s.outerKeys).any fun
    | some key => key.required && key.isStale s.cursor
    | none => false

/-- Passes blanks, comments and line breaks. A mark of byte order may begin the text. -/
def skipGap : Nat → Scanner → Scanner
  | 0, s => s
  | fuel + 1, s =>
    let cursor :=
      if s.cursor.index == 0 && s.cursor.peek? == some '\uFEFF' then s.cursor.skip 1 else s.cursor
    let cursor := cursor.skipWhile fun c => c == ' ' || ((s.inFlow || !s.keyAllowed) && c == '\t')
    let cursor := cursor.skipComment
    match cursor.takeBreak? with
    | some (_, next) =>
      skipGap fuel { s with cursor := next, keyAllowed := s.keyAllowed || !s.inFlow }
    | none => { s with cursor := cursor }

def directive? (s : Scanner) : Option Scanner := do
  let s ← (s.unindentTo (-1)).dropKey?
  let (token, cursor) ← s.cursor.directive?
  some ({ s with cursor := cursor, keyAllowed := false }.emit token)

def documentMarker? (s : Scanner) (token : Token) : Option Scanner := do
  let s ← (s.unindentTo (-1)).dropKey?
  some ({ s with keyAllowed := false }.emitSkip token 3)

def flowStart? (s : Scanner) (token : Token) : Option Scanner := do
  let s ← s.noteKey?
  let s := { s with outerKeys := s.key :: s.outerKeys, key := none, keyAllowed := true }
  some (s.emitSkip token 1)

def flowEnd? (s : Scanner) (token : Token) : Option Scanner := do
  let s ← s.dropKey?
  let s :=
    match s.outerKeys with
    | key :: rest => { s with key := key, outerKeys := rest }
    | [] => s
  some ({ s with keyAllowed := false }.emitSkip token 1)

def flowEntry? (s : Scanner) : Option Scanner := do
  let s ← s.dropKey?
  some ({ s with keyAllowed := true }.emitSkip .flowEntry 1)

/-- Opens a block collection here, unless one is open at this column. -/
def openBlock? (s : Scanner) (token : Token) : Option Scanner :=
  if s.inFlow then some s
  else if !s.keyAllowed then none
  else if s.indent < s.cursor.column then some ((s.indentTo s.cursor.column).emit token)
  else some s

def blockEntry? (s : Scanner) : Option Scanner := do
  let s ← s.openBlock? .blockSequenceStart
  let s ← s.dropKey?
  some ({ s with keyAllowed := true }.emitSkip .blockEntry 1)

def explicitKey? (s : Scanner) : Option Scanner := do
  let s ← s.openBlock? .blockMappingStart
  let s ← s.dropKey?
  some ({ s with keyAllowed := !s.inFlow }.emitSkip .key 1)

/-- Marks the key before a colon, and opens a block mapping at it if none is open there. -/
def markKey (s : Scanner) (key : PossibleKey) : Scanner :=
  if !s.inFlow && s.indent < key.column then
    (s.indentTo key.column).insertAt key.position [.key, .blockMappingStart]
  else s.insertAt key.position [.key]

def value? (s : Scanner) : Option Scanner :=
  let fresh :=
    match s.key with
    | some key => if key.isStale s.cursor then (if key.required then none else some none)
      else some (some key)
    | none => some none
  fresh.bind fun
    | some key => some ({ s.markKey key with key := none, keyAllowed := false }.emitSkip .value 1)
    | none => do
      let s ← s.openBlock? .blockMappingStart
      some ({ s with key := none, keyAllowed := !s.inFlow }.emitSkip .value 1)

/-- Emits a property or a scalar that may begin a key. -/
def emitNoted? (s : Scanner) (read : Cursor → Option (Token × Cursor)) : Option Scanner := do
  let s ← s.noteKey?
  let (token, cursor) ← read s.cursor
  some ({ s with cursor := cursor, keyAllowed := false }.emit token)

def quoted? (s : Scanner) (quote : Char) (style : Style) : Option Scanner :=
  s.emitNoted? fun cursor =>
    (cursor.quoted? quote).map fun (text, next) => (.scalar (String.ofList text) style, next)

def block? (s : Scanner) (style : Style) : Option Scanner := do
  let s ← s.dropKey?
  let (text, cursor) ← s.cursor.block? (style == .folded) s.indent
  some ({ s with cursor := cursor, keyAllowed := true }.emit (.scalar (String.ofList text) style))

def plain? (s : Scanner) : Option Scanner := do
  let s ← s.noteKey?
  let (text, passed, cursor) ← s.cursor.plain? s.inFlow (s.indent + 1)
  some ({ s with cursor := cursor, keyAllowed := passed }.emit
    (.scalar (String.ofList text) .plain))

/-- Characters with which no plain scalar begins. -/
def isIndicator (c : Char) : Bool := "-?:,[]\x7b\x7d#&*!|>'\"%@\x60".toList.contains c

/-- Whether a plain scalar begins here: no indicator, or one that a further character follows. -/
def startsPlain (s : Scanner) (c : Char) : Bool :=
  !(isBlankOrBreak c || isIndicator c) ||
    (c == '-' && !s.cursor.ahead 1 isBlank) ||
    (!s.inFlow && (c == '?' || c == ':') && !s.cursor.endsWord 1)

def word? (s : Scanner) (c : Char) : Option Scanner :=
  let marksEntry := s.cursor.endsWord 1
  if s.cursor.column == 0 && c == '%' then s.directive?
  else if s.cursor.startsMarker '-' then s.documentMarker? .documentStart
  else if s.cursor.startsMarker '.' then s.documentMarker? .documentEnd
  else if c == '[' then s.flowStart? .flowSequenceStart
  else if c == '\x7b' then s.flowStart? .flowMappingStart
  else if c == ']' then s.flowEnd? .flowSequenceEnd
  else if c == '\x7d' then s.flowEnd? .flowMappingEnd
  else if c == ',' then s.flowEntry?
  else if c == '-' && marksEntry then s.blockEntry?
  else if c == '?' && (s.inFlow || marksEntry) then s.explicitKey?
  else if c == ':' && (s.inFlow || marksEntry) then s.value?
  else if c == '*' then
    s.emitNoted? fun cursor => cursor.anchorName?.map fun (name, next) => (.alias name, next)
  else if c == '&' then
    s.emitNoted? fun cursor => cursor.anchorName?.map fun (name, next) => (.anchor name, next)
  else if c == '!' then s.emitNoted? (·.tag? s.inFlow)
  else if c == '|' && !s.inFlow then s.block? .literal
  else if c == '>' && !s.inFlow then s.block? .folded
  else if c == '\'' then s.quoted? '\'' .singleQuoted
  else if c == '"' then s.quoted? '"' .doubleQuoted
  else if s.startsPlain c then s.plain?
  else none

/-- Closes what is open at the end of the text. -/
def finish? (s : Scanner) : Option (List Token) :=
  ((s.unindentTo (-1)).dropKey?).map fun s => s.tokens.reverse

def run? : Nat → Scanner → Option (List Token)
  | 0, _ => none
  | fuel + 1, s =>
    if s.missesKey then none
    else
      let s := s.skipGap (s.cursor.size + 1)
      let s := s.unindentTo s.cursor.column
      match s.cursor.peek? with
      | none => s.finish?
      | some c => (s.word? c).bind (run? fuel)

end Scanner

/-- The words of a text, if every character is allowed and every word is well formed. -/
def tokens? (cs : List Char) : Option (List Token) :=
  if cs.all isAllowed then (Scanner.start cs).run? (cs.length + 2) else none

end ModelCatalog.Markup
