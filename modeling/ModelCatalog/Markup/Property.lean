import ModelCatalog.Markup.Cursor
import ModelCatalog.Markup.Quoted
import ModelCatalog.Markup.Token

/-! Anchors, aliases, tags, and the directives that declare shorthands of tags. -/
namespace ModelCatalog.Markup

/-- Characters that may follow the name of an anchor at once. -/
def endsAnchor (c : Char) : Bool :=
  isBlankOrBreak c || c == '?' || c == ':' || c == ',' || c == ']' || c == '\x7d' || c == '%' ||
    c == '@' || c == '\x60'

/-- Reads the name behind the indicator of an anchor or an alias. -/
def Cursor.anchorName? (cursor : Cursor) : Option (String × Cursor) :=
  let (name, next) := (cursor.skip 1).takeWhile isNameChar
  if name.isEmpty || !(next.peek?.map endsAnchor).getD true then none
  else some (String.ofList name, next)

/-- Characters of a tag. Only a tag in angle brackets may hold indicators of flow collections. -/
def isTagChar (inAngles : Bool) (c : Char) : Bool :=
  isNameChar c || ";/?:@&=+$.!~*'()%".toList.contains c ||
    (inAngles && (c == ',' || c == '[' || c == ']'))

/-- Length of the encoding of a character, by its first byte. -/
def encodingLength (byte : Nat) : Nat :=
  if byte < 0x80 then 1
  else if byte / 0x20 == 6 then 2
  else if byte / 0x10 == 0xE then 3
  else if byte / 0x08 == 0x1E then 4
  else 0

def Cursor.escapedByte? (cursor : Cursor) : Option (Nat × Cursor) :=
  if cursor.peek? == some '%' then
    (hexNumber? 2 (cursor.rest.drop 1)).map fun byte => (byte, cursor.skip 3)
  else none

def Cursor.escapedTail? : Nat → Cursor → Option (List Nat × Cursor)
  | 0, cursor => some ([], cursor)
  | count + 1, cursor => do
    let (byte, cursor) ← cursor.escapedByte?
    if byte / 0x40 == 2 then
      let (more, cursor) ← cursor.escapedTail? count
      some (byte :: more, cursor)
    else none

/-- Reads the escaped bytes of one character. Bytes that encode none stand for the replacement
character. -/
def Cursor.escapedChar? (cursor : Cursor) : Option (Char × Cursor) := do
  let (byte, cursor) ← cursor.escapedByte?
  match encodingLength byte with
  | 0 => none
  | length + 1 =>
    let (more, cursor) ← cursor.escapedTail? length
    let bytes := (byte :: more).map UInt8.ofNat
    some (((ByteArray.mk bytes.toArray).utf8DecodeChar? 0).getD '\uFFFD', cursor)

def Cursor.tagChars? (inAngles : Bool) : Nat → List Char → Cursor → Option (List Char × Cursor)
  | 0, _, _ => none
  | fuel + 1, text, cursor =>
    match cursor.peek? with
    | none => some (text.reverse, cursor)
    | some c =>
      if !isTagChar inAngles c then some (text.reverse, cursor)
      else if c == '%' then do
        let (d, next) ← cursor.escapedChar?
        next.tagChars? inAngles fuel (d :: text)
      else (cursor.skip 1).tagChars? inAngles fuel (c :: text)

/-- Reads an exclamation mark, a name and perhaps a second exclamation mark. -/
def Cursor.tagHandle? (cursor : Cursor) : Option (List Char × Cursor) :=
  if cursor.peek? != some '!' then none
  else
    let (name, next) := (cursor.skip 1).takeWhile isNameChar
    if next.peek? == some '!' then some ('!' :: name ++ ['!'], next.skip 1)
    else some ('!' :: name, next)

/-- Reads the tag that begins here: in angle brackets, behind a shorthand, or local. A lone mark has
an empty handle. -/
def Cursor.tagParts? (cursor : Cursor) : Option (List Char × List Char × Cursor) :=
  if cursor.ahead 1 (· == '<') then do
    let (suffix, next) ← (cursor.skip 2).tagChars? true (cursor.size + 1) []
    if suffix.isEmpty || next.peek? != some '>' then none else some ([], suffix, next.skip 1)
  else do
    let (handle, next) ← cursor.tagHandle?
    let (more, last) ← next.tagChars? false (cursor.size + 1) []
    if handle.length > 1 && handle.getLast? == some '!' then
      if more.isEmpty then none else some (handle, more, last)
    else
      let suffix := handle.drop 1 ++ more
      if suffix.isEmpty then some ([], ['!'], last) else some (['!'], suffix, last)

/-- Reads a tag; a blank or the end of the line follows it, or a comma inside brackets. -/
def Cursor.tag? (cursor : Cursor) (inFlow : Bool) : Option (Token × Cursor) := do
  let (handle, suffix, next) ← cursor.tagParts?
  if next.endsWord 0 || (inFlow && next.peek? == some ',') then
    some (.tag (String.ofList handle) (String.ofList suffix), next)
  else none

/-- Reads a number of at most nine digits. -/
def Cursor.versionNumber? (cursor : Cursor) : Option (Nat × Cursor) :=
  let (digits, next) := cursor.takeWhile Char.isDigit
  if digits.isEmpty || digits.length > 9 then none
  else some (digits.foldl (fun n d => n * 10 + (d.toNat - 0x30)) 0, next)

def Cursor.version? (cursor : Cursor) : Option (Token × Cursor) := do
  let (major, next) ← (cursor.skipWhile isBlank).versionNumber?
  if next.peek? != some '.' then none
  else
    let (minor, next) ← (next.skip 1).versionNumber?
    some (.version major minor, next)

def Cursor.shorthand? (cursor : Cursor) : Option (Token × Cursor) := do
  let (handle, next) ← (cursor.skipWhile isBlank).tagHandle?
  if !(handle == ['!'] || handle.getLast? == some '!') || !next.ahead 0 isBlank then none
  else
    let next := next.skipWhile isBlank
    let (expansion, last) ← next.tagChars? true (next.size + 1) []
    if expansion.isEmpty || !last.endsWord 0 then none
    else some (.tagShorthand (String.ofList handle) (String.ofList expansion), last)

/-- Reads a directive and the rest of its line. -/
def Cursor.directive? (cursor : Cursor) : Option (Token × Cursor) := do
  let (name, next) := (cursor.skip 1).takeWhile isNameChar
  if !next.endsWord 0 then none
  else
    let (token, next) ←
      if name == "YAML".toList then next.version?
      else if name == "TAG".toList then next.shorthand?
      else none
    let next := (next.skipWhile isBlank).skipComment
    if next.atBreakOrEnd then some (token, next.skipBreak) else none

end ModelCatalog.Markup
