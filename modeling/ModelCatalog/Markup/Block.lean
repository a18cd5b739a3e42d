import ModelCatalog.Markup.Quoted

/-! Block scalars: indented lines that are kept as they are, or folded. -/
namespace ModelCatalog.Markup

/-- What becomes of the line breaks at the end of a block scalar. -/
inductive Chomping
  | strip | clip | keep
deriving DecidableEq, Repr

def Chomping.ofSign? : Char → Option Chomping
  | '+' => some .keep
  | '-' => some .strip
  | _ => none

structure BlockHeader where
  chomping : Chomping
  /-- Zero if the first line shows the indentation. -/
  indentation : Nat
deriving Repr

/-- Reads an indentation from one to nine, if a digit stands here. -/
def Cursor.indentation? (cursor : Cursor) : Option (Nat × Cursor) :=
  match cursor.peek? with
  | some c =>
    if c == '0' then none
    else if c.isDigit then some (c.toNat - 0x30, cursor.skip 1)
    else some (0, cursor)
  | none => some (0, cursor)

def Cursor.chomping (cursor : Cursor) : Chomping × Cursor :=
  match cursor.peek?.bind Chomping.ofSign? with
  | some chomping => (chomping, cursor.skip 1)
  | none => (.clip, cursor)

/-- Reads what stands behind the indicator of a block scalar: a sign and a digit, each optional, in
either order. -/
def Cursor.blockHeader? (cursor : Cursor) : Option (BlockHeader × Cursor) := do
  if (cursor.peek?.bind Chomping.ofSign?).isSome then
    let (chomping, cursor) := cursor.chomping
    let (indentation, cursor) ← cursor.indentation?
    some (⟨chomping, indentation⟩, cursor)
  else
    let (indentation, cursor) ← cursor.indentation?
    if indentation = 0 then some (⟨.clip, 0⟩, cursor)
    else
      let (chomping, cursor) := cursor.chomping
      some (⟨chomping, indentation⟩, cursor)

/-- Passes blank lines and the indentation of the next line. `indent` is zero while the indentation
is not known, and `widest` is the greatest column that was reached. -/
def Cursor.blockBreaks? (indent : Int) :
    Nat → Int → List Char → Cursor → Option (Int × List Char × Cursor)
  | 0, _, _, _ => none
  | fuel + 1, widest, breaks, cursor =>
    let within := fun column : Nat => indent == 0 || (column : Int) < indent
    let spaces := (cursor.rest.takeWhile (· == ' ')).length
    let room := if indent == 0 then spaces else min spaces (indent - cursor.column).toNat
    let cursor := cursor.skip room
    let widest := max widest cursor.column
    if within cursor.column && cursor.ahead 0 (· == '\t') then none
    else
      match cursor.takeBreak? with
      | some (b, next) => next.blockBreaks? indent fuel widest (breaks ++ [b])
      | none => some (widest, breaks, cursor)

/-- The line break that ended the line before, if it still has to be written, and how a block scalar
goes on. -/
structure BlockState where
  text : List Char
  lineBreak : List Char
  breaks : List Char
  /-- Whether the line before began with a blank. -/
  blankBefore : Bool

/-- What separates the line that begins here from the text before. -/
def BlockState.joined (s : BlockState) (folded blankHere : Bool) : List Char :=
  if folded && s.lineBreak == ['\n'] && !s.blankBefore && !blankHere then
    s.text ++ (if s.breaks.isEmpty then [' '] else s.breaks)
  else s.text ++ s.lineBreak ++ s.breaks

/-- Reads the lines that begin at the column `indent`. -/
def Cursor.blockLines? (folded : Bool) (indent : Int) :
    Nat → BlockState → Cursor → Option (BlockState × Cursor)
  | 0, _, _ => none
  | fuel + 1, s, cursor =>
    if (cursor.column : Int) == indent && !cursor.rest.isEmpty then do
      let blankHere := cursor.ahead 0 isBlank
      let (line, cursor) := cursor.takeWhile fun c => !isBreak c
      let text := s.joined folded blankHere ++ line
      let (lineBreak, cursor) :=
        match cursor.takeBreak? with
        | some (b, next) => ([b], next)
        | none => ([], cursor)
      let (_, breaks, cursor) ← cursor.blockBreaks? indent (cursor.size + 1) 0 []
      cursor.blockLines? folded indent fuel ⟨text, lineBreak, breaks, blankHere⟩
    else some (s, cursor)

/-- Reads a block scalar whose indicator stands here; `outer` is the column of the enclosing
collection, or -1. -/
def Cursor.block? (cursor : Cursor) (folded : Bool) (outer : Int) :
    Option (List Char × Cursor) := do
  let (header, cursor) ← (cursor.skip 1).blockHeader?
  let cursor := (cursor.skipWhile isBlank).skipComment
  if !cursor.atBreakOrEnd then none
  else
    let cursor := cursor.skipBreak
    let given : Int := if header.indentation = 0 then 0 else max outer 0 + header.indentation
    let (widest, breaks, cursor) ← cursor.blockBreaks? given (cursor.size + 1) 0 []
    let indent := if given == 0 then max (max widest (outer + 1)) 1 else given
    let (s, cursor) ← cursor.blockLines? folded indent (cursor.size + 1)
      ⟨[], [], breaks, false⟩
    let ending :=
      match header.chomping with
      | .strip => []
      | .clip => s.lineBreak
      | .keep => s.lineBreak ++ s.breaks
    some (s.text ++ ending, cursor)

end ModelCatalog.Markup
