import ModelCatalog.Markup.Quoted

/-! Plain scalars: words and gaps that no quote encloses. -/
namespace ModelCatalog.Markup

def isFlowIndicator (c : Char) : Bool :=
  c == ',' || c == '[' || c == ']' || c == '\x7b' || c == '\x7d'

/-- Reads a word. A colon ends it before a blank; inside brackets the indicators end it, and a colon
before an indicator is refused. -/
def Cursor.plainWord? (inFlow : Bool) : Nat → List Char → Cursor → Option (List Char × Cursor)
  | 0, _, _ => none
  | fuel + 1, word, cursor =>
    match cursor.peek? with
    | none => some (word.reverse, cursor)
    | some c =>
      if isBlankOrBreak c then some (word.reverse, cursor)
      else if inFlow && c == ':' && cursor.ahead 1 (fun d => isFlowIndicator d || d == '?') then
        none
      else if c == ':' && cursor.endsWord 1 then some (word.reverse, cursor)
      else if inFlow && isFlowIndicator c then some (word.reverse, cursor)
      else (cursor.skip 1).plainWord? inFlow fuel (c :: word)

/-- Reads words from `cursor` on; `gap` lies before the next one. The answer tells whether a line
break was passed behind the last word. -/
def Cursor.plainTail? (inFlow : Bool) (margin : Int) :
    Nat → List Char → Gap → Cursor → Option (List Char × Bool × Cursor)
  | 0, _, _, _ => none
  | fuel + 1, text, gap, cursor =>
    if cursor.startsDocumentMarker || cursor.peek? == some '#' then
      some (text, gap.broken, cursor)
    else do
      let (word, cursor) ← cursor.plainWord? inFlow (cursor.size + 1) []
      let (text, passed) :=
        if word.isEmpty then (text, gap.broken) else (text ++ gap.text ++ word, false)
      if !cursor.ahead 0 isBlankOrBreak then some (text, passed, cursor)
      else
        let (gap, cursor) ← cursor.gap? margin (cursor.size + 1) Gap.empty
        if !inFlow && cursor.column < margin then some (text, gap.broken, cursor)
        else cursor.plainTail? inFlow margin fuel text gap

def Cursor.plain? (cursor : Cursor) (inFlow : Bool) (margin : Int) :
    Option (List Char × Bool × Cursor) :=
  cursor.plainTail? inFlow margin (cursor.size + 1) [] Gap.empty

end ModelCatalog.Markup
