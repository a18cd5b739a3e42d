/-! The words of a marked-up text. -/
namespace ModelCatalog.Markup

inductive Style
  | plain | singleQuoted | doubleQuoted | literal | folded
deriving DecidableEq, Repr

inductive Token
  | version (major minor : Nat)
  | tagShorthand (handle expansion : String)
  | documentStart | documentEnd
  | blockSequenceStart | blockMappingStart | blockEnd
  | flowSequenceStart | flowSequenceEnd | flowMappingStart | flowMappingEnd
  | blockEntry | flowEntry | key | value
  | alias (name : String)
  | anchor (name : String)
  | tag (handle suffix : String)
  | scalar (text : String) (style : Style)
deriving DecidableEq, Repr

end ModelCatalog.Markup
