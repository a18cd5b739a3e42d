import ModelCatalog.Markup.Token

/-! The structure of a document as a row of events: scalars, aliases, and the beginnings and ends of
sequences and mappings. -/
namespace ModelCatalog.Markup

/-- Anchor and tag of a node. -/
structure Property where
  anchor : Option String
  tag : Option String
deriving DecidableEq, Repr

def Property.absent : Property := ⟨none, none⟩

inductive Event
  | alias (name : String)
  | scalar (property : Property) (text : String) (style : Style)
  | sequenceStart (property : Property)
  | sequenceEnd
  | mappingStart (property : Property)
  | mappingEnd
deriving DecidableEq, Repr

/-- A node that is left out is an empty plain scalar. -/
def Event.omitted : Event := .scalar Property.absent "" .plain

/-- What a reader of tokens waits for. -/
inductive Awaited
  /-- A node; block collections and unindented sequences are not allowed everywhere. -/
  | node (inBlock : Bool) (unindented : Bool)
  | blockItem | unindentedItem
  | blockKey | blockValue
  | flowItem (first : Bool)
  | pairKey | pairValue | pairEnd
  | flowKey (first : Bool)
  | flowValue
  | omittedValue
deriving DecidableEq, Repr

/-- Expansions of tag handles. -/
abbrev Shorthands := List (String × String)

/-- Events, what is awaited next, and the tokens that remain. -/
abbrev Step := List Event × List Awaited × List Token

/-- The text of a tag, if its handle is declared. -/
def expandTag? (shorthands : Shorthands) (handle suffix : String) : Option String :=
  if handle.isEmpty then some suffix
  else (shorthands.lookup handle).map (· ++ suffix)

/-- Reads an anchor and a tag, each optional, in either order. -/
def property? (shorthands : Shorthands) : List Token → Option (Property × List Token)
  | .anchor name :: .tag handle suffix :: rest
  | .tag handle suffix :: .anchor name :: rest =>
    (expandTag? shorthands handle suffix).map fun tag => (⟨some name, some tag⟩, rest)
  | .anchor name :: rest => some (⟨some name, none⟩, rest)
  | .tag handle suffix :: rest =>
    (expandTag? shorthands handle suffix).map fun tag => (⟨none, some tag⟩, rest)
  | rest => some (Property.absent, rest)

def nodeStep? (shorthands : Shorthands) (inBlock unindented : Bool) (tokens : List Token) :
    Option Step :=
  match tokens with
  | .alias name :: rest => some ([.alias name], [], rest)
  | _ => do
    let (property, rest) ← property? shorthands tokens
    match rest with
    | .blockEntry :: _ =>
      if unindented then some ([.sequenceStart property], [.unindentedItem], rest)
      else bare? property rest
    | .scalar text style :: rest => some ([.scalar property text style], [], rest)
    | .flowSequenceStart :: rest => some ([.sequenceStart property], [.flowItem true], rest)
    | .flowMappingStart :: rest => some ([.mappingStart property], [.flowKey true], rest)
    | .blockSequenceStart :: more =>
      if inBlock then some ([.sequenceStart property], [.blockItem], more) else bare? property rest
    | .blockMappingStart :: more =>
      if inBlock then some ([.mappingStart property], [.blockKey], more) else bare? property rest
    | _ => bare? property rest
where
  /-- A node may consist of properties alone. -/
  bare? (property : Property) (rest : List Token) : Option Step :=
    if property == Property.absent then none else some ([.scalar property "" .plain], [], rest)

/-- Reads a node that may be left out before one of the given tokens. -/
def nodeUnless (stops : List Token) (node after : Awaited) (tokens : List Token) : Step :=
  if (tokens.head?.map stops.contains).getD false then ([Event.omitted], [after], tokens)
  else ([], [node, after], tokens)

def blockNode : Awaited := .node true false
def valueNode : Awaited := .node true true
def flowNode : Awaited := .node false false

/-- One step of a reader that awaits `awaited` at the given tokens. -/
def step? (shorthands : Shorthands) (awaited : Awaited) (tokens : List Token) : Option Step :=
  match awaited, tokens with
  | .node inBlock unindented, tokens => nodeStep? shorthands inBlock unindented tokens
  | .blockItem, .blockEntry :: rest =>
    some (nodeUnless [.blockEntry, .blockEnd] blockNode .blockItem rest)
  | .blockItem, .blockEnd :: rest => some ([.sequenceEnd], [], rest)
  | .blockItem, _ => none
  | .unindentedItem, .blockEntry :: rest =>
    some (nodeUnless [.blockEntry, .key, .value, .blockEnd] blockNode .unindentedItem rest)
  | .unindentedItem, rest => some ([.sequenceEnd], [], rest)
  | .blockKey, .key :: rest =>
    some (nodeUnless [.key, .value, .blockEnd] valueNode .blockValue rest)
  | .blockKey, .blockEnd :: rest => some ([.mappingEnd], [], rest)
  | .blockKey, _ => none
  | .blockValue, .value :: rest =>
    some (nodeUnless [.key, .value, .blockEnd] valueNode .blockKey rest)
  | .blockValue, rest => some ([Event.omitted], [.blockKey], rest)
  | .flowItem _, .flowSequenceEnd :: rest => some ([.sequenceEnd], [], rest)
  | .flowItem false, .flowEntry :: rest => some ([], [.flowItem true], rest)
  | .flowItem false, _ => none
  | .flowItem true, .key :: rest => some ([.mappingStart Property.absent], [.pairKey], rest)
  | .flowItem true, rest => some ([], [flowNode, .flowItem false], rest)
  | .pairKey, .value :: rest | .pairKey, .flowEntry :: rest | .pairKey, .flowSequenceEnd :: rest =>
    some ([Event.omitted], [.pairValue], rest)
  | .pairKey, rest => some ([], [flowNode, .pairValue], rest)
  | .pairValue, .value :: rest =>
    some (nodeUnless [.flowEntry, .flowSequenceEnd] flowNode .pairEnd rest)
  | .pairValue, rest => some ([Event.omitted], [.pairEnd], rest)
  | .pairEnd, rest => some ([.mappingEnd], [.flowItem false], rest)
  | .flowKey _, .flowMappingEnd :: rest => some ([.mappingEnd], [], rest)
  | .flowKey false, .flowEntry :: rest => some ([], [.flowKey true], rest)
  | .flowKey false, _ => none
  | .flowKey true, .key :: rest =>
    some (nodeUnless [.value, .flowEntry, .flowMappingEnd] flowNode .flowValue rest)
  | .flowKey true, rest => some ([], [flowNode, .omittedValue], rest)
  | .flowValue, .value :: rest =>
    some (nodeUnless [.flowEntry, .flowMappingEnd] flowNode (.flowKey false) rest)
  | .flowValue, rest => some ([Event.omitted], [.flowKey false], rest)
  | .omittedValue, rest => some ([Event.omitted], [.flowKey false], rest)

/-- Reads until nothing is awaited; the events are collected with the last one first. -/
def eventsFrom? (shorthands : Shorthands) :
    Nat → List Event → List Awaited → List Token → Option (List Event × List Token)
  | _, events, [], tokens => some (events.reverse, tokens)
  | 0, _, _ :: _, _ => none
  | fuel + 1, events, awaited :: later, tokens => do
    let (found, next, rest) ← step? shorthands awaited tokens
    eventsFrom? shorthands fuel (found ++ events) (next ++ later) rest

/-- Directives at the beginning: at most one version, which has to be known, and shorthands for
handles that differ. -/
def directives? : Bool → Shorthands → List Token → Option (Shorthands × List Token)
  | versioned, shorthands, .version major minor :: rest =>
    if versioned || major != 1 || (minor != 1 && minor != 2) then none
    else directives? true shorthands rest
  | versioned, shorthands, .tagShorthand handle expansion :: rest =>
    if (shorthands.lookup handle).isSome then none
    else directives? versioned ((handle, expansion) :: shorthands) rest
  | _, shorthands, rest => some (shorthands, rest)

def standardShorthands : Shorthands := [("!", "!"), ("!!", "tag:yaml.org,2002:")]

def isDocumentEnd (token : Token) : Bool := token == .documentEnd

/-- The content behind the marker of a document, which may be left out. -/
def content (tokens : List Token) : Step :=
  match tokens with
  | [] => ([Event.omitted], [], tokens)
  | .version .. :: _ | .tagShorthand .. :: _ | .documentStart :: _ | .documentEnd :: _ =>
    ([Event.omitted], [], tokens)
  | _ => ([], [blockNode], tokens)

/-- The events of the only document of a text. A text without words has none. -/
def events? (tokens : List Token) : Option (List Event) :=
  if tokens.isEmpty then some []
  else do
    let (declared, rest) ← directives? false [] tokens
    let explicit := rest.length < tokens.length || rest.head? == some .documentStart
    let (found, awaited, rest) ←
      if explicit then
        if rest.head? == some .documentStart then some (content (rest.drop 1)) else none
      else some ([], [blockNode], rest)
    let (events, rest) ←
      eventsFrom? (declared ++ standardShorthands) (4 * tokens.length + 4) found awaited rest
    if (rest.dropWhile isDocumentEnd).isEmpty then some events else none

end ModelCatalog.Markup
