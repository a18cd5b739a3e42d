import ModelCatalog.Markup.Scalar

/-! Typed values from nodes. A decoder sees the node itself, never an alias. -/
namespace ModelCatalog.Markup

abbrev Decoder (α : Type) := Document → Node → Option α

/-- Whether an optional value is there, if the node may stand for one at all. A null word under its
own tag, and a plain scalar that is empty or a null word, stand for no value. -/
def Node.isPresent? : Node → Option Bool
  | .scalar s =>
    if s.style != .plain then some true
    else match s.tag with
      | none => some (!(s.text.isEmpty || isNullWord s.text))
      | some tag =>
        if tag != nullTag then some true else if isNullWord s.text then some false else none
  | _ => some true

def optional {α : Type} (decode : Decoder α) : Decoder (Option α) := fun doc node =>
  match node.isPresent? with
  | none => none
  | some false => some none
  | some true => (decode doc node).map some

/-- An empty plain scalar stands for an empty collection. -/
def Node.isOmitted : Node → Bool
  | .scalar s => s.style == .plain && s.text.isEmpty
  | _ => false

def list {α : Type} (decode : Decoder α) : Decoder (List α) := fun doc node =>
  match node with
  | .sequence _ items => items.mapM fun item => decode doc (doc.resolve item)
  | node => if node.isOmitted then some [] else none

/-- The text of any scalar, read as a truth value or a number first. -/
def freeText : Decoder String := fun _ node =>
  match node with
  | .scalar s => s.value?.bind Value.freeText?
  | _ => none

/-- The text of a scalar as it is written. -/
def rawText : Decoder String := fun _ node =>
  match node with
  | .scalar s => some s.text
  | _ => none

/-- The text of a scalar that stands for its own text. -/
def ownText : Decoder String := fun _ node =>
  match node with
  | .scalar s =>
    match s.value? with
    | some (.text text) => some text
    | _ => none
  | _ => none

/-- A number below the limit, in a plain scalar or a literal one that is tagged as an integer. -/
def natural (limit : Nat) : Decoder Nat := fun _ node =>
  match node with
  | .scalar s =>
    if s.style == .plain || (s.style == .literal && s.tag == some integerTag) then
      (natural? s.text.toList).filter (· < limit)
    else none
  | _ => none

def word8 : Decoder UInt8 := fun doc node => (natural UInt8.size doc node).map UInt8.ofNat
def word32 : Decoder UInt32 := fun doc node => (natural UInt32.size doc node).map UInt32.ofNat
def word64 : Decoder UInt64 := fun doc node => (natural UInt64.size doc node).map UInt64.ofNat

abbrev Fields := List (String × Node)

/-- Names the entries of a mapping; every key has to be a scalar. -/
def fields? (doc : Document) (entries : List (Node × Node)) : Option Fields :=
  entries.mapM fun (key, value) => (rawText doc (doc.resolve key)).map fun name => (name, value)

/-- Whether no known name occurs twice. -/
def Fields.areUnique (known : List String) (fields : Fields) : Bool :=
  known.all fun name => (fields.map Prod.fst).count name ≤ 1

/-- The value of a field that may be left out. -/
def Fields.get? {α : Type} (fields : Fields) (doc : Document) (name : String)
    (decode : Decoder α) : Option (Option α) :=
  match pairValue? fields name with
  | none => some none
  | some node => optional decode doc (doc.resolve node)

/-- Decodes a mapping by its fields; other names may occur and hold anything. -/
def structure? {α : Type} (known : List String) (decode : Document → Fields → Option α) :
    Decoder α := fun doc node =>
  let entries? :=
    match node with
    | .mapping _ entries => some entries
    | node => if node.isOmitted then some [] else none
  entries?.bind fun entries => do
    let fields ← fields? doc entries
    if fields.areUnique known then decode doc fields else none

end ModelCatalog.Markup
