import ModelCatalog.Markup.Decode
import ModelCatalog.Registry.Basic

/-! The registry as marked-up text. Codes, names and status words are taken as they are written. -/
namespace ModelCatalog

open Markup

/-- A status word, or a local tag of that name on nothing. -/
def Status.decode : Decoder Status := fun _ node =>
  match node with
  | .scalar s =>
    match s.tag with
    | some tag =>
      if isLocalTag tag then
        if s.style = .plain && (s.text.isEmpty || isNullWord s.text) then
          Status.ofWord? (tag.drop 1).toString
        else none
      else Status.ofWord? s.text
    | none => Status.ofWord? s.text
  | _ => none

namespace Product

def required? {α : Type} (doc : Document) (fields : Fields) (name : String)
    (decode : Decoder α) : Option α :=
  (pairValue? fields name).bind fun node => decode doc (doc.resolve node)

def ofMarkupFields? (doc : Document) (fields : Fields) : Option Product := do
  let name ← required? doc fields "name" rawText
  let status ← required? doc fields "status" Status.decode
  return ⟨name, status⟩

def decode : Decoder Product := structure? ["name", "status"] ofMarkupFields?

end Product

namespace Registry

def ofMarkupFields? (doc : Document) (fields : Fields) : Option Registry := do
  let products ← fields.mapM fun (code, node) =>
    (Product.decode doc (doc.resolve node)).map fun product => (code, product)
  return OrderedMap.ofList products

def readMarkup? (bytes : ByteArray) : Option Registry := do
  let text ← String.fromUTF8? bytes
  let doc ← Document.read? text
  match doc.root with
  | none => some OrderedMap.empty
  | some root => structure? [] ofMarkupFields? doc root

end Registry

end ModelCatalog
