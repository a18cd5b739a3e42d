import ModelCatalog.Json.Reader
import ModelCatalog.Json.Writer
import ModelCatalog.Registry.Basic

/-! The registry as JSON. A product is an object or an array of its two fields; a repeated code
keeps its first place and takes its last product. -/
namespace ModelCatalog

def Status.ofJson? : Json → Option Status
  | .string (some word) => Status.ofWord? word
  | .object [(some word, .null)] => Status.ofWord? word
  | _ => none

namespace Product

/-- The value of a field that has to occur exactly once. -/
def onlyMember? (name : String) (members : List (String × Json)) : Option Json :=
  match members.filter fun member => member.1 = name with
  | [member] => some member.2
  | _ => none

/-- Names the members of an object; every name has to denote a text. -/
def named? (members : List (Option String × Json)) : Option (List (String × Json)) :=
  members.mapM fun (name, value) => name.map fun name => (name, value)

def ofFields? (name status : Json) : Option Product :=
  match name with
  | .string (some name) => (Status.ofJson? status).map fun status => ⟨name, status⟩
  | _ => none

def ofJson? : Json → Option Product
  | .array [name, status] => ofFields? name status
  | .object members => do
    let members ← named? members
    ofFields? (← onlyMember? "name" members) (← onlyMember? "status" members)
  | _ => none

def toJson (p : Product) : List Char :=
  Json.compactObject [("name", Json.quote p.name), ("status", Json.quote p.status.word)]

end Product

namespace Registry

def ofJson? : Json → Option Registry
  | .object members => do
    let members ← Product.named? members
    let products ← members.mapM fun (code, value) =>
      (Product.ofJson? value).map fun product => (code, product)
    return OrderedMap.ofList products
  | _ => none

def readJson? (bytes : ByteArray) : Option Registry := (Json.read? bytes).bind ofJson?

def toJson (r : Registry) : String :=
  String.ofList (Json.compactObject (r.entries.map fun (code, product) => (code, product.toJson)))

end Registry

end ModelCatalog
