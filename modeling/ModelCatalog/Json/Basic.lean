/-! JSON documents. Objects list their members in text order, and names may be repeated. -/
namespace ModelCatalog

/-- A string literal is kept as the text it denotes. One that is well formed but denotes no text,
because it holds half of a surrogate pair or bytes that are no character, is `none`. -/
inductive Json
  | null
  | boolean (value : Bool)
  | number
  | string (text : Option String)
  | array (items : List Json)
  | object (members : List (Option String × Json))

end ModelCatalog
