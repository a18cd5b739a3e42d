/-! Written JSON: quoted strings, and objects on one line or with one member on each line. -/
namespace ModelCatalog.Json

def hexDigit (n : Nat) : Char := "0123456789abcdef".toList.getD n '0'

/-- Quotes, backslashes and control characters are escaped, by a short escape if there is one. -/
def escape (c : Char) : List Char :=
  match c with
  | '"' => ['\\', '"']
  | '\\' => ['\\', '\\']
  | '\n' => ['\\', 'n']
  | '\r' => ['\\', 'r']
  | '\t' => ['\\', 't']
  | '\x08' => ['\\', 'b']
  | '\x0c' => ['\\', 'f']
  | c =>
    if c.toNat < 0x20 then
      ['\\', 'u', '0', '0', hexDigit (c.toNat / 16), hexDigit (c.toNat % 16)]
    else [c]

def quote (s : String) : List Char := '"' :: s.toList.flatMap escape ++ ['"']

/-- Joins written pieces with a separator between neighbours. -/
def join (separator : List Char) : List (List Char) → List Char
  | [] => []
  | [piece] => piece
  | piece :: rest => piece ++ separator ++ join separator rest

/-- An object on one line; the values are written already. -/
def compactObject (members : List (String × List Char)) : List Char :=
  '\x7b' :: join [','] (members.map fun (name, value) => quote name ++ ':' :: value) ++ ['\x7d']

/-- An object with one member on each line, indented by one blank. -/
def indentedObject : List (String × List Char) → List Char
  | [] => ['\x7b', '\x7d']
  | members =>
    ['\x7b', '\n'] ++
      join [',', '\n']
        (members.map fun (name, value) => ' ' :: quote name ++ [':', ' '] ++ value) ++
      ['\n', '\x7d']

end ModelCatalog.Json
