import ModelCatalog.Markup.Document
import ModelCatalog.Number.Notation

/-! What a scalar stands for: nothing, a truth value, a number or its own text. A plain scalar is
tried in this order; a tag or a quote settles it. -/
namespace ModelCatalog.Markup

inductive Value
  | nothing
  | boolean (value : Bool)
  | integer (value : Int)
  | float (value : Number.Binary64)
  | text (value : String)
deriving DecidableEq, Repr

def isNullWord (s : String) : Bool := s == "null" || s == "Null" || s == "NULL" || s == "~"

def boolean? (s : String) : Option Bool :=
  if s == "true" || s == "True" || s == "TRUE" then some true
  else if s == "false" || s == "False" || s == "FALSE" then some false
  else none

/-- Digits with a leading zero are no number. -/
def hasLeadingZero (cs : List Char) : Bool :=
  let digits := match cs with
    | '-' :: rest | '+' :: rest => rest
    | _ => cs
  match digits with
  | '0' :: more => !more.isEmpty && more.all Char.isDigit
  | _ => false

/-- A number in base sixteen, eight or two behind its prefix. -/
def prefixed? : List Char → Option Nat
  | '0' :: 'x' :: digits => Number.ofDigits? 16 digits
  | '0' :: 'o' :: digits => Number.ofDigits? 8 digits
  | '0' :: 'b' :: digits => Number.ofDigits? 2 digits
  | _ => none

/-- An integer without a minus sign. -/
def natural? (cs : List Char) : Option Nat :=
  let digits := match cs with
    | '+' :: rest => rest
    | _ => cs
  (prefixed? digits).or
    (if hasLeadingZero cs then none else Number.ofDigits? 10 digits)

/-- The size of an integer with a minus sign. -/
def negative? (cs : List Char) : Option Nat :=
  match cs with
  | '-' :: digits =>
    (prefixed? digits).or (if hasLeadingZero cs then none else Number.ofDigits? 10 digits)
  | _ => none

/-- How an integer of some size is read. -/
inductive Fit
  /-- It fits a word of 64 bits. -/
  | word (value : Int)
  /-- It fits 128 bits only, which nothing accepts. -/
  | tooWide
  | noInteger

def fit (cs : List Char) : Fit :=
  match natural? cs, negative? cs with
  | some n, _ =>
    if n < Nat.pow 2 64 then .word n else if n < Nat.pow 2 128 then .tooWide else .noInteger
  | none, some n =>
    if n ≤ Nat.pow 2 63 then .word (-n) else if n ≤ Nat.pow 2 127 then .tooWide else .noInteger
  | none, none => .noInteger

/-- Words for what is no finite number. -/
def specialFloat? (s : String) : Option Number.Binary64 :=
  if s == ".inf" || s == ".Inf" || s == ".INF" || s == "+.inf" || s == "+.Inf" || s == "+.INF" then
    some (.infinite false)
  else if s == "-.inf" || s == "-.Inf" || s == "-.INF" then some (.infinite true)
  else if s == ".nan" || s == ".NaN" || s == ".NAN" then some .notANumber
  else none

def float? (s : String) : Option Number.Binary64 :=
  (specialFloat? s).or (Number.Binary64.ofText? s.toList)

/-- What an untagged plain scalar stands for, unless it is an integer of more than 64 bits. -/
def plainValue? (s : String) : Option Value :=
  if s.isEmpty || isNullWord s then some .nothing
  else match boolean? s, fit s.toList with
    | some b, _ => some (.boolean b)
    | none, .word n => some (.integer n)
    | none, .tooWide => none
    | none, .noInteger =>
      if hasLeadingZero s.toList then some (.text s)
      else match float? s with
        | some x => some (.float x)
        | none => some (.text s)

/-- Tags that begin with an exclamation mark are local to the document. -/
def isLocalTag (tag : String) : Bool := tag.toList.head? == some '!'

def nullTag : String := "tag:yaml.org,2002:null"
def booleanTag : String := "tag:yaml.org,2002:bool"
def integerTag : String := "tag:yaml.org,2002:int"
def floatTag : String := "tag:yaml.org,2002:float"

/-- What a scalar under a tag stands for, if its text suits the tag. -/
def taggedValue? (tag : String) (s : String) : Option Value :=
  if isLocalTag tag then none
  else if tag == booleanTag then (boolean? s).map .boolean
  else if tag == integerTag then
    match fit s.toList with
    | .word n => some (.integer n)
    | _ => none
  else if tag == floatTag then (float? s).map .float
  else if tag == nullTag then if isNullWord s then some .nothing else none
  else some (.text s)

def Scalar.value? (scalar : Scalar) : Option Value :=
  match scalar.tag with
  | some tag => taggedValue? tag scalar.text
  | none => if scalar.style = .plain then plainValue? scalar.text else some (.text scalar.text)

/-- The text that a value is kept as where any scalar is welcome. -/
def Value.freeText? : Value → Option String
  | .nothing => none
  | .boolean b => some (if b then "True" else "False")
  | .integer n => some (toString n)
  | .float x => some x.toText
  | .text s => some s

end ModelCatalog.Markup
