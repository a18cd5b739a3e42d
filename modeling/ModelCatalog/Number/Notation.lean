import ModelCatalog.Number.Binary64

/-! Written numbers: hexadecimal words, and floating-point numbers read from and written to text. -/
namespace ModelCatalog.Number

/-- Hexadecimal digits, capital letters, no leading zero. -/
def upperHex (n : Nat) : String := String.ofList ((Nat.toDigits 16 n).map Char.toUpper)

/-- The value of a digit in a base up to sixteen. -/
def digitValue? (base : Nat) (c : Char) : Option Nat :=
  let value :=
    if '0' ≤ c && c ≤ '9' then c.toNat - '0'.toNat
    else if 'a' ≤ c && c ≤ 'f' then c.toNat - 'a'.toNat + 10
    else if 'A' ≤ c && c ≤ 'F' then c.toNat - 'A'.toNat + 10
    else base
  if value < base then some value else none

def ofDigits? (base : Nat) : List Char → Option Nat
  | [] => none
  | cs => (cs.mapM (digitValue? base)).map (·.foldl (fun n digit => n * base + digit) 0)

namespace Decimal

/-- An exponent: a mark, an optional sign, digits. No text stands for exponent zero. -/
def exponent? : List Char → Option Int
  | [] => some 0
  | mark :: rest =>
    if mark == 'e' || mark == 'E' then
      match rest with
      | '-' :: digits => (ofDigits? 10 digits).map fun n => -(n : Int)
      | '+' :: digits => (ofDigits? 10 digits).map Int.ofNat
      | digits => (ofDigits? 10 digits).map Int.ofNat
    else none

/-- Digits with at most one point among them, at least one digit, and an optional exponent. -/
def ofText? (cs : List Char) : Option Decimal :=
  let whole := cs.takeWhile Char.isDigit
  let rest := cs.dropWhile Char.isDigit
  let (fraction, tail) :=
    match rest with
    | '.' :: more => (more.takeWhile Char.isDigit, more.dropWhile Char.isDigit)
    | _ => ([], rest)
  match ofDigits? 10 (whole ++ fraction), exponent? tail with
  | some coefficient, some exponent => some ⟨coefficient, exponent - fraction.length⟩
  | _, _ => none

end Decimal

namespace Binary64

/-- Reads a number that is not beyond the greatest. -/
def ofText? (cs : List Char) : Option Binary64 :=
  let (negative, digits) :=
    match cs with
    | '-' :: rest => (true, rest)
    | '+' :: rest => (false, rest)
    | _ => (false, cs)
  ((Decimal.ofText? digits).bind Decimal.toMagnitude?).map (.finite negative)

def zeros (n : Nat) : List Char := List.replicate n '0'

/-- Digits with a point and at least one digit on each side of it, or beyond `10 ^ 16` and below
`10 ^ -4` one digit before the point and an exponent. -/
def writeMagnitude (m : Magnitude) : List Char :=
  let d := m.shortest
  let digits := Nat.toDigits 10 d.coefficient
  let order : Int := digits.length + d.exponent
  if d.coefficient != 0 && (order > 16 || order < -3) then
    let fraction := digits.drop 1
    digits.take 1 ++ (if fraction.isEmpty then [] else '.' :: fraction) ++
      'e' :: (toString (order - 1)).toList
  else if d.exponent ≥ 0 then digits ++ zeros d.exponent.natAbs ++ ['.', '0']
  else if order > 0 then digits.take order.natAbs ++ '.' :: digits.drop order.natAbs
  else '0' :: '.' :: zeros order.natAbs ++ digits

def toText : Binary64 → String
  | .finite negative size =>
    String.ofList (if negative then '-' :: writeMagnitude size else writeMagnitude size)
  | .infinite negative => if negative then "-inf" else "inf"
  | .notANumber => "NaN"

end Binary64

end ModelCatalog.Number
