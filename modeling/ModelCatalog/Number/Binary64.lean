/-! Floating-point numbers of 64 bits in exact arithmetic: the nearest one to a decimal fraction,
and the shortest decimal fraction to which one is nearest. -/
namespace ModelCatalog.Number

/-- The number `mantissa * 2 ^ exponent`. A number that is not zero has 53 bits, or fewer with the
least exponent. -/
structure Magnitude where
  mantissa : Nat
  exponent : Int
deriving DecidableEq, Repr

inductive Binary64
  | finite (negative : Bool) (size : Magnitude)
  | infinite (negative : Bool)
  | notANumber
deriving DecidableEq, Repr

/-- The number `coefficient * 10 ^ exponent`. -/
structure Decimal where
  coefficient : Nat
  exponent : Int
deriving DecidableEq, Repr

namespace Magnitude

def bits : Nat := 53
def leastExponent : Int := -1074
def greatestExponent : Int := 971

/-- Numerator and denominator of a fraction divided by `2 ^ shift`. -/
def scaled (numerator denominator : Nat) (shift : Int) : Nat × Nat :=
  if shift < 0 then (numerator * Nat.pow 2 shift.natAbs, denominator)
  else (numerator, denominator * Nat.pow 2 shift.natAbs)

/-- Nearest integer to a fraction; a half goes to the even neighbour. -/
def nearest (numerator denominator : Nat) : Nat :=
  let below := numerator / denominator
  let twice := 2 * (numerator % denominator)
  if twice < denominator || (twice == denominator && below % 2 == 0) then below else below + 1

/-- The exponent for which a positive fraction has 53 bits before the point. -/
def exponentOf (numerator denominator : Nat) : Int :=
  let guess : Int := (numerator.log2 : Int) - (denominator.log2 : Int)
  let (n, d) := scaled numerator denominator guess
  max (if n < d then guess - bits else guess - bits + 1) leastExponent

/-- The nearest number to a fraction, unless that is beyond the greatest. -/
def ofFraction? (numerator denominator : Nat) : Option Magnitude :=
  if numerator = 0 then some ⟨0, leastExponent⟩
  else
    let exponent := exponentOf numerator denominator
    let (n, d) := scaled numerator denominator exponent
    let mantissa := nearest n d
    let rounded : Magnitude :=
      if mantissa = Nat.pow 2 bits then ⟨Nat.pow 2 (bits - 1), exponent + 1⟩
      else ⟨mantissa, exponent⟩
    if rounded.exponent > greatestExponent then none else some rounded

end Magnitude

namespace Decimal

/-- Count of decimal digits; none for zero. -/
def digitCount (n : Nat) : Nat := if n = 0 then 0 else (Nat.toDigits 10 n).length

/-- The nearest number, unless it is beyond the greatest. Fractions that are far outside the range
of exponents are settled by their order alone. -/
def toMagnitude? (d : Decimal) : Option Magnitude :=
  let order : Int := digitCount d.coefficient + d.exponent
  if d.coefficient = 0 || order < -400 then some ⟨0, Magnitude.leastExponent⟩
  else if order > 400 then none
  else if d.exponent < 0 then Magnitude.ofFraction? d.coefficient (Nat.pow 10 d.exponent.natAbs)
  else Magnitude.ofFraction? (d.coefficient * Nat.pow 10 d.exponent.natAbs) 1

end Decimal

namespace Magnitude

/-- A number with the bounds of what rounds to it, in quarters of the last bit: lower bound, number,
upper bound. The gap below a power of two is half the gap above it. -/
def quarters (m : Magnitude) : Nat × Nat × Nat :=
  let low := if m.mantissa = Nat.pow 2 (bits - 1) && m.exponent > leastExponent then 1 else 2
  (4 * m.mantissa - low, 4 * m.mantissa, 4 * m.mantissa + 2)

/-- A count of quarters as a multiple of `10 ^ place`: numerator and denominator. -/
def inPlaces (m : Magnitude) (quarters : Nat) (place : Int) : Nat × Nat :=
  let (n, d) := scaled quarters 4 (-m.exponent)
  if place < 0 then (n * Nat.pow 10 place.natAbs, d) else (n, d * Nat.pow 10 place.natAbs)

/-- The multiple of `10 ^ place` that rounds to the number and is nearest to it, the greater of two
that are equally near. -/
def multipleAt? (m : Magnitude) (place : Int) : Option Nat :=
  let (low, middle, high) := m.quarters
  let even := m.mantissa % 2 == 0
  let (ln, ld) := m.inPlaces low place
  let (mn, md) := m.inPlaces middle place
  let (hn, hd) := m.inPlaces high place
  let below := mn / md
  let above := below + 1
  let belowHits := if even then ln ≤ below * ld else ln < below * ld
  let aboveHits := if even then above * hd ≤ hn else above * hd < hn
  match decide belowHits, decide aboveHits with
  | true, true => some (if 2 * (mn % md) < md then below else above)
  | true, false => some below
  | false, true => some above
  | false, false => none

/-- Tries places from `place` downwards until a multiple rounds to the number. -/
def shortestFrom (m : Magnitude) : Nat → Int → Decimal
  | 0, place => ⟨(m.multipleAt? place).getD 0, place⟩
  | tries + 1, place =>
    match m.multipleAt? place with
    | some coefficient => ⟨coefficient, place⟩
    | none => m.shortestFrom tries (place - 1)

/-- Place of the leading digit of a positive number, or the place above it. -/
def leadingPlace (m : Magnitude) : Int :=
  let (n, d) := scaled m.mantissa 1 (-m.exponent)
  (Decimal.digitCount n : Int) - (Decimal.digitCount d : Int)

/-- The decimal fraction of fewest digits that rounds to the number; zero has one digit. -/
def shortest (m : Magnitude) : Decimal :=
  if m.mantissa = 0 then ⟨0, 0⟩ else m.shortestFrom 20 (m.leadingPlace + 1)

end Magnitude

end ModelCatalog.Number
