import ModelCatalog.Number.Notation
import ModelCatalog.Proofs.Numerals
import ModelCatalog.Proofs.Rounding

/-! Numbers as they are read from digits and as they are written. Reading accepts the numerals, and
what is written without an exponent is a numeral of the same value. -/
namespace ModelCatalog.Number

def AreDigits (cs : List Char) : Prop := ∀ c ∈ cs, c.isDigit = true

/-- Digits with at most one point among them, and an exponent of digits. -/
structure Numeral where
  whole : List Char
  /-- What stands behind the point, if there is one. -/
  fraction : Option (List Char)
  /-- What stands behind the mark of an exponent, if there is one. -/
  power : Option (List Char)
  digits : AreDigits (whole ++ fraction.getD [])
  powerDigits : AreDigits (power.getD [])
  significant : whole ++ fraction.getD [] ≠ []
  exponent : power ≠ some []

namespace Numeral

def tail (n : Numeral) : List Char := n.power.elim [] ('E' :: ·)

def text (n : Numeral) : List Char := n.whole ++ (n.fraction.elim [] ('.' :: ·) ++ n.tail)

def decimal (n : Numeral) : Decimal :=
  ⟨Nat.ofDigitChars 10 (n.whole ++ n.fraction.getD []) 0,
    (Nat.ofDigitChars 10 (n.power.getD []) 0 : Int) - (n.fraction.getD []).length⟩

end Numeral

section Digits

variable {c : Char} {cs rest : List Char} {n : Nat}

theorem areDigits_nil : AreDigits [] := fun _ member => absurd member List.not_mem_nil

theorem areDigits_cons : AreDigits (c :: cs) ↔ c.isDigit = true ∧ AreDigits cs :=
  List.forall_mem_cons

theorem areDigits_append : AreDigits (cs ++ rest) ↔ AreDigits cs ∧ AreDigits rest :=
  List.forall_mem_append

theorem areDigits_toDigits (n : Nat) : AreDigits (Nat.toDigits 10 n) := fun _ member =>
  Nat.isDigit_of_mem_toDigits (by decide) (by decide) member

theorem digitValue?_ten (c : Char) :
    digitValue? 10 c = if c.isDigit then some (c.toNat - '0'.toNat) else none := by
  have digit : c.isDigit = (decide ('0' ≤ c) && decide (c ≤ '9')) := rfl
  unfold digitValue?
  dsimp only
  rw [← digit]
  split
  · next isDigit =>
    rw [digit, Bool.and_eq_true, decide_eq_true_eq, decide_eq_true_eq] at isDigit
    have most : c.toNat ≤ 57 := isDigit.2
    rw [if_pos (by change c.toNat - 48 < 10; omega)]
  · split
    · rw [if_neg (by omega)]
    · split
      · rw [if_neg (by omega)]
      · rw [if_neg (by omega)]

theorem mapM_digitValue?_ten (cs : List Char) : cs.mapM (digitValue? 10) =
    if cs.all Char.isDigit then some (cs.map fun c => c.toNat - '0'.toNat) else none := by
  induction cs with
  | nil => rfl
  | cons c cs ih =>
    rw [List.mapM_cons, digitValue?_ten, ih, List.all_cons]
    by_cases first : c.isDigit <;> by_cases others : cs.all Char.isDigit <;> simp [first, others]

theorem ofDigits?_ten_eq_some_iff :
    ofDigits? 10 cs = some n ↔ cs ≠ [] ∧ AreDigits cs ∧ Nat.ofDigitChars 10 cs 0 = n := by
  cases cs with
  | nil => simp [ofDigits?]
  | cons c cs =>
    rw [ofDigits?, mapM_digitValue?_ten, Nat.ofDigitChars_eq_foldl]
    · by_cases digits : (c :: cs).all Char.isDigit
      · have isDigits : AreDigits (c :: cs) := List.all_eq_true.mp digits
        simp only [digits, if_true, Option.map_some, Option.some.injEq, List.foldl_map, ne_eq,
          reduceCtorEq, not_false_iff, isDigits, true_and, mul_comm]
      · have notDigits : ¬ AreDigits (c :: cs) := mt List.all_eq_true.mpr digits
        simp [digits, notDigits]
    · simp

theorem toDigits_eq_zero_cons (zero : Nat.toDigits 10 n = '0' :: rest) : rest = [] := by
  induction n using Nat.strongRecOn generalizing rest with
  | ind n ih =>
    by_cases single : n < 10
    · rw [Nat.toDigits_of_lt_base single] at zero
      exact (List.cons.inj zero).2.symm
    · rw [Nat.toDigits_of_base_le (by decide) (by omega)] at zero
      obtain ⟨c, front, split⟩ := List.exists_cons_of_ne_nil (Nat.toDigits_ne_nil (n := n / 10))
      rw [split, List.cons_append, List.cons.injEq] at zero
      obtain ⟨rfl, _⟩ := zero
      obtain rfl := ih (n / 10) (by omega) split
      have : n / 10 = 0 := toDigits_inj.mp split
      omega

theorem eq_digitChar (digit : c.isDigit = true) : ∃ k < 10, c = Nat.digitChar k := by
  have digits : ∀ k < 10, Char.ofNat (48 + k) = k.digitChar := by decide
  rw [Char.isDigit, Bool.and_eq_true, decide_eq_true_eq, decide_eq_true_eq] at digit
  have least : 48 ≤ c.toNat := digit.1
  have most : c.toNat ≤ 57 := digit.2
  refine ⟨c.toNat - 48, by omega, ?_⟩
  rw [← digits _ (by omega), Nat.add_sub_cancel' least, Char.ofNat_toNat]

theorem toDigits_of_areDigits (digits : AreDigits cs) (nonempty : cs ≠ []) :
    (∃ rest, AreDigits rest ∧ rest ≠ [] ∧ cs = '0' :: rest) ∨ ∃ n, cs = Nat.toDigits 10 n := by
  induction cs using List.reverseRecOn with
  | nil => exact absurd rfl nonempty
  | append_singleton front c ih =>
    obtain ⟨frontDigits, last⟩ := areDigits_append.mp digits
    obtain ⟨k, small, rfl⟩ := eq_digitChar (areDigits_cons.mp last).1
    by_cases empty : front = []
    · exact .inr ⟨k, by rw [empty, Nat.toDigits_of_lt_base small, List.nil_append]⟩
    · rcases ih frontDigits empty with ⟨rest, restDigits, _, rfl⟩ | ⟨n, rfl⟩
      · exact .inl ⟨rest ++ [k.digitChar], areDigits_append.mpr ⟨restDigits, last⟩, by simp, rfl⟩
      · rcases Nat.eq_zero_or_pos n with rfl | positive
        · exact .inl ⟨[k.digitChar], last, by simp, rfl⟩
        · refine .inr ⟨10 * n + k, ?_⟩
          rw [← Nat.toDigits_append_toDigits (by decide) positive small,
            Nat.toDigits_of_lt_base small]

theorem span_digits (digits : AreDigits cs) (stop : ∀ c ∈ rest.head?, c.isDigit = false) :
    (cs ++ rest).takeWhile Char.isDigit = cs ∧ (cs ++ rest).dropWhile Char.isDigit = rest := by
  rw [List.takeWhile_append_of_pos digits, List.dropWhile_append_of_pos digits]
  cases rest with
  | nil => simp
  | cons c rest =>
    have other : ¬ c.isDigit = true := by simp [stop c rfl]
    rw [List.takeWhile_cons_of_neg other, List.dropWhile_cons_of_neg other, List.append_nil]
    exact ⟨rfl, rfl⟩

end Digits

section Reading

variable {cs : List Char} {d : Decimal}

/-- Whether there are no signs and no mark but the capital one. -/
structure IsBare (cs : List Char) : Prop where
  small : 'e' ∉ cs
  minus : '-' ∉ cs
  plus : '+' ∉ cs

theorem IsBare.of_append {front rest : List Char} (bare : IsBare (front ++ rest)) : IsBare rest :=
  ⟨fun member => bare.small (List.mem_append_right _ member),
    fun member => bare.minus (List.mem_append_right _ member),
    fun member => bare.plus (List.mem_append_right _ member)⟩

theorem IsBare.of_areDigits (digits : AreDigits cs) : IsBare cs :=
  ⟨fun member => absurd (digits _ member) (by decide),
    fun member => absurd (digits _ member) (by decide),
    fun member => absurd (digits _ member) (by decide)⟩

theorem exponent?_of_isBare (bare : IsBare cs) :
    Decimal.exponent? ('E' :: cs) = (ofDigits? 10 cs).map Int.ofNat := by
  have mark : ('E' == 'e' || 'E' == 'E') = true := rfl
  unfold Decimal.exponent?
  simp only [mark, if_true]
  split
  · exact absurd (List.mem_cons_self ..) bare.minus
  · exact absurd (List.mem_cons_self ..) bare.plus
  · rfl

theorem exponent?_tail (n : Numeral) :
    Decimal.exponent? n.tail = some (Nat.ofDigitChars 10 (n.power.getD []) 0 : Int) := by
  obtain ⟨_, _, power, _, digits, _, exponent⟩ := n
  cases power with
  | none => rfl
  | some power =>
    have nonempty : power ≠ [] := fun empty => exponent (congrArg some empty)
    have found : ofDigits? 10 power = some (Nat.ofDigitChars 10 power 0) :=
      ofDigits?_ten_eq_some_iff.mpr ⟨nonempty, digits, rfl⟩
    have read := exponent?_of_isBare (.of_areDigits digits : IsBare power)
    rwa [found] at read

theorem tail_stop (n : Numeral) : ∀ c ∈ n.tail.head?, c.isDigit = false ∧ c ≠ '.' := by
  unfold Numeral.tail
  cases n.power with
  | none => simp
  | some power => simp

/-- A number from the digits before and behind the point and from what follows them. -/
def Decimal.ofParts? (whole fraction tail : List Char) : Option Decimal :=
  match ofDigits? 10 (whole ++ fraction), exponent? tail with
  | some coefficient, some exponent => some ⟨coefficient, exponent - fraction.length⟩
  | _, _ => none

theorem ofText?_of_integer {whole tail : List Char} (digits : AreDigits whole)
    (stop : ∀ c ∈ tail.head?, c.isDigit = false ∧ c ≠ '.') :
    Decimal.ofText? (whole ++ tail) = Decimal.ofParts? whole [] tail := by
  obtain ⟨taken, rest⟩ := span_digits digits fun c member => (stop c member).1
  have pointless (more : List Char) : tail ≠ '.' :: more := by
    rintro rfl
    exact (stop '.' rfl).2 rfl
  unfold Decimal.ofText?
  simp only [taken, rest]
  rfl

theorem ofText?_of_fraction {whole fraction tail : List Char} (digits : AreDigits whole)
    (fractionDigits : AreDigits fraction) (stop : ∀ c ∈ tail.head?, c.isDigit = false) :
    Decimal.ofText? (whole ++ '.' :: (fraction ++ tail)) =
      Decimal.ofParts? whole fraction tail := by
  have point : ∀ c ∈ ('.' :: (fraction ++ tail)).head?, c.isDigit = false := by simp
  obtain ⟨taken, rest⟩ := span_digits digits point
  obtain ⟨inner, tail⟩ := span_digits fractionDigits stop
  unfold Decimal.ofText?
  simp only [taken, rest, inner, tail]
  rfl

theorem ofText?_text (n : Numeral) : Decimal.ofText? n.text = some n.decimal := by
  have stop := tail_stop n
  have exponent := exponent?_tail n
  have found : ofDigits? 10 (n.whole ++ n.fraction.getD []) = some n.decimal.coefficient :=
    ofDigits?_ten_eq_some_iff.mpr ⟨n.significant, n.digits, rfl⟩
  have digits := areDigits_append.mp n.digits
  have parts : Decimal.ofParts? n.whole (n.fraction.getD []) n.tail = some n.decimal := by
    rw [Decimal.ofParts?, found, exponent]
    rfl
  rw [← parts, Numeral.text]
  cases split : n.fraction with
  | none =>
    exact ofText?_of_integer digits.1 stop
  | some fraction =>
    rw [split] at digits
    exact ofText?_of_fraction digits.1 digits.2 fun c member => (stop c member).1

theorem areDigits_takeWhile (cs : List Char) : AreDigits (cs.takeWhile Char.isDigit) :=
  List.all_eq_true.mp List.all_takeWhile

theorem dropWhile_stop (cs : List Char) :
    ∀ c ∈ (cs.dropWhile Char.isDigit).head?, c.isDigit = false := fun c member => by
  have stop := List.head?_dropWhile_not Char.isDigit cs
  rw [Option.mem_def.mp member] at stop
  exact stop

/-- What follows the digits and can be read is the exponent of a numeral. -/
theorem exists_power {tail : List Char} {e : Int} (bare : IsBare tail)
    (read : Decimal.exponent? tail = some e) : ∃ power : Option (List Char),
      AreDigits (power.getD []) ∧ power ≠ some [] ∧ tail = power.elim [] ('E' :: ·) ∧
        e = Nat.ofDigitChars 10 (power.getD []) 0 := by
  cases tail with
  | nil => exact ⟨none, areDigits_nil, by simp, rfl, (Option.some.inj read).symm⟩
  | cons mark power =>
    obtain rfl : mark = 'E' := by
      by_contra other
      have small : 'e' ≠ mark := fun same => bare.small (same ▸ List.mem_cons_self ..)
      have noMark : (mark == 'e' || mark == 'E') = false := by simp [other, small.symm]
      simp [Decimal.exponent?, noMark] at read
    have rest : IsBare power := (show IsBare (['E'] ++ power) from bare).of_append
    rw [exponent?_of_isBare rest, Option.map_eq_some_iff] at read
    obtain ⟨n, found, rfl⟩ := read
    obtain ⟨nonempty, digits, rfl⟩ := ofDigits?_ten_eq_some_iff.mp found
    exact ⟨some power, digits, fun empty => nonempty (Option.some.inj empty), rfl, rfl⟩

theorem exists_numeral_of_parts {whole tail : List Char} (fraction : Option (List Char))
    (bare : IsBare tail) (read : Decimal.ofParts? whole (fraction.getD []) tail = some d) :
    ∃ n : Numeral, n.text = whole ++ (fraction.elim [] ('.' :: ·) ++ tail) ∧ n.decimal = d := by
  unfold Decimal.ofParts? at read
  split at read
  · next coefficient e found exponent =>
    obtain ⟨significant, digits, rfl⟩ := ofDigits?_ten_eq_some_iff.mp found
    obtain ⟨power, powerDigits, nonempty, rfl, rfl⟩ := exists_power bare exponent
    exact ⟨⟨whole, fraction, power, digits, powerDigits, significant, nonempty⟩, rfl,
      Option.some.inj read⟩
  · cases read

theorem exists_numeral (bare : IsBare cs) (read : Decimal.ofText? cs = some d) :
    ∃ n : Numeral, n.text = cs ∧ n.decimal = d := by
  have split := (cs.takeWhile_append_dropWhile (p := Char.isDigit)).symm
  have whole := areDigits_takeWhile cs
  have stop := dropWhile_stop cs
  generalize cs.takeWhile Char.isDigit = front at *
  generalize cs.dropWhile Char.isDigit = rest at *
  subst split
  by_cases point : rest.head? = some '.'
  · obtain ⟨more, rfl⟩ := List.head?_eq_some_iff.mp point
    have split := (more.takeWhile_append_dropWhile (p := Char.isDigit)).symm
    have inner := areDigits_takeWhile more
    have last := dropWhile_stop more
    generalize more.takeWhile Char.isDigit = fraction at *
    generalize more.dropWhile Char.isDigit = tail at *
    subst split
    rw [ofText?_of_fraction whole inner last] at read
    have behind : IsBare (('.' :: fraction) ++ tail) := bare.of_append
    exact exists_numeral_of_parts (some fraction) behind.of_append read
  · have pointless : ∀ c ∈ rest.head?, c.isDigit = false ∧ c ≠ '.' :=
      fun c member => ⟨stop c member, fun same => point (same ▸ member)⟩
    rw [ofText?_of_integer whole pointless] at read
    exact exists_numeral_of_parts none bare.of_append read

end Reading

section Writing

variable {m : Magnitude} {d : Decimal}

/-- Digits with a point and at least one digit on each side of it. -/
def Decimal.positional (d : Decimal) : List Char :=
  let digits := Nat.toDigits 10 d.coefficient
  let order : Int := digits.length + d.exponent
  if d.exponent ≥ 0 then digits ++ Binary64.zeros d.exponent.natAbs ++ ['.', '0']
  else if order > 0 then digits.take order.natAbs ++ '.' :: digits.drop order.natAbs
  else '0' :: '.' :: Binary64.zeros order.natAbs ++ digits

/-- Whether a number is written without an exponent. -/
def Decimal.IsModerate (d : Decimal) : Prop := d.coefficient ≠ 0 → -3 ≤ d.order ∧ d.order ≤ 16

theorem extreme_iff (d : Decimal) :
    (d.coefficient != 0 && (((Nat.toDigits 10 d.coefficient).length + d.exponent : Int) > 16 ||
      ((Nat.toDigits 10 d.coefficient).length + d.exponent : Int) < -3)) = true ↔
    ¬ d.IsModerate := by
  have order (positive : d.coefficient ≠ 0) :
      ((Nat.toDigits 10 d.coefficient).length + d.exponent : Int) = d.order := by
    rw [Decimal.order, Decimal.digitCount, if_neg positive]
  unfold Decimal.IsModerate
  by_cases zero : d.coefficient = 0
  · simp [zero]
  · simp only [order zero, zero, bne_iff_ne, ne_eq, not_false_iff, Bool.and_eq_true,
      Bool.or_eq_true, decide_eq_true_eq, true_and, true_imp_iff]
    omega

theorem writeMagnitude_of_isModerate (moderate : m.shortest.IsModerate) :
    Binary64.writeMagnitude m = m.shortest.positional :=
  if_neg (mt (extreme_iff _).mp (not_not.mpr moderate))

theorem mem_writeMagnitude (extreme : ¬ m.shortest.IsModerate) :
    'e' ∈ Binary64.writeMagnitude m := by
  unfold Binary64.writeMagnitude
  rw [if_pos ((extreme_iff _).mpr extreme)]
  simp

theorem areDigits_zeros (k : Nat) : AreDigits (Binary64.zeros k) := fun _ member =>
  List.eq_of_mem_replicate member ▸ rfl

theorem ofDigitChars_zeros (k : Nat) (cs : List Char) :
    Nat.ofDigitChars 10 (Binary64.zeros k ++ cs) 0 = Nat.ofDigitChars 10 cs 0 := by
  rw [Nat.ofDigitChars_append, Binary64.zeros, Nat.ofDigitChars_replicate_zero, Nat.mul_zero]

/-- A row of digits with a point in it. -/
def Numeral.ofDigits (whole fraction : List Char) (digits : AreDigits (whole ++ fraction))
    (significant : whole ++ fraction ≠ []) : Numeral :=
  ⟨whole, some fraction, none, digits, areDigits_nil, significant, nofun⟩

theorem Numeral.text_ofDigits {whole fraction : List Char} (digits : AreDigits (whole ++ fraction))
    (significant : whole ++ fraction ≠ []) :
    (Numeral.ofDigits whole fraction digits significant).text = whole ++ '.' :: fraction := by
  simp [Numeral.ofDigits, Numeral.text, Numeral.tail]

theorem Numeral.decimal_ofDigits {whole fraction : List Char}
    (digits : AreDigits (whole ++ fraction)) (significant : whole ++ fraction ≠ []) :
    (Numeral.ofDigits whole fraction digits significant).decimal =
      ⟨Nat.ofDigitChars 10 (whole ++ fraction) 0, -(fraction.length : Int)⟩ := by
  simp [Numeral.ofDigits, Numeral.decimal]

/-- A number as its digits and the place of the point say, with a place behind the point. -/
def Decimal.pointed (d : Decimal) : Decimal :=
  if d.exponent ≥ 0 then ⟨10 * (10 ^ d.exponent.natAbs * d.coefficient), -1⟩ else d

theorem value_pointed (d : Decimal) : d.pointed.value = d.value := by
  unfold Decimal.pointed
  split
  · next integer =>
    unfold Decimal.value
    rw [Magnitude.zpow_eq_natAbs integer]
    push_cast
    ring
  · rfl

theorem exists_numeral_positional (d : Decimal) :
    ∃ n : Numeral, n.text = d.positional ∧ n.decimal = d.pointed := by
  have digits := areDigits_toDigits d.coefficient
  have nonempty : Nat.toDigits 10 d.coefficient ≠ [] := Nat.toDigits_ne_nil
  have read : Nat.ofDigitChars 10 (Nat.toDigits 10 d.coefficient) 0 = d.coefficient :=
    Nat.ofDigitChars_ten_toDigits
  unfold Decimal.positional Decimal.pointed
  dsimp only
  split
  · next integer =>
    have all : AreDigits ((Nat.toDigits 10 d.coefficient ++ Binary64.zeros d.exponent.natAbs) ++
        Binary64.zeros 1) :=
      areDigits_append.mpr ⟨areDigits_append.mpr ⟨digits, areDigits_zeros _⟩, areDigits_zeros 1⟩
    refine ⟨.ofDigits _ _ all (by simp [nonempty]), Numeral.text_ofDigits all _, ?_⟩
    rw [Numeral.decimal_ofDigits]
    simp only [Nat.ofDigitChars_append, Binary64.zeros, Nat.ofDigitChars_replicate_zero, read,
      Nat.pow_one, List.length_replicate, Nat.cast_one]
  · next negative =>
    split
    · next inside =>
      generalize split : Int.natAbs _ = k
      have joined := List.take_append_drop k (Nat.toDigits 10 d.coefficient)
      have all := joined.symm ▸ digits
      refine ⟨.ofDigits _ _ all (by rw [joined]; exact nonempty), Numeral.text_ofDigits all _, ?_⟩
      have exponent : -(((Nat.toDigits 10 d.coefficient).drop k).length : Int) = d.exponent := by
        rw [List.length_drop]
        omega
      rw [Numeral.decimal_ofDigits, joined, read, exponent]
    · next outside =>
      generalize split : Int.natAbs _ = k
      have all : AreDigits (Binary64.zeros 1 ++ (Binary64.zeros k ++
          Nat.toDigits 10 d.coefficient)) :=
        areDigits_append.mpr ⟨areDigits_zeros 1, areDigits_append.mpr ⟨areDigits_zeros k, digits⟩⟩
      refine ⟨.ofDigits _ _ all (by simp [nonempty]), Numeral.text_ofDigits all _, ?_⟩
      have exponent : -((Binary64.zeros k ++ Nat.toDigits 10 d.coefficient).length : Int) =
          d.exponent := by
        simp only [Binary64.zeros, List.length_append, List.length_replicate]
        omega
      rw [Numeral.decimal_ofDigits, ofDigitChars_zeros, ofDigitChars_zeros, read, exponent]

theorem ofText?_positional (d : Decimal) : Decimal.ofText? d.positional = some d.pointed := by
  obtain ⟨n, text, decimal⟩ := exists_numeral_positional d
  rw [← text, ofText?_text, decimal]

theorem toDigits_tenfold {n : Nat} (positive : 0 < n) :
    Nat.toDigits 10 (10 * n) = Nat.toDigits 10 n ++ ['0'] :=
  (Nat.toDigits_append_toDigits (by decide) positive (by decide : 0 < 10)).symm

theorem toDigits_mul_pow {n : Nat} (positive : 0 < n) (k : Nat) :
    Nat.toDigits 10 (10 ^ k * n) = Nat.toDigits 10 n ++ Binary64.zeros k := by
  induction k with
  | zero => simp [Binary64.zeros]
  | succ k ih =>
    rw [Nat.pow_succ', Nat.mul_assoc, toDigits_tenfold (by positivity), ih, Binary64.zeros,
      Binary64.zeros, List.replicate_succ', List.append_assoc]

theorem positional_tenths {n : Nat} (positive : 0 < n) (k : Nat) :
    (Decimal.mk (10 * (10 ^ k * n)) (-1)).positional = (Decimal.mk n k).positional := by
  have digits : Nat.toDigits 10 (10 * (10 ^ k * n)) =
      Nat.toDigits 10 n ++ Binary64.zeros k ++ ['0'] := by
    rw [toDigits_tenfold (by positivity), toDigits_mul_pow positive]
  generalize front : Nat.toDigits 10 n ++ Binary64.zeros k = whole at digits
  have nonempty : 0 < whole.length := by
    rw [← front, List.length_append]
    exact Nat.add_pos_left Nat.length_toDigits_pos _
  have place : ((whole ++ ['0']).length + -1 : Int) = whole.length := by simp
  unfold Decimal.positional
  dsimp only
  rw [digits, place, if_neg (by decide), if_pos (by exact_mod_cast nonempty),
    if_pos (Int.natCast_nonneg k), Int.natAbs_natCast, Int.natAbs_natCast, List.take_left,
    List.drop_left, front]

theorem point_mem_positional (d : Decimal) : '.' ∈ d.positional := by
  unfold Decimal.positional
  dsimp only
  split
  · simp
  · split
    · simp
    · simp

end Writing

end ModelCatalog.Number
