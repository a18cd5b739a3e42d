import Mathlib.Data.Nat.Factorization.Basic
import ModelCatalog.Markup.Decode
import ModelCatalog.Proofs.ShortestDecimals
import ModelCatalog.Proofs.WrittenNumbers

/-! Plain scalars of digits, capital letters and points, such as codes and versions. A field for any
scalar keeps such a text as it is written, unless it is read as a number that is written
otherwise. -/
namespace ModelCatalog.Markup

open Number

def isCodeCharacter (c : Char) : Bool := c.isDigit || c.isUpper || c == '.'

/-- Digits, capital letters and points that are no word for a value of their own. -/
structure IsCode (token : String) : Prop where
  characters : token.toList.all isCodeCharacter = true
  nonempty : token ≠ ""
  noWord : token ∉ ["NULL", "TRUE", "FALSE", ".INF", ".NAN"]

/-- Tokens that are kept as they are written. -/
inductive Kept : List Char → Prop
  /-- What is no numeral. -/
  | word {cs : List Char} : (∀ n : Numeral, n.text ≠ cs) → Kept cs
  /-- Digits behind a zero. -/
  | padded {digits : List Char} : AreDigits digits → digits ≠ [] → Kept ('0' :: digits)
  /-- An integer of up to 64 bits. -/
  | integer {n : Nat} : n < 2 ^ 64 → Kept (Nat.toDigits 10 n)
  /-- A number with a point that no shorter one can stand for. -/
  | fraction {d : Decimal} : d.IsModerate → d.IsShortest → Kept d.positional
  /-- A number beyond the greatest. -/
  | great {n : Numeral} : Magnitude.limit ≤ n.decimal.value → Kept n.text

/-- Whether an integer needs more than 64 bits, and no more than 128. -/
def IsTooWide (cs : List Char) : Prop := ∃ n, 2 ^ 64 ≤ n ∧ n < 2 ^ 128 ∧ cs = Nat.toDigits 10 n

section Characters

variable {token word : String} {c : Char} {cs : List Char}

theorem IsCode.not_mem (code : IsCode token) (other : isCodeCharacter c = false) :
    c ∉ token.toList := fun member => by
  rw [List.all_eq_true.mp code.characters c member] at other
  cases other

theorem IsCode.isBare (code : IsCode token) : IsBare token.toList :=
  ⟨code.not_mem rfl, code.not_mem rfl, code.not_mem rfl⟩

theorem IsCode.ne (code : IsCode token) (word : String)
    (other : word.toList.all isCodeCharacter = false) : token ≠ word := by
  rintro rfl
  rw [code.characters] at other
  cases other

theorem IsCode.toList_ne_nil (code : IsCode token) : token.toList ≠ [] := fun empty =>
  code.nonempty (String.toList_eq_nil_iff.mp empty)

theorem IsCode.isNullWord (code : IsCode token) : isNullWord token = false := by
  have capital : token ≠ "NULL" := fun same => code.noWord (by simp [same])
  simp [Markup.isNullWord, code.ne "null" rfl, code.ne "Null" rfl, capital, code.ne "~" rfl]

theorem IsCode.boolean? (code : IsCode token) : boolean? token = none := by
  have yes : token ≠ "TRUE" := fun same => code.noWord (by simp [same])
  have no : token ≠ "FALSE" := fun same => code.noWord (by simp [same])
  simp [Markup.boolean?, code.ne "true" rfl, code.ne "True" rfl, yes, code.ne "false" rfl,
    code.ne "False" rfl, no]

theorem IsCode.specialFloat? (code : IsCode token) : specialFloat? token = none := by
  have infinity : token ≠ ".INF" := fun same => code.noWord (by simp [same])
  have none : token ≠ ".NAN" := fun same => code.noWord (by simp [same])
  simp [Markup.specialFloat?, infinity, none, code.ne ".inf" rfl, code.ne ".Inf" rfl,
    code.ne "+.inf" rfl, code.ne "+.Inf" rfl, code.ne "+.INF" rfl, code.ne "-.inf" rfl,
    code.ne "-.Inf" rfl, code.ne "-.INF" rfl, code.ne ".nan" rfl, code.ne ".NaN" rfl]

theorem prefixed?_eq_none (sixteen : 'x' ∉ cs) (eight : 'o' ∉ cs) (two : 'b' ∉ cs) :
    prefixed? cs = none := by
  unfold prefixed?
  split
  · exact absurd (by simp) sixteen
  · exact absurd (by simp) eight
  · exact absurd (by simp) two
  · rfl

theorem IsCode.natural? (code : IsCode token) : natural? token.toList =
    if hasLeadingZero token.toList then none else ofDigits? 10 token.toList := by
  have unprefixed := prefixed?_eq_none (code.not_mem rfl : 'x' ∉ token.toList)
    (code.not_mem rfl) (code.not_mem rfl)
  unfold Markup.natural?
  split
  · next rest split => exact absurd (split ▸ List.mem_cons_self ..) (code.isBare.plus)
  · dsimp only
    rw [unprefixed, Option.none_or]

theorem IsCode.negative? (code : IsCode token) : negative? token.toList = none := by
  unfold Markup.negative?
  split
  · next rest split => exact absurd (split ▸ List.mem_cons_self ..) (code.isBare.minus)
  · rfl

theorem hasLeadingZero_iff (bare : IsBare cs) : hasLeadingZero cs = true ↔
    ∃ digits, AreDigits digits ∧ digits ≠ [] ∧ cs = '0' :: digits := by
  unfold hasLeadingZero
  split
  · exact absurd (List.mem_cons_self ..) bare.minus
  · exact absurd (List.mem_cons_self ..) bare.plus
  · dsimp only
    split
    · next digits _ =>
      simp [AreDigits, and_comm]
    · next other =>
      simp only [Bool.false_eq_true, false_iff, not_exists, not_and]
      exact fun digits _ _ => other digits

end Characters

section Classes

variable {token : String} {n : Nat}

/-- What stands for a float, or for itself if it is none. -/
def floatOrText (token : String) : Value :=
  match Binary64.ofText? token.toList with
  | some x => .float x
  | none => .text token

theorem plainValue?_of_isCode (code : IsCode token) : plainValue? token =
    match fit token.toList with
    | .word n => some (.integer n)
    | .tooWide => none
    | .noInteger =>
      if hasLeadingZero token.toList then some (.text token) else some (floatOrText token) := by
  have empty : token.isEmpty = false := by
    rw [Bool.eq_false_iff, ne_eq, String.isEmpty_iff]
    exact code.nonempty
  have float : float? token = Binary64.ofText? token.toList := by
    rw [float?, code.specialFloat?, Option.none_or]
  unfold plainValue? floatOrText
  simp only [empty, code.isNullWord, code.boolean?, float, Bool.or_self, Bool.false_eq_true,
    if_false]
  cases fit token.toList with
  | word n => rfl
  | tooWide => rfl
  | noInteger =>
    cases Binary64.ofText? token.toList <;> rfl

theorem fit_of_isCode (code : IsCode token) : fit token.toList =
    match if hasLeadingZero token.toList then none else ofDigits? 10 token.toList with
    | some n =>
      if n < 2 ^ 64 then .word n else if n < 2 ^ 128 then .tooWide else .noInteger
    | none => .noInteger := by
  unfold fit
  rw [code.natural?, code.negative?]
  split <;> simp_all

theorem plainValue?_padded {digits : List Char} (code : IsCode token) (isDigits : AreDigits digits)
    (nonempty : digits ≠ []) (split : token.toList = '0' :: digits) :
    plainValue? token = some (.text token) := by
  have zero := (hasLeadingZero_iff code.isBare).mpr ⟨digits, isDigits, nonempty, split⟩
  rw [plainValue?_of_isCode code, fit_of_isCode code, if_pos zero]
  exact if_pos zero

theorem plainValue?_integer (code : IsCode token) (split : token.toList = Nat.toDigits 10 n) :
    plainValue? token = if n < 2 ^ 64 then some (.integer n) else if n < 2 ^ 128 then none
      else some (floatOrText token) := by
  have noZero : ¬ hasLeadingZero token.toList = true := by
    rw [hasLeadingZero_iff code.isBare, split]
    exact fun ⟨_, _, nonempty, zero⟩ => nonempty (toDigits_eq_zero_cons zero)
  have found : ofDigits? 10 token.toList = some n :=
    ofDigits?_ten_eq_some_iff.mpr
      ⟨code.toList_ne_nil, split ▸ areDigits_toDigits n, split ▸ Nat.ofDigitChars_ten_toDigits⟩
  rw [plainValue?_of_isCode code, fit_of_isCode code, if_neg noZero, found]
  by_cases word : n < 2 ^ 64
  · simp only [if_pos word]
  · by_cases wide : n < 2 ^ 128
    · simp only [if_neg word, if_pos wide]
    · simp only [if_neg word, if_neg wide, if_neg noZero]

theorem plainValue?_other (code : IsCode token) (other : ¬ AreDigits token.toList) :
    plainValue? token = some (floatOrText token) := by
  have noZero : ¬ hasLeadingZero token.toList = true := by
    rw [hasLeadingZero_iff code.isBare]
    rintro ⟨digits, isDigits, _, split⟩
    exact other (split ▸ areDigits_cons.mpr ⟨rfl, isDigits⟩)
  have missing : ofDigits? 10 token.toList = none := by
    cases found : ofDigits? 10 token.toList with
    | none => rfl
    | some n => exact absurd (ofDigits?_ten_eq_some_iff.mp found).2.1 other
  rw [plainValue?_of_isCode code, fit_of_isCode code, if_neg noZero, missing]
  exact if_neg noZero

/-- A code is padded digits, an integer or not made of digits alone. -/
theorem IsCode.cases (code : IsCode token) :
    (∃ digits, AreDigits digits ∧ digits ≠ [] ∧ token.toList = '0' :: digits) ∨
      (∃ n, token.toList = Nat.toDigits 10 n) ∨ ¬ AreDigits token.toList := by
  by_cases digits : AreDigits token.toList
  · exact (toDigits_of_areDigits digits code.toList_ne_nil).imp_right .inl
  · exact .inr (.inr digits)

end Classes

section Keeping

variable {token : String} {n : Nat}

theorem ofText?_of_isCode (code : IsCode token) : Binary64.ofText? token.toList =
    ((Decimal.ofText? token.toList).bind Decimal.toMagnitude?).map (.finite false) := by
  unfold Binary64.ofText?
  split
  next negative digits parts =>
    split at parts
    · next rest split => exact absurd (split ▸ List.mem_cons_self ..) code.isBare.minus
    · next rest split => exact absurd (split ▸ List.mem_cons_self ..) code.isBare.plus
    · cases parts
      rfl

theorem floatOrText_numeral (code : IsCode token) (numeral : Numeral)
    (split : numeral.text = token.toList) : (floatOrText token).freeText? =
      match numeral.decimal.toMagnitude? with
      | some m => some (String.ofList (Binary64.writeMagnitude m))
      | none => some token := by
  rw [floatOrText, ofText?_of_isCode code, ← split, ofText?_text, Option.bind_some]
  cases numeral.decimal.toMagnitude? <;> rfl

theorem floatOrText_word (code : IsCode token)
    (word : ∀ numeral : Numeral, numeral.text ≠ token.toList) : floatOrText token = .text token := by
  have unread : Decimal.ofText? token.toList = none := by
    cases read : Decimal.ofText? token.toList with
    | none => rfl
    | some d =>
      obtain ⟨numeral, text, _⟩ := exists_numeral code.isBare read
      exact absurd text (word numeral)
  rw [floatOrText, ofText?_of_isCode code, unread]
  rfl

theorem exists_numeral_digits {cs : List Char} (digits : AreDigits cs) (nonempty : cs ≠ []) :
    ∃ numeral : Numeral, numeral.text = cs ∧
      numeral.decimal = ⟨Nat.ofDigitChars 10 cs 0, 0⟩ := by
  refine ⟨⟨cs, none, none, ?_, areDigits_nil, ?_, (Option.some_ne_none []).symm⟩, ?_, ?_⟩
  · simpa using digits
  · simpa using nonempty
  · simp [Numeral.text, Numeral.tail]
  · simp [Numeral.decimal]

theorem decimal_of_toDigits (numeral : Numeral) (text : numeral.text = Nat.toDigits 10 n) :
    numeral.decimal = ⟨n, 0⟩ := by
  obtain ⟨digits, same, decimal⟩ :=
    exists_numeral_digits (areDigits_toDigits n) Nat.toDigits_ne_nil
  have read := ofText?_text numeral
  rw [text, ← same, ofText?_text, Option.some.injEq, decimal, Nat.ofDigitChars_ten_toDigits] at read
  exact read.symm

theorem pow_le_of_great (great : Magnitude.limit ≤ (Decimal.mk n 0).value) : 2 ^ 128 ≤ n := by
  have power : (2 : ℚ) ^ 128 ≤ n := by
    calc (2 : ℚ) ^ 128 ≤ 2 ^ (Magnitude.greatestExponent + 52) := by
          rw [← zpow_natCast]
          exact zpow_le_zpow_right₀ one_le_two (by decide)
      _ ≤ Magnitude.limit := Magnitude.le_limit
      _ ≤ n := by simpa [Decimal.value] using great
  exact_mod_cast power

theorem plainText?_of_kept (code : IsCode token) (kept : Kept token.toList) :
    (plainValue? token).bind Value.freeText? = some token := by
  generalize split : token.toList = cs at kept
  cases kept with
  | word word =>
    have other : ¬ AreDigits token.toList := fun digits => by
      obtain ⟨numeral, text, _⟩ := exists_numeral_digits digits code.toList_ne_nil
      exact word numeral (text.trans split)
    rw [plainValue?_other code other, floatOrText_word code (split ▸ word)]
    rfl
  | @padded digits isDigits nonempty =>
    rw [plainValue?_padded code isDigits nonempty split]
    rfl
  | @integer n word =>
    rw [plainValue?_integer code split, if_pos word, Option.bind_some]
    refine congrArg some ((Nat.toString_eq_ofList_toDigits (n := n)).trans ?_)
    rw [← split, String.ofList_toList]
  | @fraction d moderate shortest =>
    have other : ¬ AreDigits token.toList := fun digits => by
      have point := digits '.' (split ▸ point_mem_positional d)
      cases point
    obtain ⟨numeral, text, decimal⟩ := exists_numeral_positional d
    obtain ⟨m, found, rfl⟩ := shortest
    rw [plainValue?_other code other, Option.bind_some,
      floatOrText_numeral code numeral (text.trans split.symm), decimal,
      Decimal.toMagnitude?_congr (value_pointed _), found]
    dsimp only
    rw [writeMagnitude_of_isModerate moderate, ← split, String.ofList_toList]
  | @great numeral great =>
    have unchanged : (floatOrText token).freeText? = some token := by
      rw [floatOrText_numeral code numeral split.symm,
        Decimal.toMagnitude?_eq_none_iff.mpr great]
    rcases code.cases with ⟨digits, isDigits, nonempty, padded⟩ | ⟨n, integer⟩ | other
    · rw [plainValue?_padded code isDigits nonempty padded]
      rfl
    · rw [decimal_of_toDigits numeral (split.symm.trans integer)] at great
      have wide := pow_le_of_great great
      rw [plainValue?_integer code integer, if_neg (by omega), if_neg (by omega)]
      exact unchanged
    · rw [plainValue?_other code other]
      exact unchanged

/-- What a float is written as is kept only if it has no exponent. -/
theorem kept_of_floatOrText (code : IsCode token)
    (same : (floatOrText token).freeText? = some token) : Kept token.toList := by
  by_cases word : ∀ numeral : Numeral, numeral.text ≠ token.toList
  · exact .word word
  · obtain ⟨numeral, text⟩ := not_forall_not.mp word
    rw [floatOrText_numeral code numeral text] at same
    cases found : numeral.decimal.toMagnitude? with
    | none => exact text ▸ .great (Decimal.toMagnitude?_eq_none_iff.mp found)
    | some m =>
      rw [found] at same
      have written : Binary64.writeMagnitude m = token.toList := by
        rw [← Option.some.inj same, String.toList_ofList]
      by_cases moderate : m.shortest.IsModerate
      · rw [writeMagnitude_of_isModerate moderate] at written
        have read := ofText?_text numeral
        rw [text, ← written, ofText?_positional, Option.some.injEq] at read
        rw [← read, Decimal.toMagnitude?_congr (value_pointed _)] at found
        exact written ▸ .fraction moderate ⟨m, found, rfl⟩
      · exact absurd (written ▸ mem_writeMagnitude moderate) code.isBare.small

theorem kept_of_plainText? (code : IsCode token)
    (same : (plainValue? token).bind Value.freeText? = some token) : Kept token.toList := by
  rcases code.cases with ⟨digits, isDigits, nonempty, padded⟩ | ⟨n, integer⟩ | other
  · exact padded ▸ .padded isDigits nonempty
  · rw [plainValue?_integer code integer] at same
    split at same
    · next word => exact integer ▸ .integer word
    · split at same
      · cases same
      · exact kept_of_floatOrText code same
  · rw [plainValue?_other code other] at same
    exact kept_of_floatOrText code same

theorem plainText?_eq_some_iff (code : IsCode token) :
    (plainValue? token).bind Value.freeText? = some token ↔ Kept token.toList :=
  ⟨kept_of_plainText? code, plainText?_of_kept code⟩

/-- The only texts that are refused are integers of more than 64 and up to 128 bits. -/
theorem plainText?_eq_none_iff (code : IsCode token) :
    (plainValue? token).bind Value.freeText? = none ↔ IsTooWide token.toList := by
  have float : (some (floatOrText token)).bind Value.freeText? ≠ none := by
    rw [Option.bind_some, floatOrText]
    cases Binary64.ofText? token.toList <;> exact Option.some_ne_none _
  constructor
  · intro refused
    rcases code.cases with ⟨digits, isDigits, nonempty, padded⟩ | ⟨n, integer⟩ | other
    · rw [plainValue?_padded code isDigits nonempty padded] at refused
      cases refused
    · rw [plainValue?_integer code integer] at refused
      split at refused
      · cases refused
      · next large =>
        split at refused
        · next wide => exact ⟨n, not_lt.mp large, wide, integer⟩
        · exact absurd refused float
    · rw [plainValue?_other code other] at refused
      exact absurd refused float
  · rintro ⟨n, large, wide, integer⟩
    rw [plainValue?_integer code integer, if_neg (not_lt.mpr large), if_pos wide]
    rfl

theorem kept_tenths {whole : Nat} (moderate : (Decimal.mk (10 * whole) (-1)).IsModerate)
    (short : 10 * whole < 10 ^ 15) : Kept (Decimal.mk (10 * whole) (-1)).positional := by
  rcases Nat.eq_zero_or_pos whole with rfl | positive
  · have kept : Kept (Decimal.mk 0 0).positional :=
      .fraction (fun nonzero => absurd rfl nonzero) Decimal.isShortest_zero
    exact kept
  · -- an integer is written by its digits up to the last that is not zero
    obtain ⟨k, n, indivisible, rfl⟩ := Nat.exists_eq_pow_mul_and_not_dvd positive.ne' 10 (by decide)
    have last : n % 10 ≠ 0 := mt Nat.dvd_of_mod_eq_zero indivisible
    have nonzero : 0 < n := Nat.pos_of_ne_zero fun nothing => last (by rw [nothing])
    have same : (Decimal.mk (10 * (10 ^ k * n)) (-1)).value = (Decimal.mk n k).value := by
      unfold Decimal.value
      rw [zpow_natCast, zpow_neg_one]
      push_cast
      ring
    have order := moderate (by positivity)
    rw [Decimal.order_congr (by positivity) same] at order
    have fewer : n ≤ 10 ^ k * n := Nat.le_mul_of_pos_left n (by positivity)
    rw [positional_tenths nonzero]
    exact .fraction (fun _ => order)
      (Decimal.isShortest_of_digits last (by dsimp only; omega) (by omega) (by omega))

theorem value_lt_limit_of_moderate {d : Decimal} (moderate : d.IsModerate) :
    d.value < Magnitude.limit := by
  by_cases zero : d.coefficient = 0
  · rw [Decimal.value_eq_zero_iff.mpr zero]
    exact zero_lt_one.trans_le Magnitude.one_le_limit
  · have order := moderate zero
    exact Decimal.value_lt_limit (by omega)

theorem last_of_kept_positional {d : Decimal} (fraction : d.exponent < 0) (moderate : d.IsModerate)
    (kept : Kept d.positional) : d.exponent = -1 ∨ d.coefficient % 10 ≠ 0 := by
  have pointed : d.pointed = d := if_neg (not_le.mpr fraction)
  have read := ofText?_positional d
  rw [pointed] at read
  generalize split : d.positional = cs at kept
  rw [split] at read
  cases kept with
  | word word =>
    obtain ⟨numeral, text, _⟩ := exists_numeral_positional d
    exact absurd (text.trans split) (word numeral)
  | @padded digits isDigits nonempty =>
    have point := areDigits_cons.mpr ⟨rfl, isDigits⟩ '.' (split ▸ point_mem_positional d)
    cases point
  | @integer n word =>
    have point := areDigits_toDigits n '.' (split ▸ point_mem_positional d)
    cases point
  | @fraction d' moderate' shortest =>
    rw [ofText?_positional, Option.some.injEq, Decimal.pointed] at read
    split at read
    · exact .inl (read ▸ rfl)
    · rcases shortest.last_digit with rfl | last
      · exact absurd fraction (by rw [← read]; decide)
      · exact .inr (read ▸ last)
  | @great numeral great =>
    rw [ofText?_text, Option.some.injEq] at read
    exact absurd (read ▸ great) (not_le.mpr (value_lt_limit_of_moderate moderate))

/-- Up to fifteen digits with a point among them are kept if no superfluous zero is at the end. -/
theorem kept_positional_iff {d : Decimal} (fraction : d.exponent < 0) (moderate : d.IsModerate)
    (short : d.coefficient < 10 ^ 15) :
    Kept d.positional ↔ d.exponent = -1 ∨ d.coefficient % 10 ≠ 0 := by
  refine ⟨last_of_kept_positional fraction moderate, fun last => ?_⟩
  by_cases zero : d.coefficient % 10 = 0
  · obtain ⟨whole, tenfold⟩ := Nat.dvd_of_mod_eq_zero zero
    obtain ⟨c, e⟩ := d
    obtain rfl : e = -1 := last.resolve_right (not_not.mpr zero)
    obtain rfl : c = 10 * whole := tenfold
    exact kept_tenths moderate short
  · have order := moderate fun nothing => zero (by rw [nothing])
    exact .fraction moderate (Decimal.isShortest_of_digits zero short (by omega) (by omega))

end Keeping

end ModelCatalog.Markup
