import Mathlib.Algebra.Order.Field.Power
import Mathlib.Algebra.Order.Field.Rat
import Mathlib.Tactic.FieldSimp
import Mathlib.Tactic.Linarith
import Mathlib.Tactic.NormNum
import Mathlib.Tactic.Positivity
import Mathlib.Tactic.Ring
import ModelCatalog.Number.Binary64

/-! Rounding in terms of rational numbers. A decimal fraction is rounded by its value alone, to a
number among whose neighbours the value is; only from the middle between the greatest number and
the next power of two on is there no such number. -/
namespace ModelCatalog.Number

def Magnitude.value (m : Magnitude) : ℚ := m.mantissa * 2 ^ m.exponent

def Decimal.value (d : Decimal) : ℚ := d.coefficient * 10 ^ d.exponent

namespace Magnitude

/-- Whether a number is written with 53 bits, or with fewer and the least exponent. -/
structure IsNormal (m : Magnitude) : Prop where
  least : leastExponent ≤ m.exponent
  bits : m.mantissa < 2 ^ 53
  leading : leastExponent < m.exponent → 2 ^ 52 ≤ m.mantissa
  greatest : m.exponent ≤ greatestExponent

/-- Where the numbers below this one begin. -/
def low (m : Magnitude) : ℚ := m.quarters.1 / 4 * 2 ^ m.exponent

/-- Where the numbers above this one begin. -/
def high (m : Magnitude) : ℚ := m.quarters.2.2 / 4 * 2 ^ m.exponent

/-- The rational numbers that round to this one. The bounds are halfway to the next number and
belong to the one of the two that is even. -/
def neighbours (m : Magnitude) : Set ℚ :=
  if m.mantissa % 2 = 0 then Set.Icc m.low m.high else Set.Ioo m.low m.high

/-- The binary exponent with which a positive number is rounded. -/
structure IsExponent (v : ℚ) (e : Int) : Prop where
  least : leastExponent ≤ e
  below : v < 2 ^ (e + 53)
  leading : leastExponent < e → 2 ^ (e + 52) ≤ v

/-- The integer next to a number, an even one if the number is halfway between two. -/
structure IsNearest (v : ℚ) (r : Nat) : Prop where
  below : (r : ℚ) - 1 / 2 ≤ v
  above : v ≤ r + 1 / 2
  even : v = r - 1 / 2 ∨ v = r + 1 / 2 → r % 2 = 0

/-- What a mantissa of up to 53 bits is after a carry, unless it is beyond the greatest number. -/
def carried? (mantissa : Nat) (exponent : Int) : Option Magnitude :=
  if mantissa = 2 ^ 53 then
    if greatestExponent < exponent + 1 then none else some ⟨2 ^ 52, exponent + 1⟩
  else if greatestExponent < exponent then none else some ⟨mantissa, exponent⟩

theorem zpow_eq_natAbs {base : ℚ} {shift : Int} (sign : 0 ≤ shift) :
    base ^ shift = base ^ shift.natAbs := by
  conv_lhs => rw [← Int.natAbs_of_nonneg sign, zpow_natCast]

theorem zpow_eq_inv_natAbs {base : ℚ} {shift : Int} (sign : shift < 0) :
    base ^ shift = (base ^ shift.natAbs)⁻¹ := by
  have opposite : shift = -(shift.natAbs : Int) := by omega
  conv_lhs => rw [opposite, zpow_neg, zpow_natCast]

theorem scaled_ratio (n d : Nat) (shift : Int) :
    ((scaled n d shift).1 : ℚ) / (scaled n d shift).2 = n / d / 2 ^ shift := by
  unfold scaled
  split
  · next sign =>
    rw [zpow_eq_inv_natAbs sign]
    simp only [Nat.pow_eq]
    push_cast
    field_simp
  · next sign =>
    rw [zpow_eq_natAbs (not_lt.mp sign)]
    simp only [Nat.pow_eq]
    push_cast
    field_simp

theorem scaled_pos {n d : Nat} (shift : Int) (positive : 0 < d) : 0 < (scaled n d shift).2 := by
  unfold scaled
  split
  · exact positive
  · exact Nat.mul_pos positive (Nat.pow_pos (by decide))

section Exponent

variable {v : ℚ} {n d : Nat} {e e' : Int}

theorem ratio_between_powers {base x y : ℚ} {a b : Int} (greater : 1 < base)
    (xLow : base ^ (a - 1) ≤ x) (xHigh : x < base ^ a) (yLow : base ^ (b - 1) ≤ y)
    (yHigh : y < base ^ b) : base ^ (a - b - 1) < x / y ∧ x / y < base ^ (a - b + 1) := by
  have basePos : 0 < base := zero_lt_one.trans greater
  have yPos : 0 < y := (zpow_pos basePos _).trans_le yLow
  rw [lt_div_iff₀ yPos, div_lt_iff₀ yPos]
  constructor
  · calc base ^ (a - b - 1) * y < base ^ (a - b - 1) * base ^ b := by gcongr
      _ = base ^ (a - 1) := by rw [← zpow_add₀ basePos.ne']; congr 1; ring
      _ ≤ x := xLow
  · calc x < base ^ a := xHigh
      _ = base ^ (a - b + 1) * base ^ (b - 1) := by
        rw [← zpow_add₀ basePos.ne']; congr 1; ring
      _ ≤ base ^ (a - b + 1) * y := by gcongr

theorem log2_bounds (positive : n ≠ 0) :
    (2 : ℚ) ^ ((n.log2 : Int) + 1 - 1) ≤ n ∧ (n : ℚ) < 2 ^ ((n.log2 : Int) + 1) := by
  rw [add_sub_cancel_right, zpow_natCast, zpow_add_one₀ two_ne_zero, zpow_natCast, ← pow_succ]
  exact ⟨by exact_mod_cast Nat.log2_self_le positive, by exact_mod_cast Nat.lt_log2_self⟩

theorem isExponent_max (low : 2 ^ (e + 52) ≤ v) (high : v < 2 ^ (e + 53)) :
    IsExponent v (max e leastExponent) := by
  refine ⟨le_max_right _ _, high.trans_le ?_, fun above => ?_⟩
  · exact zpow_le_zpow_right₀ one_le_two (Int.add_le_add_right (le_max_left e _) 53)
  · rwa [max_eq_left (le_of_lt ((lt_max_iff.mp above).resolve_right (lt_irrefl _)))]

theorem isExponent_exponentOf (numerator : n ≠ 0) (denominator : d ≠ 0) :
    IsExponent (n / d) (exponentOf n d) := by
  obtain ⟨guess, isGuess⟩ : ∃ guess : Int, guess = (n.log2 : Int) - (d.log2 : Int) := ⟨_, rfl⟩
  obtain ⟨floor, ceiling⟩ := ratio_between_powers one_lt_two (log2_bounds numerator).1
    (log2_bounds numerator).2 (log2_bounds denominator).1 (log2_bounds denominator).2
  rw [add_sub_add_right_eq_sub, ← isGuess] at floor ceiling
  have shape : exponentOf n d = max (if (scaled n d guess).1 < (scaled n d guess).2 then
      guess - 53 else guess - 53 + 1) leastExponent := by rw [isGuess]; rfl
  have positive : (0 : ℚ) < (scaled n d guess).2 := by
    exact_mod_cast scaled_pos guess (Nat.pos_of_ne_zero denominator)
  have small : (scaled n d guess).1 < (scaled n d guess).2 ↔ (n : ℚ) / d < 2 ^ guess := by
    rw [← Nat.cast_lt (α := ℚ), ← div_lt_one positive, scaled_ratio, div_lt_one (by positivity)]
  rw [shape]
  simp only [small]
  split
  · next less =>
    apply isExponent_max
    · exact (by ring_nf : (2 : ℚ) ^ (guess - 53 + 52) = 2 ^ (guess - 1)).trans_le floor.le
    · exact less.trans_eq (by ring_nf)
  · next less =>
    apply isExponent_max
    · exact (by ring_nf : (2 : ℚ) ^ (guess - 53 + 1 + 52) = 2 ^ guess).trans_le (not_lt.mp less)
    · exact ceiling.trans_eq (by ring_nf)

theorem IsExponent.unique (first : IsExponent v e) (second : IsExponent v e') : e = e' := by
  -- the greater one of two would have too great a leading bit for the other
  have ordered {e e' : Int} (first : IsExponent v e) (second : IsExponent v e') : e' ≤ e := by
    by_contra less
    have bits := (second.leading (by have := first.least; omega)).trans_lt first.below
    rw [zpow_lt_zpow_iff_right₀ one_lt_two] at bits
    omega
  exact le_antisymm (ordered second first) (ordered first second)

end Exponent

section Nearest

variable {v : ℚ} {n d r r' : Nat}

theorem isNearest_nearest (positive : 0 < d) : IsNearest (n / d) (nearest n d) := by
  have dPos : (0 : ℚ) < d := by exact_mod_cast positive
  have whole : (n : ℚ) / d = (n / d : Nat) + (n % d : Nat) / d := by
    rw [div_eq_iff dPos.ne', add_mul, div_mul_cancel₀ _ dPos.ne', mul_comm]
    exact_mod_cast (Nat.div_add_mod n d).symm
  have nonneg : (0 : ℚ) ≤ (n % d : Nat) / d := by positivity
  have rest : ((n % d : Nat) : ℚ) / d < 1 := by
    rw [div_lt_one dPos]; exact_mod_cast Nat.mod_lt n positive
  have less : 2 * (n % d) < d ↔ ((n % d : Nat) : ℚ) / d < 1 / 2 := by
    rw [div_lt_div_iff₀ dPos two_pos]; norm_cast; omega
  have same : 2 * (n % d) = d ↔ ((n % d : Nat) : ℚ) / d = 1 / 2 := by
    rw [div_eq_div_iff dPos.ne' two_ne_zero]; norm_cast; omega
  rw [whole]
  unfold nearest
  simp only [Bool.or_eq_true, Bool.and_eq_true, decide_eq_true_eq, beq_iff_eq, less, same]
  split
  · next near =>
    have half : ((n % d : Nat) : ℚ) / d ≤ 1 / 2 := near.elim le_of_lt fun tie => tie.1.le
    refine ⟨by linarith, by linarith, ?_⟩
    rintro (tie | tie)
    · linarith
    · exact (near.resolve_left (by linarith)).2
  · next far =>
    rw [not_or, not_lt, not_and] at far
    have next : ((n / d + 1 : Nat) : ℚ) = (n / d : Nat) + 1 := Nat.cast_succ _
    refine ⟨by linarith, by linarith, ?_⟩
    rintro (tie | tie)
    · have := far.2 (by linarith); omega
    · linarith

theorem IsNearest.unique (first : IsNearest v r) (second : IsNearest v r') : r = r' := by
  -- two neighbours would both be even
  have ordered {r r' : Nat} (first : IsNearest v r) (second : IsNearest v r') : r' ≤ r := by
    by_contra less
    have step : (r : ℚ) + 1 ≤ r' := by exact_mod_cast not_le.mp less
    have next : (r' : ℚ) = r + 1 := by linarith [first.above, second.below]
    have even := first.even (.inr (by linarith [first.above, second.below]))
    have even' := second.even (.inl (by linarith [first.above, second.below]))
    have : r' = r + 1 := by exact_mod_cast next
    omega
  exact le_antisymm (ordered second first) (ordered first second)

end Nearest

section Fraction

variable {n d n' d' : Nat} {m : Magnitude}

/-- A fraction is rounded in two steps, each of which its value determines. -/
theorem ofFraction?_eq (numerator : n ≠ 0) (denominator : d ≠ 0) :
    ∃ e r, IsExponent (n / d) e ∧ IsNearest (n / d / 2 ^ e) r ∧ ofFraction? n d = carried? r e := by
  refine ⟨exponentOf n d, nearest (scaled n d (exponentOf n d)).1 (scaled n d (exponentOf n d)).2,
    isExponent_exponentOf numerator denominator, ?_, ?_⟩
  · rw [← scaled_ratio]
    exact isNearest_nearest (scaled_pos _ (Nat.pos_of_ne_zero denominator))
  · have full : Nat.pow 2 bits = 2 ^ 53 := rfl
    have half : Nat.pow 2 (bits - 1) = 2 ^ 52 := rfl
    unfold ofFraction? carried?
    simp only [if_neg numerator, full, half]
    split
    · simp only [gt_iff_lt]
    · simp only [gt_iff_lt]

theorem ofFraction?_congr (denominator : d ≠ 0) (denominator' : d' ≠ 0)
    (same : (n : ℚ) / d = n' / d') : ofFraction? n d = ofFraction? n' d' := by
  have dPos : (d : ℚ) ≠ 0 := by exact_mod_cast denominator
  have dPos' : (d' : ℚ) ≠ 0 := by exact_mod_cast denominator'
  by_cases numerator : n = 0
  · have : n' = 0 := by
      rw [numerator, Nat.cast_zero, zero_div, eq_comm, div_eq_zero_iff] at same
      exact_mod_cast same.resolve_right dPos'
    rw [ofFraction?, ofFraction?, if_pos numerator, if_pos this]
  · have numerator' : n' ≠ 0 := by
      rintro rfl
      rw [Nat.cast_zero, zero_div, div_eq_zero_iff] at same
      exact numerator (by exact_mod_cast same.resolve_right dPos)
    obtain ⟨e, r, exponent, near, shape⟩ := ofFraction?_eq numerator denominator
    obtain ⟨e', r', exponent', near', shape'⟩ := ofFraction?_eq numerator' denominator'
    rw [← same] at exponent' near'
    obtain rfl := exponent.unique exponent'
    obtain rfl := near.unique near'
    rw [shape, shape']

end Fraction

section Bounds

variable {m : Magnitude}

theorem isNormal_zero : IsNormal ⟨0, leastExponent⟩ :=
  ⟨le_rfl, by norm_num, fun above => absurd above (lt_irrefl _), by decide⟩

theorem neighbours_zero :
    neighbours ⟨0, leastExponent⟩ = Set.Icc 0 (1 / 2 * 2 ^ leastExponent) := by
  simp [neighbours, low, high, quarters]
  norm_num

theorem high_eq (m : Magnitude) : m.high = (m.mantissa + 1 / 2) * 2 ^ m.exponent := by
  unfold high quarters
  push_cast
  ring

theorem low_eq (positive : 0 < m.mantissa) : m.low =
    (m.mantissa - if m.mantissa = 2 ^ 52 ∧ leastExponent < m.exponent then 1 / 4 else 1 / 2) *
      2 ^ m.exponent := by
  have condition : (m.mantissa = Nat.pow 2 (bits - 1) && m.exponent > leastExponent) = true ↔
      m.mantissa = 2 ^ 52 ∧ leastExponent < m.exponent := by
    have half : Nat.pow 2 (bits - 1) = 2 ^ 52 := rfl
    rw [Bool.and_eq_true, decide_eq_true_eq, decide_eq_true_eq, half]
  unfold low quarters
  simp only [condition]
  split
  · rw [Nat.cast_sub (by omega)]; push_cast; ring
  · rw [Nat.cast_sub (by omega)]; push_cast; ring

end Bounds

section Carry

variable {m : Magnitude} {v : ℚ} {e : Int} {r : Nat}

theorem carried?_eq_some_iff : carried? r e = some m ↔
    r ≠ 2 ^ 53 ∧ e ≤ greatestExponent ∧ m = ⟨r, e⟩ ∨
      r = 2 ^ 53 ∧ e + 1 ≤ greatestExponent ∧ m = ⟨2 ^ 52, e + 1⟩ := by
  unfold carried?
  split
  · next carry => simp [-Nat.reducePow, carry, eq_comm]
  · next free => simp [-Nat.reducePow, free, eq_comm]

theorem carried?_eq_none_iff : carried? r e = none ↔
    greatestExponent < e ∨ r = 2 ^ 53 ∧ greatestExponent ≤ e := by
  unfold carried?
  split
  · next carry => simp [-Nat.reducePow, carry]; omega
  · next free => simp [-Nat.reducePow, free]

theorem mantissa_bounds (exponent : IsExponent v e) (near : IsNearest (v / 2 ^ e) r) :
    r ≤ 2 ^ 53 ∧ (leastExponent < e → 2 ^ 52 ≤ r) := by
  have below : v / 2 ^ e < 2 ^ 53 := by
    rw [div_lt_iff₀ (by positivity), ← zpow_natCast, ← zpow_add₀ two_ne_zero, add_comm]
    exact exponent.below
  refine ⟨?_, fun above => ?_⟩
  · have : (r : ℚ) < (2 ^ 53 : Nat) + 1 := by push_cast; linarith [near.below]
    exact Nat.lt_succ_iff.mp (by exact_mod_cast this)
  · have leading : 2 ^ 52 ≤ v / 2 ^ e := by
      rw [le_div_iff₀ (by positivity), ← zpow_natCast, ← zpow_add₀ two_ne_zero, add_comm]
      exact exponent.leading above
    have : ((2 ^ 52 : Nat) : ℚ) < r + 1 := by push_cast; linarith [near.above]
    exact Nat.lt_succ_iff.mp (by exact_mod_cast this)

theorem isNormal_of_carried? (exponent : IsExponent v e) (near : IsNearest (v / 2 ^ e) r)
    (found : carried? r e = some m) : m.IsNormal := by
  obtain ⟨most, least⟩ := mantissa_bounds exponent near
  rcases carried?_eq_some_iff.mp found with ⟨free, range, rfl⟩ | ⟨carry, range, rfl⟩
  · exact ⟨exponent.least, lt_of_le_of_ne most free, least, range⟩
  · exact ⟨by have := exponent.least; dsimp only; omega, by norm_num, fun _ => le_rfl, range⟩

theorem low_le (nonneg : 0 ≤ v) (exponent : IsExponent v e) (near : IsNearest (v / 2 ^ e) r) :
    (⟨r, e⟩ : Magnitude).low ≤ v := by
  rcases Nat.eq_zero_or_pos r with rfl | positive
  · simpa [low, quarters] using nonneg
  · rw [low_eq positive]
    split
    · next leading =>
      have bound := exponent.leading leading.2
      rw [add_comm, zpow_add₀ two_ne_zero] at bound
      dsimp only at leading ⊢
      rw [leading.1]
      push_cast
      exact le_trans (by gcongr; norm_num) bound
    · exact (le_div_iff₀ (by positivity)).mp near.below

theorem mem_neighbours_of_carried? (nonneg : 0 ≤ v) (exponent : IsExponent v e)
    (near : IsNearest (v / 2 ^ e) r) (found : carried? r e = some m) : v ∈ m.neighbours := by
  have unit : (0 : ℚ) < 2 ^ e := by positivity
  have lower : (r - 1 / 2) * 2 ^ e ≤ v := (le_div_iff₀ unit).mp near.below
  have upper : v ≤ (r + 1 / 2) * 2 ^ e := (div_le_iff₀ unit).mp near.above
  rcases carried?_eq_some_iff.mp found with ⟨_, _, rfl⟩ | ⟨rfl, _, rfl⟩
  · have low := low_le nonneg exponent near
    rw [neighbours, high_eq]
    split
    · exact ⟨low, upper⟩
    · next odd =>
      dsimp only at odd
      have apart : v / 2 ^ e ≠ r - 1 / 2 ∧ v / 2 ^ e ≠ r + 1 / 2 :=
        not_or.mp fun tie => odd (near.even tie)
      refine ⟨lt_of_le_of_ne low ?_, lt_of_le_of_ne upper ?_⟩
      · rw [low_eq (by dsimp only; omega), if_neg (by dsimp only; omega), ne_comm, ne_eq,
          ← div_eq_iff unit.ne']
        exact apart.1
      · rw [ne_eq, ← div_eq_iff unit.ne']
        exact apart.2
  · have even : (2 ^ 52 : Nat) % 2 = 0 := by norm_num
    have above : leastExponent < e + 1 := Int.lt_add_one_of_le exponent.least
    rw [neighbours, if_pos even, low_eq (by norm_num), high_eq, if_pos ⟨rfl, above⟩,
      zpow_add_one₀ two_ne_zero]
    push_cast at *
    constructor
    · linarith
    · linarith

/-- The numbers of 53 bits end half a last bit behind the greatest. -/
def limit : ℚ := (2 ^ 53 - 1 / 2) * 2 ^ greatestExponent

theorem le_limit : 2 ^ (greatestExponent + 52) ≤ limit := by
  rw [add_comm, zpow_add₀ two_ne_zero]
  unfold limit
  gcongr
  norm_num

theorem one_le_limit : 1 ≤ limit := (one_le_zpow₀ one_le_two (by decide)).trans le_limit

theorem limit_le : limit ≤ 2 ^ (1024 : Int) := by
  calc limit ≤ 2 ^ 53 * 2 ^ greatestExponent := by
        unfold limit; gcongr; exact sub_le_self _ (by norm_num)
    _ = 2 ^ (1024 : Int) := by rw [← zpow_natCast, ← zpow_add₀ two_ne_zero]; congr 1

theorem carried?_eq_none_iff_limit (exponent : IsExponent v e) (near : IsNearest (v / 2 ^ e) r) :
    carried? r e = none ↔ limit ≤ v := by
  have unit : (0 : ℚ) < 2 ^ e := by positivity
  rw [carried?_eq_none_iff]
  constructor
  · rintro (beyond | ⟨rfl, reached⟩)
    · have leading := exponent.leading (lt_trans (by decide) beyond)
      refine (limit_le.trans (zpow_le_zpow_right₀ one_le_two ?_)).trans leading
      have : 971 < e := beyond
      omega
    · refine le_trans ?_ ((le_div_iff₀ unit).mp near.below)
      unfold limit
      push_cast
      gcongr <;> norm_num
  · intro large
    have reached : greatestExponent ≤ e := by
      have powers := le_limit.trans_lt (large.trans_lt exponent.below)
      rw [zpow_lt_zpow_iff_right₀ one_lt_two] at powers
      omega
    rcases reached.lt_or_eq with beyond | rfl
    · exact .inl beyond
    · -- the greatest mantissa is odd and leaves the tie to the carry
      have last : 2 ^ 53 - 1 / 2 ≤ v / 2 ^ greatestExponent := (le_div_iff₀ unit).mpr large
      have most := (mantissa_bounds exponent near).1
      refine .inr ⟨?_, le_rfl⟩
      by_contra free
      have below : (r : ℚ) + 1 ≤ 2 ^ 53 := by exact_mod_cast lt_of_le_of_ne most free
      have even := near.even (.inr (le_antisymm near.above (by linarith)))
      have odd : (r : ℚ) = (2 ^ 53 - 1 : Nat) := by
        push_cast
        linarith [near.above]
      rw [Nat.cast_inj.mp odd] at even
      exact absurd even (by norm_num)

end Carry

section Fraction

variable {n d : Nat} {m : Magnitude}

theorem isNormal_of_ofFraction? (denominator : d ≠ 0) (found : ofFraction? n d = some m) :
    m.IsNormal := by
  by_cases numerator : n = 0
  · rw [ofFraction?, if_pos numerator, Option.some.injEq] at found
    exact found ▸ isNormal_zero
  · obtain ⟨e, r, exponent, near, shape⟩ := ofFraction?_eq numerator denominator
    exact isNormal_of_carried? exponent near (shape ▸ found)

theorem mem_neighbours_of_ofFraction? (numerator : n ≠ 0) (denominator : d ≠ 0)
    (found : ofFraction? n d = some m) : (n / d : ℚ) ∈ m.neighbours := by
  obtain ⟨e, r, exponent, near, shape⟩ := ofFraction?_eq numerator denominator
  exact mem_neighbours_of_carried? (by positivity) exponent near (shape ▸ found)

theorem ofFraction?_eq_none_iff (denominator : d ≠ 0) :
    ofFraction? n d = none ↔ limit ≤ (n / d : ℚ) := by
  by_cases numerator : n = 0
  · simp [ofFraction?, numerator, zero_lt_one.trans_le one_le_limit]
  · obtain ⟨e, r, exponent, near, shape⟩ := ofFraction?_eq numerator denominator
    rw [shape, carried?_eq_none_iff_limit exponent near]

end Fraction

end Magnitude

namespace Decimal

open Magnitude

/-- How many digits stand before the point; less than one if the digits begin behind it. -/
def order (d : Decimal) : Int := digitCount d.coefficient + d.exponent

variable {d d' : Decimal} {m : Magnitude}

theorem digitCount_pos {n : Nat} (positive : n ≠ 0) : 0 < digitCount n := by
  rw [digitCount, if_neg positive]
  exact Nat.length_toDigits_pos

theorem digitCount_le_iff {n k : Nat} (positive : 0 < k) : digitCount n ≤ k ↔ n < 10 ^ k := by
  unfold digitCount
  split
  · next zero => simp [zero]
  · exact Nat.length_toDigits_le_iff (by decide) positive

theorem lt_pow_digitCount (n : Nat) : n < 10 ^ digitCount n := by
  by_cases zero : n = 0
  · simp [zero, digitCount]
  · exact (digitCount_le_iff (digitCount_pos zero)).mp le_rfl

theorem pow_digitCount_le {n : Nat} (positive : n ≠ 0) : 10 ^ (digitCount n - 1) ≤ n := by
  by_cases single : digitCount n ≤ 1
  · rw [Nat.sub_eq_zero_of_le single]
    omega
  · rw [← not_lt, ← digitCount_le_iff (by omega)]
    omega

theorem digitCount_bounds {n : Nat} (positive : n ≠ 0) :
    (10 : ℚ) ^ ((digitCount n : Int) - 1) ≤ n ∧ (n : ℚ) < 10 ^ (digitCount n : Int) := by
  have digits := digitCount_pos positive
  have less : (digitCount n : Int) - 1 = (digitCount n - 1 : Nat) := by omega
  rw [less, zpow_natCast, zpow_natCast]
  exact ⟨by exact_mod_cast pow_digitCount_le positive, by exact_mod_cast lt_pow_digitCount n⟩

theorem value_lt (d : Decimal) : d.value < 10 ^ d.order := by
  unfold value order
  rw [zpow_add₀ (by norm_num), zpow_natCast]
  gcongr
  exact_mod_cast lt_pow_digitCount d.coefficient

theorem le_value (positive : d.coefficient ≠ 0) : 10 ^ (d.order - 1) ≤ d.value := by
  have digits := digitCount_pos positive
  have shape : d.order - 1 = ((digitCount d.coefficient - 1 : Nat) : Int) + d.exponent := by
    unfold order; omega
  rw [shape, zpow_add₀ (by norm_num), zpow_natCast]
  unfold value
  gcongr
  exact_mod_cast pow_digitCount_le positive

theorem value_eq_zero_iff : d.value = 0 ↔ d.coefficient = 0 := by
  unfold value
  rw [mul_eq_zero_iff_right (by positivity), Nat.cast_eq_zero]

theorem order_congr (positive : d.coefficient ≠ 0) (same : d.value = d'.value) :
    d.order = d'.order := by
  have positive' : d'.coefficient ≠ 0 := by
    rwa [ne_eq, ← value_eq_zero_iff, ← same, value_eq_zero_iff]
  have ordered {d d' : Decimal} (positive : d.coefficient ≠ 0) (same : d.value = d'.value) :
      d.order ≤ d'.order := by
    have powers := (le_value positive).trans_lt (same ▸ value_lt d')
    rw [zpow_lt_zpow_iff_right₀ (by norm_num)] at powers
    omega
  exact le_antisymm (ordered positive same) (ordered positive' same.symm)

/-- Only numbers that are far out of range are not rounded as fractions. -/
theorem toMagnitude?_eq (d : Decimal) : ∃ n k : Nat, k ≠ 0 ∧ (n : ℚ) / k = d.value ∧
    d.toMagnitude? = if d.coefficient = 0 ∨ d.order < -400 then some ⟨0, leastExponent⟩
      else if 400 < d.order then none else ofFraction? n k := by
  have far : (d.coefficient = 0 || (digitCount d.coefficient + d.exponent : Int) < -400) = true ↔
      d.coefficient = 0 ∨ d.order < -400 := by
    rw [Bool.or_eq_true, decide_eq_true_eq, decide_eq_true_eq]; rfl
  by_cases sign : d.exponent < 0
  · refine ⟨d.coefficient, 10 ^ d.exponent.natAbs, by positivity, ?_, ?_⟩
    · rw [value, zpow_eq_inv_natAbs sign, ← div_eq_mul_inv]; push_cast; rfl
    · simp only [toMagnitude?, far, if_pos sign]; rfl
  · refine ⟨d.coefficient * 10 ^ d.exponent.natAbs, 1, one_ne_zero, ?_, ?_⟩
    · rw [value, zpow_eq_natAbs (not_lt.mp sign)]; push_cast; rw [div_one]
    · simp only [toMagnitude?, far, if_neg sign]; rfl

theorem toMagnitude?_congr (same : d.value = d'.value) : d.toMagnitude? = d'.toMagnitude? := by
  obtain ⟨n, k, denominator, ratio, shape⟩ := toMagnitude?_eq d
  obtain ⟨n', k', denominator', ratio', shape'⟩ := toMagnitude?_eq d'
  rw [shape, shape', ofFraction?_congr denominator denominator' (by rw [ratio, ratio', same])]
  have zero : d.coefficient = 0 ↔ d'.coefficient = 0 := by
    rw [← value_eq_zero_iff, same, value_eq_zero_iff]
  by_cases positive : d.coefficient = 0
  · rw [if_pos (.inl positive), if_pos (.inl (zero.mp positive))]
  · rw [order_congr positive same]
    simp only [zero]

theorem value_nonneg (d : Decimal) : 0 ≤ d.value := by
  unfold value
  positivity

theorem two_zpow_le_ten_zpow {k : Int} (positive : 0 ≤ k) : (2 : ℚ) ^ (3 * k) ≤ 10 ^ k := by
  rw [zpow_mul]
  exact zpow_le_zpow_left₀ positive (by norm_num) (by norm_num)

theorem value_le_of_far_below (small : d.coefficient = 0 ∨ d.order < -400) :
    d.value ≤ 1 / 2 * 2 ^ leastExponent := by
  rcases small with zero | below
  · rw [value_eq_zero_iff.mpr zero]
    positivity
  · calc d.value ≤ 10 ^ d.order := (value_lt d).le
      _ ≤ 10 ^ (-400 : Int) := zpow_le_zpow_right₀ (by norm_num) below.le
      _ ≤ 2 ^ (-1200 : Int) := by
        rw [zpow_neg, zpow_neg]
        exact inv_anti₀ (by positivity) (two_zpow_le_ten_zpow (by decide))
      _ ≤ 2 ^ (-1 + leastExponent) := zpow_le_zpow_right₀ one_le_two (by decide)
      _ = 1 / 2 * 2 ^ leastExponent := by rw [zpow_add₀ two_ne_zero, zpow_neg_one, one_div]

theorem limit_le_of_far_above (positive : d.coefficient ≠ 0) (large : 400 < d.order) :
    limit ≤ d.value := by
  calc limit ≤ 2 ^ (1024 : Int) := limit_le
    _ ≤ 2 ^ (3 * 400 : Int) := zpow_le_zpow_right₀ one_le_two (by decide)
    _ ≤ 10 ^ (400 : Int) := two_zpow_le_ten_zpow (by decide)
    _ ≤ 10 ^ (d.order - 1) := zpow_le_zpow_right₀ (by norm_num) (by omega)
    _ ≤ d.value := le_value positive

theorem toMagnitude?_eq_none_iff : d.toMagnitude? = none ↔ limit ≤ d.value := by
  obtain ⟨n, k, denominator, ratio, shape⟩ := toMagnitude?_eq d
  rw [shape]
  split
  · next small =>
    have below : d.value < limit := by
      calc d.value ≤ 1 / 2 * 2 ^ leastExponent := value_le_of_far_below small
        _ ≤ 1 / 2 * 1 := by gcongr; exact zpow_le_one_of_nonpos₀ one_le_two (by decide)
        _ < 1 := by norm_num
        _ ≤ limit := one_le_limit
    simp [below]
  · next moderate =>
    rw [not_or] at moderate
    split
    · next large => simp [limit_le_of_far_above moderate.1 large]
    · rw [ofFraction?_eq_none_iff denominator, ratio]

theorem isNormal_of_toMagnitude? (found : d.toMagnitude? = some m) : m.IsNormal := by
  obtain ⟨n, k, denominator, ratio, shape⟩ := toMagnitude?_eq d
  rw [shape] at found
  split at found
  · rw [← Option.some.inj found]
    exact isNormal_zero
  · split at found
    · cases found
    · exact isNormal_of_ofFraction? denominator found

theorem mem_neighbours_of_toMagnitude? (found : d.toMagnitude? = some m) :
    d.value ∈ m.neighbours := by
  obtain ⟨n, k, denominator, ratio, shape⟩ := toMagnitude?_eq d
  rw [shape] at found
  split at found
  · next small =>
    rw [← Option.some.inj found, neighbours_zero]
    exact ⟨value_nonneg d, value_le_of_far_below small⟩
  · next moderate =>
    split at found
    · cases found
    · rw [← ratio]
      refine mem_neighbours_of_ofFraction? ?_ denominator found
      rintro rfl
      rw [Nat.cast_zero, zero_div, eq_comm, value_eq_zero_iff] at ratio
      exact moderate (.inl ratio)

end Decimal

end ModelCatalog.Number
