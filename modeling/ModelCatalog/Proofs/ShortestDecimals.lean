import ModelCatalog.Proofs.Rounding

/-! The search for the shortest decimal fraction that rounds to a number. It finds a multiple of the
highest power of ten that has one, so that the last digit is not zero; and a fraction of up to
fifteen digits is found again from the number next to it, for it is the only multiple of its power
of ten there. -/
namespace ModelCatalog.Number

namespace Magnitude

/-- The multiple that a search downwards from some power of ten meets first. -/
structure IsFirstFrom (m : Magnitude) (place : Int) (d : Decimal) : Prop where
  most : d.exponent ≤ place
  found : m.multipleAt? d.exponent = some d.coefficient
  above : ∀ q, d.exponent < q → q ≤ place → m.multipleAt? q = none

section Neighbours

variable {m : Magnitude} {x y : ℚ}

instance (m : Magnitude) : m.neighbours.OrdConnected := by
  unfold neighbours
  split
  · exact Set.ordConnected_Icc
  · exact Set.ordConnected_Ioo

theorem Ioo_subset_neighbours : Set.Ioo m.low m.high ⊆ m.neighbours := by
  unfold neighbours
  split
  · exact Set.Ioo_subset_Icc_self
  · exact Set.Subset.rfl

theorem neighbours_subset_Icc : m.neighbours ⊆ Set.Icc m.low m.high := by
  unfold neighbours
  split
  · exact Set.Subset.rfl
  · exact Set.Ioo_subset_Icc_self

theorem low_lt_value (positive : 0 < m.mantissa) : m.low < m.value := by
  rw [low_eq positive, value]
  gcongr
  split <;> linarith

theorem half_le_low (positive : 0 < m.mantissa) : m.value - 1 / 2 * 2 ^ m.exponent ≤ m.low := by
  rw [low_eq positive, value, ← sub_mul]
  gcongr
  split <;> linarith

theorem high_eq_value_add (m : Magnitude) : m.high = m.value + 1 / 2 * 2 ^ m.exponent := by
  rw [high_eq, value, add_mul]

theorem value_lt_high (m : Magnitude) : m.value < m.high := by
  rw [high_eq_value_add]
  exact lt_add_of_pos_right _ (by positivity)

theorem value_mem_neighbours (positive : 0 < m.mantissa) : m.value ∈ m.neighbours :=
  Ioo_subset_neighbours ⟨low_lt_value positive, value_lt_high m⟩

theorem value_pos (positive : 0 < m.mantissa) : 0 < m.value := by
  unfold value
  positivity

theorem mem_neighbours_of_le (below : x ≤ m.value) :
    x ∈ m.neighbours ↔ if m.mantissa % 2 = 0 then m.low ≤ x else m.low < x := by
  have inside := below.trans_lt (value_lt_high m)
  unfold neighbours
  split
  · exact ⟨fun member => member.1, fun lower => ⟨lower, inside.le⟩⟩
  · exact ⟨fun member => member.1, fun lower => ⟨lower, inside⟩⟩

theorem mem_neighbours_of_gt (positive : 0 < m.mantissa) (above : m.value < x) :
    x ∈ m.neighbours ↔ if m.mantissa % 2 = 0 then x ≤ m.high else x < m.high := by
  have inside := (low_lt_value positive).trans above
  unfold neighbours
  split
  · exact ⟨fun member => member.2, fun upper => ⟨inside.le, upper⟩⟩
  · exact ⟨fun member => member.2, fun upper => ⟨inside, upper⟩⟩

theorem unit_le_value (positive : 0 < m.mantissa) : (2 : ℚ) ^ m.exponent ≤ m.value :=
  le_mul_of_one_le_left (by positivity) (by exact_mod_cast positive)

theorem pos_of_mem_neighbours (positive : 0 < m.mantissa) (member : x ∈ m.neighbours) : 0 < x := by
  have lower := half_le_low positive
  have unit := unit_le_value positive
  linarith [value_pos positive, (neighbours_subset_Icc member).1]

theorem lt_two_mul_of_mem_neighbours (positive : 0 < m.mantissa) (member : x ∈ m.neighbours) :
    x < 2 * m.value := by
  have upper := high_eq_value_add m
  have unit := unit_le_value positive
  linarith [value_pos positive, (neighbours_subset_Icc member).2]

theorem sub_le_unit (positive : 0 < m.mantissa) (member : x ∈ m.neighbours)
    (other : y ∈ m.neighbours) : x - y ≤ 2 ^ m.exponent := by
  have lower := half_le_low positive
  have upper := high_eq_value_add m
  linarith [(neighbours_subset_Icc member).2, (neighbours_subset_Icc other).1]

end Neighbours

section Multiples

variable {m : Magnitude} {place : Int} {quarters k : Nat}

theorem inPlaces_pos (m : Magnitude) (quarters : Nat) (place : Int) :
    0 < (m.inPlaces quarters place).2 := by
  have positive := scaled_pos (n := quarters) (-m.exponent) (by decide : 0 < 4)
  unfold inPlaces
  dsimp only
  split
  · exact positive
  · exact Nat.mul_pos positive (Nat.pow_pos (by decide))

theorem inPlaces_ratio (m : Magnitude) (quarters : Nat) (place : Int) :
    ((m.inPlaces quarters place).1 : ℚ) / (m.inPlaces quarters place).2 =
      quarters / 4 * 2 ^ m.exponent / 10 ^ place := by
  have ratio := scaled_ratio quarters 4 (-m.exponent)
  rw [zpow_neg, div_inv_eq_mul, Nat.cast_ofNat] at ratio
  rw [← ratio]
  unfold inPlaces
  dsimp only
  split
  · next sign =>
    rw [zpow_eq_inv_natAbs sign]
    simp only [Nat.pow_eq]
    push_cast
    field_simp
  · next sign =>
    rw [zpow_eq_natAbs (not_lt.mp sign)]
    simp only [Nat.pow_eq]
    push_cast
    field_simp

theorem inPlaces_le_iff : (m.inPlaces quarters place).1 ≤ k * (m.inPlaces quarters place).2 ↔
    (quarters / 4 * 2 ^ m.exponent : ℚ) ≤ (Decimal.mk k place).value := by
  have positive : (0 : ℚ) < (m.inPlaces quarters place).2 := by
    exact_mod_cast inPlaces_pos m quarters place
  rw [Decimal.value, ← div_le_iff₀ (by positivity), ← inPlaces_ratio, div_le_iff₀ positive]
  exact_mod_cast Iff.rfl

theorem inPlaces_lt_iff : (m.inPlaces quarters place).1 < k * (m.inPlaces quarters place).2 ↔
    (quarters / 4 * 2 ^ m.exponent : ℚ) < (Decimal.mk k place).value := by
  have positive : (0 : ℚ) < (m.inPlaces quarters place).2 := by
    exact_mod_cast inPlaces_pos m quarters place
  rw [Decimal.value, ← div_lt_iff₀ (by positivity), ← inPlaces_ratio, div_lt_iff₀ positive]
  exact_mod_cast Iff.rfl

theorem le_inPlaces_iff : k * (m.inPlaces quarters place).2 ≤ (m.inPlaces quarters place).1 ↔
    (Decimal.mk k place).value ≤ quarters / 4 * 2 ^ m.exponent := by
  rw [← not_lt, inPlaces_lt_iff, not_lt]

theorem lt_inPlaces_iff : k * (m.inPlaces quarters place).2 < (m.inPlaces quarters place).1 ↔
    (Decimal.mk k place).value < quarters / 4 * 2 ^ m.exponent := by
  rw [← not_le, inPlaces_le_iff, not_le]

theorem below_hits_iff (lower : (Decimal.mk k place).value ≤ m.value) :
    (if (m.mantissa % 2 == 0) = true then
        (m.inPlaces m.quarters.1 place).1 ≤ k * (m.inPlaces m.quarters.1 place).2
      else (m.inPlaces m.quarters.1 place).1 < k * (m.inPlaces m.quarters.1 place).2) ↔
    (Decimal.mk k place).value ∈ m.neighbours := by
  simp only [inPlaces_le_iff, inPlaces_lt_iff, beq_iff_eq]
  exact (mem_neighbours_of_le lower).symm

theorem above_hits_iff (positive : 0 < m.mantissa) (upper : m.value < (Decimal.mk k place).value) :
    (if (m.mantissa % 2 == 0) = true then
        k * (m.inPlaces m.quarters.2.2 place).2 ≤ (m.inPlaces m.quarters.2.2 place).1
      else k * (m.inPlaces m.quarters.2.2 place).2 < (m.inPlaces m.quarters.2.2 place).1) ↔
    (Decimal.mk k place).value ∈ m.neighbours := by
  simp only [le_inPlaces_iff, lt_inPlaces_iff, beq_iff_eq]
  exact (mem_neighbours_of_gt positive upper).symm

/-- Of the two multiples around a number, one that rounds to the number is taken. -/
theorem multipleAt?_cases (positive : 0 < m.mantissa) (place : Int) : ∃ below : Nat,
    (Decimal.mk below place).value ≤ m.value ∧ m.value < (Decimal.mk (below + 1) place).value ∧
    (m.multipleAt? place = some below ∧ (Decimal.mk below place).value ∈ m.neighbours ∨
      m.multipleAt? place = some (below + 1) ∧
        (Decimal.mk (below + 1) place).value ∈ m.neighbours ∨
      m.multipleAt? place = none ∧ (Decimal.mk below place).value ∉ m.neighbours ∧
        (Decimal.mk (below + 1) place).value ∉ m.neighbours) := by
  have middle : m.value = m.quarters.2.1 / 4 * 2 ^ m.exponent := by
    unfold value Magnitude.quarters
    push_cast
    ring
  have denominator := inPlaces_pos m m.quarters.2.1 place
  obtain ⟨below, isBelow⟩ : ∃ below, below =
    (m.inPlaces m.quarters.2.1 place).1 / (m.inPlaces m.quarters.2.1 place).2 := ⟨_, rfl⟩
  have lower : (Decimal.mk below place).value ≤ m.value := by
    rw [middle, ← not_lt, ← inPlaces_lt_iff, not_lt, isBelow]
    exact Nat.div_mul_le_self _ _
  have upper : m.value < (Decimal.mk (below + 1) place).value := by
    rw [middle, ← inPlaces_lt_iff, isBelow, mul_comm]
    exact Nat.lt_mul_div_succ _ denominator
  have belowHits := below_hits_iff lower
  have aboveHits := above_hits_iff positive upper
  refine ⟨below, lower, upper, ?_⟩
  by_cases first : (Decimal.mk below place).value ∈ m.neighbours <;>
    by_cases second : (Decimal.mk (below + 1) place).value ∈ m.neighbours <;>
    subst isBelow <;> unfold multipleAt? <;> dsimp only
  · rw [decide_eq_true (belowHits.mpr first), decide_eq_true (aboveHits.mpr second)]
    dsimp only
    split
    · exact .inl ⟨rfl, first⟩
    · exact .inr (.inl ⟨rfl, second⟩)
  · rw [decide_eq_true (belowHits.mpr first), decide_eq_false (mt aboveHits.mp second)]
    exact .inl ⟨rfl, first⟩
  · rw [decide_eq_false (mt belowHits.mp first), decide_eq_true (aboveHits.mpr second)]
    exact .inr (.inl ⟨rfl, second⟩)
  · rw [decide_eq_false (mt belowHits.mp first), decide_eq_false (mt aboveHits.mp second)]
    exact .inr (.inr ⟨rfl, first, second⟩)

theorem mem_neighbours_of_multipleAt? (positive : 0 < m.mantissa)
    (found : m.multipleAt? place = some k) : (Decimal.mk k place).value ∈ m.neighbours := by
  obtain ⟨below, _, _, ⟨taken, member⟩ | ⟨taken, member⟩ | ⟨taken, _⟩⟩ :=
    multipleAt?_cases positive place
  · rw [taken] at found
    exact Option.some.inj found ▸ member
  · rw [taken] at found
    exact Option.some.inj found ▸ member
  · rw [taken] at found
    cases found

theorem value_le_value {k k' : Nat} (most : k ≤ k') :
    (Decimal.mk k place).value ≤ (Decimal.mk k' place).value := by
  unfold Decimal.value
  dsimp only
  gcongr

theorem multipleAt?_ne_none (positive : 0 < m.mantissa)
    (member : (Decimal.mk k place).value ∈ m.neighbours) : m.multipleAt? place ≠ none := by
  have inside := value_mem_neighbours positive
  intro missing
  obtain ⟨below, lower, upper, ⟨taken, _⟩ | ⟨taken, _⟩ | ⟨_, notBelow, notAbove⟩⟩ :=
    multipleAt?_cases positive place
  · simp [taken] at missing
  · simp [taken] at missing
  · -- the multiples around the number are at least as near as this one
    rcases Nat.lt_or_ge below k with above | here
    · exact notAbove (Set.OrdConnected.out' inside member ⟨upper.le, value_le_value above⟩)
    · exact notBelow (Set.OrdConnected.out' member inside ⟨value_le_value here, lower⟩)

end Multiples

section Search

variable {m : Magnitude} {place : Int} {d : Decimal}

theorem leadingPlace_bounds (positive : 0 < m.mantissa) :
    10 ^ (m.leadingPlace - 1) < m.value ∧ m.value < 10 ^ (m.leadingPlace + 1) := by
  have ratio := scaled_ratio m.mantissa 1 (-m.exponent)
  have denominator := (scaled_pos (n := m.mantissa) (-m.exponent) one_pos).ne'
  rw [Nat.cast_one, div_one, zpow_neg, div_inv_eq_mul] at ratio
  have place : m.leadingPlace = (Decimal.digitCount (scaled m.mantissa 1 (-m.exponent)).1 : Int) -
      Decimal.digitCount (scaled m.mantissa 1 (-m.exponent)).2 := rfl
  have numerator : (scaled m.mantissa 1 (-m.exponent)).1 ≠ 0 := by
    intro zero
    rw [zero, Nat.cast_zero, zero_div] at ratio
    exact (value_pos positive).ne ratio
  rw [place, value, ← ratio]
  exact ratio_between_powers (by norm_num) (Decimal.digitCount_bounds numerator).1
    (Decimal.digitCount_bounds numerator).2 (Decimal.digitCount_bounds denominator).1
    (Decimal.digitCount_bounds denominator).2

theorem isFirstFrom_shortestFrom {tries : Nat} {q : Int} (least : place - tries ≤ q)
    (most : q ≤ place) (hit : m.multipleAt? q ≠ none) :
    m.IsFirstFrom place (m.shortestFrom tries place) := by
  induction tries generalizing place with
  | zero =>
    obtain rfl : q = place := by omega
    obtain ⟨k, found⟩ := Option.ne_none_iff_exists'.mp hit
    exact ⟨le_rfl, by simp [shortestFrom, found], fun q above most => by
      simp only [shortestFrom] at above; omega⟩
  | succ tries ih =>
    rw [shortestFrom]
    split
    · next k found => exact ⟨le_rfl, found, fun q above most => by dsimp only at above; omega⟩
    · next missing =>
      have lower : q ≤ place - 1 := by
        by_contra last
        obtain rfl : q = place := by omega
        exact hit missing
      have first := ih (by push_cast at least; omega) lower
      refine ⟨by have := first.most; omega, first.found, fun q above most => ?_⟩
      rcases most.lt_or_eq with less | rfl
      · exact first.above q above (by omega)
      · exact missing

/-- Seventeen digits are enough to tell a number from its neighbours. -/
theorem isFirstFrom_shortest (positive : 0 < m.mantissa) (bits : m.mantissa < 2 ^ 53) :
    m.IsFirstFrom (m.leadingPlace + 1) m.shortest := by
  rw [shortest, if_neg positive.ne']
  have unit : (10 : ℚ) ^ (m.leadingPlace - 18) < 1 / 2 * 2 ^ m.exponent := by
    have most : m.value < 2 ^ 53 * 2 ^ m.exponent := by
      unfold value
      gcongr
      exact_mod_cast bits
    have digits : (10 : ℚ) ^ (m.leadingPlace - 1) = 10 ^ 17 * 10 ^ (m.leadingPlace - 18) := by
      rw [← zpow_natCast, ← zpow_add₀ (by norm_num)]
      congr 1
      push_cast
      ring
    have unitPos : (0 : ℚ) < 2 ^ m.exponent := by positivity
    linarith [(leadingPlace_bounds positive).1]
  obtain ⟨below, lower, upper, _⟩ := multipleAt?_cases positive (m.leadingPlace - 18)
  have next : (Decimal.mk (below + 1) (m.leadingPlace - 18)).value ∈ m.neighbours := by
    refine Ioo_subset_neighbours ⟨(low_lt_value positive).trans upper, ?_⟩
    have step : (Decimal.mk (below + 1) (m.leadingPlace - 18)).value =
        (Decimal.mk below (m.leadingPlace - 18)).value + 10 ^ (m.leadingPlace - 18) := by
      unfold Decimal.value
      push_cast
      ring
    linarith [high_eq_value_add m]
  exact isFirstFrom_shortestFrom (by omega) (by omega) (multipleAt?_ne_none positive next)

theorem shortest_last_digit (positive : 0 < m.mantissa) (bits : m.mantissa < 2 ^ 53) :
    m.shortest.coefficient % 10 ≠ 0 := by
  have first := isFirstFrom_shortest positive bits
  have member := mem_neighbours_of_multipleAt? positive first.found
  generalize m.shortest = d at *
  intro zero
  obtain ⟨c, tenfold⟩ := Nat.dvd_of_mod_eq_zero zero
  have coarser : d.value = (Decimal.mk c (d.exponent + 1)).value := by
    unfold Decimal.value
    rw [tenfold, zpow_add_one₀ (by norm_num)]
    push_cast
    ring
  have inside : (Decimal.mk c (d.exponent + 1)).value ∈ m.neighbours := coarser ▸ member
  rcases first.most.lt_or_eq with less | top
  · exact multipleAt?_ne_none positive inside (first.above _ (by omega) (by omega))
  · -- above the leading digit there is no multiple but one
    have great := lt_two_mul_of_mem_neighbours positive inside
    have most := (leadingPlace_bounds positive).2
    have nonzero : c ≠ 0 := by
      rintro rfl
      have := pos_of_mem_neighbours positive inside
      simp [Decimal.value] at this
    have least : (10 : ℚ) ^ (m.leadingPlace + 1) * 10 ≤ (Decimal.mk c (d.exponent + 1)).value := by
      rw [top, ← zpow_add_one₀ (by norm_num)]
      exact le_mul_of_one_le_left (by positivity) (by exact_mod_cast Nat.pos_of_ne_zero nonzero)
    linarith [value_pos positive]

/-- Multiples of a power of ten that counts more than the last bit do not round alike. -/
theorem eq_of_mem_neighbours {k c : Nat} (leading : 2 ^ 52 ≤ m.mantissa) (short : c < 10 ^ 15)
    (member : (Decimal.mk k place).value ∈ m.neighbours)
    (other : (Decimal.mk c place).value ∈ m.neighbours) : k = c := by
  have positive : 0 < m.mantissa := lt_of_lt_of_le (by norm_num) leading
  have unit : (0 : ℚ) < 10 ^ place := by positivity
  have width : (2 : ℚ) ^ m.exponent < 10 ^ place := by
    have bits : 2 ^ 52 * (2 : ℚ) ^ m.exponent ≤ m.value := by
      unfold value
      gcongr
      exact_mod_cast leading
    have digits : (Decimal.mk c place).value < 10 ^ 15 * 10 ^ place := by
      unfold Decimal.value
      gcongr
      exact_mod_cast short
    have near := sub_le_unit positive (value_mem_neighbours positive) other
    linarith
  have upper := (sub_le_unit positive member other).trans_lt width
  have lower := (sub_le_unit positive other member).trans_lt width
  simp only [Decimal.value, ← sub_mul] at upper lower
  rw [mul_lt_iff_lt_one_left unit, sub_lt_iff_lt_add'] at upper lower
  have most : k < c + 1 := by exact_mod_cast upper
  have least : c < k + 1 := by exact_mod_cast lower
  omega

theorem exponent_le_of_mem_neighbours (positive : 0 < m.mantissa) (nonzero : d.coefficient ≠ 0)
    (member : d.value ∈ m.neighbours) : d.exponent ≤ m.leadingPlace + 1 := by
  have digit : (1 : ℚ) ≤ d.coefficient := by exact_mod_cast Nat.pos_of_ne_zero nonzero
  have power : (10 : ℚ) ^ d.exponent < 10 ^ (m.leadingPlace + 1 + 1) := by
    calc (10 : ℚ) ^ d.exponent ≤ d.value := le_mul_of_one_le_left (by positivity) digit
      _ < 2 * m.value := lt_two_mul_of_mem_neighbours positive member
      _ ≤ 10 * 10 ^ (m.leadingPlace + 1) := by
        linarith [value_pos positive, (leadingPlace_bounds positive).2]
      _ = 10 ^ (m.leadingPlace + 1 + 1) := by rw [zpow_add_one₀ (by norm_num) (_ + 1), mul_comm]
  rw [zpow_lt_zpow_iff_right₀ (by norm_num)] at power
  omega

theorem shortest_eq (normal : m.IsNormal) (leading : 2 ^ 52 ≤ m.mantissa)
    (member : d.value ∈ m.neighbours) (short : d.coefficient < 10 ^ 15)
    (last : d.coefficient % 10 ≠ 0) : m.shortest = d := by
  have positive : 0 < m.mantissa := lt_of_lt_of_le (by norm_num) leading
  have first := isFirstFrom_shortest positive normal.bits
  have found := mem_neighbours_of_multipleAt? positive first.found
  have place : d.exponent ≤ m.leadingPlace + 1 :=
    exponent_le_of_mem_neighbours positive (fun zero => last (by rw [zero])) member
  have least : d.exponent ≤ m.shortest.exponent := by
    by_contra above
    exact multipleAt?_ne_none positive member (first.above _ (not_le.mp above) place)
  obtain ⟨digits, far⟩ : ∃ digits : Nat, m.shortest.exponent = d.exponent + digits :=
    ⟨(m.shortest.exponent - d.exponent).toNat, by omega⟩
  have finer : m.shortest.value =
      (Decimal.mk (m.shortest.coefficient * 10 ^ digits) d.exponent).value := by
    unfold Decimal.value
    rw [far, zpow_add₀ (by norm_num), zpow_natCast]
    push_cast
    ring
  have same := eq_of_mem_neighbours leading short (finer ▸ found) member
  obtain rfl : digits = 0 := by
    by_contra more
    rw [← same, ← Nat.succ_pred more, Nat.pow_succ, ← Nat.mul_assoc, Nat.mul_mod_left] at last
    exact last rfl
  rw [Nat.pow_zero, Nat.mul_one] at same
  rw [Nat.cast_zero, add_zero] at far
  exact congrArg₂ Decimal.mk same far

end Search

end Magnitude

namespace Decimal

open Magnitude

/-- Whether a fraction is found again from the number next to it. -/
def IsShortest (d : Decimal) : Prop := ∃ m, d.toMagnitude? = some m ∧ m.shortest = d

variable {d : Decimal}

theorem isShortest_zero : IsShortest ⟨0, 0⟩ := ⟨_, rfl, rfl⟩

theorem ten_zpow_le_two_zpow {k : Int} (positive : 0 ≤ k) : (10 : ℚ) ^ (3 * k) ≤ 2 ^ (10 * k) := by
  rw [zpow_mul, zpow_mul]
  exact zpow_le_zpow_left₀ positive (by norm_num) (by norm_num)

theorem value_lt_limit (most : d.order ≤ 300) : d.value < limit := by
  calc d.value < 10 ^ d.order := value_lt d
    _ ≤ 10 ^ (3 * 100 : Int) := zpow_le_zpow_right₀ (by norm_num) (by omega)
    _ ≤ 2 ^ (10 * 100 : Int) := ten_zpow_le_two_zpow (by decide)
    _ ≤ 2 ^ (greatestExponent + 52) := zpow_le_zpow_right₀ one_le_two (by decide)
    _ ≤ limit := le_limit

theorem leading_of_mem_neighbours {m : Magnitude} (normal : m.IsNormal)
    (positive : d.coefficient ≠ 0) (least : -299 ≤ d.order) (member : d.value ∈ m.neighbours) :
    2 ^ 52 ≤ m.mantissa := by
  refine normal.leading (lt_of_le_of_ne normal.least fun smallest => ?_)
  have upper : m.high < 2 ^ 54 * 2 ^ leastExponent := by
    rw [high_eq, ← smallest]
    have bits : (m.mantissa : ℚ) < 2 ^ 53 := by exact_mod_cast normal.bits
    gcongr
    linarith
  have powers : (10 : ℚ) ^ (-300 : Int) < 2 ^ (-1000 : Int) := by
    calc (10 : ℚ) ^ (-300 : Int) ≤ 10 ^ (d.order - 1) :=
          zpow_le_zpow_right₀ (by norm_num) (by omega)
      _ ≤ d.value := le_value positive
      _ ≤ m.high := (neighbours_subset_Icc member).2
      _ < 2 ^ 54 * 2 ^ leastExponent := upper
      _ = 2 ^ (54 + leastExponent) := by rw [zpow_add₀ two_ne_zero]; norm_num
      _ ≤ 2 ^ (-1000 : Int) := zpow_le_zpow_right₀ one_le_two (by decide)
  rw [zpow_neg, zpow_neg, inv_lt_inv₀ (by positivity) (by positivity)] at powers
  exact absurd powers (not_lt.mpr (ten_zpow_le_two_zpow (k := 100) (by decide)))

theorem IsShortest.last_digit (shortest : d.IsShortest) : d = ⟨0, 0⟩ ∨ d.coefficient % 10 ≠ 0 := by
  obtain ⟨m, found, rfl⟩ := shortest
  rcases Nat.eq_zero_or_pos m.mantissa with zero | positive
  · exact .inl (if_pos zero)
  · exact .inr (shortest_last_digit positive (isNormal_of_toMagnitude? found).bits)

/-- Up to fifteen digits are kept, if the last is not zero and the number is not extreme. -/
theorem isShortest_of_digits (last : d.coefficient % 10 ≠ 0) (short : d.coefficient < 10 ^ 15)
    (least : -299 ≤ d.order) (most : d.order ≤ 300) : d.IsShortest := by
  have positive : d.coefficient ≠ 0 := fun zero => last (by rw [zero])
  have within : d.toMagnitude? ≠ none :=
    mt toMagnitude?_eq_none_iff.mp (not_le.mpr (value_lt_limit most))
  obtain ⟨m, found⟩ : ∃ m, d.toMagnitude? = some m := Option.ne_none_iff_exists'.mp within
  have normal := isNormal_of_toMagnitude? found
  have member := mem_neighbours_of_toMagnitude? found
  have leading := leading_of_mem_neighbours normal positive least member
  exact ⟨m, found, shortest_eq normal leading member short last⟩

end Decimal

end ModelCatalog.Number
