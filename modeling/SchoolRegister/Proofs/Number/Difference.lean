import SchoolRegister.Proofs.Number.Value

/-! # Differences of hundredths

Decimal arithmetic rounds to the working precision and passes over summands that are too faint to count.
Neither happens to whole numbers of hundredths below `10 ^ 18`: their difference is exact
(`IsHundredths.sub`), and so is its comparison with a bound (`IsHundredths.exceeds_iff`,
`IsHundredths.fallsBelow_iff`). -/

namespace SchoolRegister.Number.Decimal

/-- The number is a number of hundredths, without further places. -/
structure IsHundredths (x : Decimal) (a : Int) : Prop where
  places : -2 ≤ x.exponent
  value : x.value = a / 100

variable {x y : Decimal} {a b e bound : Int}

/-! ### Signs -/

theorem value_neg (x : Decimal) : x.neg.value = -x.value := by
  unfold value withSign neg
  cases x.negative
  · rfl
  · exact (neg_neg _).symm

theorem abs_value (x : Decimal) : |x.value| = x.size := by
  unfold value withSign
  split
  · rw [abs_neg, abs_of_nonneg x.size_nonneg]
  · exact abs_of_nonneg x.size_nonneg

theorem isPositive_iff (x : Decimal) : x.isPositive = true ↔ 0 < x.value := by
  have hpow : (0 : ℚ) < 10 ^ x.exponent := by positivity
  unfold isPositive value withSign size
  rcases Nat.eq_zero_or_pos x.coefficient with hc | hc
  · simp [hc]
  · have hc' : (0 : ℚ) < x.coefficient := by exact_mod_cast hc
    have hsize : 0 < (x.coefficient : ℚ) * 10 ^ x.exponent := mul_pos hc' hpow
    cases x.negative
    · simpa [hc.ne'] using hsize
    · simpa [hc.ne'] using hsize.le

/-- At a smaller exponent a number stands for the same. -/
theorem signedAt_mul_pow (h : e ≤ x.exponent) : (x.signedAt e : ℚ) * 10 ^ e = x.value := by
  have hpow : (10 : ℚ) ^ x.exponent = 10 ^ (x.exponent - e).toNat * 10 ^ e := by
    rw [← zpow_natCast, ← zpow_add₀ (by norm_num)]
    congr 1
    omega
  unfold signedAt value withSign size
  rw [hpow]
  split <;> simp [mul_assoc]

theorem value_mk (c e : Int) : value ⟨decide (c < 0), c.natAbs, e⟩ = c * 10 ^ e := by
  unfold value withSign size
  rcases lt_or_ge c 0 with h | h
  · simp [h, Nat.cast_natAbs, abs_of_neg h]
  · simp [not_lt.mpr h, Nat.cast_natAbs, abs_of_nonneg h]

theorem isHundredths_ofInt (n : Int) : (ofInt n).IsHundredths (100 * n) := by
  refine ⟨show (-2 : Int) ≤ 0 by decide, ?_⟩
  rw [ofInt, value_mk, zpow_zero, Int.cast_mul, mul_one]
  exact (mul_div_cancel_left₀ _ (by norm_num)).symm

namespace IsHundredths

/-! ### Few digits -/

theorem neg (hx : x.IsHundredths a) : x.neg.IsHundredths (-a) :=
  ⟨hx.places, by rw [value_neg, hx.value, Int.cast_neg, neg_div]⟩

theorem size_eq (hx : x.IsHundredths a) : x.size = |(a : ℚ)| / 100 := by
  rw [← abs_value, hx.value, abs_div, abs_of_pos (by norm_num : (0 : ℚ) < 100)]

theorem coefficient_le (hx : x.IsHundredths a) : x.coefficient ≤ a.natAbs := by
  have hpow : (10 : ℚ) ^ (-2 : Int) ≤ 10 ^ x.exponent := zpow_le_zpow_right₀ (by norm_num) hx.places
  have hle : (x.coefficient : ℚ) * 10 ^ (-2 : Int) ≤ x.size :=
    mul_le_mul_of_nonneg_left hpow (Nat.cast_nonneg _)
  rw [hx.size_eq] at hle
  norm_num at hle
  have hcast : (x.coefficient : ℚ) ≤ (a.natAbs : Nat) := by
    rw [Nat.cast_natAbs, Int.cast_abs]
    linarith
  exact_mod_cast hcast

theorem digitCount_le (hx : x.IsHundredths a) {k : Nat} (ha : a.natAbs < 10 ^ k) :
    digitCount 10 x.coefficient ≤ k :=
  digitCount_le_of_lt (by decide) (Nat.lt_of_le_of_lt hx.coefficient_le ha)

theorem order_between (hx : x.IsHundredths a) (hc : x.coefficient ≠ 0) {k : Nat} (ha : a.natAbs < 10 ^ k) :
    -2 < x.order ∧ x.order ≤ k - 2 := by
  have hpos := Nat.pos_of_ne_zero hc
  have hdigits := digitCount_pos_of_pos (b := 10) (by decide) hpos
  have hplaces := hx.places
  refine ⟨by unfold order; omega, ?_⟩
  have hle := pow_order_le_size hpos
  have hlt : x.size < 10 ^ ((k : Int) - 2) := by
    have hcast : |(a : ℚ)| < 10 ^ k := by
      rw [← Int.cast_abs, ← Nat.cast_natAbs]
      exact_mod_cast ha
    rw [hx.size_eq, zpow_sub₀ (by norm_num), zpow_natCast]
    norm_num
    linarith
  have := (zpow_lt_zpow_iff_right₀ (by norm_num : (1 : ℚ) < 10)).mp (hle.trans_lt hlt)
  omega

theorem rounded (hx : x.IsHundredths a) (ha : a.natAbs < 10 ^ 28) : x.rounded.IsHundredths a := by
  rwa [rounded_eq_self (hx.digitCount_le ha)]

/-! ### Exact differences -/

/-- Neither of two numbers of hundredths is too faint for the other one. -/
theorem beside_eq (hx : x.IsHundredths a) (hy : y.IsHundredths b) (hc : x.coefficient ≠ 0)
    (hd : y.coefficient ≠ 0) (ha : a.natAbs < 10 ^ 18) (hb : b.natAbs < 10 ^ 18) : x.beside y = x := by
  have hox := hx.order_between hc ha
  have hoy := hy.order_between hd hb
  have hdigits : (workingDigits : Int) = 28 := rfl
  unfold beside faintPlace
  rw [if_neg (by omega)]

theorem sub (hx : x.IsHundredths a) (hy : y.IsHundredths b) (ha : a.natAbs < 10 ^ 18)
    (hb : b.natAbs < 10 ^ 18) : (x.sub y).IsHundredths (a - b) := by
  have hzero : ∀ {z : Decimal} {c : Int}, z.IsHundredths c → z.coefficient = 0 → c = 0 := by
    intro z c hz hc
    have hsize := hz.size_eq
    rw [size, hc, Nat.cast_zero, zero_mul, eq_comm, div_eq_zero_iff, abs_eq_zero] at hsize
    exact_mod_cast hsize.resolve_right (by norm_num)
  unfold Decimal.sub
  split
  · rename_i hc
    rw [hzero hx hc, zero_sub]
    exact hy.neg.rounded (by omega)
  split
  · rename_i hc
    rw [hzero hy hc, sub_zero]
    exact hx.rounded (by omega)
  rename_i hc hd
  rw [hx.beside_eq hy hc hd ha hb, hy.beside_eq hx hd hc hb ha]
  dsimp only
  generalize he : min x.exponent y.exponent = e
  have hplaces := hx.places
  have hplaces' := hy.places
  refine IsHundredths.rounded ⟨by dsimp only; omega, ?_⟩ (by omega)
  rw [value_mk, Int.cast_sub, sub_mul, signedAt_mul_pow (by omega), signedAt_mul_pow (by omega), hx.value,
    hy.value, Int.cast_sub, sub_div]

/-! ### Comparisons -/

theorem isPositive_iff (hx : x.IsHundredths a) : x.isPositive = true ↔ 0 < a := by
  rw [Decimal.isPositive_iff, hx.value, div_pos_iff_of_pos_right (by norm_num)]
  exact Int.cast_pos

theorem exceeds_iff (hx : x.IsHundredths a) (ha : a.natAbs < 10 ^ 18) (hb : bound.natAbs < 10 ^ 15) :
    x.exceeds bound = true ↔ 100 * bound < a := by
  rw [exceeds, (hx.sub (isHundredths_ofInt bound) ha (by omega)).isPositive_iff, sub_pos]

theorem fallsBelow_iff (hx : x.IsHundredths a) (ha : a.natAbs < 10 ^ 18) (hb : bound.natAbs < 10 ^ 15) :
    x.fallsBelow bound = true ↔ a < 100 * bound := by
  rw [fallsBelow, ((isHundredths_ofInt bound).sub hx (by omega) ha).isPositive_iff, sub_pos]

theorem isTooLarge_eq_false (hx : x.IsHundredths a) (ha : a.natAbs < 10 ^ 18) : x.isTooLarge = false := by
  by_cases hc : x.coefficient = 0
  · simp [isTooLarge, hc]
  · have ho := (hx.order_between hc ha).2
    have hmax : highestOrder = 1000000 := rfl
    rw [isTooLarge, decide_eq_false (by omega), Bool.and_false]

end IsHundredths

end SchoolRegister.Number.Decimal
