import SchoolRegister.Proofs.Number.Difference
import SchoolRegister.Proofs.Number.Hundredths

/-! # Sizes of differences

The results of decimal arithmetic may be too large, but no rate comes near to that.  A difference is no more
than four times as large as its terms together, faint summands and rounding included (`Decimal.size_sub_le`).
The shortest decimal of a double is rounded back to it and thus no more than twice as large
(`Binary64.size_shortestMagnitude_le`), and the double of a number of hundredths is no more than twice as large
as that number (`Binary64.exists_finite_ofHundredths`). -/

namespace SchoolRegister.Number

namespace Decimal

variable {x y : Decimal} {k : Int}

theorem size_rounded_le (x : Decimal) : x.rounded.size ≤ 2 * x.size := by
  have hoff := (abs_le.mp (abs_rounded_sub_le x)).2
  have hsmall : x.size / (2 * 10 ^ 27) ≤ x.size := div_le_self x.size_nonneg (by norm_num)
  linarith

theorem size_neg (x : Decimal) : x.neg.size = x.size := rfl

theorem size_beside_le (hy : 0 < y.coefficient) (x : Decimal) : (x.beside y).size ≤ x.size + y.size := by
  have hx := x.size_nonneg
  have hy0 := y.size_nonneg
  unfold beside
  split
  · -- what is too faint is replaced by a power of ten below the digits of the other number
    have hfaint : y.faintPlace ≤ y.order - 1 := by
      have hdigits : (workingDigits : Int) = 28 := rfl
      unfold faintPlace
      omega
    have hpow : (10 : ℚ) ^ y.faintPlace ≤ 10 ^ (y.order - 1) := zpow_le_zpow_right₀ (by norm_num) hfaint
    have hle := pow_order_le_size hy
    simp only [size, Nat.cast_one, one_mul] at hle ⊢
    simp only [size] at hx
    linarith
  · linarith

theorem size_sub_le (x y : Decimal) : (x.sub y).size ≤ 4 * (x.size + y.size) := by
  have hx := x.size_nonneg
  have hy := y.size_nonneg
  unfold sub
  split
  · have hround := size_rounded_le y.neg
    rw [size_neg] at hround
    linarith
  split
  · have hround := size_rounded_le x
    linarith
  rename_i hcx hcy
  have hx' := size_beside_le (Nat.pos_of_ne_zero hcy) x
  have hy' := size_beside_le (Nat.pos_of_ne_zero hcx) y
  dsimp only
  generalize x.beside y = x' at hx' ⊢
  generalize y.beside x = y' at hy' ⊢
  refine (size_rounded_le _).trans ?_
  rw [← abs_value, value_mk, Int.cast_sub, sub_mul, signedAt_mul_pow (by omega), signedAt_mul_pow (by omega)]
  have htriangle := abs_sub x'.value y'.value
  rw [abs_value, abs_value] at htriangle
  linarith

theorem isTooLarge_eq_false (h : x.size < 10 ^ k) (hk : k ≤ highestOrder) : x.isTooLarge = false := by
  rcases Nat.eq_zero_or_pos x.coefficient with hc | hc
  · simp [isTooLarge, hc]
  · have hlt := (pow_order_le_size hc).trans_lt h
    have horder := (zpow_lt_zpow_iff_right₀ (by norm_num : (1 : ℚ) < 10)).mp hlt
    rw [isTooLarge, decide_eq_false (by omega), Bool.and_false]

end Decimal

namespace Binary64

variable {c m j : Nat} {e g k : Int}

/-! ### Shortest decimals -/

theorem unit_le_size (hm : 0 < m) (e : Int) : (2 : ℚ) ^ e ≤ size m e := by
  have hone : (1 : ℚ) ≤ m := by exact_mod_cast hm
  exact le_mul_of_one_le_left (by positivity) hone

/-- The search for the shortest decimal ends with nothing or with what is rounded to the double. -/
theorem readsBack_shortestFrom (m : Nat) (e k : Int) (digits fuel : Nat) :
    (shortestFrom m e k digits fuel).1 = 0 ∨
      |size m e - (shortestFrom m e k digits fuel).1 * 10 ^ (shortestFrom m e k digits fuel).2| ≤ 2 ^ e / 2 := by
  induction fuel generalizing digits with
  | zero => exact .inl rfl
  | succ fuel ih =>
      rw [shortestFrom]
      cases hj : gridPoint? m e (k - digits) with
      | none => exact ih (digits + 1)
      | some j =>
          have hoff := abs_sub_le_of_readsBack (readsBack_of_gridPoint? hj)
          dsimp only
          split
          · rename_i hpow
            have hsame : ((1 : Nat) : ℚ) * 10 ^ k = j * 10 ^ (k - digits) := by
              rw [hpow, Nat.pow_eq, Nat.cast_pow, Nat.cast_one, one_mul, Nat.cast_ofNat, ← zpow_natCast,
                ← zpow_add₀ (by norm_num)]
              congr 1
              omega
            right
            rwa [hsame]
          · exact .inr hoff

theorem size_shortestMagnitude_le (m : Nat) (e : Int) :
    ((shortestMagnitude m e).1 : ℚ) * 10 ^ (shortestMagnitude m e).2 ≤ 2 * size m e := by
  unfold shortestMagnitude
  split
  · rename_i hm
    simp [size, hm]
  · rename_i hm
    have hunit := unit_le_size (Nat.pos_of_ne_zero hm) e
    have hpos : (0 : ℚ) < 2 ^ e := by positivity
    dsimp only
    rcases readsBack_shortestFrom m e (magnitude 10 (fraction m e).1 (fraction m e).2) 1 maxDigits with h | h
    · rw [h, Nat.cast_zero, zero_mul]
      linarith
    · have hlow := (abs_le.mp h).1
      linarith

/-- The double of a number of hundredths is finite, unless the number is very large, and no more than twice as
large. -/
theorem exists_finite_ofHundredths (hlt : c < 10 ^ 25) :
    ∃ m e, ofHundredths c = .finite false m e ∧ size m e ≤ c / 50 := by
  rcases Nat.eq_zero_or_pos c with rfl | hc
  · exact ⟨0, minExponent, rfl, by simp [size]⟩
  · have hc' : (1 : ℚ) ≤ c := by exact_mod_cast hc
    have hlt' : (c : ℚ) < 10000000000000000000000000 := by exact_mod_cast hlt
    obtain ⟨m, e, hn, hm⟩ := exists_nearest (n := c) (d := 100) false hc (by norm_num)
      (by norm_num; linarith) (by norm_num; linarith)
    refine ⟨m, e, (ofHundredths_of_pos hc hlt).trans hn, ?_⟩
    have hnear := (abs_le.mp (abs_nearest_sub_le (by decide) hn)).2
    rw [Nat.cast_ofNat] at hnear
    have hunit := unit_le_size (Nat.lt_of_lt_of_le (by decide) hm) e
    linarith

end Binary64
end SchoolRegister.Number
