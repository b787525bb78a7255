import Mathlib.Algebra.Group.Nat.Defs
import SchoolRegister.Report.Rate

/-! # Percentages that can be rounded

Rounding to two places fails only for numbers that need more digits than the working precision has.
A percentage is far from that as long as the part has not many more digits than the whole: a quotient
has at most three more digits before its point than its terms differ by (`Decimal.order_quotient_le`).
So there is a rate whenever the actual attendance is not above the possible one
(`Report.exists_attendanceRate`), and whenever it has at most twenty digits
(`Report.exists_attendanceRate_of_lt`). -/

namespace SchoolRegister.Number

/-! ### Digits -/

theorem digitCount_le_of_lt {b n k : Nat} (hb : 1 < b) (h : n < b ^ k) : digitCount b n ≤ k := by
  rcases Nat.eq_zero_or_pos n with rfl | hn
  · rw [digitCount_zero]
    exact Nat.zero_le k
  · have hle : b ^ (digitCount b n - 1) ≤ n := pow_le_of_digitCount hb hn
    have hlt := (Nat.pow_lt_pow_iff_right hb).mp (Nat.lt_of_le_of_lt hle h)
    omega

theorem digitCount_mono {b n m : Nat} (hb : 1 < b) (h : n ≤ m) : digitCount b n ≤ digitCount b m :=
  digitCount_le_of_lt hb (Nat.lt_of_le_of_lt h (lt_pow_digitCount hb m))

theorem digitCount_pos_of_pos {b n : Nat} (hb : 1 < b) (hn : 0 < n) : 0 < digitCount b n := by
  rw [digitCount_pos hb hn]
  exact Nat.succ_pos _

theorem digitCount_roundDiv_le (tie : Tie) {n d k : Nat} (h : n < 10 ^ k * d) :
    digitCount 10 (roundDiv tie n d) ≤ k + 1 := by
  have hd : 0 < d := Nat.pos_of_ne_zero fun e => by simp [e] at h
  have hq : n / d < 10 ^ k := (Nat.div_lt_iff_lt_mul hd).mpr h
  have hle : roundDiv tie n d ≤ n / d + 1 := by
    rcases roundDiv_eq_or tie n d with e | e <;> omega
  apply digitCount_le_of_lt (by decide)
  exact Nat.lt_of_le_of_lt (Nat.le_trans hle hq) (Nat.pow_lt_pow_succ (by decide))

/-- A fraction is below a power of ten by the digits of its terms and the power that it is divided by. -/
theorem scaled_lt {n d a b k : Nat} {e : Int} (hn : n < 10 ^ a) (hd : 10 ^ b ≤ d)
    (h : (a : Int) - b - e ≤ k) : (scaled 10 n d e).1 < 10 ^ k * (scaled 10 n d e).2 := by
  show n * 10 ^ (-e).toNat < 10 ^ k * (d * 10 ^ e.toNat)
  have hexp : a + (-e).toNat ≤ k + (b + e.toNat) := by omega
  calc n * 10 ^ (-e).toNat
      < 10 ^ a * 10 ^ (-e).toNat := Nat.mul_lt_mul_of_pos_right hn (Nat.pow_pos (by decide))
    _ = 10 ^ (a + (-e).toNat) := (Nat.pow_add 10 a _).symm
    _ ≤ 10 ^ (k + (b + e.toNat)) := Nat.pow_le_pow_right (by decide) hexp
    _ = 10 ^ k * (10 ^ b * 10 ^ e.toNat) := by rw [Nat.pow_add, Nat.pow_add 10 b]
    _ ≤ 10 ^ k * (d * 10 ^ e.toNat) := Nat.mul_le_mul_left _ (Nat.mul_le_mul_right _ hd)

namespace Decimal

/-! ### Orders of results -/

theorem order_rounded_le (x : Decimal) : x.rounded.order ≤ x.order + 1 := by
  unfold rounded
  dsimp only
  split
  · omega
  · have hlt : x.coefficient < 10 ^ workingDigits *
        10 ^ (digitCount 10 x.coefficient - workingDigits) := by
      rw [← Nat.pow_add]
      refine Nat.lt_of_lt_of_le (lt_pow_digitCount (b := 10) (by decide) x.coefficient) ?_
      exact Nat.pow_le_pow_right (by decide) (by omega)
    have hd := digitCount_roundDiv_le .toEven hlt
    unfold order
    dsimp only
    simp only [Nat.pow_eq]
    omega

theorem order_hundredfold_le (x : Decimal) : x.hundredfold.order ≤ x.order + 3 := by
  have hr := order_rounded_le { x with coefficient := 100 * x.coefficient }
  have hd : digitCount 10 (100 * x.coefficient) ≤ digitCount 10 x.coefficient + 2 := by
    apply digitCount_le_of_lt (by decide)
    have hlt : x.coefficient < 10 ^ digitCount 10 x.coefficient := lt_pow_digitCount (by decide) _
    rw [Nat.pow_add]
    omega
  unfold hundredfold
  unfold order at hr ⊢
  dsimp only at hr
  omega

theorem order_nearest_le (negative : Bool) {n d : Nat} (hn : 0 < n) (hd : 0 < d) :
    (nearest negative n d).order ≤ digitCount 10 n - digitCount 10 d + 3 := by
  have hm : (digitCount 10 n : Int) - digitCount 10 d ≤ magnitude 10 n d ∧
      magnitude 10 n d ≤ digitCount 10 n - digitCount 10 d + 1 := by
    unfold magnitude
    dsimp only
    split <;> omega
  have hpos := digitCount_pos_of_pos (b := 10) (by decide) hd
  have hlt := scaled_lt (k := workingDigits + 1) (e := magnitude 10 n d - workingDigits)
    (lt_pow_digitCount (by decide) n) (pow_le_of_digitCount (by decide) hd) (by omega)
  have hdigits := digitCount_roundDiv_le .toEven hlt
  unfold nearest
  rw [if_neg (Nat.ne_of_gt hn)]
  unfold order
  dsimp only
  omega

theorem order_quotient_le {x y : Decimal} (hx : 0 < x.coefficient) (hy : 0 < y.coefficient) :
    (x.quotient y).order ≤ x.order - y.order + 3 := by
  have h := order_nearest_le (x.negative != y.negative) hx hy
  unfold quotient
  unfold order at h ⊢
  dsimp only
  omega

theorem coefficient_quotient_of_zero {x y : Decimal} (h : x.coefficient = 0) :
    (x.quotient y).coefficient = 0 := by
  simp [quotient, nearest, h]

/-! ### Two places -/

theorem isSome_toHundredths? {x : Decimal} (h : x.coefficient = 0 ∨ x.order ≤ 25) :
    x.toHundredths?.isSome := by
  unfold toHundredths?
  split
  · rfl
  · rename_i hne
    simp only [Bool.or_eq_true, decide_eq_true_eq, not_or] at hne
    have hord : x.order ≤ 25 := h.resolve_left hne.1
    have hnot : ¬ (workingDigits : Int) < x.order + 2 := by
      unfold workingDigits
      omega
    rw [if_neg hnot]
    have hcoef : 100 * x.coefficient < 10 ^ (digitCount 10 x.coefficient + 2) := by
      have hlt : x.coefficient < 10 ^ digitCount 10 x.coefficient := lt_pow_digitCount (by decide) _
      rw [Nat.pow_add]
      omega
    have hscaled := scaled_lt (d := 1) (b := 0) (k := 27) (e := -x.exponent) hcoef (by decide)
      (by unfold order at hord; omega)
    have hnum : (scaled 10 (100 * x.coefficient) 1 (-x.exponent)).1 =
        100 * x.magnitudeFraction.1 := Nat.mul_assoc ..
    have hfraction : 100 * x.magnitudeFraction.1 < 10 ^ 27 * x.magnitudeFraction.2 :=
      hnum ▸ hscaled
    have hdigits := digitCount_roundDiv_le .up hfraction
    dsimp only
    rw [if_pos (Nat.le_trans hdigits (show 27 + 1 ≤ workingDigits by decide))]
    rfl

/-- A percentage can be rounded to two places unless the part has many more digits than the whole. -/
theorem isSome_toHundredths?_percentage {part whole : Int} (hw : whole ≠ 0)
    (h : digitCount 10 part.natAbs ≤ digitCount 10 whole.natAbs + 19) :
    (percentage part whole).toHundredths?.isSome := by
  apply isSome_toHundredths?
  unfold percentage
  rcases Nat.eq_zero_or_pos (ofInt part).hundredfold.coefficient with h0 | hpos
  · exact .inl (coefficient_quotient_of_zero h0)
  · right
    have hq := order_quotient_le (y := ofInt whole) hpos (Int.natAbs_pos.mpr hw)
    have hf := order_hundredfold_le (ofInt part)
    unfold order at hf hq ⊢
    simp only [ofInt] at hf hq ⊢
    omega

end Decimal
end SchoolRegister.Number

namespace SchoolRegister.Report

open Number

/-- There is a rate if the actual attendance has not many more digits than the possible one. -/
theorem exists_attendanceRate_of_digitCount {actual possible : Int}
    (h : digitCount 10 actual.natAbs ≤ digitCount 10 possible.natAbs + 19) :
    ∃ rate, attendanceRate actual possible = .ok rate := by
  unfold attendanceRate roundedRate
  split
  · exact ⟨_, rfl⟩
  · rename_i hpos
    have hne : possible ≠ 0 := by omega
    obtain ⟨x, hx⟩ := Option.isSome_iff_exists.mp (Decimal.isSome_toHundredths?_percentage hne h)
    exact ⟨Binary64.ofDecimal x, by simp [Quantity.rounded?, hx]⟩

theorem exists_attendanceRate {actual possible : Nat} (h : actual ≤ possible) :
    ∃ rate, attendanceRate actual possible = .ok rate :=
  exists_attendanceRate_of_digitCount (Nat.le_add_right_of_le (digitCount_mono (by decide) h))

theorem exists_attendanceRate_of_lt {actual : Int} (h : actual.natAbs < 10 ^ 20) (possible : Int) :
    ∃ rate, attendanceRate actual possible = .ok rate := by
  by_cases hne : possible = 0
  · exact ⟨_, if_pos (Int.le_of_eq hne)⟩
  · have ha : digitCount 10 actual.natAbs ≤ 20 := digitCount_le_of_lt (by decide) h
    have hp := digitCount_pos_of_pos (b := 10) (by decide) (Int.natAbs_pos.mpr hne)
    exact exists_attendanceRate_of_digitCount (by omega)

end SchoolRegister.Report
