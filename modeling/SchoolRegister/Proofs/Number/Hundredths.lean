import Mathlib.Data.Nat.Cast.Order.Field
import SchoolRegister.Proofs.Number.Value

/-! # Doubles of hundredths

A double is precise enough for a whole number of hundredths below `10 ^ 15`: it lies so near to it
(`Hundredths.near`) that no other number of hundredths is as near.  So its shortest decimal is that number
of hundredths (`Hundredths.exists_shortest`), and such doubles are ordered as the numbers are
(`ofHundredths_le_iff`). -/

namespace SchoolRegister.Number.Binary64

def ofHundredths (c : Nat) : Binary64 := ofDecimal ⟨false, c, -2⟩

/-- A double is the nearest one to a number of hundredths and has units that are far smaller. -/
structure Hundredths (c m : Nat) (e : Int) : Prop where
  nearest : nearest false c 100 = .finite false m e
  near : |size m e - c / 100| ≤ 2 ^ e / 2
  fine : (2 : ℚ) ^ e < 1 / 400

variable {c c' m j : Nat} {e g k : Int}

/-- More than zero and fewer than `10 ^ 15` hundredths have such a double. -/
theorem exists_hundredths (hc : 0 < c) (hlt : c < 10 ^ 15) : ∃ m e, Hundredths c m e := by
  have hc0 : (1 : ℚ) ≤ c := by exact_mod_cast hc
  have hlt' : (c : ℚ) < 1000000000000000 := by exact_mod_cast hlt
  obtain ⟨m, e, hn, hm⟩ := exists_nearest (n := c) (d := 100) false hc (by norm_num)
    (by norm_num; linarith) (by norm_num; linarith)
  have hnear := abs_nearest_sub_le (by decide) hn
  rw [Nat.cast_ofNat] at hnear
  refine ⟨m, e, hn, hnear, ?_⟩
  have hm' : (2 : ℚ) ^ 52 ≤ m := by exact_mod_cast hm
  have he : (0 : ℚ) < 2 ^ e := by positivity
  have hsize : 2 ^ 52 * 2 ^ e ≤ size m e := mul_le_mul_of_nonneg_right hm' he.le
  have hle := (abs_le.mp hnear).2
  norm_num at hsize ⊢
  linarith

theorem ofHundredths_of_pos (hc : 0 < c) (hlt : c < 10 ^ 25) : ofHundredths c = nearest false c 100 := by
  have hdigits := digitCount_le_of_lt (b := 10) (by decide) hlt
  unfold ofHundredths ofDecimal decimalReach
  rw [if_neg hc.ne', if_neg (by dsimp only; omega), if_neg (by dsimp only; omega)]
  show nearest false (c * 1) 100 = _
  rw [Nat.mul_one]

theorem exists_value (hlt : c < 10 ^ 15) :
    ∃ v, (ofHundredths c).value? = some v ∧ |v - c / 100| < 1 / 800 := by
  rcases Nat.eq_zero_or_pos c with rfl | hc
  · exact ⟨_, rfl, by norm_num [withSign, size]⟩
  · obtain ⟨m, e, h⟩ := exists_hundredths hc hlt
    refine ⟨size m e, by rw [ofHundredths_of_pos hc (by omega), h.nearest]; rfl, ?_⟩
    have hnear := h.near
    have hfine := h.fine
    linarith

/-- The doubles of hundredths are ordered as the numbers are. -/
theorem ofHundredths_le_iff (hlt : c < 10 ^ 15) (hlt' : c' < 10 ^ 15) :
    ofHundredths c ≤ ofHundredths c' ↔ c ≤ c' := by
  obtain ⟨v, hv, hnear⟩ := exists_value hlt
  obtain ⟨w, hw, hnear'⟩ := exists_value hlt'
  rw [le_iff hv hw]
  rw [abs_lt] at hnear hnear'
  constructor
  · intro hle
    by_contra hgt
    have hstep : (c' : ℚ) + 1 ≤ c := by exact_mod_cast not_le.mp hgt
    linarith
  · intro hle
    rcases hle.eq_or_lt with rfl | hlt
    · exact (Option.some.inj (hv.symm.trans hw)).le
    · have hstep : (c : ℚ) + 1 ≤ c' := by exact_mod_cast hlt
      linarith

/-! ### The shortest decimal -/

/-- Hundredths and larger decimal units: two numbers of them that are nearer than a hundredth are one. -/
theorem eq_of_near (hg : -2 ≤ g) (h : |(j : ℚ) * 10 ^ g - c / 100| < 1 / 100) :
    (j : ℚ) * 10 ^ g = c / 100 := by
  obtain ⟨i, hi⟩ : ∃ i : Nat, g = i - 2 := ⟨(g + 2).toNat, by omega⟩
  have hwhole : (j : ℚ) * 10 ^ g = ((j * 10 ^ i : Nat) : ℚ) / 100 := by
    rw [hi, zpow_sub₀ (by norm_num), zpow_natCast, Nat.cast_mul, Nat.cast_pow]
    norm_num
    ring
  rw [hwhole] at h ⊢
  rw [← sub_div, abs_div, abs_of_pos (by norm_num : (0 : ℚ) < 100),
    div_lt_div_iff_of_pos_right (by norm_num)] at h
  have hint : |((j * 10 ^ i : Nat) : Int) - c| < 1 := by exact_mod_cast h
  have heq : ((j * 10 ^ i : Nat) : Int) = c := by
    rw [Int.abs_lt_one_iff] at hint
    omega
  rw [show ((j * 10 ^ i : Nat) : ℚ) = c by exact_mod_cast heq]

theorem readsBack_iff : readsBack m e j g = true ↔
    nearest false (scaled 10 j 1 (-g)).1 (scaled 10 j 1 (-g)).2 = .finite false m e := beq_iff_eq

theorem abs_sub_le_of_readsBack (h : readsBack m e j g = true) : |size m e - j * 10 ^ g| ≤ 2 ^ e / 2 := by
  have hoff := abs_nearest_sub_le (scaled_snd_pos (by decide) (by decide)) (readsBack_iff.mp h)
  rwa [← ratio, ratio_scaled (by decide), zpow_neg, div_inv_eq_mul, Nat.cast_one, div_one,
    Nat.cast_ofNat] at hoff

theorem readsBack_of_gridPoint? (h : gridPoint? m e g = some j) : readsBack m e j g = true := by
  unfold gridPoint? at h
  dsimp only at h
  split at h
  · rename_i hb ha
    rw [Option.some.injEq] at h
    rcases roundDiv_eq_or .toEven (scaled 10 (fraction m e).1 (fraction m e).2 g).1
      (scaled 10 (fraction m e).1 (fraction m e).2 g).2 with hq | hq
    · rw [← h, hq, hb]
    · rw [← h, hq, ha]
  · rename_i hb _
    cases h
    exact hb
  · rename_i _ ha
    cases h
    exact ha
  · cases h

namespace Hundredths

variable (h : Hundredths c m e)
include h

/-- What is rounded to the double on a grid of hundredths or larger units is the number of hundredths. -/
theorem eq_of_readsBack (hg : -2 ≤ g) (hr : readsBack m e j g = true) : (j : ℚ) * 10 ^ g = c / 100 := by
  have hoff := abs_sub_le_of_readsBack hr
  refine eq_of_near hg ?_
  have hnear := h.near
  have hfine := h.fine
  rw [abs_le] at hoff hnear
  rw [abs_lt]
  constructor <;> linarith

theorem readsBack : readsBack m e c (-2) = true := by
  rw [readsBack_iff]
  show Binary64.nearest false (c * 1) 100 = _
  rw [Nat.mul_one]
  exact h.nearest

theorem gridPoint?_ne_none : gridPoint? m e (-2) ≠ none := by
  have hpos : 0 < (scaled 10 (fraction m e).1 (fraction m e).2 (-2)).2 :=
    scaled_snd_pos (by decide) (fraction_snd_pos m e)
  have hratio := ratio_scaled (b := 10) (by decide) (fraction m e).1 (fraction m e).2 (-2)
  rw [← ratio, ratio_fraction, zpow_neg, div_inv_eq_mul, ratio] at hratio
  unfold gridPoint?
  dsimp only
  generalize (scaled 10 (fraction m e).1 (fraction m e).2 (-2)).1 = p at hratio ⊢
  generalize (scaled 10 (fraction m e).1 (fraction m e).2 (-2)).2 = q at hpos hratio ⊢
  have hneighbour : c = p / q ∨ c = p / q + 1 := by
    have hq : (0 : ℚ) < q := by exact_mod_cast hpos
    have hle : ((p / q : Nat) : ℚ) ≤ size m e * 100 := by
      refine le_trans Nat.cast_div_le (le_of_eq ?_)
      rw [hratio]
      norm_num
    have hlt : size m e * 100 < ((p / q : Nat) : ℚ) + 1 := by
      refine lt_of_eq_of_lt (b := (p : ℚ) / q) ?_ ?_
      · rw [hratio]
        norm_num
      · rw [div_lt_iff₀ hq]
        exact_mod_cast Nat.lt_mul_of_div_lt (Nat.lt_succ_self (p / q)) hpos
    have hnear := abs_le.mp h.near
    have hfine := h.fine
    have hlow : ((p / q : Nat) : ℚ) - 1 < c := by linarith
    have hhigh : (c : ℚ) < ((p / q : Nat) : ℚ) + 2 := by linarith
    have hlow' : p / q < c + 1 := by
      have : ((p / q : Nat) : ℚ) < (c : ℚ) + 1 := by linarith
      exact_mod_cast this
    have hhigh' : c < p / q + 2 := by exact_mod_cast hhigh
    omega
  have hback := h.readsBack
  intro hnone
  split at hnone <;> try cases hnone
  rename_i hb ha
  rcases hneighbour with hc | hc
  · rw [← hc, hback] at hb
    cases hb
  · rw [← hc, hback] at ha
    cases ha

/-- From any grid that is not finer than hundredths the search for the shortest decimal ends with the number
of hundredths. -/
theorem exists_shortestFrom {digits fuel : Nat} (hg : -2 ≤ k - digits) (hfuel : k - digits + 2 < fuel) :
    ∃ j g, shortestFrom m e k digits fuel = (j, g) ∧ -2 ≤ g ∧ (j : ℚ) * 10 ^ g = c / 100 := by
  induction fuel generalizing digits with
  | zero => omega
  | succ fuel ih =>
      rw [shortestFrom]
      cases hj : gridPoint? m e (k - digits) with
      | some j =>
          have hvalue := h.eq_of_readsBack hg (readsBack_of_gridPoint? hj)
          dsimp only
          split
          · rename_i hpow
            refine ⟨1, k, rfl, by omega, ?_⟩
            rw [← hvalue, hpow, Nat.pow_eq, Nat.cast_pow, Nat.cast_one, one_mul, Nat.cast_ofNat,
              ← zpow_natCast, ← zpow_add₀ (by norm_num)]
            congr 1
            omega
          · exact ⟨j, k - digits, rfl, hg, hvalue⟩
      | none =>
          have hne : k - digits ≠ -2 := fun e => h.gridPoint?_ne_none (e ▸ hj)
          exact ih (by omega) (by omega)

theorem le_size (hc : 0 < c) : (1 : ℚ) / 100 ≤ size m e := by
  rcases Nat.lt_or_ge 1 c with hgt | hle
  · have htwo : (2 : ℚ) ≤ c := by exact_mod_cast hgt
    have hnear := abs_le.mp h.near
    have hfine := h.fine
    linarith
  · obtain rfl : c = 1 := by omega
    have hone : Binary64.nearest false 1 100 = .finite false 5764607523034235 (-59) := by decide +kernel
    have heq := h.nearest
    rw [hone] at heq
    cases heq
    norm_num [size]

/-- The shortest decimal of the double is the number of hundredths. -/
theorem exists_shortest (hc : 0 < c) (hlt : c < 10 ^ 15) :
    ∃ j g, shortestMagnitude m e = (j, g) ∧ -2 ≤ g ∧ (j : ℚ) * 10 ^ g = c / 100 := by
  have hlow := h.le_size hc
  have hhigh : size m e < 10 ^ 14 := by
    have hlt' : (c : ℚ) < 1000000000000000 := by exact_mod_cast hlt
    have hnear := abs_le.mp h.near
    have hfine := h.fine
    norm_num
    linarith
  have hm : m ≠ 0 := by
    rintro rfl
    norm_num [size] at hlow
  have hnum : 0 < (fraction m e).1 := by
    refine Nat.pos_of_ne_zero fun hzero => ?_
    have hratio := ratio_fraction m e
    rw [ratio, hzero, Nat.cast_zero, zero_div] at hratio
    rw [← hratio] at hlow
    norm_num at hlow
  obtain ⟨hle, hgt⟩ := magnitude_between (b := 10) (by decide) hnum (fraction_snd_pos m e)
  rw [← ratio, ratio_fraction, Nat.cast_ofNat] at hle hgt
  have hk : -2 < magnitude 10 (fraction m e).1 (fraction m e).2 := by
    refine (zpow_lt_zpow_iff_right₀ (by norm_num : (1 : ℚ) < 10)).mp (lt_of_le_of_lt ?_ hgt)
    norm_num
    linarith
  have hk' : magnitude 10 (fraction m e).1 (fraction m e).2 - 1 < 14 := by
    refine (zpow_lt_zpow_iff_right₀ (by norm_num : (1 : ℚ) < 10)).mp (lt_of_le_of_lt hle ?_)
    exact_mod_cast hhigh
  have hmax : (maxDigits : Int) = 17 := rfl
  rw [shortestMagnitude, if_neg hm]
  dsimp only
  exact h.exists_shortestFrom (by omega) (by omega)

end Hundredths

end SchoolRegister.Number.Binary64
