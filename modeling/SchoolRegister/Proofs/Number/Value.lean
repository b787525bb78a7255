import Mathlib.Algebra.Order.Field.Power
import Mathlib.Tactic.FieldSimp
import Mathlib.Tactic.Linarith
import Mathlib.Tactic.NormNum
import Mathlib.Tactic.Positivity
import Mathlib.Tactic.Ring
import SchoolRegister.Number.Quantity
import SchoolRegister.Proofs.Number.Percentage

/-! # What numbers stand for

A decimal number stands for a rational number, `Decimal.value`, and so does a finite double,
`Binary64.value?`.  Everything that is rounded is measured against the exact value:

* `roundDiv` is off by half a unit at most (`abs_roundDiv_sub_le`), and `magnitude` is the order of
  magnitude of a quotient (`magnitude_between`).
* A decimal result is off by half a unit of its last place at most, which is less than a part in
  `2 * 10 ^ 27` (`Decimal.abs_rounded_sub_le`, `Decimal.abs_nearest_sub_le`).
* The nearest double is off by half a unit at most (`Binary64.abs_nearest_sub_le`), and that unit is small
  beside the double as long as the quotient is of moderate size (`Binary64.exists_nearest`).
* Finite doubles are ordered as what they stand for (`Binary64.le_iff`). -/

namespace SchoolRegister.Number

/-! ### Quotients -/

def ratio (p : Nat × Nat) : ℚ := p.1 / p.2

variable {b n d : Nat} {e : Int}

theorem scaled_snd_pos (hb : 0 < b) (hd : 0 < d) : 0 < (scaled b n d e).2 :=
  Nat.mul_pos hd (Nat.pow_pos hb)

theorem ratio_scaled (hb : 0 < b) (n d : Nat) (e : Int) :
    ratio (scaled b n d e) = n / d / (b : ℚ) ^ e := by
  have hne : (b : ℚ) ≠ 0 := by exact_mod_cast hb.ne'
  have hpow : (b : ℚ) ^ e = (b : ℚ) ^ e.toNat / (b : ℚ) ^ (-e).toNat := by
    rw [← zpow_natCast, ← zpow_natCast, ← zpow_sub₀ hne]
    congr 1
    omega
  rw [hpow]
  simp only [ratio, scaled, Nat.pow_eq, Nat.cast_mul, Nat.cast_pow]
  field_simp

theorem ratio_lt_one_iff {p : Nat × Nat} (hp : 0 < p.2) : ratio p < 1 ↔ p.1 < p.2 := by
  have h : (0 : ℚ) < p.2 := by exact_mod_cast hp
  rw [ratio, div_lt_one h, Nat.cast_lt]

/-! ### Orders of magnitude -/

section Digits

variable (hb : 1 < b)
include hb

theorem cast_lt_pow_digitCount (n : Nat) : (n : ℚ) < (b : ℚ) ^ (digitCount b n : Int) := by
  have h : n < b ^ digitCount b n := lt_pow_digitCount hb n
  rw [zpow_natCast]
  exact_mod_cast h

theorem pow_digitCount_le_cast (hn : 0 < n) : (b : ℚ) ^ ((digitCount b n : Int) - 1) ≤ n := by
  have h : b ^ (digitCount b n - 1) ≤ n := pow_le_of_digitCount hb hn
  have hpos := digitCount_pos_of_pos hb hn
  rw [show (digitCount b n : Int) - 1 = ((digitCount b n - 1 : Nat) : Int) by omega, zpow_natCast]
  exact_mod_cast h

/-- By the digits of its terms, a quotient lies between two powers of the base. -/
theorem ratio_between (hn : 0 < n) (hd : 0 < d) :
    (b : ℚ) ^ ((digitCount b n : Int) - digitCount b d - 1) ≤ n / d ∧
      (n : ℚ) / d < (b : ℚ) ^ ((digitCount b n : Int) - digitCount b d + 1) := by
  have hb0 : (0 : ℚ) < b := by exact_mod_cast Nat.zero_lt_of_lt hb
  have hd0 : (0 : ℚ) < d := by exact_mod_cast hd
  constructor
  · rw [le_div_iff₀ hd0]
    calc (b : ℚ) ^ ((digitCount b n : Int) - digitCount b d - 1) * d
        ≤ (b : ℚ) ^ ((digitCount b n : Int) - digitCount b d - 1) * (b : ℚ) ^ (digitCount b d : Int) :=
          mul_le_mul_of_nonneg_left (cast_lt_pow_digitCount hb d).le (by positivity)
      _ = (b : ℚ) ^ ((digitCount b n : Int) - 1) := by
          rw [← zpow_add₀ hb0.ne']
          congr 1
          omega
      _ ≤ n := pow_digitCount_le_cast hb hn
  · rw [div_lt_iff₀ hd0]
    calc (n : ℚ) < (b : ℚ) ^ (digitCount b n : Int) := cast_lt_pow_digitCount hb n
      _ = (b : ℚ) ^ ((digitCount b n : Int) - digitCount b d + 1) *
            (b : ℚ) ^ ((digitCount b d : Int) - 1) := by
          rw [← zpow_add₀ hb0.ne']
          congr 1
          omega
      _ ≤ (b : ℚ) ^ ((digitCount b n : Int) - digitCount b d + 1) * d :=
          mul_le_mul_of_nonneg_left (pow_digitCount_le_cast hb hd) (by positivity)

/-- The order of magnitude of a quotient is the least power of the base above it. -/
theorem magnitude_between (hn : 0 < n) (hd : 0 < d) :
    (b : ℚ) ^ (magnitude b n d - 1) ≤ n / d ∧ (n : ℚ) / d < (b : ℚ) ^ magnitude b n d := by
  have hb0 : (0 : ℚ) < b := by exact_mod_cast Nat.zero_lt_of_lt hb
  obtain ⟨hlow, hhigh⟩ := ratio_between hb hn hd
  unfold magnitude
  generalize (digitCount b n : Int) - digitCount b d = k at hlow hhigh ⊢
  have hone : (scaled b n d k).1 < (scaled b n d k).2 ↔ (n : ℚ) / d < (b : ℚ) ^ k := by
    rw [← ratio_lt_one_iff (scaled_snd_pos (Nat.zero_lt_of_lt hb) hd),
      ratio_scaled (Nat.zero_lt_of_lt hb), div_lt_one (by positivity)]
  dsimp only
  split
  · rename_i h
    exact ⟨hlow, hone.mp h⟩
  · rename_i h
    rw [add_sub_cancel_right]
    exact ⟨not_lt.mp fun hlt => h (hone.mpr hlt), hhigh⟩

end Digits

/-! ### Rounding -/

theorem abs_roundDiv_sub_le (tie : Tie) (n : Nat) (hd : 0 < d) :
    |(roundDiv tie n d : ℚ) - n / d| ≤ 1 / 2 := by
  have hd0 : (0 : ℚ) < d := by exact_mod_cast hd
  have hle : (2 * (roundDiv tie n d * d) : ℚ) ≤ 2 * n + d := by
    exact_mod_cast two_mul_roundDiv_le tie n hd
  have hge : (2 * n : ℚ) ≤ 2 * (roundDiv tie n d * d) + d := by
    exact_mod_cast le_two_mul_roundDiv tie n hd
  have hmul : |(roundDiv tie n d : ℚ) - n / d| * d ≤ 1 / 2 * d := by
    rw [← abs_of_pos hd0, ← abs_mul, abs_of_pos hd0, sub_mul, div_mul_cancel₀ _ hd0.ne', abs_le]
    constructor <;> linarith
  exact le_of_mul_le_mul_right hmul hd0

theorem roundDiv_mul (tie : Tie) (q : Nat) (hd : 0 < d) : roundDiv tie (q * d) d = q := by
  unfold roundDiv
  rw [Nat.mul_div_cancel _ hd, Nat.mul_mod_left]
  exact if_pos hd

theorem roundDiv_up (n : Nat) (hd : 0 < d) : roundDiv .up n d = (2 * n + d) / (2 * d) := by
  have hm : d * (n / d) + n % d = n := Nat.div_add_mod n d
  have hlt : n % d < d := Nat.mod_lt n hd
  symm
  unfold roundDiv
  dsimp only
  generalize n / d = q at hm ⊢
  generalize n % d = r at hm hlt ⊢
  have hq : q * (2 * d) = 2 * (d * q) := by ring
  rw [Nat.div_eq_iff (by omega)]
  split
  · omega
  · rw [ite_self, Nat.add_mul]
    omega

theorem roundDiv_up_eq_iff {c : Nat} (hd : 0 < d) :
    roundDiv .up n d = c ↔ (c : ℚ) - 1 / 2 ≤ n / d ∧ (n : ℚ) / d < c + 1 / 2 := by
  have hd0 : (0 : ℚ) < d := by exact_mod_cast hd
  rw [roundDiv_up n hd, Nat.div_eq_iff (by omega), le_div_iff₀ hd0, div_lt_iff₀ hd0]
  constructor
  · rintro ⟨hle, hlt⟩
    have hle' : (c * (2 * d) : ℚ) ≤ 2 * n + d := by exact_mod_cast hle
    have hlt' : (2 * n + d : ℚ) < (c + 1) * (2 * d) := by
      have : 2 * n + d < (c + 1) * (2 * d) := by
        rw [Nat.add_mul, Nat.one_mul]
        omega
      exact_mod_cast this
    constructor <;> linarith
  · rintro ⟨hle, hlt⟩
    have hle' : (c * (2 * d) : ℚ) ≤ 2 * n + d := by linarith
    have hlt' : (2 * n + d : ℚ) < c * (2 * d) + 2 * d := by linarith
    have hle'' : c * (2 * d) ≤ 2 * n + d := by exact_mod_cast hle'
    have hlt'' : 2 * n + d < c * (2 * d) + 2 * d := by exact_mod_cast hlt'
    omega

/-- What is close enough to a quotient that does not lie half way between two whole numbers is rounded as
the quotient is. -/
theorem roundDiv_up_eq_of_near {n' d' : Nat} (hd : 0 < d) (hd' : 0 < d')
    (hnear : |(n' : ℚ) / d' - n / d| < 1 / (2 * d))
    (hhalf : ∀ c : Nat, (n : ℚ) / d = c - 1 / 2 → (n' : ℚ) / d' = n / d) :
    roundDiv .up n' d' = roundDiv .up n d := by
  have hd0 : (0 : ℚ) < d := by exact_mod_cast hd
  generalize hc : roundDiv .up n d = c
  obtain ⟨hle, hlt⟩ := (roundDiv_up_eq_iff hd).mp hc
  rw [roundDiv_up_eq_iff hd']
  rcases hle.eq_or_lt with heq | hgt
  · rw [hhalf c heq.symm]
    exact ⟨hle, hlt⟩
  · -- the quotient is off from both ends by one of its parts at least
    have hx : (n : ℚ) / d * d = n := div_mul_cancel₀ _ hd0.ne'
    have hlow : (1 : ℚ) ≤ 2 * n - (2 * c - 1) * d := by
      have : (0 : ℚ) < 2 * n - (2 * c - 1) * d := by nlinarith
      have hint : (0 : Int) < 2 * n - (2 * c - 1) * d := by exact_mod_cast this
      exact_mod_cast hint
    have hhigh : (1 : ℚ) ≤ (2 * c + 1) * d - 2 * n := by
      have : (0 : ℚ) < (2 * c + 1) * d - 2 * n := by nlinarith
      have hint : (0 : Int) < (2 * c + 1) * d - 2 * n := by exact_mod_cast this
      exact_mod_cast hint
    have hlow' : (c : ℚ) - 1 / 2 + 1 / (2 * d) ≤ n / d := by
      rw [le_div_iff₀ hd0, add_mul, div_mul_eq_mul_div, one_mul, mul_comm 2 (d : ℚ),
        div_mul_cancel_left₀ hd0.ne']
      linarith
    have hhigh' : (n : ℚ) / d + 1 / (2 * d) ≤ c + 1 / 2 := by
      rw [← div_div, ← add_div, div_le_iff₀ hd0]
      linarith
    rw [abs_lt] at hnear
    constructor <;> linarith

/-! ### Decimal numbers -/

/-- A magnitude with its sign. -/
def withSign (negative : Bool) (q : ℚ) : ℚ := if negative then -q else q

namespace Decimal

/-- The magnitude of a decimal number. -/
def size (x : Decimal) : ℚ := x.coefficient * 10 ^ x.exponent

def value (x : Decimal) : ℚ := withSign x.negative x.size

variable {x : Decimal} {negative : Bool}

theorem size_nonneg (x : Decimal) : 0 ≤ x.size := by
  unfold size
  positivity

theorem magnitudeFraction_snd_pos (x : Decimal) : 0 < x.magnitudeFraction.2 :=
  scaled_snd_pos (by decide) (by decide)

theorem ratio_magnitudeFraction (x : Decimal) : ratio x.magnitudeFraction = x.size := by
  rw [magnitudeFraction, ratio_scaled (by decide), size, zpow_neg, div_inv_eq_mul]
  simp

theorem size_lt_pow_order (x : Decimal) : x.size < 10 ^ x.order := by
  have h := cast_lt_pow_digitCount (b := 10) (by decide) x.coefficient
  rw [Nat.cast_ofNat] at h
  rw [size, order, add_comm, zpow_add₀ (by norm_num)]
  exact mul_lt_mul_of_pos_right h (by positivity)

theorem pow_order_le_size (h : 0 < x.coefficient) : (10 : ℚ) ^ (x.order - 1) ≤ x.size := by
  have h := pow_digitCount_le_cast (b := 10) (by decide) h
  rw [Nat.cast_ofNat] at h
  rw [size, order, add_sub_assoc, add_comm, zpow_add₀ (by norm_num)]
  exact mul_le_mul_of_nonneg_right h (by positivity)

theorem rounded_eq_self (h : digitCount 10 x.coefficient ≤ workingDigits) : x.rounded = x := by
  unfold rounded
  rw [Nat.sub_eq_zero_of_le h]
  rfl

/-- What is rounded to a unit that is contained in it more than `10 ^ 27` times changes by less than a part
in twice as much. -/
theorem abs_mul_sub_mul_le {q r u : ℚ} (hu : 0 ≤ u) (hq : |q - r| ≤ 1 / 2) (hr : 10 ^ 27 ≤ r) :
    |q * u - r * u| ≤ r * u / (2 * 10 ^ 27) := by
  rw [← sub_mul, abs_mul, abs_of_nonneg hu, mul_div_right_comm]
  refine mul_le_mul_of_nonneg_right (hq.trans ?_) hu
  rw [le_div_iff₀ (by positivity)]
  linarith

/-- Rounding to the working precision changes a number by no more than a part in `2 * 10 ^ 27`. -/
theorem abs_rounded_sub_le (x : Decimal) : |x.rounded.size - x.size| ≤ x.size / (2 * 10 ^ 27) := by
  by_cases hdigits : digitCount 10 x.coefficient ≤ workingDigits
  · rw [rounded_eq_self hdigits, sub_self, abs_zero]
    exact div_nonneg x.size_nonneg (by norm_num)
  obtain ⟨extra, hextra⟩ : ∃ extra, digitCount 10 x.coefficient = workingDigits + (extra + 1) :=
    ⟨digitCount 10 x.coefficient - workingDigits - 1, by omega⟩
  have hpos : 0 < x.coefficient := Nat.pos_of_ne_zero fun h => by
    rw [h, digitCount_zero] at hdigits
    exact hdigits (Nat.zero_le _)
  have hrounded : x.rounded = ⟨x.negative, roundDiv .toEven x.coefficient (10 ^ (extra + 1)),
      x.exponent + (extra + 1 : Nat)⟩ := by
    unfold rounded
    rw [hextra, Nat.add_sub_cancel_left]
    rfl
  have hsize : x.size = x.coefficient / 10 ^ (extra + 1) * 10 ^ (x.exponent + (extra + 1 : Nat)) := by
    rw [size, zpow_add₀ (by norm_num), zpow_natCast]
    field_simp
  have hmany : (10 : ℚ) ^ 27 ≤ x.coefficient / 10 ^ (extra + 1) := by
    have hle := pow_digitCount_le_cast (b := 10) (by decide) hpos
    rw [le_div_iff₀ (by positivity), ← pow_add]
    refine le_trans (le_of_eq ?_) hle
    rw [hextra, Nat.cast_ofNat, ← zpow_natCast]
    congr 1
    unfold workingDigits
    omega
  have hround := abs_roundDiv_sub_le .toEven x.coefficient (d := 10 ^ (extra + 1)) (by positivity)
  rw [Nat.cast_pow, Nat.cast_ofNat] at hround
  have h := abs_mul_sub_mul_le (u := 10 ^ (x.exponent + (extra + 1 : Nat))) (by positivity) hround hmany
  rwa [← hsize, show _ * (10 : ℚ) ^ (x.exponent + (extra + 1 : Nat)) = x.rounded.size by
    rw [hrounded]; rfl] at h

section Nearest

variable (hd : 0 < d)
include hd

theorem pow_le_ratio_scaled (hn : 0 < n) :
    (10 : ℚ) ^ 27 ≤ ratio (scaled 10 n d (magnitude 10 n d - workingDigits)) := by
  have h := (magnitude_between (b := 10) (by decide) hn hd).1
  rw [ratio_scaled (by decide), Nat.cast_ofNat, le_div_iff₀ (by positivity)]
  rw [Nat.cast_ofNat] at h
  refine le_trans (le_of_eq ?_) h
  rw [← zpow_natCast, ← zpow_add₀ (by norm_num)]
  congr 1
  unfold workingDigits
  omega

theorem abs_nearest_sub_le (negative : Bool) (n : Nat) :
    |(nearest negative n d).size - n / d| ≤ n / d / (2 * 10 ^ 27) := by
  rcases Nat.eq_zero_or_pos n with rfl | hn
  · simp [nearest, size]
  have hmany := pow_le_ratio_scaled hd hn
  unfold nearest
  rw [if_neg hn.ne']
  generalize magnitude 10 n d - (workingDigits : Int) = e at hmany ⊢
  have hround := abs_roundDiv_sub_le .toEven (scaled 10 n d e).1
    (scaled_snd_pos (n := n) (e := e) (b := 10) (by decide) hd)
  have h := abs_mul_sub_mul_le (u := 10 ^ e) (by positivity) hround hmany
  have hratio : ratio (scaled 10 n d e) * 10 ^ e = n / d := by
    rw [ratio_scaled (by decide), Nat.cast_ofNat, div_mul_cancel₀ _ (by positivity)]
  rw [← ratio, hratio] at h
  exact h

theorem size_nearest_of_eq {c : Nat} {g : Int} (hn : 0 < n) (h : (n : ℚ) / d = c * 10 ^ g)
    (hg : magnitude 10 n d - workingDigits ≤ g) : (nearest negative n d).size = n / d := by
  unfold nearest
  rw [if_neg hn.ne']
  generalize magnitude 10 n d - (workingDigits : Int) = e at hg ⊢
  have hpos : 0 < (scaled 10 n d e).2 := scaled_snd_pos (by decide) hd
  have hratio := ratio_scaled (b := 10) (by decide) n d e
  have hexact : (scaled 10 n d e).1 = c * 10 ^ (g - e).toNat * (scaled 10 n d e).2 := by
    have hpos' : ((scaled 10 n d e).2 : ℚ) ≠ 0 := by exact_mod_cast hpos.ne'
    have hpow : (10 : ℚ) ^ g = 10 ^ (g - e).toNat * 10 ^ e := by
      rw [← zpow_natCast, ← zpow_add₀ (by norm_num)]
      congr 1
      omega
    rw [ratio, div_eq_iff hpos', h, hpow, Nat.cast_ofNat, ← mul_assoc,
      mul_div_cancel_right₀ _ (by positivity)] at hratio
    exact_mod_cast hratio
  show ((roundDiv .toEven (scaled 10 n d e).1 (scaled 10 n d e).2 : Nat) : ℚ) * 10 ^ e = n / d
  rw [hexact, roundDiv_mul _ _ hpos, h, Nat.cast_mul, Nat.cast_pow, Nat.cast_ofNat, mul_assoc, ← zpow_natCast,
    ← zpow_add₀ (by norm_num)]
  congr 2
  omega

end Nearest

theorem abs_quotient_sub_le (x : Decimal) {y : Decimal} (hy : 0 < y.coefficient) :
    |(x.quotient y).size - x.size / y.size| ≤ x.size / y.size / (2 * 10 ^ 27) := by
  have hten : (10 : ℚ) ≠ 0 := by norm_num
  have hscale : (0 : ℚ) < 10 ^ (x.exponent - y.exponent) := by positivity
  have hsize : (x.quotient y).size = (nearest (x.negative != y.negative) x.coefficient y.coefficient).size *
      10 ^ (x.exponent - y.exponent) := by
    rw [size, quotient, zpow_add₀ hten, ← mul_assoc]
    rfl
  have hratio : x.size / y.size = (x.coefficient : ℚ) / y.coefficient * 10 ^ (x.exponent - y.exponent) := by
    rw [size, size, mul_div_mul_comm, ← zpow_sub₀ hten]
  rw [hsize, hratio, ← sub_mul, abs_mul, abs_of_pos hscale, mul_div_right_comm]
  exact mul_le_mul_of_nonneg_right (abs_nearest_sub_le hy _ _) hscale.le

end Decimal

/-! ### Doubles -/

namespace Binary64

/-- The magnitude of a finite double. -/
def size (m : Nat) (e : Int) : ℚ := m * 2 ^ e

/-- What a finite double stands for. -/
def value? : Binary64 → Option ℚ
  | .finite negative m e => some (withSign negative (size m e))
  | _ => none

/-- Doubles are compared as numbers; what is not a number is not comparable. -/
instance : LE Binary64 := ⟨fun x y => ∃ o, x.compare? y = some o ∧ o ≠ .gt⟩

variable {x y : Binary64} {v w : ℚ} {m : Nat} {negative s : Bool}

theorem fraction_snd_pos (m : Nat) (e : Int) : 0 < (fraction m e).2 :=
  scaled_snd_pos (by decide) (by decide)

theorem ratio_fraction (m : Nat) (e : Int) : ratio (fraction m e) = size m e := by
  rw [fraction, ratio_scaled (by decide), size, zpow_neg, div_inv_eq_mul]
  simp

theorem withSign_ratio (negative : Bool) (p : Nat × Nat) :
    withSign negative (ratio p) = ((if negative then -(p.1 : Int) else p.1 : Int) : ℚ) / p.2 := by
  cases negative
  · simp [withSign, ratio]
  · simp [withSign, ratio, neg_div]

theorem le_iff (hx : x.value? = some v) (hy : y.value? = some w) : x ≤ y ↔ v ≤ w := by
  cases x with
  | nan => cases hx
  | infinite => cases hx
  | finite s m e =>
      cases y with
      | nan => cases hy
      | infinite => cases hy
      | finite t k f =>
          cases hx
          cases hy
          have hd : (0 : ℚ) < (fraction m e).2 := by exact_mod_cast fraction_snd_pos m e
          have hd' : (0 : ℚ) < (fraction k f).2 := by exact_mod_cast fraction_snd_pos k f
          rw [← ratio_fraction, ← ratio_fraction, withSign_ratio, withSign_ratio, div_le_div_iff₀ hd hd']
          constructor
          · rintro ⟨o, ho, hne⟩
            cases ho
            exact_mod_cast compare_le_iff_le.mp hne
          · intro h
            exact ⟨_, rfl, compare_le_iff_le.mpr (by exact_mod_cast h)⟩

/-! ### The nearest double -/

/-- How a quotient is rounded to a double: its unit, and how many of them. -/
theorem nearest_of_pos (negative : Bool) (hn : 0 < n) (d : Nat) : nearest negative n d =
    let e := max (magnitude 2 n d - precision) minExponent
    let q := roundDiv .toEven (scaled 2 n d e).1 (scaled 2 n d e).2
    if q = 2 ^ 53 then
      if maxExponent < e + 1 then .infinite negative else .finite negative (2 ^ 52) (e + 1)
    else if maxExponent < e then .infinite negative else .finite negative q e := by
  unfold nearest
  rw [if_neg hn.ne']
  dsimp only
  rw [show Nat.pow 2 precision = 2 ^ 53 from rfl, show Nat.pow 2 (precision - 1) = 2 ^ 52 from rfl]
  split <;> rfl

theorem abs_roundDiv_scaled_sub_le (n : Nat) (hd : 0 < d) (e : Int) :
    |size (roundDiv .toEven (scaled 2 n d e).1 (scaled 2 n d e).2) e - n / d| ≤ 2 ^ e / 2 := by
  have hround := abs_roundDiv_sub_le .toEven (scaled 2 n d e).1
    (scaled_snd_pos (n := n) (e := e) (b := 2) (by decide) hd)
  have hratio : ratio (scaled 2 n d e) * 2 ^ e = n / d := by
    rw [ratio_scaled (by decide), Nat.cast_ofNat, div_mul_cancel₀ _ (by positivity)]
  have he : (0 : ℚ) < 2 ^ e := by positivity
  rw [size, ← hratio, ← sub_mul, abs_mul, abs_of_pos he, div_eq_inv_mul, ← one_div]
  exact mul_le_mul_of_nonneg_right hround he.le

theorem abs_nearest_sub_le (hd : 0 < d) (h : nearest negative n d = .finite s m e) :
    |size m e - n / d| ≤ 2 ^ e / 2 := by
  rcases Nat.eq_zero_or_pos n with rfl | hn
  · cases h
    simp only [size, Nat.cast_zero, zero_mul, zero_div, sub_self, abs_zero]
    positivity
  rw [nearest_of_pos negative hn] at h
  dsimp only at h
  generalize max (magnitude 2 n d - precision) minExponent = f at h
  have hoff := abs_roundDiv_scaled_sub_le n hd f
  generalize roundDiv .toEven (scaled 2 n d f).1 (scaled 2 n d f).2 = q at h hoff
  split at h
  · rename_i hq
    -- half the significand with twice the unit is the same number
    subst hq
    split at h <;> cases h
    have hdouble : (2 : ℚ) ^ (f + 1) = 2 * 2 ^ f := by rw [zpow_add_one₀ (by norm_num), mul_comm]
    have hsame : size (2 ^ 52) (f + 1) = size (2 ^ 53) f := by
      simp only [size, hdouble, Nat.cast_pow, Nat.cast_ofNat]
      ring
    have hpos : (0 : ℚ) < 2 ^ f := by positivity
    rw [hsame, hdouble]
    linarith
  · split at h <;> cases h
    exact hoff

/-- Far from the smallest numbers and the largest ones, the nearest double has all of its digits. -/
theorem exists_nearest (negative : Bool) (hn : 0 < n) (hd : 0 < d) (hlow : (2 : ℚ) ^ (-100 : Int) ≤ n / d)
    (hhigh : (n : ℚ) / d < 2 ^ (100 : Int)) :
    ∃ m e, nearest negative n d = .finite negative m e ∧ 2 ^ 52 ≤ m := by
  obtain ⟨hle, hlt⟩ := magnitude_between (b := 2) (by decide) hn hd
  rw [Nat.cast_ofNat] at hle hlt
  have hk : -100 < magnitude 2 n d := (zpow_lt_zpow_iff_right₀ (by norm_num)).mp (hlow.trans_lt hlt)
  have hk' : magnitude 2 n d - 1 < 100 := (zpow_lt_zpow_iff_right₀ (by norm_num)).mp (hle.trans_lt hhigh)
  have he : max (magnitude 2 n d - precision) minExponent = magnitude 2 n d - 53 := by
    unfold precision minExponent
    omega
  have hmany : (2 : ℚ) ^ 52 ≤ ratio (scaled 2 n d (magnitude 2 n d - 53)) := by
    rw [ratio_scaled (by decide), Nat.cast_ofNat, le_div_iff₀ (by positivity)]
    refine le_trans (le_of_eq ?_) hle
    rw [← zpow_natCast, ← zpow_add₀ (by norm_num)]
    congr 1
    omega
  have hround := abs_roundDiv_sub_le .toEven (scaled 2 n d (magnitude 2 n d - 53)).1
    (scaled_snd_pos (n := n) (e := magnitude 2 n d - 53) (b := 2) (by decide) hd)
  have hmax : maxExponent = 971 := rfl
  rw [nearest_of_pos negative hn, he]
  dsimp only
  rw [← ratio] at hround
  generalize roundDiv .toEven (scaled 2 n d (magnitude 2 n d - 53)).1
    (scaled 2 n d (magnitude 2 n d - 53)).2 = q at hround ⊢
  split
  · exact ⟨_, _, if_neg (by omega), le_refl _⟩
  · refine ⟨_, _, if_neg (by omega), ?_⟩
    rw [abs_le] at hround
    have hq : (2 : ℚ) ^ 52 - 1 < q := by linarith
    have hq' : 2 ^ 52 - 1 < q := by
      have : ((2 ^ 52 - 1 : Nat) : ℚ) < q := by
        rw [Nat.cast_sub (by norm_num)]
        exact_mod_cast hq
      exact_mod_cast this
    omega

end Binary64
end SchoolRegister.Number
