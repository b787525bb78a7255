import SchoolRegister.Proofs.Number.Positional
import SchoolRegister.Report.Rate

/-! # Rates are exact

A rate is rounded three times, to the working precision, to two decimal places and to a double, and then
written with the shortest decimal.  `rateHundredths` is the percentage in hundredths, rounded once.

* Below `10 ^ 20`, the working precision never moves a percentage across a half of a hundredth
  (`roundDiv_percentage`), so the rate is the double of `rateHundredths` (`attendanceRate_eq`).
* Its text therefore denotes the percentage rounded once, which grows with the actual attendance and falls
  with the possible one (`attendanceRate_exact`).
* However large the counts, the rate lies between 0 and 100 if no more are present than possible
  (`isPercentage_attendanceRate`). -/

namespace SchoolRegister

open Number

namespace Number.Decimal

/-! ### Two places -/

/-- Two places are those of the magnitude, a half rounded up. -/
theorem eq_of_toHundredths? {x z : Decimal} (h : x.toHundredths? = some z) :
    z = ⟨x.negative, roundDiv .up (100 * x.magnitudeFraction.1) x.magnitudeFraction.2, -2⟩ := by
  unfold toHundredths? at h
  split at h
  · rename_i hsmall
    cases h
    -- what is below a thousandth is rounded to zero
    have hlt : x.size < 1 / 200 := by
      rw [Bool.or_eq_true, decide_eq_true_iff, decide_eq_true_iff] at hsmall
      rcases hsmall with hc | ho
      · rw [size, hc, Nat.cast_zero, zero_mul]
        norm_num
      · have hpow : (10 : ℚ) ^ x.order ≤ 10 ^ (-3 : Int) := zpow_le_zpow_right₀ (by norm_num) (by omega)
        have := x.size_lt_pow_order
        norm_num at hpow
        linarith
    have hzero : roundDiv .up (100 * x.magnitudeFraction.1) x.magnitudeFraction.2 = 0 := by
      rw [roundDiv_up_eq_iff x.magnitudeFraction_snd_pos, Nat.cast_mul, mul_div_assoc, ← ratio,
        ratio_magnitudeFraction]
      have := x.size_nonneg
      norm_num
      constructor <;> linarith
    rw [hzero]
  split at h
  · cases h
  · dsimp only at h
    split at h <;> cases h
    rfl

/-! ### Percentages -/

variable {a p : Nat}

theorem size_ofInt (n : Nat) : (ofInt n).size = n := by
  rw [size, ofInt, zpow_zero, mul_one]
  rfl

theorem abs_percentage_sub_le (a : Nat) (hp : 0 < p) :
    |(percentage a p).size - 100 * a / p| ≤ 100 * a / p / 10 ^ 26 := by
  have hp0 : (0 : ℚ) < p := by exact_mod_cast hp
  have hproduct : |(ofInt a).hundredfold.size - 100 * a| ≤ 100 * a / (2 * 10 ^ 27) := by
    have hexact : size { ofInt a with coefficient := 100 * (ofInt a).coefficient } = 100 * a := by
      rw [size, Nat.cast_mul, mul_assoc]
      exact congrArg _ (size_ofInt a)
    have h := abs_rounded_sub_le { ofInt a with coefficient := 100 * (ofInt a).coefficient }
    rwa [hexact] at h
  have hquotient := abs_quotient_sub_le (ofInt a).hundredfold (y := ofInt p) hp
  rw [size_ofInt] at hquotient
  generalize (ofInt a).hundredfold.size = part at hproduct hquotient
  have hdivided : |part / p - 100 * a / p| ≤ 100 * a / p / (2 * 10 ^ 27) := by
    rw [← sub_div, abs_div, abs_of_pos hp0, div_right_comm]
    exact div_le_div_of_nonneg_right hproduct hp0.le
  have hnonneg : (0 : ℚ) ≤ 100 * a / p := by positivity
  show |((ofInt a).hundredfold.quotient (ofInt p)).size - _| ≤ _
  rw [abs_le] at hquotient hdivided ⊢
  constructor <;> linarith

theorem hundredfold_ofInt_of_lt (ha : a < 10 ^ 20) : (ofInt a).hundredfold = ⟨false, 100 * a, 0⟩ := by
  have hdigits : digitCount 10 (100 * a) ≤ 22 := digitCount_le_of_lt (by decide) (by omega)
  exact rounded_eq_self (hdigits.trans (by decide))

/-- The last place that is kept of a quotient below `10 ^ 22` is the sixth one after the point or a later
one. -/
theorem magnitude_sub_workingDigits_le {n : Nat} (hn : 0 < n) (hp : 0 < p) (hlt : n < 10 ^ 22) :
    magnitude 10 n p - workingDigits ≤ -6 := by
  have hle := (magnitude_between (b := 10) (by decide) hn hp).1
  have hquotient : (n : ℚ) / p < 10 ^ (22 : Int) := by
    have hlt' : (n : ℚ) < (10 ^ 22 : Nat) := by exact_mod_cast hlt
    have hone : (1 : ℚ) ≤ p := by exact_mod_cast hp
    refine (div_le_self (Nat.cast_nonneg n) hone).trans_lt ?_
    norm_num at hlt' ⊢
    exact hlt'
  have hmagnitude := (zpow_lt_zpow_iff_right₀ (by norm_num : (1 : ℚ) < 10)).mp (hle.trans_lt hquotient)
  have hdigits : (workingDigits : Int) = 28 := rfl
  omega

/-- As long as it is not too large, a percentage that lies half way between two hundredths is not rounded. -/
theorem size_percentage_of_half {c : Nat} (hp : 0 < p) (ha : a < 10 ^ 20)
    (h : ((10000 * a : Nat) : ℚ) / p = c - 1 / 2) : (percentage a p).size = 100 * a / p := by
  have hapos : 0 < a := by
    refine Nat.pos_of_ne_zero fun hzero => ?_
    rw [hzero, Nat.mul_zero, Nat.cast_zero, zero_div] at h
    have : (c : ℚ) * 2 = 1 := by linarith
    have : c * 2 = 1 := by exact_mod_cast this
    omega
  have hcpos : 0 < c := by
    have : (0 : ℚ) ≤ c - 1 / 2 := h ▸ by positivity
    have : (0 : ℚ) < c := by linarith
    exact_mod_cast this
  -- such a quotient has three places
  have hplaces : ((100 * a : Nat) : ℚ) / p = ((10 * c - 5 : Nat) : ℚ) * 10 ^ (-3 : Int) := by
    rw [Nat.cast_mul, mul_div_assoc] at h ⊢
    rw [Nat.cast_sub (by omega)]
    push_cast at h ⊢
    norm_num
    linarith
  have hlast := magnitude_sub_workingDigits_le (n := 100 * a) (by omega) hp (by omega)
  have hnearest : (nearest false (100 * a) p).size = ((100 * a : Nat) : ℚ) / p :=
    size_nearest_of_eq hp (by omega) hplaces (hlast.trans (by decide))
  rw [Nat.cast_mul, Nat.cast_ofNat] at hnearest
  rw [← hnearest, percentage, hundredfold_ofInt_of_lt ha]
  show _ * (10 : ℚ) ^ (_ + 0 : Int) = _
  rw [add_zero]
  rfl

theorem negative_percentage (a p : Nat) : (percentage a p).negative = false := by
  have hrounded : ∀ x : Decimal, x.rounded.negative = x.negative := by
    intro x
    unfold rounded
    dsimp only
    split <;> rfl
  have hnearest : ∀ s n d, (nearest s n d).negative = s := by
    intro s n d
    unfold nearest
    split <;> rfl
  have hsign : ∀ n : Nat, (ofInt n).negative = false := fun n =>
    decide_eq_false (Int.not_lt.mpr n.cast_nonneg)
  show (nearest _ _ _).negative = false
  rw [hnearest, hundredfold, hrounded, hsign, hsign]
  rfl

end Number.Decimal

namespace Report

/-- The percentage that `actual` is of `possible`, in hundredths, a half rounded up; zero when nothing was
possible. -/
def rateHundredths (actual possible : Int) : Int :=
  if possible ≤ 0 then 0 else (20000 * actual + possible) / (2 * possible)

variable {a a' p p' : Int} {rate rate' : Binary64}

/-! ### Hundredths -/

theorem rateHundredths_of_pos (a : Int) (hp : 0 < p) :
    rateHundredths a p = (20000 * a + p) / (2 * p) := if_neg (Int.not_le.mpr hp)

theorem rateHundredths_of_nonpos (a : Int) (hp : p ≤ 0) : rateHundredths a p = 0 := if_pos hp

theorem rateHundredths_mono (hp : 0 < p) (hp' : 0 < p') (h : a * p' ≤ a' * p) :
    rateHundredths a p ≤ rateHundredths a' p' := by
  rw [rateHundredths_of_pos a hp, rateHundredths_of_pos a' hp', Int.le_ediv_iff_mul_le (by omega)]
  have hfloor : (20000 * a + p) / (2 * p) * (2 * p) ≤ 20000 * a + p := Int.ediv_mul_le _ (by omega)
  refine le_of_mul_le_mul_left ?_ hp
  calc p * ((20000 * a + p) / (2 * p) * (2 * p'))
      = (20000 * a + p) / (2 * p) * (2 * p) * p' := by ring
    _ ≤ (20000 * a + p) * p' := mul_le_mul_of_nonneg_right hfloor hp'.le
    _ = 20000 * (a * p') + p * p' := by ring
    _ ≤ 20000 * (a' * p) + p * p' := by omega
    _ = p * (20000 * a' + p') := by ring

theorem rateHundredths_nonneg (ha : 0 ≤ a) (p : Int) : 0 ≤ rateHundredths a p := by
  rcases le_or_gt p 0 with hp | hp
  · rw [rateHundredths_of_nonpos a hp]
  · rw [rateHundredths_of_pos a hp]
    exact Int.ediv_nonneg (by omega) (by omega)

theorem rateHundredths_le (ha : 0 ≤ a) (p : Int) : rateHundredths a p ≤ 10000 * a := by
  rcases le_or_gt p 0 with hp | hp
  · rw [rateHundredths_of_nonpos a hp]
    omega
  · have hle : a * 1 ≤ a * p := mul_le_mul_of_nonneg_left hp ha
    have hone : rateHundredths a p ≤ rateHundredths a 1 := rateHundredths_mono hp Int.one_pos hle
    refine hone.trans ?_
    rw [rateHundredths_of_pos a Int.one_pos]
    omega

theorem abs_rateHundredths_sub_le (a : Int) (hp : 0 < p) :
    |(rateHundredths a p : ℚ) / 100 - 100 * a / p| ≤ 1 / 200 := by
  have hp0 : (0 : ℚ) < p := by exact_mod_cast hp
  rw [rateHundredths_of_pos a hp]
  have hle : (20000 * a + p) / (2 * p) * (2 * p) ≤ 20000 * a + p := Int.ediv_mul_le _ (by omega)
  have hlt : 20000 * a + p < ((20000 * a + p) / (2 * p) + 1) * (2 * p) :=
    Int.lt_ediv_add_one_mul_self _ (by omega)
  generalize (20000 * a + p) / (2 * p) = q at hle hlt
  have hle' : (q : ℚ) * (2 * p) ≤ 20000 * a + p := by exact_mod_cast hle
  have hlt' : 20000 * (a : ℚ) + p < (q + 1) * (2 * p) := by exact_mod_cast hlt
  have hquotient : 100 * (a : ℚ) / p * p = 100 * a := div_mul_cancel₀ _ hp0.ne'
  have hhigh : (q : ℚ) / 100 - 1 / 200 ≤ 100 * a / p := by
    rw [le_div_iff₀ hp0]
    linarith
  have hlow : 100 * (a : ℚ) / p ≤ q / 100 + 1 / 200 := by
    rw [div_le_iff₀ hp0]
    linarith
  rw [abs_le]
  constructor <;> linarith

theorem rateHundredths_natCast (a : Nat) {p : Nat} (hp : 0 < p) :
    rateHundredths a p = (roundDiv .up (10000 * a) p : Nat) := by
  rw [rateHundredths_of_pos _ (by omega), roundDiv_up _ hp]
  push_cast
  congr 1
  ring

/-! ### Rates -/

/-- A rate is the double of the hundredths of the percentage as decimal arithmetic has it. -/
theorem eq_of_attendanceRate {a p : Nat} (hp : 0 < p) (h : attendanceRate a p = .ok rate) :
    rate = Binary64.ofHundredths (roundDiv .up (100 * (Decimal.percentage a p).magnitudeFraction.1)
      (Decimal.percentage a p).magnitudeFraction.2) := by
  unfold attendanceRate roundedRate Quantity.rounded? at h
  rw [if_neg (by omega)] at h
  dsimp only at h
  cases hz : (Decimal.percentage a p).toHundredths? with
  | none =>
      rw [hz] at h
      cases h
  | some z =>
      rw [hz] at h
      cases h
      rw [Decimal.eq_of_toHundredths? hz, Decimal.negative_percentage]
      rfl

/-- Up to `10 ^ 20` the working precision does not show. -/
theorem roundDiv_percentage {a p : Nat} (hp : 0 < p) (ha : a < 10 ^ 20) :
    roundDiv .up (100 * (Decimal.percentage a p).magnitudeFraction.1)
      (Decimal.percentage a p).magnitudeFraction.2 = roundDiv .up (10000 * a) p := by
  have hp0 : (0 : ℚ) < p := by exact_mod_cast hp
  have hratio : ((100 * (Decimal.percentage a p).magnitudeFraction.1 : Nat) : ℚ) /
      (Decimal.percentage a p).magnitudeFraction.2 = 100 * (Decimal.percentage a p).size := by
    rw [Nat.cast_mul, mul_div_assoc, ← ratio, Decimal.ratio_magnitudeFraction, Nat.cast_ofNat]
  have hexact : ((10000 * a : Nat) : ℚ) / p = 100 * (100 * a / p) := by
    push_cast
    ring
  refine roundDiv_up_eq_of_near hp (Decimal.magnitudeFraction_snd_pos _) ?_ ?_
  · have hoff := Decimal.abs_percentage_sub_le a hp
    have ha' : (a : ℚ) < 100000000000000000000 := by exact_mod_cast ha
    have htiny : 100 * (100 * (a : ℚ) / p / 10 ^ 26) < 1 / (2 * p) := by
      rw [show 100 * (100 * (a : ℚ) / p / 10 ^ 26) = a / 10 ^ 22 / p by ring, ← div_div,
        div_lt_div_iff_of_pos_right hp0]
      linarith
    rw [hratio, hexact, ← mul_sub, abs_mul, abs_of_pos (by norm_num : (0 : ℚ) < 100)]
    linarith
  · intro c hc
    rw [hratio, hexact, Decimal.size_percentage_of_half hp ha hc]

/-- The rate is the double of the percentage rounded once. -/
theorem attendanceRate_eq (ha : 0 ≤ a) (hlt : a < 10 ^ 20) (p : Int) :
    attendanceRate a p = .ok (Binary64.ofHundredths (rateHundredths a p).toNat) := by
  rcases le_or_gt p 0 with hp | hp
  · rw [attendanceRate, if_pos hp, rateHundredths_of_nonpos a hp]
    rfl
  · obtain ⟨rate, hr⟩ := exists_attendanceRate_of_lt (by omega : a.natAbs < 10 ^ 20) p
    lift a to Nat using ha
    lift p to Nat using hp.le
    have hp' : 0 < p := by exact_mod_cast hp
    rw [hr, eq_of_attendanceRate hp' hr, roundDiv_percentage hp' (by exact_mod_cast hlt),
      rateHundredths_natCast a hp', Int.toNat_natCast]

theorem attendanceRate_le (ha : 0 ≤ a) (ha' : 0 ≤ a') (hlt : a < 10 ^ 11) (hlt' : a' < 10 ^ 11)
    (hr : attendanceRate a p = .ok rate) (hr' : attendanceRate a' p' = .ok rate')
    (h : rateHundredths a p ≤ rateHundredths a' p') : rate ≤ rate' := by
  rw [attendanceRate_eq ha (by omega)] at hr
  rw [attendanceRate_eq ha' (by omega)] at hr'
  cases hr
  cases hr'
  have hle := rateHundredths_le ha p
  have hle' := rateHundredths_le ha' p'
  exact (Binary64.ofHundredths_le_iff (by omega) (by omega)).mpr (Int.toNat_le_toNat h)

theorem exists_attendanceRate_denotes (ha : 0 ≤ a) (hlt : a < 10 ^ 11) (p : Int) :
    ∃ rate, attendanceRate a p = .ok rate ∧ rate.TextDenotes (rateHundredths a p / 100) := by
  have hle := rateHundredths_le ha p
  have hnonneg := rateHundredths_nonneg ha p
  refine ⟨_, attendanceRate_eq ha (by omega) p, ?_⟩
  have h := Binary64.textDenotes_ofHundredths (c := (rateHundredths a p).toNat) (by omega)
  have hcast : ((rateHundredths a p).toNat : ℚ) = rateHundredths a p := by
    exact_mod_cast Int.toNat_of_nonneg hnonneg
  rwa [hcast] at h

/-- The text of a rate denotes the exact percentage with two places, a half rounded up: the intermediate
results never show.  So it is off by half a hundredth at most, grows with the actual attendance and falls
with the possible one. -/
theorem attendanceRate_exact {actual possible : Int} (ha : 0 ≤ actual) (hlt : actual < 10 ^ 11)
    (hp : 1 ≤ possible) :
    ∃ rate q, attendanceRate actual possible = .ok rate ∧ rate.TextDenotes q ∧
      q = ((20000 * actual + possible) / (2 * possible) : Int) / 100 ∧
      |q - 100 * actual / possible| ≤ 1 / 200 ∧
      (∀ more, actual ≤ more → more < 10 ^ 11 → ∃ rate' q', attendanceRate more possible = .ok rate' ∧
        rate'.TextDenotes q' ∧ rate ≤ rate' ∧ q ≤ q') ∧
      ∀ larger, possible ≤ larger → ∃ rate' q', attendanceRate actual larger = .ok rate' ∧
        rate'.TextDenotes q' ∧ rate' ≤ rate ∧ q' ≤ q := by
  have hmono : ∀ {h h' : Int}, h ≤ h' → (h : ℚ) / 100 ≤ h' / 100 := fun hle =>
    div_le_div_of_nonneg_right (Int.cast_le.mpr hle) (by norm_num)
  obtain ⟨rate, hr, hq⟩ := exists_attendanceRate_denotes ha hlt possible
  refine ⟨rate, _, hr, hq, ?_, abs_rateHundredths_sub_le actual (by omega), ?_, ?_⟩
  · rw [rateHundredths_of_pos actual (by omega)]
  · intro more hmore hlt'
    obtain ⟨rate', hr', hq'⟩ := exists_attendanceRate_denotes (ha.trans hmore) hlt' possible
    have hle : rateHundredths actual possible ≤ rateHundredths more possible :=
      rateHundredths_mono (by omega) (by omega) (mul_le_mul_of_nonneg_right hmore (by omega))
    exact ⟨rate', _, hr', hq', attendanceRate_le ha (ha.trans hmore) hlt hlt' hr hr' hle, hmono hle⟩
  · intro larger hlarger
    obtain ⟨rate', hr', hq'⟩ := exists_attendanceRate_denotes ha hlt larger
    have hle : rateHundredths actual larger ≤ rateHundredths actual possible :=
      rateHundredths_mono (by omega) (by omega) (mul_le_mul_of_nonneg_left hlarger ha)
    exact ⟨rate', _, hr', hq', attendanceRate_le ha ha hlt hlt hr' hr hle, hmono hle⟩

/-- One of three is 33.33, which is no more than two of three and no less than one of seven. -/
theorem attendanceRate_exact_third :
    ∃ rate q, attendanceRate 1 3 = .ok rate ∧ rate.TextDenotes q ∧
      q = ((20000 * 1 + 3) / (2 * 3) : Int) / 100 ∧ |q - 100 * (1 : Int) / (3 : Int)| ≤ 1 / 200 ∧
      (∃ rate' q', attendanceRate 2 3 = .ok rate' ∧ rate'.TextDenotes q' ∧ rate ≤ rate' ∧ q ≤ q') ∧
      ∃ rate' q', attendanceRate 1 7 = .ok rate' ∧ rate'.TextDenotes q' ∧ rate' ≤ rate ∧ q' ≤ q := by
  obtain ⟨rate, q, hr, hd, hq, hoff, hgrow, hfall⟩ :=
    attendanceRate_exact (by decide : (0 : Int) ≤ 1) (by decide) (by decide : (1 : Int) ≤ 3)
  exact ⟨rate, q, hr, hd, hq, hoff, hgrow 2 (by decide) (by decide), hfall 7 (by decide)⟩

/-! ### Bounds -/

/-- A rate that lies between 0 and 100. -/
def IsPercentage (rate : Binary64) : Prop := Binary64.zero ≤ rate ∧ rate ≤ Binary64.ofInt 100

/-- If no more are present than possible, the rate lies between 0 and 100, however many they are. -/
theorem isPercentage_attendanceRate (ha : 0 ≤ a) (hle : a ≤ p) (hr : attendanceRate a p = .ok rate) :
    IsPercentage rate := by
  have hhundred : Binary64.ofInt 100 = Binary64.ofHundredths 10000 := by decide +kernel
  obtain ⟨c, rfl, hc⟩ : ∃ c, rate = Binary64.ofHundredths c ∧ c ≤ 10000 := by
    rcases le_or_gt p 0 with hp | hp
    · rw [attendanceRate, if_pos hp] at hr
      cases hr
      exact ⟨0, rfl, Nat.zero_le _⟩
    lift a to Nat using ha
    lift p to Nat using hp.le
    have hp' : 0 < p := by exact_mod_cast hp
    refine ⟨_, eq_of_attendanceRate hp' hr, ?_⟩
    -- the percentage exceeds 100 by far less than half a hundredth
    have hround := abs_roundDiv_sub_le .up (100 * (Decimal.percentage a p).magnitudeFraction.1)
      (Decimal.percentage a p).magnitudeFraction_snd_pos
    rw [Nat.cast_mul, mul_div_assoc, ← ratio, Decimal.ratio_magnitudeFraction, Nat.cast_ofNat] at hround
    generalize roundDiv .up _ _ = c at hround
    have hoff := Decimal.abs_percentage_sub_le a hp'
    have hexact : 100 * (a : ℚ) / p ≤ 100 := by
      rw [div_le_iff₀ (by exact_mod_cast hp')]
      have : (a : ℚ) ≤ p := by exact_mod_cast hle
      linarith
    rw [abs_le] at hround hoff
    have hlt : (c : ℚ) < 10001 := by linarith
    have : c < 10001 := by exact_mod_cast hlt
    omega
  exact ⟨(Binary64.ofHundredths_le_iff (c := 0) (by decide) (by omega)).mpr (Nat.zero_le c),
    hhundred ▸ (Binary64.ofHundredths_le_iff (by omega) (by decide)).mpr hc⟩

end Report
end SchoolRegister
