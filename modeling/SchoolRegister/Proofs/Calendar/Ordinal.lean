import SchoolRegister.Calendar.Date

/-! # The numbers of the days

The days of the calendar are numbered without a gap from one year to the next
(`daysBeforeYear_succ`) and from one month to the next (`daysBeforeMonth_succ`), so a later date has a
larger number, and a date is known by its number (`Date.ordinal_injective`). -/

namespace SchoolRegister

namespace Calendar

def daysInYear (year : Nat) : Nat := if isLeap year then 366 else 365

theorem daysBeforeMonth_succ (year : Nat) {month : Nat} (h : 1 ≤ month) :
    daysBeforeMonth year (month + 1) = daysBeforeMonth year month + daysInMonth year month := by
  cases month with
  | zero => omega
  | succ month => rfl

theorem daysBeforeMonth_add_le (year : Nat) {month month' : Nat} (h : 1 ≤ month)
    (hlt : month < month') :
    daysBeforeMonth year month + daysInMonth year month ≤ daysBeforeMonth year month' := by
  induction month' with
  | zero => omega
  | succ n ih =>
      rcases Nat.lt_succ_iff_lt_or_eq.mp hlt with hn | rfl
      · have hs := daysBeforeMonth_succ year (show 1 ≤ n by omega)
        have := ih hn
        omega
      · exact Nat.le_of_eq (daysBeforeMonth_succ year h).symm

/-- The twelve months fill the year. -/
theorem daysBeforeMonth_thirteen (year : Nat) : daysBeforeMonth year 13 = daysInYear year := by
  cases h : isLeap year <;> simp [daysBeforeMonth, daysInMonth, daysInYear, h]

/-- A quotient grows by one exactly at the multiples of the divisor. -/
theorem div_eq_pred_div_add {year : Nat} (h : 1 ≤ year) (n : Nat) :
    year / n = (year - 1) / n + if year % n = 0 then 1 else 0 := by
  obtain ⟨k, rfl⟩ : ∃ k, year = k + 1 := ⟨year - 1, by omega⟩
  rw [Nat.add_sub_cancel, Nat.succ_div]
  simp only [Nat.dvd_iff_mod_eq_zero]

theorem daysBeforeYear_succ {year : Nat} (h : 1 ≤ year) :
    daysBeforeYear (year + 1) = daysBeforeYear year + daysInYear year := by
  have h4 := div_eq_pred_div_add h 4
  have h100 := div_eq_pred_div_add h 100
  have h400 := div_eq_pred_div_add h 400
  have hle : (year - 1) / 100 ≤ (year - 1) / 4 := Nat.div_le_div_left (by omega) (by omega)
  have e4 : year % 100 = 0 → year % 4 = 0 := by omega
  have e100 : year % 400 = 0 → year % 100 = 0 := by omega
  unfold daysBeforeYear daysInYear isLeap
  rw [Nat.add_sub_cancel, h4, h100, h400]
  -- the quotients of the preceding year are all that is left of the divisions
  generalize (year - 1) / 4 = a at hle ⊢
  generalize (year - 1) / 100 = b at hle ⊢
  generalize (year - 1) / 400 = c
  by_cases h1 : year % 4 = 0 <;> by_cases h2 : year % 100 = 0 <;> by_cases h3 : year % 400 = 0 <;>
    simp [h1, h2, h3] at e4 e100 ⊢ <;> omega

theorem daysBeforeYear_add_le {year year' : Nat} (h : 1 ≤ year) (hlt : year < year') :
    daysBeforeYear year + daysInYear year ≤ daysBeforeYear year' := by
  induction year' with
  | zero => omega
  | succ n ih =>
      rcases Nat.lt_succ_iff_lt_or_eq.mp hlt with hn | rfl
      · have hs := daysBeforeYear_succ (show 1 ≤ n by omega)
        have := ih hn
        omega
      · exact Nat.le_of_eq (daysBeforeYear_succ h).symm

end Calendar

open Calendar

namespace Date

variable {a b : Date}

theorem ordinal_le_month (d : Date) : d.ordinal ≤
    daysBeforeYear d.year + (daysBeforeMonth d.year d.month + daysInMonth d.year d.month) := by
  have hd := d.isDate.2.2.2.2.2
  unfold ordinal
  omega

theorem ordinal_le_year (d : Date) : d.ordinal ≤ daysBeforeYear d.year + daysInYear d.year := by
  have hm := d.ordinal_le_month
  have hlt : d.month < 13 := Nat.lt_succ_of_le d.isDate.2.2.2.1
  have hy := daysBeforeMonth_add_le d.year d.isDate.2.2.1 hlt
  rw [daysBeforeMonth_thirteen] at hy
  omega

theorem lt_ordinal (d : Date) : daysBeforeYear d.year + daysBeforeMonth d.year d.month < d.ordinal := by
  have hd := d.isDate.2.2.2.2.1
  unfold ordinal
  omega

theorem ordinal_lt_of_year_lt (h : a.year < b.year) : a.ordinal < b.ordinal := by
  have ha := a.ordinal_le_year
  have hb := b.lt_ordinal
  have hy := daysBeforeYear_add_le a.isDate.1 h
  omega

theorem ordinal_lt_of_month_lt (hy : a.year = b.year) (h : a.month < b.month) :
    a.ordinal < b.ordinal := by
  have ha := a.ordinal_le_month
  have hb := b.lt_ordinal
  have hm := daysBeforeMonth_add_le a.year a.isDate.2.2.1 h
  rw [← hy] at hb
  omega

theorem ordinal_injective (h : a.ordinal = b.ordinal) : a = b := by
  have hy : a.year = b.year := by
    rcases Nat.lt_trichotomy a.year b.year with hlt | e | hlt
    · have := ordinal_lt_of_year_lt hlt
      omega
    · exact e
    · have := ordinal_lt_of_year_lt hlt
      omega
  have hm : a.month = b.month := by
    rcases Nat.lt_trichotomy a.month b.month with hlt | e | hlt
    · have := ordinal_lt_of_month_lt hy hlt
      omega
    · exact e
    · have := ordinal_lt_of_month_lt hy.symm hlt
      omega
  have hd : a.day = b.day := by
    unfold ordinal at h
    rw [hy, hm] at h
    omega
  obtain ⟨y, m, d, hi⟩ := a
  obtain ⟨y', m', d', hi'⟩ := b
  cases hy
  cases hm
  cases hd
  rfl

/-! ### The order of dates -/

theorem le_total (a b : Date) : a ≤ b ∨ b ≤ a := Nat.le_total a.ordinal b.ordinal

theorem le_trans {c : Date} (hab : a ≤ b) (hbc : b ≤ c) : a ≤ c :=
  Nat.le_trans (le_iff_ordinal.mp hab) (le_iff_ordinal.mp hbc)

theorem le_antisymm (hab : a ≤ b) (hba : b ≤ a) : a = b :=
  ordinal_injective (Nat.le_antisymm hab hba)

end Date
end SchoolRegister
