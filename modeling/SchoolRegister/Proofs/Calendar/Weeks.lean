import SchoolRegister.Calendar.Week
import SchoolRegister.Proofs.Calendar.Ordinal

/-! # Days apart and weeks

A step along the calendar is a step along the numbers of the days: `Date.later?` and `Date.earlier?` give
the date whose number is so much larger or smaller (`later?_eq_some_iff`, `earlier?_eq_some_iff`), and fail
only where the calendar ends.

* Every date lies in the week of one Monday, `Date.monday`, which is the only Monday up to six days before
  it (`weekStart?_eq`, `monday_eq_iff`).
* The week has a last day unless its Monday is `Date.lastMonday`, in whose week the calendar ends
  (`weekEnd?_monday`, `weekEnd?_monday_of_le`). -/

namespace SchoolRegister

open Calendar

namespace Calendar

theorem one_le_daysInMonth (year month : Nat) : 1 ≤ daysInMonth year month := by
  unfold daysInMonth
  split
  · split <;> omega
  all_goals omega

end Calendar

namespace Date

variable {d e m : Date} {n : Nat}

/-! ### The ends of the calendar -/

def last : Date := ⟨9999, 12, 31, by decide⟩

theorem ordinal_first : first.ordinal = 1 := rfl

theorem ordinal_last : last.ordinal = 3652059 := rfl

theorem ordinal_pos (d : Date) : 0 < d.ordinal := by
  have := d.lt_ordinal
  omega

theorem ordinal_le_last (d : Date) : d.ordinal ≤ last.ordinal := by
  have hd := d.ordinal_le_year
  have hy := daysBeforeYear_add_le d.isDate.1 (Nat.lt_succ_of_le d.isDate.2.1)
  exact Nat.le_trans hd hy

/-! ### Neighbouring days -/

theorem ofYmd?_of_isDate {year month day : Nat} (h : IsDate year month day) :
    ofYmd? year month day = some ⟨year, month, day, h⟩ := dif_pos h

theorem ofYmd?_of_not_isDate {year month day : Nat} (h : ¬ IsDate year month day) :
    ofYmd? year month day = none := dif_neg h

/-- Every date but the last one has a following day, and that has the next number. -/
theorem next?_cases (d : Date) :
    (∃ e, d.next? = some e ∧ e.ordinal = d.ordinal + 1) ∨ (d.next? = none ∧ d = last) := by
  obtain ⟨hy1, hy, hm1, hm, hd1, hd⟩ := d.isDate
  unfold next?
  by_cases hday : d.day < daysInMonth d.year d.month
  · have h : IsDate d.year d.month (d.day + 1) := ⟨hy1, hy, hm1, hm, by omega, hday⟩
    rw [ofYmd?_of_isDate h]
    exact .inl ⟨_, rfl, rfl⟩
  have hend : d.day = daysInMonth d.year d.month := by omega
  rw [ofYmd?_of_not_isDate fun h => hday h.2.2.2.2.2]
  by_cases hmonth : d.month < 12
  · have h : IsDate d.year (d.month + 1) 1 :=
      ⟨hy1, hy, by omega, hmonth, Nat.le_refl 1, one_le_daysInMonth _ _⟩
    rw [ofYmd?_of_isDate h]
    refine .inl ⟨_, rfl, ?_⟩
    have hs := daysBeforeMonth_succ d.year hm1
    simp only [ordinal]
    omega
  have hdecember : d.month = 12 := by omega
  have hno : ¬ IsDate d.year (d.month + 1) 1 := fun h => hmonth h.2.2.2.1
  rw [ofYmd?_of_not_isDate hno]
  by_cases hyear : d.year < lastYear
  · have h : IsDate (d.year + 1) 1 1 :=
      ⟨by omega, hyear, Nat.le_refl 1, by omega, Nat.le_refl 1, one_le_daysInMonth _ _⟩
    rw [ofYmd?_of_isDate h]
    refine .inl ⟨_, rfl, ?_⟩
    have hs := daysBeforeYear_succ hy1
    have ht := daysBeforeMonth_thirteen d.year
    have hlast := daysBeforeMonth_succ d.year (show 1 ≤ 12 by omega)
    simp only [ordinal, hdecember] at hend ⊢
    rw [hs, ← ht, hlast, hend]
    simp only [daysBeforeMonth]
    omega
  · have h : ¬ IsDate (d.year + 1) 1 1 := fun h => hyear h.2.1
    rw [ofYmd?_of_not_isDate h]
    refine .inr ⟨rfl, ?_⟩
    obtain ⟨year, month, day, hi⟩ := d
    have hlast : lastYear = 9999 := rfl
    obtain rfl : year = 9999 := by simp only at hy hyear; omega
    obtain rfl : month = 12 := hdecember
    obtain rfl : day = 31 := hend
    rfl

theorem prev?_cases (d : Date) :
    (∃ e, d.prev? = some e ∧ e.ordinal + 1 = d.ordinal) ∨ (d.prev? = none ∧ d = first) := by
  obtain ⟨hy1, hy, hm1, hm, hd1, hd⟩ := d.isDate
  unfold prev?
  by_cases hday : 1 < d.day
  · have h : IsDate d.year d.month (d.day - 1) := ⟨hy1, hy, hm1, hm, by omega, by omega⟩
    rw [ofYmd?_of_isDate h]
    refine .inl ⟨_, rfl, ?_⟩
    simp only [ordinal]
    omega
  have hstart : d.day = 1 := by omega
  have hno : ¬ IsDate d.year d.month (d.day - 1) := fun h => by
    have := h.2.2.2.2.1
    omega
  rw [ofYmd?_of_not_isDate hno]
  by_cases hmonth : 1 < d.month
  · have h : IsDate d.year (d.month - 1) (daysInMonth d.year (d.month - 1)) :=
      ⟨hy1, hy, by omega, by omega, one_le_daysInMonth _ _, Nat.le_refl _⟩
    rw [ofYmd?_of_isDate h]
    refine .inl ⟨_, rfl, ?_⟩
    have hs := daysBeforeMonth_succ d.year (show 1 ≤ d.month - 1 by omega)
    rw [Nat.sub_add_cancel hm1] at hs
    simp only [ordinal]
    omega
  have hjanuary : d.month = 1 := by omega
  have hno : ¬ IsDate d.year (d.month - 1) (daysInMonth d.year (d.month - 1)) := fun h => by
    have := h.2.2.1
    omega
  rw [ofYmd?_of_not_isDate hno]
  by_cases hyear : 1 < d.year
  · have h : IsDate (d.year - 1) 12 31 :=
      ⟨by omega, by omega, by omega, Nat.le_refl _, by omega, Nat.le_refl _⟩
    rw [ofYmd?_of_isDate h]
    refine .inl ⟨_, rfl, ?_⟩
    have hs := daysBeforeYear_succ (show 1 ≤ d.year - 1 by omega)
    rw [Nat.sub_add_cancel hy1] at hs
    have ht := daysBeforeMonth_thirteen (d.year - 1)
    have hlast := daysBeforeMonth_succ (d.year - 1) (show 1 ≤ 12 by omega)
    simp only [ordinal, hjanuary, hstart]
    rw [hs, ← ht, hlast]
    simp only [daysBeforeMonth, daysInMonth]
    omega
  · have h : ¬ IsDate (d.year - 1) 12 31 := fun h => by have := h.1; omega
    rw [ofYmd?_of_not_isDate h]
    refine .inr ⟨rfl, ?_⟩
    obtain ⟨year, month, day, hi⟩ := d
    obtain rfl : year = 1 := by simp only at hy1 hyear; omega
    obtain rfl : month = 1 := hjanuary
    obtain rfl : day = 1 := hstart
    rfl

/-! ### Days further off -/

theorem later?_eq_some_iff : d.later? n = some e ↔ e.ordinal = d.ordinal + n := by
  induction n generalizing d with
  | zero =>
      rw [later?, Option.some.injEq, Nat.add_zero]
      exact ⟨fun h => h ▸ rfl, fun h => (ordinal_injective h).symm⟩
  | succ n ih =>
      rcases d.next?_cases with ⟨f, hf, ho⟩ | ⟨hf, rfl⟩
      · rw [later?, hf, Option.bind_some, ih]
        omega
      · have he := e.ordinal_le_last
        rw [later?, hf, Option.bind_none]
        exact ⟨nofun, fun h => by omega⟩

theorem earlier?_eq_some_iff : d.earlier? n = some e ↔ e.ordinal + n = d.ordinal := by
  induction n generalizing d with
  | zero =>
      rw [earlier?, Option.some.injEq, Nat.add_zero]
      exact ⟨fun h => h ▸ rfl, fun h => (ordinal_injective h).symm⟩
  | succ n ih =>
      rcases d.prev?_cases with ⟨f, hf, ho⟩ | ⟨hf, rfl⟩
      · rw [earlier?, hf, Option.bind_some, ih]
        omega
      · have he := e.ordinal_pos
        rw [earlier?, hf, Option.bind_none, ordinal_first]
        exact ⟨nofun, fun h => by omega⟩

theorem exists_later (h : d.ordinal + n ≤ last.ordinal) : ∃ e, d.later? n = some e := by
  induction n generalizing d with
  | zero => exact ⟨d, rfl⟩
  | succ n ih =>
      rcases d.next?_cases with ⟨f, hf, ho⟩ | ⟨_, rfl⟩
      · rw [later?, hf]
        exact ih (by omega)
      · omega

theorem exists_earlier (h : n < d.ordinal) : ∃ e, d.earlier? n = some e := by
  induction n generalizing d with
  | zero => exact ⟨d, rfl⟩
  | succ n ih =>
      rcases d.prev?_cases with ⟨f, hf, ho⟩ | ⟨_, rfl⟩
      · rw [earlier?, hf]
        exact ih (by omega)
      · rw [ordinal_first] at h
        omega

/-! ### Weeks -/

theorem exists_weekStart (d : Date) : ∃ m, d.weekStart? = some m := by
  have hpos := d.ordinal_pos
  have hle := Nat.mod_le (d.ordinal - 1) 7
  refine exists_earlier ?_
  unfold weekday
  omega

/-- The Monday of the week that holds the date. -/
def monday (d : Date) : Date := d.weekStart?.get (Option.isSome_iff_exists.mpr d.exists_weekStart)

theorem weekStart?_eq (d : Date) : d.weekStart? = some d.monday := (Option.some_get _).symm

theorem ordinal_monday (d : Date) : d.monday.ordinal + d.weekday = d.ordinal :=
  earlier?_eq_some_iff.mp d.weekStart?_eq

theorem weekday_monday (d : Date) : d.monday.weekday = 0 := by
  have ho := d.ordinal_monday
  have hpos := d.monday.ordinal_pos
  unfold weekday at *
  omega

/-- A Monday is the one of a date if the date is among the seven days from it on. -/
theorem monday_eq_iff (hm : m.weekday = 0) :
    d.monday = m ↔ m.ordinal ≤ d.ordinal ∧ d.ordinal ≤ m.ordinal + 6 := by
  have ho := d.ordinal_monday
  have hlt := d.weekday_lt
  constructor
  · rintro rfl
    omega
  · rintro ⟨hle, hge⟩
    refine ordinal_injective ?_
    have hmonday := d.weekday_monday
    have hpos := d.monday.ordinal_pos
    have hpos' := m.ordinal_pos
    unfold weekday at hm hmonday
    omega

theorem weekEnd?_eq_some_iff : m.weekEnd? = some e ↔ e.ordinal = m.ordinal + 6 := later?_eq_some_iff

/-- The last Monday of the calendar, whose week has no Sunday. -/
def lastMonday : Date := ⟨9999, 12, 27, by decide⟩

theorem weekEnd?_monday (h : d < lastMonday) : ∃ e, d.monday.weekEnd? = some e := by
  have ho := d.ordinal_monday
  have hmonday := d.weekday_monday
  have hpos := d.monday.ordinal_pos
  have hlt := lt_iff_ordinal.mp h
  rw [show lastMonday.ordinal = 3652055 from rfl] at hlt
  refine exists_later (n := 6) ?_
  rw [ordinal_last]
  unfold weekday at hmonday
  omega

theorem weekEnd?_monday_of_le (h : lastMonday ≤ d) : d.monday.weekEnd? = none := by
  have ho := d.ordinal_monday
  have hlt := d.weekday_lt
  have hmonday := d.weekday_monday
  have hle := le_iff_ordinal.mp h
  rw [show lastMonday.ordinal = 3652055 from rfl] at hle
  refine Option.eq_none_iff_forall_ne_some.mpr fun e he => ?_
  have hend := weekEnd?_eq_some_iff.mp he
  have hlast := e.ordinal_le_last
  rw [ordinal_last] at hlast
  unfold weekday at hmonday
  omega

end Date
end SchoolRegister
