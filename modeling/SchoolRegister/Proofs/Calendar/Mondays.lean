import Mathlib.Data.Prod.Lex
import Mathlib.Order.MinMax
import SchoolRegister.Proofs.Calendar.Weeks

/-! # The Monday of a week

* **Dates.**  The number of a day grows with year, month and day, compared in this order (`Date.ymd_lt_iff`).
* **Mondays.**  The first day of the calendar is a Monday, and so is every seventh day after it
  (`Date.IsMonday`); these are the days whose weekday is 0 (`Date.isMonday_iff`).
* **Weeks.**  A Monday is on or before the Monday of a date exactly if it is on or before the date
  (`Date.le_monday_iff`): the start of the week is the last Monday up to the date.

`Date.StartsWeeks` says what follows for the start of the week, in terms of year, month and day and of steps from
one day to the next, and `Date.weeks_start_on_mondays` is the main statement. -/

namespace SchoolRegister.Date

variable {a b d m : Date} {n : Nat}

/-! ### Year, month and day in order -/

/-- Year, month and day, to be compared in this order. -/
def ymd (d : Date) : Nat ×ₗ Nat ×ₗ Nat := toLex (d.year, toLex (d.month, d.day))

theorem lt_of_ymd_lt (h : a.ymd < b.ymd) : a < b := by
  rcases Prod.Lex.toLex_lt_toLex.mp h with hyear | ⟨hyear, h⟩
  · exact ordinal_lt_of_year_lt hyear
  rcases Prod.Lex.toLex_lt_toLex.mp h with hmonth | ⟨hmonth, hday⟩
  · exact ordinal_lt_of_month_lt hyear hmonth
  · dsimp only at hyear hmonth hday
    rw [lt_iff_ordinal, ordinal, ordinal, hyear, hmonth]
    omega

theorem ordinal_eq_of_ymd_eq (h : a.ymd = b.ymd) : a.ordinal = b.ordinal := by
  simp only [ymd, toLex_inj, Prod.mk.injEq] at h
  rw [ordinal, ordinal, h.1, h.2.1, h.2.2]

theorem ymd_lt_iff : a.ymd < b.ymd ↔ a < b := by
  refine ⟨lt_of_ymd_lt, fun h => ?_⟩
  have hlt := lt_iff_ordinal.mp h
  -- the order of year, month and day is total, and neither other case agrees with the numbers
  rcases lt_trichotomy a.ymd b.ymd with hymd | heq | hgt
  · exact hymd
  · have := ordinal_eq_of_ymd_eq heq
    omega
  · have := lt_iff_ordinal.mp (lt_of_ymd_lt hgt)
    omega

theorem ymd_le_iff : a.ymd ≤ b.ymd ↔ a ≤ b := by
  rw [← not_lt, ymd_lt_iff, lt_iff_ordinal, le_iff_ordinal, Nat.not_lt]

/-! ### Mondays -/

/-- The Mondays: the first day of the calendar, and the days that lie a whole number of weeks after it. -/
def IsMonday (d : Date) : Prop := ∃ weeks, first.later? (7 * weeks) = some d

theorem isMonday_iff : d.IsMonday ↔ d.weekday = 0 := by
  have hpos := d.ordinal_pos
  simp only [IsMonday, later?_eq_some_iff, ordinal_first, weekday]
  constructor
  · rintro ⟨weeks, h⟩
    omega
  · intro h
    exact ⟨(d.ordinal - 1) / 7, by omega⟩

theorem isMonday_monday (d : Date) : d.monday.IsMonday := isMonday_iff.mpr d.weekday_monday

theorem monday_le (d : Date) : d.monday ≤ d := by
  have ho := d.ordinal_monday
  rw [le_iff_ordinal]
  omega

/-- The Monday of a date is the last one up to the date. -/
theorem le_monday_iff (hm : m.IsMonday) : m ≤ d.monday ↔ m ≤ d := by
  have ho := d.ordinal_monday
  have hlt := d.weekday_lt
  have hmonday := d.weekday_monday
  have hpos := d.monday.ordinal_pos
  have hpos' := m.ordinal_pos
  have hm := isMonday_iff.mp hm
  rw [le_iff_ordinal, le_iff_ordinal]
  -- the date is less than seven days after its Monday, and Mondays have one remainder modulo seven
  unfold weekday at hm hmonday
  omega

theorem monday_mono (h : a ≤ b) : a.monday ≤ b.monday :=
  (le_monday_iff a.isMonday_monday).mpr (le_trans a.monday_le h)

theorem monday_eq_self (h : d.IsMonday) : d.monday = d :=
  le_antisymm d.monday_le ((le_monday_iff h).mpr (Nat.le_refl _))

/-- Two dates have one Monday exactly if the Mondays up to the one are those up to the other. -/
theorem monday_eq_monday_iff : a.monday = b.monday ↔ ∀ m : Date, m.IsMonday → (m ≤ a ↔ m ≤ b) := by
  constructor
  · intro h m hm
    rw [← le_monday_iff hm, h, le_monday_iff hm]
  · intro h
    have ha := (h a.monday a.isMonday_monday).mp a.monday_le
    have hb := (h b.monday b.isMonday_monday).mpr b.monday_le
    exact le_antisymm ((le_monday_iff a.isMonday_monday).mpr ha) ((le_monday_iff b.isMonday_monday).mpr hb)

/-! ### The start of the week -/

theorem weekStart?_eq_some_iff : d.weekStart? = some m ↔ d.monday = m := by
  rw [weekStart?_eq, Option.some.injEq]

theorem ordinal_le_of_later (h : ∀ s, m.later? n = some s → d ≤ s) : d.ordinal ≤ m.ordinal + n := by
  by_cases hn : m.ordinal + n ≤ last.ordinal
  · obtain ⟨s, hs⟩ := exists_later hn
    rw [← later?_eq_some_iff.mp hs]
    exact h s hs
  · have := d.ordinal_le_last
    omega

/-- Unless a date is after the earlier and not after the later of two others, it is up to both of them or to
neither. -/
theorem not_between_iff : ¬ (min a.ymd b.ymd < m.ymd ∧ m.ymd ≤ max a.ymd b.ymd) ↔ (m ≤ a ↔ m ≤ b) := by
  rw [min_lt_iff, le_max_iff, ymd_lt_iff, ymd_lt_iff, ymd_le_iff, ymd_le_iff]
  simp only [lt_iff_ordinal, le_iff_ordinal]
  omega

/-- What it is to give the start of the week of each date. -/
structure StartsWeeks (start : Date → Option Date) : Prop where
  /-- Every date has a start of its week, a Monday at most six days before it. -/
  monday (d : Date) : ∃ m, start d = some m ∧ m.IsMonday ∧ m.ymd ≤ d.ymd ∧ ∃ n ≤ 6, m.later? n = some d
  /-- No other Monday is on or before the date with the sixth day after it, if there is one, on or after the
  date. -/
  unique {d m : Date} : m.IsMonday → m.ymd ≤ d.ymd → (∀ s, m.later? 6 = some s → d.ymd ≤ s.ymd) → start d = some m
  idempotent {d m : Date} : start d = some m → start m = some m
  monotone {a b m n : Date} : start a = some m → start b = some n → a.ymd ≤ b.ymd → m.ymd ≤ n.ymd
  /-- Two dates lie in one week unless a Monday is after the earlier and not after the later of them. -/
  alike_iff (a b : Date) : start a = start b ↔
    ∀ m : Date, m.IsMonday → ¬ (min a.ymd b.ymd < m.ymd ∧ m.ymd ≤ max a.ymd b.ymd)

/-- Every date has a start of its week, and that is the only Monday up to six days before it. -/
theorem weeks_start_on_mondays : StartsWeeks weekStart? where
  monday d := by
    have hlt := d.weekday_lt
    refine ⟨d.monday, d.weekStart?_eq, d.isMonday_monday, ymd_le_iff.mpr d.monday_le, d.weekday, by omega, ?_⟩
    exact later?_eq_some_iff.mpr d.ordinal_monday.symm
  unique {d m} hm hle hend := by
    have hlast := ordinal_le_of_later fun s hs => ymd_le_iff.mp (hend s hs)
    rw [weekStart?_eq_some_iff, monday_eq_iff (isMonday_iff.mp hm)]
    exact ⟨ymd_le_iff.mp hle, hlast⟩
  idempotent {d m} h := by
    obtain rfl := weekStart?_eq_some_iff.mp h
    exact weekStart?_eq_some_iff.mpr (monday_eq_self d.isMonday_monday)
  monotone {a b m n} ha hb h := by
    obtain rfl := weekStart?_eq_some_iff.mp ha
    obtain rfl := weekStart?_eq_some_iff.mp hb
    exact ymd_le_iff.mpr (monday_mono (ymd_le_iff.mp h))
  alike_iff a b := by
    rw [b.weekStart?_eq, weekStart?_eq_some_iff, monday_eq_monday_iff]
    simp only [not_between_iff]

/-- The week of the first of March in 2000 starts before the leap day. -/
example : (⟨2000, 3, 1, by decide⟩ : Date).weekStart? = some ⟨2000, 2, 28, by decide⟩ := by decide

end SchoolRegister.Date
