import SchoolRegister.Calendar.Date

/-! # Weeks

A week starts on Monday.  `Date.weekStart?` is the Monday on or before a date and
`Date.weekEnd?` the Sunday that ends the week of a Monday; the first is always defined, because the
calendar starts on a Monday, and the second is not when the calendar ends before the week does. -/

namespace SchoolRegister.Date

open Calendar

/-- The day of the week, from 0 for Monday to 6 for Sunday. -/
def weekday (d : Date) : Nat := (d.ordinal - 1) % 7

theorem weekday_lt (d : Date) : d.weekday < 7 := Nat.mod_lt _ (by decide)

def daysPerWeek : Nat := 7

/-- The Monday of the week that holds the date. -/
def weekStart? (d : Date) : Option Date := d.earlier? d.weekday

/-- The last day of the week that starts on the date. -/
def weekEnd? (d : Date) : Option Date := d.later? (daysPerWeek - 1)

/-- A year has 53 numbered weeks if it starts on a Thursday, or on a Wednesday and is a leap year;
otherwise it has 52. -/
def weeksInYear (newYear : Date) : Nat :=
  if newYear.weekday = 3 ∨ (newYear.weekday = 2 ∧ isLeap newYear.year) then 53 else 52

/-- The date of a numbered week and day: week 1 is the one that holds 4 January, and day 1 is
Monday. -/
def ofWeek? (year week day : Nat) : Option Date := do
  let newYear ← ofYmd? year 1 1
  let fourth ← newYear.later? 3
  let monday ← fourth.weekStart?
  if 1 ≤ week ∧ week ≤ weeksInYear newYear ∧ 1 ≤ day ∧ day ≤ daysPerWeek then
    monday.later? ((week - 1) * daysPerWeek + (day - 1))
  else none

end SchoolRegister.Date
