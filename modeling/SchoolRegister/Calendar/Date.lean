import SchoolRegister.Number.Notation

/-! # Calendar dates

A `Date` is a day of the Gregorian calendar, extended backwards, from 1 January of year 1 to
31 December of year 9999.  `Date.ordinal` counts the days from the first of these, which has
number 1 and is a Monday; dates are ordered by it.  `Date.next?` and `Date.prev?` step to the
neighbouring day and are undefined only at the two ends of the calendar.

`Date.text` is the form in which dates leave the service: year, month and day joined by hyphens,
month and day with two digits each and the year without leading zeros.  `Date.paddedText` gives the
year four digits. -/

namespace SchoolRegister

namespace Calendar

/-- Leap years: every fourth year, but of the century years only every fourth. -/
def isLeap (year : Nat) : Bool :=
  year % 4 == 0 && (year % 100 != 0 || year % 400 == 0)

/-- The length of a month, counted from 1 for January. -/
def daysInMonth (year month : Nat) : Nat :=
  match month with
  | 2 => if isLeap year then 29 else 28
  | 4 | 6 | 9 | 11 => 30
  | _ => 31

/-- The last year of the calendar. -/
def lastYear : Nat := 9999

/-- Year, month and day name a day of the calendar. -/
def IsDate (year month day : Nat) : Prop :=
  1 ≤ year ∧ year ≤ lastYear ∧ 1 ≤ month ∧ month ≤ 12 ∧ 1 ≤ day ∧ day ≤ daysInMonth year month

instance (year month day : Nat) : Decidable (IsDate year month day) :=
  inferInstanceAs (Decidable (_ ∧ _))

def daysBeforeYear (year : Nat) : Nat :=
  365 * (year - 1) + (year - 1) / 4 - (year - 1) / 100 + (year - 1) / 400

/-- The number of days of a year before one of its months. -/
def daysBeforeMonth (year : Nat) : Nat → Nat
  | 0 => 0
  | 1 => 0
  | month + 2 => daysBeforeMonth year (month + 1) + daysInMonth year (month + 1)

end Calendar

open Calendar

/-- A day of the calendar. -/
structure Date where
  year : Nat
  month : Nat
  day : Nat
  isDate : IsDate year month day
  deriving DecidableEq

namespace Date

/-- The date of a year, a month and a day, if there is one. -/
def ofYmd? (year month day : Nat) : Option Date :=
  if h : IsDate year month day then some ⟨year, month, day, h⟩ else none

/-- The number of the day, counted from 1 for the first day of the calendar. -/
def ordinal (d : Date) : Nat :=
  daysBeforeYear d.year + daysBeforeMonth d.year d.month + d.day

instance : LE Date := ⟨fun a b => a.ordinal ≤ b.ordinal⟩
instance : LT Date := ⟨fun a b => a.ordinal < b.ordinal⟩
instance (a b : Date) : Decidable (a ≤ b) := inferInstanceAs (Decidable (a.ordinal ≤ b.ordinal))
instance (a b : Date) : Decidable (a < b) := inferInstanceAs (Decidable (a.ordinal < b.ordinal))

theorem le_iff_ordinal {a b : Date} : a ≤ b ↔ a.ordinal ≤ b.ordinal := Iff.rfl
theorem lt_iff_ordinal {a b : Date} : a < b ↔ a.ordinal < b.ordinal := Iff.rfl

def next? (d : Date) : Option Date :=
  (ofYmd? d.year d.month (d.day + 1)).or
    ((ofYmd? d.year (d.month + 1) 1).or (ofYmd? (d.year + 1) 1 1))

def prev? (d : Date) : Option Date :=
  (ofYmd? d.year d.month (d.day - 1)).or
    ((ofYmd? d.year (d.month - 1) (daysInMonth d.year (d.month - 1))).or
      (ofYmd? (d.year - 1) 12 31))

def later? (d : Date) : Nat → Option Date
  | 0 => some d
  | n + 1 => d.next?.bind fun e => e.later? n

def earlier? (d : Date) : Nat → Option Date
  | 0 => some d
  | n + 1 => d.prev?.bind fun e => e.earlier? n

def first : Date := ⟨1, 1, 1, by decide⟩

theorem ofYmd?_eq_some_iff {year month day : Nat} {d : Date} :
    ofYmd? year month day = some d ↔ d.year = year ∧ d.month = month ∧ d.day = day := by
  unfold ofYmd?
  constructor
  · intro h
    split at h
    · cases h; exact ⟨rfl, rfl, rfl⟩
    · cases h
  · rintro ⟨rfl, rfl, rfl⟩
    rw [dif_pos d.isDate]

theorem ofYmd?_self (d : Date) : ofYmd? d.year d.month d.day = some d :=
  ofYmd?_eq_some_iff.mpr ⟨rfl, rfl, rfl⟩

end Date

/-- A date with a time of day. -/
structure Moment where
  date : Date
  hour : Nat
  minute : Nat
  second : Nat
  deriving DecidableEq

/-! ### Written dates -/

open Number

/-- Month and day, each after a hyphen and with two digits. -/
def Date.monthDayChars (d : Date) : List Char :=
  '-' :: paddedDigits 2 d.month ++ '-' :: paddedDigits 2 d.day

def Date.chars (d : Date) : List Char := digitsOf d.year ++ d.monthDayChars

/-- The date as the service writes it. -/
def Date.text (d : Date) : String := String.ofList d.chars

/-- A date that may be missing, as the service writes it: nothing for none. -/
def Date.textOrEmpty : Option Date → String
  | some d => d.text
  | none => ""

/-- The date with a year of four digits. -/
def Date.paddedText (d : Date) : String :=
  String.ofList (paddedDigits 4 d.year ++ d.monthDayChars)

/-- The time of day in hours, minutes and seconds. -/
def Moment.clockText (m : Moment) : String :=
  String.ofList (paddedDigits 2 m.hour ++ ':' :: paddedDigits 2 m.minute
    ++ ':' :: paddedDigits 2 m.second)

end SchoolRegister
