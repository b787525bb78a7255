import SchoolRegister.Calendar.Week
import SchoolRegister.Text.Digit

/-! # Reading dates

A date is accepted in two grammars.

* `calendarForm?`: year, month and day joined by hyphens.  The year has four digits, which may come
  from any script; month and day may go without their leading zero, and a blank may stand in place
  of the day's.
* `timestampForm?`: a date of the ISO 8601 family, basic or extended, by month or by week, alone or
  followed by one separating character and a time of day with an optional offset from universal
  time.  Only the date is kept; the time and the offset must still be well formed.

`readDate?` tries the first grammar and then the second. -/

namespace SchoolRegister.Calendar

open Text

/-! ### Year, month and day -/

def leadingDigit? (c : Char) : Option Nat := (asciiDigit? c).filter (1 ≤ ·)

/-- A month, with or without its leading zero. -/
def monthNumber? : List Char → Option Nat
  | ['1', c] => ((asciiDigit? c).filter (· ≤ 2)).map (10 + ·)
  | ['0', c] => leadingDigit? c
  | [c] => leadingDigit? c
  | _ => none

/-- A day of a month, with a zero, a blank or nothing before a single digit. -/
def dayNumber? : List Char → Option Nat
  | ['3', c] => ((asciiDigit? c).filter (· ≤ 1)).map (30 + ·)
  | ['2', c] => (digitValue? c).map (20 + ·)
  | ['1', c] => (digitValue? c).map (10 + ·)
  | ['0', c] => leadingDigit? c
  | [' ', c] => leadingDigit? c
  | [c] => leadingDigit? c
  | _ => none

/-- A date as year, month and day. -/
def calendarForm? (s : List Char) : Option Date := do
  let year ← (s.take 4).mapM digitValue?
  match s.drop 4 with
  | '-' :: rest =>
    let month ← monthNumber? (rest.takeWhile (· != '-'))
    match rest.dropWhile (· != '-') with
    | _ :: rest => Date.ofYmd? (ofDigits year) month (← dayNumber? rest)
    | [] => none
  | _ => none

/-! ### The date of a timestamp -/

/-- A number of exactly `n` digits, and what follows it. -/
def fixedNumber? (n : Nat) (s : List Char) : Option (Nat × List Char) := do
  let ds ← (s.take n).mapM asciiDigit?
  if ds.length = n then some (ofDigits ds, s.drop n) else none

/-- Where the date of a timestamp ends.  It depends on the two characters after the year; a week
that is followed by a hyphen and two digits is taken to end before that hyphen, and one written
without hyphens has a day exactly if that leaves an even number of digits. -/
def dateLength (s : List Char) : Nat :=
  if s.length = 7 then 7
  else match s.drop 4 with
    | '-' :: 'W' :: rest =>
      if rest[2]? = some '-' ∧ (rest[4]?.bind asciiDigit?).isNone then 10 else 8
    | '-' :: _ => 10
    | 'W' :: rest =>
      let stop := 7 + ((rest.drop 2).takeWhile fun c => (asciiDigit? c).isSome).length
      if stop < 9 then stop else if stop % 2 = 0 then 7 else 8
    | _ => 8

/-- The day of a week date, Monday if there is none. -/
def weekDay? (hyphens : Bool) (s : List Char) : Option Nat :=
  if s.isEmpty then some 1
  else do
    let s ← if hyphens then (match s with | '-' :: rest => some rest | _ => none) else some s
    let (day, rest) ← fixedNumber? 1 s
    if rest.isEmpty then some day else none

/-- A date in the basic or the extended format, by month or by week. -/
def timestampDate? (s : List Char) : Option Date := do
  let (year, rest) ← fixedNumber? 4 s
  let (hyphens, rest) := match rest with
    | '-' :: rest => (true, rest)
    | rest => (false, rest)
  match rest with
  | 'W' :: rest =>
    let (week, rest) ← fixedNumber? 2 rest
    Date.ofWeek? year week (← weekDay? hyphens rest)
  | rest =>
    let (month, rest) ← fixedNumber? 2 rest
    let rest ← if hyphens then (match rest with | '-' :: rest => some rest | _ => none) else some rest
    let (day, rest) ← fixedNumber? 2 rest
    if rest.isEmpty then Date.ofYmd? year month day else none

/-! ### The time of a timestamp -/

/-- The fields of a time of day or of an offset. -/
structure Clock where
  hour : Nat
  minute : Nat
  second : Nat

/-- What a reader of clock fields leaves: whether it stopped at the end of the text, which a null
character marks as well. -/
def stopsAtEnd (following : Option Char) : List Char → Bool
  | [] => following.isNone
  | c :: _ => c == '\x00'

/-- The fraction of a second: six digits, or all that is left if that is less, and any number of
digits more. -/
def fraction? (following : Option Char) (s : List Char) : Option Bool :=
  if (s.take 6).all fun c => (asciiDigit? c).isSome then
    some (stopsAtEnd following (s.dropWhile fun c => (asciiDigit? c).isSome))
  else none

/-- What comes after one field of a clock. -/
inductive ClockStep where
  | ended (clean : Bool)
  | field (rest : List Char)
  | fraction (rest : List Char)
  | malformed

/-- Decides how a clock goes on after a field; `colons` says whether its fields are separated.  A
single character of the ASCII range ends it in any case. -/
def clockStep (following : Option Char) (colons : Bool) : List Char → ClockStep
  | [] => .ended following.isNone
  | c :: rest =>
    if rest.isEmpty && c.toNat < 128 then .ended (c == '\x00')
    else if colons && c == ':' then .field rest
    else if c == '.' || c == ',' then .fraction rest
    else if colons then .malformed
    else .field (c :: rest)

/-- Clock fields: hours, and optionally minutes, seconds and a fraction, either all separated by
colons or not at all.  `following` is the character after the text, if there is one.  The flag of
the result says whether the fields were read up to the end. -/
def readClock? (following : Option Char) (s : List Char) : Option (Clock × Bool) := do
  let (hour, s) ← fixedNumber? 2 s
  let colons := s.head? == some ':'
  match clockStep following colons s with
  | .malformed => none
  | .ended clean => some (⟨hour, 0, 0⟩, clean)
  | .fraction s => (fraction? following s).map (⟨hour, 0, 0⟩, ·)
  | .field s =>
    let (minute, s) ← fixedNumber? 2 s
    match clockStep following colons s with
    | .malformed => none
    | .ended clean => some (⟨hour, minute, 0⟩, clean)
    | .fraction s => (fraction? following s).map (⟨hour, minute, 0⟩, ·)
    | .field s =>
      let (second, s) ← fixedNumber? 2 s
      match clockStep following colons s with
      | .malformed => none
      | .ended clean => some (⟨hour, minute, second⟩, clean)
      | .fraction s => (fraction? following s).map (⟨hour, minute, second⟩, ·)
      | .field s => (fraction? following s).map (⟨hour, minute, second⟩, ·)

/-- A time of day. -/
def Clock.IsTime (c : Clock) : Prop := c.hour < 24 ∧ c.minute < 60 ∧ c.second < 60

instance (c : Clock) : Decidable c.IsTime := inferInstanceAs (Decidable (_ ∧ _))

/-- An offset from universal time: less than a day. -/
def Clock.IsOffset (c : Clock) : Prop := c.hour * 3600 + c.minute * 60 + c.second < 86400

instance (c : Clock) : Decidable c.IsOffset := inferInstanceAs (Decidable (_ < _))

/-- An offset starts with its sign, or is the letter that stands for none. -/
def startsOffset (c : Char) : Bool := c == '+' || c == '-' || c == 'Z'

/-- The text is a time of day with an optional offset. -/
def isTimeText (s : List Char) : Bool :=
  let offset := s.dropWhile fun c => !startsOffset c
  match readClock? offset.head? (s.takeWhile fun c => !startsOffset c) with
  | none => false
  | some (clock, clean) =>
    decide clock.IsTime && match offset with
      | [] => clean
      | 'Z' :: rest => rest.head?.all (· == '\x00')
      | _ :: rest =>
        match readClock? none rest with
        | some (shift, clean) => clean && decide shift.IsOffset
        | none => false

/-- What follows the date of a timestamp: nothing, or a separator and a time. -/
def isTimestampTail : List Char → Bool
  | [] => true
  | _ :: time => isTimeText time

/-- A date of the ISO 8601 family with or without a time. -/
def timestampForm? (s : List Char) : Option Date :=
  let n := dateLength s
  (timestampDate? (s.take n)).filter fun _ => isTimestampTail (s.drop n)

/-- The date that a text denotes in one of the two grammars. -/
def readDate? (s : List Char) : Option Date := (calendarForm? s).or (timestampForm? s)

end SchoolRegister.Calendar
