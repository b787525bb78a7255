import SchoolRegister.Proofs.Calendar.Written
import SchoolRegister.Proofs.Text.Trimming

/-! # Timestamps are read as their dates

A timestamp is a date, a separator and a time of day, perhaps with an offset from universal time.  `ClockText`
is how the fields of a time or of an offset are written, and `Offset` how an offset is; whatever they say, they
are well formed (`readClock?_chars`, `isTimeText_chars`), and only the date is kept
(`Date.readDate?_timestamp`).

`Date.Spelling` gathers the texts of a date: its year, month and day, the latter two with or without zeros, and
every timestamp of it.  Each of them is read as the date, with any blanks around it
(`Date.Spelling.readDate?_trimChars`). -/

namespace SchoolRegister

open Text Number

/-! ### Numbers of a fixed width -/

namespace Calendar

theorem length_of_mapM {α β : Type} {f : α → Option β} {l : List α} {bs : List β} (h : l.mapM f = some bs) :
    bs.length = l.length := by
  induction l generalizing bs with
  | nil => cases h; rfl
  | cons a rest ih =>
      rw [List.mapM_cons] at h
      obtain ⟨b, _, h⟩ := Option.bind_eq_some_iff.mp h
      obtain ⟨cs, hcs, h⟩ := Option.bind_eq_some_iff.mp h
      cases h
      rw [List.length_cons, List.length_cons, ih hcs]

/-- A number that is written with zeros up to a width is read, whatever follows. -/
theorem fixedNumber?_paddedDigits {width n : Nat} (hw : 0 < width) (h : n < 10 ^ width) (rest : List Char) :
    fixedNumber? width (paddedDigits width n ++ rest) = some (n, rest) := by
  obtain ⟨ds, hds, hn⟩ := mapM_asciiDigit?_paddedDigits width n
  have hlen := length_paddedDigits hw h
  have hlength : ds.length = width := (length_of_mapM hds).trans hlen
  rw [fixedNumber?, List.take_left' hlen, hds, List.drop_left' hlen]
  simp [hlength, hn]

theorem exists_paddedDigits_two (n : Nat) (rest : List Char) : ∃ c d tail,
    paddedDigits 2 n ++ rest = c :: d :: tail ∧ c.isDigit = true := by
  have hlen : 2 ≤ (paddedDigits 2 n).length := by
    rw [paddedDigits, List.length_append, List.length_replicate]
    omega
  have hdigits : ∀ c ∈ paddedDigits 2 n, c.isDigit = true := fun c => isDigit_of_mem_paddedDigits
  generalize paddedDigits 2 n = number at hlen hdigits
  cases number with
  | nil => simp at hlen
  | cons c number =>
      cases number with
      | nil => simp at hlen
      | cons d tail => exact ⟨c, d, tail ++ rest, rfl, hdigits c List.mem_cons_self⟩

/-! ### Clocks -/

/-- A fraction in thousandths or in millionths, after a point or a comma. -/
structure Fraction where
  comma : Bool
  value : Fin 1000 ⊕ Fin 1000000

def Fraction.digits (f : Fraction) : List Char :=
  match f.value with
  | .inl n => paddedDigits 3 n
  | .inr n => paddedDigits 6 n

/-- A fraction after its mark; nothing if there is none. -/
def Fraction.chars : Option Fraction → List Char
  | none => []
  | some f => (if f.comma then ',' else '.') :: f.digits

/-- A time of less than a day as it is written: the hours, then minutes and seconds as far as they are told,
with colons before them or without, and perhaps a fraction. -/
structure ClockText where
  colons : Bool
  hour : Fin 24
  later : List (Fin 60)
  later_le : later.length ≤ 2
  fraction : Option Fraction

namespace ClockText

/-- What stands before minutes and before seconds. -/
def separator (colons : Bool) : List Char := if colons then [':'] else []

/-- The time as a text. -/
def chars (t : ClockText) : List Char :=
  paddedDigits 2 t.hour.val ++ (t.later.flatMap fun n : Fin 60 => separator t.colons ++ paddedDigits 2 n.val)
    ++ Fraction.chars t.fraction

/-- The fields of the time; those that are not told are zero. -/
def clock (t : ClockText) : Clock where
  hour := t.hour
  minute := (t.later[0]?.map Fin.val).getD 0
  second := (t.later[1]?.map Fin.val).getD 0

end ClockText

variable {following : Option Char} {colons : Bool} {c : Char}

theorem Fraction.isDigit_of_mem_digits {f : Fraction} (h : c ∈ f.digits) : c.isDigit = true := by
  unfold digits at h
  split at h <;> exact isDigit_of_mem_paddedDigits h

theorem Fraction.digits_ne_nil (f : Fraction) : f.digits ≠ [] := by
  unfold digits
  split <;> exact List.append_ne_nil_of_right_ne_nil _ Nat.toDigits_ne_nil

theorem fraction?_digits (f : Fraction) : fraction? following f.digits = some following.isNone := by
  have hdigits : ∀ c ∈ f.digits, (asciiDigit? c).isSome = true := by
    intro c hc
    rw [asciiDigit?_of_isDigit (f.isDigit_of_mem_digits hc)]
    rfl
  have hsix : (f.digits.take 6).all (fun c => (asciiDigit? c).isSome) = true :=
    List.all_eq_true.mpr fun c hc => hdigits c (List.mem_of_mem_take hc)
  rw [fraction?, if_pos hsix, List.dropWhile_eq_nil_iff.mpr hdigits, stopsAtEnd]

theorem clockStep_field (n : Nat) (rest : List Char) :
    clockStep following colons (ClockText.separator colons ++ (paddedDigits 2 n ++ rest)) =
      .field (paddedDigits 2 n ++ rest) := by
  obtain ⟨c, d, tail, hn, hc⟩ := exists_paddedDigits_two n rest
  have hmark : c ≠ '.' ∧ c ≠ ',' := by
    constructor <;> rintro rfl <;> exact absurd hc (by decide)
  rw [hn]
  cases colons <;> simp [ClockText.separator, clockStep, hmark]

theorem clockStep_fraction (f : Option Fraction) : clockStep following colons (Fraction.chars f) =
    f.elim (.ended following.isNone) fun f => .fraction f.digits := by
  cases f with
  | none => rfl
  | some f =>
      have hne : f.digits.isEmpty = false := List.isEmpty_eq_false_iff.mpr f.digits_ne_nil
      cases hcomma : f.comma <;> cases colons <;> simp [Fraction.chars, hcomma, clockStep, hne]

/-- The first separator tells whether there are colons. -/
theorem head?_separator (n : Nat) (rest : List Char) :
    ((ClockText.separator colons ++ (paddedDigits 2 n ++ rest)).head? == some ':') = colons := by
  obtain ⟨c, d, tail, hn, hc⟩ := exists_paddedDigits_two n rest
  have hcolon : c ≠ ':' := by
    rintro rfl
    exact absurd hc (by decide)
  rw [hn]
  cases colons <;> simp [ClockText.separator, hcolon]

theorem readClock?_chars (t : ClockText) : readClock? following t.chars = some (t.clock, following.isNone) := by
  obtain ⟨colons, hour, later, hle, fraction⟩ := t
  have hfixed : ∀ (n : Fin 60) (rest : List Char), fixedNumber? 2 (paddedDigits 2 n ++ rest) = some (n.val, rest) :=
    fun n rest => fixedNumber?_paddedDigits (by omega) (by omega) rest
  have hhour : ∀ rest, fixedNumber? 2 (paddedDigits 2 hour ++ rest) = some (hour.val, rest) :=
    fixedNumber?_paddedDigits (by omega) (by omega)
  rw [readClock?, ClockText.chars, List.append_assoc, hhour]
  simp only [Option.bind_eq_bind, Option.bind_some]
  -- one reading for each number of fields, and the fraction after the last of them
  match later with
  | [] =>
      rw [List.flatMap_nil, List.nil_append, clockStep_fraction]
      cases fraction <;> simp [fraction?_digits, ClockText.clock]
  | [m] =>
      rw [List.flatMap_singleton, List.append_assoc, head?_separator, clockStep_field]
      simp only [hfixed, Option.bind_some, clockStep_fraction]
      cases fraction <;> simp [fraction?_digits, ClockText.clock]
  | [m, n] =>
      rw [List.flatMap_cons, List.flatMap_singleton, List.append_assoc, List.append_assoc, List.append_assoc,
        head?_separator, clockStep_field]
      simp only [hfixed, Option.bind_some, clockStep_field, clockStep_fraction]
      cases fraction <;> simp [fraction?_digits, ClockText.clock]
  | _ :: _ :: _ :: _ => simp at hle

/-! ### Times with an offset -/

/-- An offset from universal time as it is written: none, by a letter, or less than a day ahead or behind. -/
inductive Offset where
  | universal
  | shifted (ahead : Bool) (span : ClockText)

/-- The offset as a text, empty if there is none. -/
def Offset.chars : Option Offset → List Char
  | none => []
  | some .universal => ['Z']
  | some (.shifted ahead t) => (if ahead then '+' else '-') :: t.chars

theorem ClockText.minute_lt (t : ClockText) : t.clock.minute < 60 := by
  unfold clock
  cases t.later[0]? <;> simp

theorem ClockText.second_lt (t : ClockText) : t.clock.second < 60 := by
  unfold clock
  cases t.later[1]? <;> simp

theorem ClockText.isTime (t : ClockText) : t.clock.IsTime := ⟨t.hour.isLt, t.minute_lt, t.second_lt⟩

theorem ClockText.isOffset (t : ClockText) : t.clock.IsOffset := by
  have hhour : t.clock.hour < 24 := t.hour.isLt
  have hminute := t.minute_lt
  have hsecond := t.second_lt
  unfold Clock.IsOffset
  omega

theorem ClockText.mem_chars {t : ClockText} (h : c ∈ t.chars) :
    c.isDigit = true ∨ c = ':' ∨ c = '.' ∨ c = ',' := by
  unfold chars at h
  simp only [List.mem_append, List.mem_flatMap] at h
  rcases h with (h | ⟨n, _, h | h⟩) | h
  · exact .inl (isDigit_of_mem_paddedDigits h)
  · unfold separator at h
    split at h
    · exact .inr (.inl (List.mem_singleton.mp h))
    · cases h
  · exact .inl (isDigit_of_mem_paddedDigits h)
  · cases hf : t.fraction with
    | none => rw [hf] at h; cases h
    | some f =>
        rw [hf] at h
        rcases List.mem_cons.mp h with rfl | h
        · split
          · exact .inr (.inr (.inr rfl))
          · exact .inr (.inr (.inl rfl))
        · exact .inl (f.isDigit_of_mem_digits h)

theorem startsOffset_of_mem_chars {t : ClockText} (h : c ∈ t.chars) : startsOffset c = false := by
  rcases ClockText.mem_chars h with h | rfl | rfl | rfl
  · rw [Bool.eq_false_iff]
    intro hstart
    simp only [startsOffset, Bool.or_eq_true, beq_iff_eq] at hstart
    rcases hstart with (rfl | rfl) | rfl <;> exact absurd h (by decide)
  all_goals rfl

/-- A time with an offset, or without, is well formed. -/
theorem isTimeText_chars (t : ClockText) (offset : Option Offset) :
    isTimeText (t.chars ++ Offset.chars offset) = true := by
  have hclock : ∀ c ∈ t.chars, (!startsOffset c) = true := fun c hc => by rw [startsOffset_of_mem_chars hc]; rfl
  have hsplit : (Offset.chars offset).takeWhile (fun c => !startsOffset c) = [] ∧
      (Offset.chars offset).dropWhile (fun c => !startsOffset c) = Offset.chars offset := by
    match offset with
    | none | some .universal => exact ⟨rfl, rfl⟩
    | some (.shifted ahead span) => cases ahead <;> exact ⟨rfl, rfl⟩
  rw [isTimeText, List.dropWhile_append_of_pos hclock, List.takeWhile_append_of_pos hclock, hsplit.1, hsplit.2,
    List.append_nil, readClock?_chars]
  match offset with
  | none | some .universal => simp [Offset.chars, t.isTime]
  | some (.shifted ahead span) =>
      cases ahead <;> simp [Offset.chars, t.isTime, readClock?_chars, span.isOffset]

/-! ### Dates before times -/

/-- A day of two digits is no longer one if anything follows. -/
theorem dayNumber?_paddedDigits_append {day : Nat} (h : day < 32) (c : Char) (rest : List Char) :
    dayNumber? (paddedDigits 2 day ++ c :: rest) = none := by
  have hdigits : ∀ n < 32, paddedDigits 2 n = [(n / 10).digitChar, (n % 10).digitChar] := by decide
  have htens : day / 10 < 4 := by omega
  rw [hdigits day h, List.cons_append]
  generalize day / 10 = tens at htens ⊢
  match tens with
  | 0 | 1 | 2 | 3 => rfl
  | _ + 4 => omega

end Calendar

open Calendar

namespace Date

variable {d : Date} {s : List Char}

/-- A timestamp of the date: a separator, a time of day, and perhaps an offset after the date. -/
def timestamp (d : Date) (separator : Char) (t : ClockText) (offset : Option Offset) : List Char :=
  d.paddedText.toList ++ separator :: (t.chars ++ Offset.chars offset)

theorem paddedText_append (d : Date) (rest : List Char) : d.paddedText.toList ++ rest =
    paddedDigits 4 d.year ++ '-' :: (paddedDigits 2 d.month ++ '-' :: (paddedDigits 2 d.day ++ rest)) := by
  simp [toList_paddedText, monthDayChars]

/-- A timestamp has too long a day to be year, month and day alone. -/
theorem calendarForm?_timestamp (d : Date) (separator : Char) (t : ClockText) (offset : Option Offset) :
    calendarForm? (d.timestamp separator t offset) = none := by
  have hmonth : ∀ c ∈ paddedDigits 2 d.month, (c != '-') = true :=
    fun c hc => ne_hyphen_of_isDigit (isDigit_of_mem_paddedDigits hc)
  rw [timestamp, paddedText_append, calendarForm?_parts d.year_lt hmonth d.monthNumber?_month,
    dayNumber?_paddedDigits_append (Nat.lt_succ_of_le d.day_le)]
  rfl

theorem dateLength_timestamp (d : Date) (separator : Char) (t : ClockText) (offset : Option Offset) :
    dateLength (d.timestamp separator t offset) = 10 := by
  obtain ⟨c, e, tail, hmonth, hdigit⟩ := exists_paddedDigits_two d.month
    ('-' :: (paddedDigits 2 d.day ++ separator :: (t.chars ++ Offset.chars offset)))
  have hweek : c ≠ 'W' := by
    rintro rfl
    exact absurd hdigit (by decide)
  have hlong : (d.timestamp separator t offset).length ≠ 7 := by
    rw [timestamp, List.length_append, length_paddedText]
    omega
  have hdrop : (d.timestamp separator t offset).drop 4 = '-' :: c :: e :: tail := by
    rw [timestamp, paddedText_append, List.drop_left' d.length_year, hmonth]
  rw [dateLength, if_neg hlong, hdrop]
  simp [hweek]

theorem timestampDate?_paddedText (d : Date) : timestampDate? d.paddedText.toList = some d := by
  obtain ⟨c, e, tail, hmonth, hdigit⟩ := exists_paddedDigits_two d.month ('-' :: (paddedDigits 2 d.day ++ []))
  have hweek : c ≠ 'W' := by
    rintro rfl
    exact absurd hdigit (by decide)
  have hsplit := d.paddedText_append []
  rw [List.append_nil] at hsplit
  rw [timestampDate?, hsplit, fixedNumber?_paddedDigits (by omega) d.year_lt, hmonth]
  simp only [Option.bind_eq_bind, Option.bind_some]
  split
  · rename_i h
    exact absurd (List.cons.inj h).1 hweek
  · rw [← hmonth]
    simp only [fixedNumber?_paddedDigits (by omega : 0 < 2) d.month_lt,
      fixedNumber?_paddedDigits (by omega : 0 < 2) d.day_lt, Option.bind_some, if_true, List.isEmpty_nil]
    exact ofYmd?_self d

/-- A timestamp is read as its date, whatever the time of day and the offset. -/
theorem readDate?_timestamp (d : Date) (separator : Char) (t : ClockText) (offset : Option Offset) :
    readDate? (d.timestamp separator t offset) = some d := by
  rw [readDate?, calendarForm?_timestamp, Option.none_or, timestampForm?, dateLength_timestamp, timestamp,
    List.take_left' d.length_paddedText, List.drop_left' d.length_paddedText, timestampDate?_paddedText,
    isTimestampTail, isTimeText_chars]
  rfl

/-! ### Spellings -/

/-- The texts of the date: a year of four digits, month and day, the latter two with or without a zero before a
single digit; and the timestamps of the date. -/
inductive Spelling (d : Date) : List Char → Prop
  | calendar {month day : List Char} : month = paddedDigits 2 d.month ∨ month = digitsOf d.month →
      day = paddedDigits 2 d.day ∨ day = digitsOf d.day →
        Spelling d (paddedDigits 4 d.year ++ '-' :: (month ++ '-' :: day))
  | timestamp (separator : Char) (t : ClockText) (offset : Option Offset) :
      Spelling d (d.timestamp separator t offset)

theorem monthNumber?_digitsOf (d : Date) : monthNumber? (digitsOf d.month) = some d.month :=
  (by decide : ∀ m < 13, 1 ≤ m → monthNumber? (digitsOf m) = some m) d.month
    (Nat.lt_succ_of_le d.isDate.2.2.2.1) d.isDate.2.2.1

theorem dayNumber?_digitsOf (d : Date) : dayNumber? (digitsOf d.day) = some d.day :=
  (by decide : ∀ n < 32, 1 ≤ n → dayNumber? (digitsOf n) = some n) d.day
    (Nat.lt_succ_of_le d.day_le) d.isDate.2.2.2.2.1

theorem isDigit_of_mem_number {text : List Char} {n : Nat} (ht : text = paddedDigits 2 n ∨ text = digitsOf n)
    {c : Char} (h : c ∈ text) : c.isDigit = true := by
  rcases ht with rfl | rfl
  · exact isDigit_of_mem_paddedDigits h
  · exact isDigit_of_mem_digitsOf h

theorem readDate?_of_spelling (h : Spelling d s) : readDate? s = some d := by
  cases h with
  | timestamp separator t offset => exact d.readDate?_timestamp separator t offset
  | @calendar month day hmonth hday =>
      have hhyphen : ∀ c ∈ month, (c != '-') = true :=
        fun c hc => ne_hyphen_of_isDigit (isDigit_of_mem_number hmonth hc)
      have hm : monthNumber? month = some d.month := by
        rcases hmonth with rfl | rfl
        · exact d.monthNumber?_month
        · exact d.monthNumber?_digitsOf
      have hd : dayNumber? day = some d.day := by
        rcases hday with rfl | rfl
        · exact d.dayNumber?_day
        · exact d.dayNumber?_digitsOf
      rw [readDate?, calendarForm?_parts d.year_lt hhyphen hm, hd, Option.bind_some, ofYmd?_self, Option.some_or]

theorem isBlank_of_mem_time {t : ClockText} {offset : Option Offset} {c : Char}
    (h : c ∈ t.chars ++ Offset.chars offset) : isBlank c = false := by
  have hclock : ∀ {t : ClockText}, c ∈ t.chars → isBlank c = false := by
    intro t h
    rcases ClockText.mem_chars h with h | rfl | rfl | rfl
    · exact isBlank_of_isDigit h
    all_goals rfl
  rcases List.mem_append.mp h with h | h
  · exact hclock h
  · match offset with
    | none => cases h
    | some .universal => rw [List.mem_singleton.mp h]; rfl
    | some (.shifted ahead span) =>
        rcases List.mem_cons.mp h with rfl | h
        · cases ahead <;> rfl
        · exact hclock h

theorem Spelling.trimmed (h : Spelling d s) : Trimmed s := by
  have hne : ∀ width n, paddedDigits width n ≠ [] := fun width n =>
    List.append_ne_nil_of_right_ne_nil _ Nat.toDigits_ne_nil
  cases h with
  | timestamp separator t offset =>
      have hdate : d.paddedText.toList ≠ [] := List.ne_nil_of_length_pos (by rw [length_paddedText]; omega)
      have htime : t.chars ++ Offset.chars offset ≠ [] := by simp [ClockText.chars, hne]
      rw [Date.timestamp, List.append_cons]
      exact trimmed_append hdate (fun _ => isBlank_of_mem_paddedText) [separator] htime fun _ => isBlank_of_mem_time
  | @calendar month day hmonth hday =>
      have hlast : day ≠ [] := by
        rcases hday with rfl | rfl
        · exact hne _ _
        · exact Nat.toDigits_ne_nil
      have hsplit : paddedDigits 4 d.year ++ '-' :: (month ++ '-' :: day) =
          paddedDigits 4 d.year ++ '-' :: (month ++ ['-']) ++ day := by simp
      rw [hsplit]
      exact trimmed_append (hne _ _) (fun c hc => isBlank_of_isDigit (isDigit_of_mem_paddedDigits hc)) _ hlast
        fun c hc => isBlank_of_isDigit (isDigit_of_mem_number hday hc)

theorem Spelling.readDate?_trimChars {before after : List Char} (h : Spelling d s)
    (hbefore : before.all isBlank = true) (hafter : after.all isBlank = true) :
    readDate? (trimChars (before ++ s ++ after)) = some d := by
  rw [trimChars_around hbefore hafter, trimChars_of_trimmed h.trimmed, readDate?_of_spelling h]

end Date
end SchoolRegister
