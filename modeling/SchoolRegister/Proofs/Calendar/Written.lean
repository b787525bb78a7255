import Mathlib.Algebra.Group.Nat.Defs
import SchoolRegister.Calendar.Date
import SchoolRegister.Calendar.Reading
import SchoolRegister.Number.Reading
import SchoolRegister.Text.Blank

/-! # Written dates are read

A number is the one that its digits denote, zeros on the left or not (`mapM_digitValue?_paddedDigits`),
so a date with a year of four digits is read as itself (`calendarForm?_paddedText`).  The text of such a
date consists of ten characters of the ASCII range, none of them blank.  Also without those zeros, two dates have
two texts (`Date.text_injective`). -/

namespace SchoolRegister

open Calendar Number Text

/-! ### Digits -/

namespace Number

theorem asciiDigit?_of_isDigit {c : Char} (h : c.isDigit = true) : asciiDigit? c = some (digitOrZero c) := by
  have hc := Char.isDigit_iff_toNat.mp h
  rw [digitOrZero, asciiDigit?, if_pos hc]
  rfl

theorem asciiDigit?_digitChar {n : Nat} (h : n < 10) : asciiDigit? n.digitChar = some n := by
  have h0 : '0'.toNat = 48 := rfl
  have h9 : '9'.toNat = 57 := rfl
  rw [asciiDigit?, Nat.toNat_digitChar_of_lt_ten h, h0, h9, if_pos (by omega)]
  congr 1
  omega

theorem mapM_asciiDigit?_digitsOf (n : Nat) :
    ∃ ds, (digitsOf n).mapM asciiDigit? = some ds ∧ ofDigits ds = n := by
  induction n using Nat.strongRecOn with
  | _ n ih =>
      rw [digitsOf, Nat.toDigits_eq_if (by omega)]
      split
      · rename_i h
        exact ⟨[n], by rw [List.mapM_cons, asciiDigit?_digitChar h]; rfl, by simp [ofDigits]⟩
      · obtain ⟨ds, hds, hn⟩ := ih (n / 10) (by omega)
        refine ⟨ds ++ [n % 10], ?_, ?_⟩
        · rw [List.mapM_append, show Nat.toDigits 10 (n / 10) = digitsOf (n / 10) from rfl, hds,
            List.mapM_cons, asciiDigit?_digitChar (Nat.mod_lt n (by omega))]
          rfl
        · rw [ofDigits_append_singleton, hn]
          omega

theorem mapM_digitValue?_of_ascii {s : List Char} {ds : List Nat} (h : s.mapM asciiDigit? = some ds) :
    s.mapM digitValue? = some ds := by
  induction s generalizing ds with
  | nil => exact h
  | cons c rest ih =>
      rw [List.mapM_cons] at h ⊢
      obtain ⟨d, hd, h⟩ := Option.bind_eq_some_iff.mp h
      obtain ⟨es, hes, h⟩ := Option.bind_eq_some_iff.mp h
      rw [digitValue?_of_ascii hd, ih hes]
      exact h

theorem mapM_digitValue?_digitsOf (n : Nat) :
    ∃ ds, (digitsOf n).mapM digitValue? = some ds ∧ ofDigits ds = n :=
  (mapM_asciiDigit?_digitsOf n).imp fun _ h => ⟨mapM_digitValue?_of_ascii h.1, h.2⟩

theorem ofDigits_replicate_append (k : Nat) (ds : List Nat) :
    ofDigits (List.replicate k 0 ++ ds) = ofDigits ds := by
  induction k with
  | zero => rfl
  | succ k ih => exact ih

theorem mapM_asciiDigit?_replicate (k : Nat) :
    (List.replicate k '0').mapM asciiDigit? = some (List.replicate k 0) := by
  induction k with
  | zero => rfl
  | succ k ih =>
      rw [List.replicate_succ, List.mapM_cons, ih]
      rfl

theorem mapM_asciiDigit?_paddedDigits (width n : Nat) :
    ∃ ds, (paddedDigits width n).mapM asciiDigit? = some ds ∧ ofDigits ds = n := by
  obtain ⟨ds, hds, hn⟩ := mapM_asciiDigit?_digitsOf n
  refine ⟨List.replicate (width - (digitsOf n).length) 0 ++ ds, ?_, ?_⟩
  · rw [paddedDigits, List.mapM_append, mapM_asciiDigit?_replicate, hds]
    rfl
  · rw [ofDigits_replicate_append, hn]

theorem mapM_digitValue?_paddedDigits (width n : Nat) :
    ∃ ds, (paddedDigits width n).mapM digitValue? = some ds ∧ ofDigits ds = n :=
  (mapM_asciiDigit?_paddedDigits width n).imp fun _ h => ⟨mapM_digitValue?_of_ascii h.1, h.2⟩

theorem length_paddedDigits {width n : Nat} (hw : 0 < width) (h : n < 10 ^ width) :
    (paddedDigits width n).length = width := by
  have := (Nat.length_toDigits_le_iff (by omega) hw).mpr h
  rw [paddedDigits, List.length_append, List.length_replicate]
  show width - (Nat.toDigits 10 n).length + (Nat.toDigits 10 n).length = width
  omega

theorem isDigit_of_mem_digitsOf {n : Nat} {c : Char} (h : c ∈ digitsOf n) : c.isDigit = true :=
  Nat.isDigit_of_mem_toDigits (by omega) (by omega) h

theorem isDigit_of_mem_paddedDigits {width n : Nat} {c : Char} (h : c ∈ paddedDigits width n) :
    c.isDigit = true := by
  rcases List.mem_append.mp h with h | h
  · rw [List.eq_of_mem_replicate h]
    rfl
  · exact isDigit_of_mem_digitsOf h

theorem paddedDigits_injective {width m n : Nat} (h : paddedDigits width m = paddedDigits width n) : m = n := by
  obtain ⟨ds, hds, hm⟩ := mapM_asciiDigit?_paddedDigits width m
  obtain ⟨ds', hds', hn⟩ := mapM_asciiDigit?_paddedDigits width n
  rw [h, hds', Option.some.injEq] at hds
  rw [← hm, ← hds, hn]

theorem digitsOf_injective {m n : Nat} (h : digitsOf m = digitsOf n) : m = n :=
  paddedDigits_injective (show paddedDigits 0 m = paddedDigits 0 n by rw [paddedDigits, paddedDigits, h])

theorem toNat_lt_of_isDigit {c : Char} (h : c.isDigit = true) : c.toNat < 128 := by
  have hc := (Char.isDigit_iff_toNat.mp h).2
  have h9 : '9'.toNat = 57 := rfl
  omega

theorem isBlank_of_isDigit {c : Char} (h : c.isDigit = true) : isBlank c = false := by
  have hc := Char.isDigit_iff_toNat.mp h
  have h0 : '0'.toNat = 48 := rfl
  have h9 : '9'.toNat = 57 := rfl
  rw [isBlank]
  generalize c.toNat = n at hc
  exact (by decide : ∀ n < 58, 48 ≤ n → inRanges blankRanges n = false) n (by omega) (by omega)

end Number

/-! ### Dates -/

namespace Calendar

theorem monthNumber?_paddedDigits {month : Nat} (h1 : 1 ≤ month) (h12 : month ≤ 12) :
    monthNumber? (paddedDigits 2 month) = some month :=
  (by decide : ∀ m < 13, 1 ≤ m → monthNumber? (paddedDigits 2 m) = some m) month (by omega) h1

theorem dayNumber?_paddedDigits {day : Nat} (h1 : 1 ≤ day) (h31 : day ≤ 31) :
    dayNumber? (paddedDigits 2 day) = some day :=
  (by decide : ∀ d < 32, 1 ≤ d → dayNumber? (paddedDigits 2 d) = some d) day (by omega) h1

theorem daysInMonth_le (year month : Nat) : daysInMonth year month ≤ 31 := by
  unfold daysInMonth
  split
  · split <;> omega
  all_goals omega

end Calendar

namespace Date

theorem toList_paddedText (d : Date) :
    d.paddedText.toList = paddedDigits 4 d.year ++ d.monthDayChars := String.toList_ofList

/-- After a year of four digits, the month is read up to the second hyphen and the day from what follows. -/
theorem calendarForm?_parts {year month : Nat} {monthText : List Char} (hyear : year < 10 ^ 4)
    (hhyphen : ∀ c ∈ monthText, (c != '-') = true) (hmonth : monthNumber? monthText = some month)
    (dayText : List Char) : calendarForm? (paddedDigits 4 year ++ '-' :: (monthText ++ '-' :: dayText)) =
      (dayNumber? dayText).bind (ofYmd? year month) := by
  obtain ⟨ds, hds, hn⟩ := mapM_digitValue?_paddedDigits 4 year
  have hlen : (paddedDigits 4 year).length = 4 := length_paddedDigits (by omega) hyear
  rw [calendarForm?, List.take_left' hlen, hds, List.drop_left' hlen]
  simp only [Option.bind_eq_bind, Option.bind_some]
  rw [List.takeWhile_append_of_pos hhyphen, List.dropWhile_append_of_pos hhyphen]
  simp only [bne_self_eq_false, List.takeWhile_cons_of_neg, List.dropWhile_cons_of_neg, Bool.false_eq_true,
    not_false_eq_true, List.append_nil, hmonth, Option.bind_some, hn]

theorem ne_hyphen_of_isDigit {c : Char} (h : c.isDigit = true) : (c != '-') = true := by
  rw [bne_iff_ne]
  rintro rfl
  exact absurd h (by decide)

theorem year_lt (d : Date) : d.year < 10 ^ 4 := Nat.lt_succ_of_le d.isDate.2.1

theorem month_lt (d : Date) : d.month < 10 ^ 2 := by
  have hm := d.isDate.2.2.2.1
  omega

theorem day_le (d : Date) : d.day ≤ 31 := Nat.le_trans d.isDate.2.2.2.2.2 (daysInMonth_le _ _)

theorem day_lt (d : Date) : d.day < 10 ^ 2 := by
  have hd := d.day_le
  omega

theorem monthNumber?_month (d : Date) : monthNumber? (paddedDigits 2 d.month) = some d.month :=
  monthNumber?_paddedDigits d.isDate.2.2.1 d.isDate.2.2.2.1

theorem dayNumber?_day (d : Date) : dayNumber? (paddedDigits 2 d.day) = some d.day :=
  dayNumber?_paddedDigits d.isDate.2.2.2.2.1 d.day_le

theorem calendarForm?_paddedText (d : Date) : calendarForm? d.paddedText.toList = some d := by
  have hmonth : ∀ c ∈ paddedDigits 2 d.month, (c != '-') = true :=
    fun c hc => ne_hyphen_of_isDigit (isDigit_of_mem_paddedDigits hc)
  rw [toList_paddedText, monthDayChars, List.cons_append,
    calendarForm?_parts d.year_lt hmonth d.monthNumber?_month, d.dayNumber?_day]
  exact ofYmd?_self d

theorem length_year (d : Date) : (paddedDigits 4 d.year).length = 4 := length_paddedDigits (by omega) d.year_lt

theorem length_month (d : Date) : (paddedDigits 2 d.month).length = 2 := length_paddedDigits (by omega) d.month_lt

theorem length_day (d : Date) : (paddedDigits 2 d.day).length = 2 := length_paddedDigits (by omega) d.day_lt

theorem length_monthDayChars (d : Date) : d.monthDayChars.length = 6 := by
  rw [monthDayChars, List.length_append, List.length_cons, List.length_cons, length_month, length_day]

theorem length_paddedText (d : Date) : d.paddedText.toList.length = 10 := by
  rw [toList_paddedText, List.length_append, length_year, length_monthDayChars]

theorem mem_monthDayChars {d : Date} {c : Char} (h : c ∈ d.monthDayChars) : c.isDigit = true ∨ c = '-' := by
  simp only [monthDayChars, List.cons_append, List.mem_append, List.mem_cons] at h
  rcases h with h | h | h | h
  · exact .inr h
  · exact .inl (isDigit_of_mem_paddedDigits h)
  · exact .inr h
  · exact .inl (isDigit_of_mem_paddedDigits h)

theorem mem_paddedText {d : Date} {c : Char} (h : c ∈ d.paddedText.toList) :
    c.isDigit = true ∨ c = '-' := by
  rw [toList_paddedText] at h
  rcases List.mem_append.mp h with h | h
  · exact .inl (isDigit_of_mem_paddedDigits h)
  · exact mem_monthDayChars h

theorem isBlank_of_mem_paddedText {d : Date} {c : Char} (h : c ∈ d.paddedText.toList) :
    isBlank c = false := by
  rcases mem_paddedText h with h | rfl
  · exact isBlank_of_isDigit h
  · rfl

theorem toNat_lt_of_mem_paddedText {d : Date} {c : Char} (h : c ∈ d.paddedText.toList) :
    c.toNat < 128 := by
  rcases mem_paddedText h with h | rfl
  · exact toNat_lt_of_isDigit h
  · decide

end Date

/-! ### The year without zeros -/

namespace Calendar

theorem mapM_eq_none {α β : Type} {f : α → Option β} {l : List α} {a : α} (ha : a ∈ l)
    (hf : f a = none) : l.mapM f = none := by
  induction l with
  | nil => cases ha
  | cons b rest ih =>
      rw [List.mapM_cons]
      rcases List.mem_cons.mp ha with rfl | ha
      · rw [hf]
        rfl
      · rw [ih ha]
        cases f b <;> rfl

theorem seven_le_dateLength (s : List Char) : 7 ≤ dateLength s := by
  unfold dateLength
  split
  · omega
  · split
    · split <;> omega
    · omega
    · dsimp only
      split
      · omega
      · split <;> omega
    · omega

theorem fixedNumber?_eq_none {n : Nat} {s : List Char} {c : Char} (hc : c ∈ s.take n)
    (hd : asciiDigit? c = none) : fixedNumber? n s = none := by
  rw [fixedNumber?, mapM_eq_none hc hd]
  rfl

theorem readDate?_of_hyphen {s : List Char} (h : '-' ∈ s.take 4) : readDate? s = none := by
  have hcalendar : calendarForm? s = none := by
    rw [calendarForm?, mapM_eq_none h (by decide)]
    rfl
  have hdate : timestampDate? (s.take (dateLength s)) = none := by
    have hlength := seven_le_dateLength s
    have htake : '-' ∈ (s.take (dateLength s)).take 4 := by
      rw [List.take_take, Nat.min_eq_left (by omega)]
      exact h
    rw [timestampDate?, fixedNumber?_eq_none htake (by decide)]
    rfl
  rw [readDate?, hcalendar, timestampForm?, hdate]
  rfl

end Calendar

namespace Date

variable {d : Date}

theorem toList_text (d : Date) : d.text.toList = digitsOf d.year ++ d.monthDayChars := String.toList_ofList

/-- Two dates have two texts. -/
theorem text_injective {a b : Date} (h : a.text = b.text) : a = b := by
  have hlist : digitsOf a.year ++ a.monthDayChars = digitsOf b.year ++ b.monthDayChars := by
    rw [← toList_text, ← toList_text, h]
  have hlength : a.monthDayChars.length = b.monthDayChars.length := by
    rw [length_monthDayChars, length_monthDayChars]
  obtain ⟨hyear, hrest⟩ := List.append_inj' hlist hlength
  have hwidth : ('-' :: paddedDigits 2 a.month).length = ('-' :: paddedDigits 2 b.month).length := by
    rw [List.length_cons, List.length_cons, length_month, length_month]
  obtain ⟨hmonth, hday⟩ := List.append_inj hrest hwidth
  have heq := ofYmd?_self a
  rw [digitsOf_injective hyear, paddedDigits_injective (List.cons.inj hmonth).2,
    paddedDigits_injective (List.cons.inj hday).2, ofYmd?_self] at heq
  exact (Option.some.inj heq).symm

theorem text_ne_empty (d : Date) : d.text ≠ "" := by
  intro h
  have hlength := congrArg (List.length ∘ String.toList) h
  simp [toList_text, length_monthDayChars] at hlength

theorem text_eq_paddedText (h : 1000 ≤ d.year) : d.text = d.paddedText := by
  have hlength : 4 ≤ (digitsOf d.year).length := by
    have h3 := Nat.length_toDigits_le_iff (b := 10) (n := d.year) (k := 3) (by omega) (by omega)
    unfold digitsOf
    omega
  rw [paddedText, paddedDigits, Nat.sub_eq_zero_of_le hlength]
  rfl

theorem isBlank_of_mem_text {c : Char} (h : c ∈ d.text.toList) : isBlank c = false := by
  rw [toList_text] at h
  rcases List.mem_append.mp h with h | h
  · exact isBlank_of_isDigit (isDigit_of_mem_digitsOf h)
  · exact isBlank_of_mem_paddedText (toList_paddedText d ▸ List.mem_append_right _ h)

/-- The text of a date is read as the date if the year has four digits, and is not read otherwise. -/
theorem readDate?_text (d : Date) :
    readDate? d.text.toList = if 1000 ≤ d.year then some d else none := by
  split
  · rename_i h
    rw [text_eq_paddedText h, readDate?, calendarForm?_paddedText]
    rfl
  · rename_i h
    have hlength : (digitsOf d.year).length ≤ 3 :=
      (Nat.length_toDigits_le_iff (by omega) (by omega)).mpr (by omega)
    refine readDate?_of_hyphen ?_
    obtain ⟨k, hk⟩ : ∃ k, 4 - (digitsOf d.year).length = k + 1 := ⟨3 - (digitsOf d.year).length, by omega⟩
    rw [toList_text, List.take_append, hk, monthDayChars, List.cons_append, List.take_succ_cons]
    exact List.mem_append_right _ List.mem_cons_self

end Date

theorem Moment.toNat_lt_of_mem_clockText {m : Moment} {c : Char} (h : c ∈ m.clockText.toList) :
    c.toNat < 128 := by
  have hcolon : ':'.toNat < 128 := by decide
  rw [clockText, String.toList_ofList] at h
  simp only [List.mem_append, List.mem_cons] at h
  rcases h with (h | rfl | h) | rfl | h
  · exact toNat_lt_of_isDigit (isDigit_of_mem_paddedDigits h)
  · exact hcolon
  · exact toNat_lt_of_isDigit (isDigit_of_mem_paddedDigits h)
  · exact hcolon
  · exact toNat_lt_of_isDigit (isDigit_of_mem_paddedDigits h)

end SchoolRegister
