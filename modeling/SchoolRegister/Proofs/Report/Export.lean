import Mathlib.Data.List.TakeWhile
import SchoolRegister.Report.Export
import SchoolRegister.Proofs.Calendar.Written
import SchoolRegister.Proofs.Csv

/-! # The exported file says what the report says

After its mark, the file is a table that is read back as the names of the columns and one row for each day
(`rowsOf_tableText`); the row holds the date, the counts and the rate as texts, and the absent students in one text
(`Day.row`).  There is such a file unless a number or a name of an absent student holds half of a surrogate
pair (`exportReport_eq`); dates, counts and rates are written in the ASCII range. -/

namespace SchoolRegister

open Number Text Service

/-! ### Texts in the ASCII range -/

/-- All characters are of the ASCII range. -/
def IsAscii (s : List Char) : Prop := ∀ c ∈ s, c.toNat < 128

instance (s : List Char) : Decidable (IsAscii s) :=
  List.decidableBAll _ s

namespace IsAscii

variable {s t : List Char} {c : Char}

theorem cons (hc : c.toNat < 128) (hs : IsAscii s) : IsAscii (c :: s) :=
  List.forall_mem_cons.mpr ⟨hc, hs⟩

theorem append (hs : IsAscii s) (ht : IsAscii t) : IsAscii (s ++ t) :=
  List.forall_mem_append.mpr ⟨hs, ht⟩

theorem of_subset (hs : IsAscii s) (h : t ⊆ s) : IsAscii t := fun c hc => hs c (h hc)

theorem replicate_zero (k : Nat) : IsAscii (List.replicate k '0') := by
  intro c h
  rw [List.eq_of_mem_replicate h]
  decide

theorem digitsOf (n : Nat) : IsAscii (digitsOf n) := fun _ h =>
  toNat_lt_of_isDigit (isDigit_of_mem_digitsOf h)

theorem paddedDigits (width n : Nat) : IsAscii (paddedDigits width n) :=
  (replicate_zero _).append (digitsOf n)

theorem integerText (n : Int) : IsAscii (integerText n).toList := by
  rw [Number.integerText, String.toList_ofList]
  split
  · exact (digitsOf _).cons (by decide)
  · exact digitsOf _

theorem positional (h : IsAscii s) (k : Int) : IsAscii (Notation.positional s k) := by
  unfold Notation.positional
  split
  · exact (((replicate_zero _).append h).cons (by decide)).cons (by decide)
  · split
    · exact (h.append (replicate_zero _)).append (by decide)
    · exact (h.of_subset (List.take_subset _ _)).append
        ((h.of_subset (List.drop_subset _ _)).cons (by decide))

theorem scientific (h : IsAscii s) (k : Int) : IsAscii (Notation.scientific s k) := by
  have hexponent : IsAscii
      ('e' :: (if k - 1 < 0 then '-' else '+') :: Number.paddedDigits 2 (k - 1).natAbs) :=
    ((paddedDigits _ _).cons (by split <;> decide)).cons (by decide)
  refine IsAscii.append ?_ hexponent
  cases s with
  | nil => exact h
  | cons d rest =>
      obtain ⟨hd, hrest⟩ := List.forall_mem_cons.mp h
      cases rest with
      | nil => exact h
      | cons d' rest => exact (cons (by decide) hrest).cons hd

theorem magnitude (coefficient : Nat) (exponent : Int) :
    IsAscii (Notation.magnitude coefficient exponent) := by
  unfold Notation.magnitude
  split
  · decide
  · dsimp only
    split
    · exact (digitsOf _).positional _
    · exact (digitsOf _).scientific _

theorem rate (x : Binary64) : IsAscii x.text.toList := by
  cases x with
  | nan => decide
  | infinite negative => cases negative <;> decide
  | finite negative m e =>
      rw [Binary64.text, String.toList_ofList]
      split
      · exact (magnitude _ _).cons (by decide)
      · exact magnitude _ _

theorem date (d : Date) : IsAscii d.text.toList := by
  rw [Date.text, String.toList_ofList]
  exact (digitsOf _).append (((paddedDigits _ _).append ((paddedDigits _ _).cons (by decide))).cons
    (by decide))

end IsAscii

theorem Number.integerText_eq_toString (n : Int) : integerText n = toString n := by
  rw [integerText, digitsOf]
  cases n with
  | ofNat m => rfl
  | negSucc m =>
      show _ = "-" ++ String.ofList (Nat.toDigits 10 (m + 1))
      rw [if_pos (Int.negSucc_lt_zero m), ← String.toList_inj]
      simp only [String.toList_append, String.toList_ofList]
      rfl

/-! ### Halves of surrogate pairs -/

namespace Text

/-- No half of a surrogate pair stands in the text, so it can be written in UTF-8. -/
def isEncodable (s : String) : Bool := !s.toList.any isStandIn

variable {s : List Char} {c : Char}

theorem standIn_toNat (h : isStandIn c = true) : 0xad800 ≤ c.toNat := by
  have hlow : 0xd800 ≤ c.toNat - standInOffset := by
    simp only [isStandIn, isSurrogate, isHighSurrogate, isLowSurrogate, Bool.or_eq_true,
      Bool.and_eq_true, decide_eq_true_eq] at h
    omega
  have hoffset : standInOffset = 0xa0000 := rfl
  omega

theorem not_isStandIn_of_isAscii (h : IsAscii s) : ∀ c ∈ s, isStandIn c = false := by
  intro c hc
  rw [Bool.eq_false_iff]
  intro hs
  have := h c hc
  have := standIn_toNat hs
  omega

theorem isSpecial_of_isStandIn (h : isStandIn c = true) : Csv.isSpecial c = false := by
  rw [Csv.isSpecial_eq_false_iff]
  refine ⟨?_, ?_, ?_, ?_⟩ <;> rintro rfl <;> revert h <;> decide

theorem isBlank_of_isStandIn (h : isStandIn c = true) : isBlank c = false := by
  have hlow := standIn_toNat h
  have hmax : ∀ range ∈ blankRanges, range.2 < 0xad800 := by decide
  rw [Bool.eq_false_iff, isBlank, Ne, inRanges_iff]
  rintro ⟨range, hr, -, hle⟩
  have := hmax range hr
  omega

theorem mem_dropWhile_of_not {p : Char → Bool} (hp : p c = false) : c ∈ s.dropWhile p ↔ c ∈ s := by
  constructor
  · exact fun h => (List.dropWhile_sublist p).subset h
  · intro h
    rw [← List.takeWhile_append_dropWhile (p := p) (l := s), List.mem_append] at h
    rcases h with h | h
    · rw [List.mem_takeWhile_imp h] at hp
      cases hp
    · exact h

theorem mem_trimChars_of_not (h : isBlank c = false) : c ∈ trimChars s ↔ c ∈ s := by
  rw [trimChars, trimEnd, List.mem_reverse, mem_dropWhile_of_not h, List.mem_reverse,
    mem_dropWhile_of_not h]

end Text

/-! ### Rows -/

/-- The number and the names of a student can be written in UTF-8. -/
def Summary.isEncodable (x : Summary String) : Bool :=
  Text.isEncodable x.number && Text.isEncodable x.surname && Text.isEncodable x.name

namespace Report

def columns : List String :=
  ["date", "possible_attendance", "actual_attendance", "absent_count", "attendance_rate",
    "absent_students"]

/-- What the file says of a day. -/
def Day.row (d : Day String) : List String :=
  [d.date.text, toString d.possible, toString d.actual, toString d.absentCount, d.rate.text,
    "; ".intercalate (d.absent.map fun x => trim (x.number ++ " " ++ x.surname ++ " " ++ x.name))]

variable {days : List (Day String)}

/-- The table in a file, as text. -/
def tableText (days : List (Day String)) : String :=
  String.ofList (Csv.table (csvHeader :: days.map Day.csvFields))

theorem csvFields_eq (d : Day String) : d.csvFields = d.row.map String.toList := by
  rw [Day.csvFields, Day.row, integerText_eq_toString, integerText_eq_toString,
    integerText_eq_toString]
  rfl

theorem csvOf_eq (days : List (Day String)) : csvOf days = "\ufeff" ++ tableText days := by
  rw [csvOf, tableText, ← String.toList_inj]
  simp only [String.toList_append, String.toList_ofList]
  rfl

/-- The rows of a text that is read as comma-separated values. -/
def rowsOf (s : String) : List (List String) :=
  (Csv.read s.toList).map fun fields => fields.map String.ofList

/-- The table is read as the names of the columns and a row for each day. -/
theorem rowsOf_tableText (days : List (Day String)) :
    rowsOf (tableText days) = columns :: days.map Day.row := by
  have hrows : ∀ fields ∈ csvHeader :: days.map Day.csvFields, fields ≠ [] ∧ fields ≠ [[]] := by
    refine List.forall_mem_cons.mpr ⟨by decide, ?_⟩
    intro fields hf
    obtain ⟨d, _, rfl⟩ := List.mem_map.mp hf
    simp [Day.csvFields]
  rw [rowsOf, tableText, String.toList_ofList, Csv.read_table hrows, List.map_cons, List.map_map]
  congr 1
  refine List.map_congr_left fun d _ => ?_
  rw [Function.comp_apply, csvFields_eq, List.map_map, Function.comp_def]
  simp

/-! ### Files that can be written -/

variable {c : Char}

theorem mem_intercalate_iff {separator : List Char} {parts : List (List Char)} (hc : c ∉ separator) :
    c ∈ separator.intercalate parts ↔ ∃ part ∈ parts, c ∈ part := by
  induction parts with
  | nil => simp
  | cons first rest ih =>
      cases rest with
      | nil => simp
      | cons second rest =>
          rw [List.intercalate_cons_cons, List.mem_append, List.mem_append, ih]
          simp [hc]

/-- A stand-in is in the text of an absent student if it is in the number or in a name. -/
theorem mem_absentText_iff {x : Summary String} (h : isStandIn c = true) :
    c ∈ (absentText x).toList ↔ c ∈ x.number.toList ∨ c ∈ x.surname.toList ∨ c ∈ x.name.toList := by
  have hspace : c ≠ ' ' := by
    rintro rfl
    revert h
    decide
  rw [absentText, trim, String.toList_ofList, mem_trimChars_of_not (isBlank_of_isStandIn h)]
  simp only [String.toList_append, List.mem_append]
  simp [hspace, Name.text, or_assoc]

theorem isEncodable_eq_false_iff {x : Summary String} :
    x.isEncodable = false ↔ ∃ c, isStandIn c = true ∧ c ∈ (absentText x).toList := by
  have hmem : ∀ s : String, Text.isEncodable s = false ↔ ∃ c, isStandIn c = true ∧ c ∈ s.toList := by
    intro s
    simp [Text.isEncodable, and_comm]
  have htext : (∃ c, isStandIn c = true ∧ c ∈ (absentText x).toList) ↔ ∃ c, isStandIn c = true ∧
      (c ∈ x.number.toList ∨ c ∈ x.surname.toList ∨ c ∈ x.name.toList) :=
    exists_congr fun c => and_congr_right mem_absentText_iff
  rw [htext]
  simp only [Summary.isEncodable, Bool.and_eq_false_iff, hmem, and_or_left, exists_or, or_assoc]

theorem mem_csvFields_iff {d : Day String} (h : isStandIn c = true) :
    (∃ f ∈ d.csvFields, c ∈ f) ↔ ∃ x ∈ d.absent, c ∈ (absentText x).toList := by
  have hnot : ∀ {s : List Char}, IsAscii s → c ∉ s := by
    intro s hs hc
    rw [not_isStandIn_of_isAscii hs c hc] at h
    cases h
  have hjoined : c ∈ ("; ".intercalate (d.absent.map absentText)).toList ↔
      ∃ x ∈ d.absent, c ∈ (absentText x).toList := by
    rw [String.toList_intercalate, mem_intercalate_iff (hnot (by decide))]
    simp
  simp only [Day.csvFields, List.map_cons, List.map_nil, List.mem_cons, List.not_mem_nil, or_false,
    exists_eq_or_imp, exists_eq_left, hjoined, hnot (.date _), hnot (.integerText _), hnot (.rate _),
    false_or]

theorem any_csvOf (days : List (Day String)) :
    (csvOf days).toList.any isStandIn = !days.all fun d => d.absent.all Summary.isEncodable := by
  have htable : ∀ {c}, isStandIn c = true → (c ∈ (csvOf days).toList ↔
      ∃ d ∈ days, ∃ x ∈ d.absent, c ∈ (absentText x).toList) := by
    intro c h
    have hheader : ¬ ∃ f ∈ csvHeader, c ∈ f := by
      rintro ⟨f, hf, hc⟩
      have hascii : ∀ f ∈ csvHeader, IsAscii f := by decide
      rw [not_isStandIn_of_isAscii (hascii f hf) c hc] at h
      cases h
    have hmark : c ≠ byteOrderMark := by
      rintro rfl
      revert h
      decide
    rw [csvOf, String.toList_ofList, List.mem_cons, or_iff_right hmark,
      Csv.mem_table_iff (isSpecial_of_isStandIn h)]
    simp only [List.mem_cons, List.mem_map, exists_eq_or_imp, hheader, false_or, exists_exists_and_eq_and,
      mem_csvFields_iff h]
  rw [Bool.eq_iff_iff, Bool.not_eq_true', List.any_eq_true, List.all_eq_false]
  constructor
  · rintro ⟨c, hc, h⟩
    obtain ⟨d, hd, x, hx, hcx⟩ := (htable h).mp hc
    have hnot : x.isEncodable = false := isEncodable_eq_false_iff.mpr ⟨c, h, hcx⟩
    refine ⟨d, hd, ?_⟩
    rw [Bool.not_eq_true, List.all_eq_false]
    exact ⟨x, hx, by simp [hnot]⟩
  · rintro ⟨d, hd, hnot⟩
    rw [Bool.not_eq_true, List.all_eq_false] at hnot
    obtain ⟨x, hx, hnot⟩ := hnot
    obtain ⟨c, h, hcx⟩ := isEncodable_eq_false_iff.mp (Bool.not_eq_true _ ▸ hnot)
    exact ⟨c, (htable h).mpr ⟨d, hd, x, hx, hcx⟩, h⟩

/-- There is a file unless a number or a name of an absent student cannot be written. -/
theorem exportReport_eq (report : AttendanceReport String) : exportReport report =
    if report.days.all fun d => d.absent.all Summary.isEncodable then
      .ok ⟨csvName report.place report.period, csvOf report.days⟩
    else .error .unencodable := by
  rw [exportReport, Download.encoded, any_csvOf]
  cases report.days.all fun d => d.absent.all Summary.isEncodable <;> rfl

theorem name_of_exportReport {report : AttendanceReport String} {file : Download}
    (h : exportReport report = .ok file) : file.name = csvName report.place report.period := by
  rw [exportReport_eq] at h
  split at h <;> cases h
  rfl

end Report
end SchoolRegister
