import SchoolRegister.Database.Query
import SchoolRegister.Proofs.Calendar.Written
import SchoolRegister.Proofs.Service.Names
import SchoolRegister.School.Keyed

/-! # Rows that are read back

A row `Shows` some cells if it has them, in whatever order and with whatever else.  `studentCells`,
`enrolmentCells` and `recordCells` say which cells a row has that comes of the school in memory: null for
all that a missing student lacks, and a date in any of the forms of `ShowsDate`.  Reading such a row gives
what it came of, its names being values (`studentOf_of_shows`, `enrolmentOf_of_shows`,
`recordOf_of_shows`). -/

namespace SchoolRegister.Database

/-! ### Cells -/

/-- The row has some cells. -/
def Row.Shows (row : Row) (cells : List (String × Value)) : Prop :=
  ∃ all, row = .named all ∧ ∀ c ∈ cells, Value.lookup? all c.1 = some c.2

/-- A row of some cells, each in a column of its own, has them. -/
theorem Row.shows_named {cells : List (String × Value)} (h : (cells.map (·.1)).Nodup) :
    (Row.named cells).Shows cells := by
  refine ⟨cells, rfl, fun c hc => ?_⟩
  exact congrArg (Option.map (·.2)) ((find?_key_eq_some_iff h).mpr ⟨hc, rfl⟩)

namespace Row.Shows

variable {row : Row} {cells cells' : List (String × Value)} {column : String}

theorem subset (h : row.Shows cells) (hs : cells' ⊆ cells) : row.Shows cells' := by
  obtain ⟨all, hr, hall⟩ := h
  exact ⟨all, hr, fun c hc => hall c (hs hc)⟩

theorem cell? {v : Value} (h : row.Shows cells) (hc : (column, v) ∈ cells) :
    row.cell? column = .ok (some v) := by
  obtain ⟨all, rfl, hall⟩ := h
  exact congrArg Except.ok (hall _ hc)

theorem cell {v : Value} (h : row.Shows cells) (hc : (column, v) ∈ cells) : row.cell column = .ok v := by
  rw [Row.cell, h.cell? hc]
  rfl

theorem cellOrNull {v : Value} (h : row.Shows cells) (hc : (column, v) ∈ cells) :
    row.cellOrNull column = .ok v := by
  rw [Row.cellOrNull, h.cell? hc]
  rfl

theorem integer {n : Int} (h : row.Shows cells) (hc : (column, .int n) ∈ cells) :
    row.integer column = .ok n := by
  rw [Row.integer, h.cell hc]
  rfl

theorem name {s : String} (h : row.Shows cells) (hc : (column, .text s) ∈ cells) :
    row.name column = .ok (.text s) := by
  rw [Row.name, h.cellOrNull hc]
  show Except.ok (if (!s.isEmpty) = true then Value.text s else .text "") = _
  cases he : s.isEmpty with
  | false => rfl
  | true => rw [String.isEmpty_iff.mp he]; rfl

theorem isEmpty {c : String × Value} (h : row.Shows cells) (hc : c ∈ cells) : row.isEmpty = false := by
  obtain ⟨all, rfl, hall⟩ := h
  cases all with
  | nil => cases hall c hc
  | cons x all => rfl

end Row.Shows

/-! ### Dates -/

/-- A value is a date, alone or with a time of day. -/
inductive IsDay (d : Date) : Value → Prop where
  | date : IsDay d (.date d)
  | moment (m : Moment) (h : m.date = d) : IsDay d (.moment m)
  | instant (m : Moment) (h : m.date = d) : IsDay d (.instant m)

/-- The bytes of a text of the ASCII range. -/
def asciiBytes (s : String) : List UInt8 := s.toList.map fun c => UInt8.ofNat c.toNat

/-- A cell shows a date: as a date with or without a time, or as the text or the bytes of one. -/
inductive ShowsDate (d : Date) : Value → Prop where
  | day {v : Value} (h : IsDay d v) : ShowsDate d v
  | text {v : Value} (h : IsDay d v) : ShowsDate d (.text v.plain)
  | bytes {v : Value} (h : IsDay d v) : ShowsDate d (.bytes (asciiBytes v.plain))

theorem IsDay.toList_plain {d : Date} {v : Value} (h : IsDay d v) :
    ∃ rest, v.plain.toList = d.paddedText.toList ++ rest := by
  cases h with
  | date => exact ⟨[], (List.append_nil _).symm⟩
  | moment m h =>
      subst h
      exact ⟨_, by rw [Value.plain, String.toList_append, String.toList_append, List.append_assoc]⟩
  | instant m h =>
      subst h
      exact ⟨_, by rw [Value.plain, String.toList_append, String.toList_append, String.toList_append,
        List.append_assoc, List.append_assoc]⟩

theorem dateAtStart_plain {d : Date} {v : Value} (h : IsDay d v) :
    dateAtStart v.plain.toList = .ok d := by
  obtain ⟨rest, hrest⟩ := h.toList_plain
  have hlen : d.paddedText.toList.length = dateLength := d.length_paddedText
  have hne : d.paddedText.toList ≠ [] := by
    intro e
    rw [e] at hlen
    cases hlen
  rw [dateAtStart, hrest, Text.trimChars_append hne fun _ => Date.isBlank_of_mem_paddedText, List.take_left' hlen,
    d.calendarForm?_paddedText]
  rfl

theorem IsDay.toNat_lt_of_mem_plain {d : Date} {v : Value} (h : IsDay d v) {c : Char}
    (hc : c ∈ v.plain.toList) : c.toNat < 128 := by
  have hblank : ∀ x ∈ " ".toList, x.toNat < 128 := by simp
  have hzone : ∀ x ∈ "+00:00".toList, x.toNat < 128 := by simp
  cases h with
  | date => exact Date.toNat_lt_of_mem_paddedText hc
  | moment m h =>
      simp only [Value.plain, String.toList_append, List.mem_append] at hc
      rcases hc with (hc | hc) | hc
      · exact Date.toNat_lt_of_mem_paddedText hc
      · exact hblank c hc
      · exact Moment.toNat_lt_of_mem_clockText hc
  | instant m h =>
      simp only [Value.plain, String.toList_append, List.mem_append] at hc
      rcases hc with ((hc | hc) | hc) | hc
      · exact Date.toNat_lt_of_mem_paddedText hc
      · exact hblank c hc
      · exact Moment.toNat_lt_of_mem_clockText hc
      · exact hzone c hc

theorem dateOfCell_of_shows {d : Date} {v : Value} (h : ShowsDate d v) : dateOfCell v = .ok d := by
  cases h with
  | day h => cases h <;> subst_vars <;> rfl
  | text h => exact dateAtStart_plain h
  | bytes h =>
      rename_i v
      -- a byte for each character, so the characters come back one by one
      have hbyte : ∀ c ∈ v.plain.toList, (UInt8.ofNat c.toNat).toNat = c.toNat := fun c hc =>
        UInt8.toNat_ofNat_of_lt' (Nat.lt_trans (h.toNat_lt_of_mem_plain hc) (by decide))
      have hall : (asciiBytes v.plain).all (· < 0x80) = true := by
        rw [asciiBytes, List.all_map, List.all_eq_true]
        intro c hc
        rw [Function.comp_apply, decide_eq_true_iff, UInt8.lt_iff_toNat_lt, hbyte c hc]
        exact h.toNat_lt_of_mem_plain hc
      have hchars : (asciiBytes v.plain).map (fun b => Char.ofNat b.toNat) = v.plain.toList := by
        rw [asciiBytes, List.map_map]
        refine (List.map_congr_left fun c hc => ?_).trans (List.map_id _)
        rw [Function.comp_apply, hbyte c hc, Char.ofNat_toNat]
        rfl
      rw [dateOfCell, if_pos hall, hchars]
      exact dateAtStart_plain h

/-! ### Students, enrolments and records -/

/-- The cells that tell of a student by number and names. -/
def summaryCells (student : Option (Summary String)) : List (String × Value) :=
  [("student_number", .ofOption (student.map fun s => .text s.number)),
    ("surname", .ofOption (student.map fun s => .text s.surname)),
    ("name", .ofOption (student.map fun s => .text s.name)),
    ("gender", .ofOption (student.bind fun s => s.gender.map .text))]

def studentCells (student : Option (Student String)) : List (String × Value) :=
  ("student_id", .ofOption (student.map fun s => .int s.id)) ::
    summaryCells (student.map Student.summary)

def enrolmentCells (e : Enrolment String) : List (String × Value) :=
  [("enrol_id", .int e.id), ("class_name", .text e.className), ("term_num", .int e.term),
    ("year", .int e.year)] ++ studentCells e.student

/-- The cells of a record, its date being shown by a value. -/
def recordCells (r : Record String) (date : Value) : List (String × Value) :=
  [("attendance_id", .int r.id), ("student_id", .int r.studentId), ("class_name", .text r.className),
    ("term_num", .int r.term), ("year", .int r.year), ("att_date", date),
    ("present", .int (if r.present then 1 else 0))] ++ summaryCells r.student

theorem shows_studentCells (student : Option (Student String)) :
    (Row.named (studentCells student)).Shows (studentCells student) :=
  Row.shows_named (by simp [studentCells, summaryCells])

theorem shows_enrolmentCells (e : Enrolment String) :
    (Row.named (enrolmentCells e)).Shows (enrolmentCells e) :=
  Row.shows_named (by simp [enrolmentCells, studentCells, summaryCells])

theorem shows_recordCells (r : Record String) (date : Value) :
    (Row.named (recordCells r date)).Shows (recordCells r date) :=
  Row.shows_named (by simp [recordCells, summaryCells])

variable {row : Row}

theorem namesOf_of_shows {s : Summary String} (h : row.Shows (summaryCells (some s))) :
    namesOf row = .ok (.text s.surname, .text s.name, s.gender.map .text) := by
  have hgender : row.cellOrNull "gender" = .ok (.ofOption (s.gender.map .text)) :=
    h.cellOrNull (by simp [summaryCells])
  rw [namesOf, h.name (s := s.surname) (by simp [summaryCells, Value.ofOption]),
    h.name (s := s.name) (by simp [summaryCells, Value.ofOption]), hgender]
  cases s.gender <;> rfl

theorem summaryOf?_of_shows {student : Option (Summary String)} (h : row.Shows (summaryCells student)) :
    summaryOf? row = .ok (student.map (Summary.map .text)) := by
  have hnumber : row.cellOrNull "student_number" =
      .ok (.ofOption (student.map fun s => .text s.number)) := h.cellOrNull List.mem_cons_self
  rw [summaryOf?, hnumber]
  cases student with
  | none => rfl
  | some s =>
      show (namesOf row >>= _) = _
      rw [namesOf_of_shows h]
      rfl

theorem studentOf_of_shows {student : Option (Student String)} (h : row.Shows (studentCells student)) :
    studentOf row = .ok (student.map (Student.map .text)) := by
  have hs : row.Shows (summaryCells (student.map Student.summary)) := h.subset (List.subset_cons_self _ _)
  have hid : row.cellOrNull "student_id" = .ok (.ofOption (student.map fun s => .int s.id)) :=
    h.cellOrNull List.mem_cons_self
  have hnumber : row.cellOrNull "student_number" =
      .ok (.ofOption ((student.map Student.summary).map fun s => .text s.number)) :=
    hs.cellOrNull List.mem_cons_self
  rw [studentOf, hid, hnumber]
  cases student with
  | none => rfl
  | some s =>
      show (namesOf row >>= _) = _
      rw [namesOf_of_shows hs]
      rfl

theorem enrolmentOf_of_shows {e : Enrolment String} (h : row.Shows (enrolmentCells e)) :
    enrolmentOf row = .ok (e.map .text) := by
  have hs : row.Shows (studentCells e.student) := h.subset (List.subset_append_right _ _)
  rw [enrolmentOf, h.integer (n := e.id) (by simp [enrolmentCells]),
    h.cell (v := .text e.className) (by simp [enrolmentCells]),
    h.integer (n := e.term) (by simp [enrolmentCells]),
    h.integer (n := e.year) (by simp [enrolmentCells]), studentOf_of_shows hs]
  rfl

theorem recordOf_of_shows {r : Record String} {date : Value} (hd : ShowsDate r.date date)
    (h : row.Shows (recordCells r date)) : recordOf row = .ok (r.map .text) := by
  have hs : row.Shows (summaryCells r.student) := h.subset (List.subset_append_right _ _)
  have hdate : row.cell "att_date" = .ok date := h.cell (by simp [recordCells])
  have hpresent : row.cell "present" = .ok (.int (if r.present then 1 else 0)) :=
    h.cell (by simp [recordCells])
  rw [recordOf, summaryOf?_of_shows hs, h.integer (n := r.id) (by simp [recordCells]),
    h.integer (n := r.studentId) (by simp [recordCells]),
    h.cell (v := .text r.className) (by simp [recordCells]),
    h.integer (n := r.term) (by simp [recordCells]),
    h.integer (n := r.year) (by simp [recordCells]), hdate, hpresent]
  show (dateOfCell date >>= _) = _
  rw [dateOfCell_of_shows hd]
  cases hp : r.present <;> simp [Record.map, hp] <;> rfl

end SchoolRegister.Database
