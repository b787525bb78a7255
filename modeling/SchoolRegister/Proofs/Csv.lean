import Mathlib.Data.List.Basic
import SchoolRegister.Report.Export

/-! # Comma-separated values are read back

A `Reader` takes a text character by character, as RFC 4180 has it: a field that starts with a double
quote goes on to the next one that is not written twice, and any other field ends with a comma or with the
row.  A row ends with a line feed, with a carriage return, or with both; a row of no character has no
fields.  What is written as a table is read as the same table (`read_table`), whatever the fields hold. -/

namespace SchoolRegister.Csv

/-- Where a reader is. -/
inductive Place where
  /-- At the start of a row. -/
  | rowStart
  /-- At the start of a row, after a carriage return. -/
  | returned
  /-- At the start of a field that is not the first of its row. -/
  | fieldStart
  /-- In a field, outside quotation. -/
  | plain
  /-- In quotation. -/
  | quoted
  /-- After a double quote in quotation, which ends it or is the first of two. -/
  | quote

/-- What has been read: the rows, the fields of the next row, and the characters of its next field. -/
structure Reader where
  rows : List (List (List Char)) := []
  fields : List (List Char) := []
  field : List Char := []
  place : Place := .rowStart

namespace Reader

/-- The field goes on with a character. -/
def add (r : Reader) (c : Char) : Reader := { r with field := r.field ++ [c] }

def endField (r : Reader) : Reader := { r with fields := r.fields ++ [r.field], field := [] }

def endRow (r : Reader) : Reader := { r with rows := r.rows ++ [r.fields], fields := [] }

/-- A character of a field, outside quotation. -/
def plainStep (r : Reader) (c : Char) : Reader :=
  if c = ',' then { r.endField with place := .fieldStart }
  else if c = '\r' then { r.endField.endRow with place := .returned }
  else if c = '\n' then { r.endField.endRow with place := .rowStart }
  else { r.add c with place := .plain }

/-- The first character of a field. -/
def startField (r : Reader) (c : Char) : Reader :=
  if c = '"' then { r with place := .quoted } else r.plainStep c

/-- The first character of a row. -/
def startRow (r : Reader) (c : Char) : Reader :=
  if c = '\r' then { r.endRow with place := .returned }
  else if c = '\n' then { r.endRow with place := .rowStart }
  else r.startField c

/-- A character. -/
def step (r : Reader) (c : Char) : Reader :=
  match r.place with
  | .rowStart => r.startRow c
  | .returned => if c = '\n' then { r with place := .rowStart } else r.startRow c
  | .fieldStart => r.startField c
  | .plain => r.plainStep c
  | .quoted => if c = '"' then { r with place := .quote } else r.add c
  | .quote => if c = '"' then { r.add c with place := .quoted } else r.plainStep c

def finish (r : Reader) : List (List (List Char)) :=
  match r.place with
  | .rowStart | .returned => r.rows
  | _ => r.endField.endRow.rows

end Reader

/-- The rows of a text. -/
def read (s : List Char) : List (List (List Char)) := (s.foldl Reader.step {}).finish

variable {s : List Char} {r : Reader}

/-! ### Fields -/

theorem isSpecial_eq_false_iff {c : Char} :
    isSpecial c = false ↔ c ≠ ',' ∧ c ≠ '"' ∧ c ≠ '\r' ∧ c ≠ '\n' := by
  simp [isSpecial, and_assoc]

theorem foldl_plain (hs : s.any isSpecial = false) (hp : r.place = .plain) :
    s.foldl Reader.step r = { r with field := r.field ++ s } := by
  induction s generalizing r with
  | nil => simp
  | cons c rest ih =>
      obtain ⟨hc, hrest⟩ := Bool.or_eq_false_iff.mp hs
      obtain ⟨hcomma, _, hcr, hlf⟩ := isSpecial_eq_false_iff.mp hc
      have hstep : r.step c = { r.add c with place := .plain } := by
        simp [Reader.step, hp, Reader.plainStep, hcomma, hcr, hlf]
      rw [List.foldl_cons, hstep, ih hrest rfl]
      simp [Reader.add, hp]

/-- In quotation, every character goes on with the field, a double quote if it is written twice. -/
theorem foldl_doubled (hp : r.place = .quoted) :
    (doubled s).foldl Reader.step r = { r with field := r.field ++ s } := by
  induction s generalizing r with
  | nil => simp [doubled]
  | cons c rest ih =>
      by_cases hc : c = '"'
      · have hstep : (r.step '"').step '"' = { r.add '"' with place := .quoted } := by
          simp [Reader.step, hp, Reader.add]
        rw [doubled, if_pos hc, List.foldl_cons, List.foldl_cons, hstep, ih rfl, hc]
        simp [Reader.add, hp]
      · have hstep : r.step c = r.add c := by simp [Reader.step, hp, hc]
        rw [doubled, if_neg hc, List.foldl_cons, hstep, ih (r := r.add c) hp]
        simp [Reader.add]

/-- A written field is read up to the comma or the carriage return after it; an empty field can start a
row that goes on with a comma, but not one that ends. -/
theorem step_foldl_field {c : Char} (hf : r.field = []) (hc : c = ',' ∨ c = '\r')
    (hp : r.place = .fieldStart ∨ r.place = .rowStart ∧ (s ≠ [] ∨ c = ',')) :
    ((field s).foldl Reader.step r).step c = ({ r with field := s } : Reader).plainStep c := by
  have hquote : c ≠ '"' := by rcases hc with rfl | rfl <;> decide
  by_cases hs : s.any isSpecial = true
  · have hopen : r.step '"' = { r with place := .quoted } := by
      rcases hp with hp | ⟨hp, _⟩ <;> simp [Reader.step, hp, Reader.startRow, Reader.startField]
    rw [field, if_pos hs, List.cons_append, List.foldl_cons, List.foldl_append, hopen, foldl_doubled rfl]
    simp only [hf, List.foldl_cons, List.foldl_nil, Reader.step, if_true, if_neg hquote,
      List.nil_append]
    rcases hc with rfl | rfl <;> rfl
  · rw [field, if_neg hs]
    cases s with
    | nil =>
        obtain ⟨rows, fields, _, place⟩ := r
        cases hf
        rcases hp with hp | ⟨hp, h⟩
        · cases hp
          rcases hc with rfl | rfl <;> rfl
        · cases hp
          rw [h.resolve_left (absurd rfl)]
          rfl
    | cons d rest =>
        obtain ⟨hd, hrest⟩ := Bool.or_eq_false_iff.mp (Bool.eq_false_iff.mpr hs)
        obtain ⟨hcomma, hq, hcr, hlf⟩ := isSpecial_eq_false_iff.mp hd
        have hstart : r.step d = { r.add d with place := .plain } := by
          rcases hp with hp | ⟨hp, _⟩ <;>
            simp [Reader.step, hp, Reader.startRow, Reader.startField, Reader.plainStep, hcomma, hq,
              hcr, hlf]
        rw [List.foldl_cons, hstart, foldl_plain hrest rfl]
        simp only [Reader.step, Reader.add, hf, List.nil_append, List.cons_append]
        rcases hc with rfl | rfl <;> rfl

/-! ### Rows and tables -/

theorem row_cons_cons (f g : List Char) (rest : List (List Char)) :
    row (f :: g :: rest) = field f ++ ',' :: row (g :: rest) := by
  simp [row, List.intercalate_cons_cons]

/-- A written row is read, unless it is the row of one empty field, which is written as nothing. -/
theorem foldl_row {fields : List (List Char)} (hf : r.field = []) (hne : fields ≠ [])
    (hp : r.place = .fieldStart ∨ r.place = .rowStart ∧ fields ≠ [[]]) :
    (row fields).foldl Reader.step r = { rows := r.rows ++ [r.fields ++ fields] } := by
  induction fields generalizing r with
  | nil => exact absurd rfl hne
  | cons f rest ih =>
      cases rest with
      | nil =>
          have hstart : r.place = .fieldStart ∨ r.place = .rowStart ∧ (f ≠ [] ∨ '\r' = ',') :=
            hp.imp_right fun h => ⟨h.1, .inl fun e => h.2 (by rw [e])⟩
          have hrow : row [f] = field f ++ ['\r', '\n'] := by simp [row, rowEnd]
          rw [hrow, List.foldl_append, List.foldl_cons, step_foldl_field hf (.inr rfl) hstart]
          rfl
      | cons g rest =>
          have hstart : r.place = .fieldStart ∨ r.place = .rowStart ∧ (f ≠ [] ∨ ',' = ',') :=
            hp.imp_right fun h => ⟨h.1, .inr rfl⟩
          rw [row_cons_cons, List.foldl_append, List.foldl_cons, step_foldl_field hf (.inl rfl) hstart]
          rw [ih rfl (List.cons_ne_nil _ _) (.inl rfl)]
          simp [Reader.plainStep, Reader.endField]

/-- What is written as a table is read as the same table. -/
theorem read_table {rows : List (List (List Char))} (h : ∀ fields ∈ rows, fields ≠ [] ∧ fields ≠ [[]]) :
    read (table rows) = rows := by
  have hread : ∀ before, (table rows).foldl Reader.step { rows := before } = { rows := before ++ rows } := by
    induction rows with
    | nil => simp [table]
    | cons fields rest ih =>
        intro before
        obtain ⟨hne, hempty⟩ := h fields List.mem_cons_self
        rw [table, List.flatMap_cons, List.foldl_append, foldl_row rfl hne (.inr ⟨rfl, hempty⟩)]
        exact (ih (fun f hf => h f (List.mem_cons_of_mem _ hf)) _).trans (by simp)
  rw [read, hread]
  rfl

example : read (table [["a,b".toList, [], "\"".toList], ["\r".toList, "\n".toList]]) =
    [["a,b".toList, [], "\"".toList], ["\r".toList, "\n".toList]] := by decide

/-! ### Characters -/

theorem mem_doubled_iff {c : Char} : c ∈ doubled s ↔ c ∈ s := by
  induction s with
  | nil => rfl
  | cons d rest ih => by_cases hd : d = '"' <;> simp [doubled, hd, ih]

theorem mem_field_iff {c : Char} (hc : isSpecial c = false) : c ∈ field s ↔ c ∈ s := by
  have hquote : c ≠ '"' := (isSpecial_eq_false_iff.mp hc).2.1
  by_cases hs : s.any isSpecial = true
  · rw [field, if_pos hs]
    simp [mem_doubled_iff, hquote]
  · rw [field, if_neg hs]

theorem mem_row_iff {fields : List (List Char)} {c : Char} (hc : isSpecial c = false) :
    c ∈ row fields ↔ ∃ f ∈ fields, c ∈ f := by
  obtain ⟨hcomma, _, hcr, hlf⟩ := isSpecial_eq_false_iff.mp hc
  induction fields with
  | nil => simp [row, rowEnd, hcr, hlf]
  | cons f rest ih =>
      cases rest with
      | nil => simp [row, rowEnd, hcr, hlf, mem_field_iff hc]
      | cons g rest =>
          rw [row_cons_cons, List.mem_append, mem_field_iff hc, List.mem_cons, ih]
          simp [hcomma]

theorem mem_table_iff {rows : List (List (List Char))} {c : Char} (hc : isSpecial c = false) :
    c ∈ table rows ↔ ∃ fields ∈ rows, ∃ f ∈ fields, c ∈ f := by
  simp only [table, List.mem_flatMap, mem_row_iff hc]

end SchoolRegister.Csv
