import SchoolRegister.Database.Server
import SchoolRegister.School.Record

/-! # What rows say

A row of a query is read by the names of its columns.  Numbers may come in any form that denotes
one, dates as dates, times, text or bytes; a student is missing where the number or the identifier is
null, and a missing name is the empty text.  `recordOf`, `studentOf` and `enrolmentOf` read the rows
of the three queries. -/

namespace SchoolRegister.Database

namespace Row

def cell? (r : Row) (column : String) : Except Failure (Option Value) :=
  match r with
  | .named cells => .ok (Value.lookup? cells column)
  | .ordered _ => .error .missingMember

def cell (r : Row) (column : String) : Except Failure Value := do
  match ← r.cell? column with
  | some v => return v
  | none => throw .missingKey

/-- The cell in a column, null for a missing one. -/
def cellOrNull (r : Row) (column : String) : Except Failure Value := do
  return (← r.cell? column).getD .null

def integer (r : Row) (column : String) : Except Failure Int := do
  Argument.toInteger (← r.cell column)

/-- The name in a column, the empty text for one that counts as false. -/
def name (r : Row) (column : String) : Except Failure Value := do
  let v ← r.cellOrNull column
  return if v.isTruthy then v else .text ""

end Row

/-! ### Dates -/

/-- The length of a date in a text that may go on with a time. -/
def dateLength : Nat := 10

/-- The date at the start of a text in a cell. -/
def dateAtStart (s : List Char) : Except Failure Date :=
  (Calendar.calendarForm? ((Text.trimChars s).take dateLength)).elim (.error .badValue) .ok

/-- The date in a cell. -/
def dateOfCell (v : Value) : Except Failure Date :=
  match v with
  | .moment m | .instant m => .ok m.date
  | .date d => .ok d
  | .bytes bs =>
    if bs.all (· < 0x80) then dateAtStart (bs.map fun b => Char.ofNat b.toNat)
    else .error .undecodable
  | v => v.text?.elim (.error (.notDateColumn v.typeName)) fun s => dateAtStart s.toList

/-! ### Students, enrolments and records -/

def namesOf (r : Row) : Except Failure (Value × Value × Option Value) := do
  return (← r.name "surname", ← r.name "name", (← r.cellOrNull "gender").nonNull?)

/-- What a row of a record says of the student. -/
def summaryOf? (r : Row) : Except Failure (Option (Summary Value)) := do
  match (← r.cellOrNull "student_number").nonNull? with
  | none => return none
  | some number =>
    let (surname, name, gender) ← namesOf r
    return some ⟨number.plain, surname, name, gender⟩

def recordOf (r : Row) : Except Failure (Record Value) := do
  let student ← summaryOf? r
  let id ← r.integer "attendance_id"
  let studentId ← r.integer "student_id"
  let className ← r.cell "class_name"
  let term ← r.integer "term_num"
  let year ← r.integer "year"
  let date ← dateOfCell (← r.cell "att_date")
  let present ← r.cell "present"
  return ⟨id, studentId, className, term, year, date, present.isTruthy, student⟩

def studentOf (r : Row) : Except Failure (Option (Student Value)) := do
  match (← r.cellOrNull "student_id").nonNull?, (← r.cellOrNull "student_number").nonNull? with
  | some id, some number =>
    let id ← Argument.toInteger id
    let (surname, name, gender) ← namesOf r
    return some ⟨id, number.plain, surname, name, gender⟩
  | _, _ => return none

def enrolmentOf (r : Row) : Except Failure (Enrolment Value) := do
  let id ← r.integer "enrol_id"
  let className ← r.cell "class_name"
  let term ← r.integer "term_num"
  let year ← r.integer "year"
  let student ← studentOf r
  return ⟨id, className, term, year, student⟩

end SchoolRegister.Database
