import SchoolRegister.School.Register
import SchoolRegister.Argument

/-! # Marking and viewing attendance

The use cases around single marks: marking a student, the view of a class on a date, and the history
of a student.  Each validates its arguments in a fixed order before it touches the register, so a
refused argument changes nothing. -/

namespace SchoolRegister.Service

open Argument

/-- The arguments of a mark, as they came. -/
structure MarkArgs where
  studentNumber : Value := .null
  className : Value := .null
  term : Value := .null
  year : Value := .null
  present : Value := .null
  date : Value := .null

/-- A mark with valid arguments. -/
structure Mark where
  studentNumber : String
  place : ClassTerm
  present : Bool
  date : Date

def MarkArgs.validate (args : MarkArgs) : Except Failure Mark := do
  let number ← requireText args.studentNumber "student_number"
  let className ← requireText args.className "class_name"
  let term ← requirePositive args.term "term_num"
  let year ← requirePositive args.year "year"
  let present ← requireFlag args.present "present"
  let date ← toDate args.date "date"
  return ⟨number, ⟨className, term, year⟩, present, date⟩

variable {σ N : Type}

/-- Marks a student present or absent. -/
def markAttendance (register : Register σ N) (args : MarkArgs) : Action σ (Record N) := do
  let mark ← Action.ofExcept args.validate
  match ← register.findStudent mark.studentNumber with
  | none => throw .unknownStudent
  | some student => register.mark ⟨student.id, mark.place, mark.date⟩ mark.present

/-- The arguments of a class view, as they came. -/
structure ClassArgs where
  className : Value := .null
  term : Value := .null
  year : Value := .null
  date : Value := .null

/-- The class and the date that the arguments ask for, the date being `today` if none is given. -/
def ClassArgs.validate (args : ClassArgs) (today : Date) : Except Failure (ClassTerm × Date) := do
  let className ← requireText args.className "class_name"
  let term ← requirePositive args.term "term_num"
  let year ← requirePositive args.year "year"
  let date ← toOptionalDate args.date "date"
  return (⟨className, term, year⟩, date.getD today)

/-- The record of the student with a number; of several the last one counts. -/
def recordOf? (records : List (Record N)) (number : String) : Option (Record N) :=
  (records.filter fun r => r.student.any fun s => s.number == number).getLast?

/-- The entry of an enrolled student, given the records of the date. -/
def classEntry (records : List (Record N)) (place : ClassTerm) (date : Date)
    (student : Student N) : ClassEntry N :=
  let record := recordOf? records student.number
  ⟨record.map (·.id), student.summary, record.any (·.present), date, place⟩

/-- The roster of a class, which must not be empty. -/
def roster (register : Register σ N) (place : ClassTerm) : Action σ (List (Enrolment N)) := do
  let enrolments ← register.enrolled place
  if enrolments.isEmpty then throw .noRoster
  return enrolments

/-- Every enrolled student of a class with the presence on a date, in the order of the roster. -/
def classAttendance (register : Register σ N) (today : Date) (args : ClassArgs) :
    Action σ (List (ClassEntry N)) := do
  let (place, date) ← Action.ofExcept (args.validate today)
  let enrolments ← roster register place
  let records ← register.classRecords place (.only date)
  return (enrolments.filterMap (·.student)).map (classEntry records place date)

/-- The arguments of a history, as they came. -/
structure HistoryArgs where
  studentNumber : Value := .null
  term : Value := .null
  year : Value := .null
  start : Value := .null
  finish : Value := .null

/-- A history with valid arguments. -/
structure HistoryQuery where
  studentNumber : String
  term : Int
  year : Int
  span : Span

def HistoryArgs.validate (args : HistoryArgs) : Except Failure HistoryQuery := do
  let number ← requireText args.studentNumber "student_number"
  let term ← requirePositive args.term "term_num"
  let year ← requirePositive args.year "year"
  let start ← toOptionalDate args.start "start_date"
  let finish ← toOptionalDate args.finish "end_date"
  checkRange start finish
  return ⟨number, term, year, ⟨start, finish⟩⟩

/-- A record in the history of its student. -/
def historyItem? (r : Record N) : Option (HistoryEntry N) :=
  r.student.map fun s => ⟨r.id, s, r.present, r.date, r.className, r.term, r.year⟩

/-- The marks of a student in a term, latest date first; marks of one date keep their order. -/
def studentHistory (register : Register σ N) (args : HistoryArgs) :
    Action σ (List (HistoryEntry N)) := do
  let query ← Action.ofExcept args.validate
  let records ← register.studentRecords query.studentNumber query.term query.year query.span
  return (records.filterMap historyItem?).mergeSort fun a b => b.date ≤ a.date

end SchoolRegister.Service
