import SchoolRegister.School.Student

/-! # Attendance records

An `AttendanceKey` says whose presence is meant: a student, a class in a term, and a date.  A
`Record` is what is known under a key, with an identifier of its own.  `ClassEntry` and
`HistoryEntry` are what readers are shown: an enrolled student on a day, marked or not, and a mark
in the history of a student. -/

namespace SchoolRegister

/-- What identifies a record: at most one exists for each key. -/
structure AttendanceKey where
  studentId : Int
  place : ClassTerm
  date : Date
  deriving DecidableEq

/-- The presence of a student in a class on a date. -/
structure Record (N : Type) where
  id : Int
  studentId : Int
  className : N
  term : Int
  year : Int
  date : Date
  present : Bool
  student : Option (Summary N)

/-- An enrolled student on a date; the identifier is missing until the first mark. -/
structure ClassEntry (N : Type) where
  id : Option Int
  student : Summary N
  present : Bool
  date : Date
  place : ClassTerm

/-- A mark in the history of a student. -/
structure HistoryEntry (N : Type) where
  id : Int
  student : Summary N
  present : Bool
  date : Date
  className : N
  term : Int
  year : Int

def Record.key (r : Record String) : AttendanceKey :=
  ⟨r.studentId, ⟨r.className, r.term, r.year⟩, r.date⟩

variable {N : Type} [Name N]

def Record.document (r : Record N) : Value :=
  .dict [("id", .int r.id), ("student", .ofOption (r.student.map Summary.document)),
    ("class_name", Name.value r.className), ("term_num", .int r.term), ("year", .int r.year),
    ("date", .text r.date.text), ("present", .bool r.present)]

def ClassEntry.document (e : ClassEntry N) : Value :=
  .dict (("id", .ofOption (e.id.map .int)) :: e.student.entries ++
    [("present", .bool e.present), ("date", .text e.date.text),
      ("class_name", .text e.place.className), ("term_num", .int e.place.term),
      ("year", .int e.place.year)])

def HistoryEntry.document (e : HistoryEntry N) : Value :=
  .dict (("id", .int e.id) :: e.student.entries ++
    [("present", .bool e.present), ("date", .text e.date.text),
      ("class_name", Name.value e.className), ("term_num", .int e.term),
      ("year", .int e.year)])

end SchoolRegister
