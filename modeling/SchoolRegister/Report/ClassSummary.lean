import SchoolRegister.Report.Daily
import SchoolRegister.Report.Ranking

/-! # The summary of a class

A summary counts the records of a class and, for each student that has one, the days and how many of
them were days of presence.  The students are ordered by surname, name and number. -/

namespace SchoolRegister.Report

open Number

/-- The counts of one student. -/
structure StudentStats (N : Type) where
  student : Summary N
  total : Nat
  present : Nat
  absent : Nat
  rate : Binary64

/-- The counts of a class in a term. -/
structure ClassSummary (N : Type) where
  place : ClassTerm
  records : Nat
  present : Nat
  absent : Nat
  rate : Binary64
  students : List (StudentStats N)

variable {N : Type} [Name N]

/-- The numbers of the students with a record that counts, in the order of their first records. -/
def studentNumbers (records : List (Record N)) : List String :=
  distinct ((counted records).map (·.2.number))

/-- The counts of the student with a number, if there is a record. -/
def statsOf? (records : List (Record N)) (number : String) :
    Except Failure (Option (StudentStats N)) := do
  let rows := (counted records).filter fun p => p.2.number == number
  let present := rows.countP (·.1.present)
  let rate ← attendanceRate present rows.length
  return rows.head?.map fun p => ⟨p.2, rows.length, present, rows.length - present, rate⟩

/-- One student comes before another: by the first of surname, name and number in which they differ,
if that can be compared. -/
def studentBefore? (a b : Summary N) : Option Bool :=
  if !Name.same a.surname b.surname then Name.before? a.surname b.surname
  else if !Name.same a.name b.name then Name.before? a.name b.name
  else some (Text.precedes a.number b.number)

/-- The students in their order. -/
def sortStudents (stats : List (StudentStats N)) : Except Failure (List (StudentStats N)) :=
  (ranked? (fun a b => studentBefore? a.student b.student) stats).elim (.error .badType) .ok

/-- The summary of the records of a class. -/
def summarize (records : List (Record N)) (place : ClassTerm) :
    Except Failure (ClassSummary N) := do
  let all := counted records
  let present := all.countP (·.1.present)
  let stats ← (studentNumbers records).mapM (statsOf? records)
  let students ← sortStudents (stats.filterMap id)
  let rate ← attendanceRate present all.length
  return ⟨place, all.length, present, all.length - present, rate, students⟩

def StudentStats.document (s : StudentStats N) : Value :=
  .dict [("student", s.student.document), ("total_days", .int s.total),
    ("present_days", .int s.present), ("absent_days", .int s.absent),
    ("attendance_rate", .float s.rate)]

def ClassSummary.document (s : ClassSummary N) : Value :=
  .dict [("class_name", .text s.place.className), ("term_num", .int s.place.term),
    ("year", .int s.place.year), ("total_records", .int s.records),
    ("present_count", .int s.present), ("absent_count", .int s.absent),
    ("attendance_rate", .float s.rate), ("student_stats", .list (s.students.map (·.document)))]

end SchoolRegister.Report
