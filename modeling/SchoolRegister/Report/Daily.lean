import SchoolRegister.Report.Rate
import SchoolRegister.School.Record
import SchoolRegister.School.Grouping

/-! # Daily metrics

The records of a class are counted by date.  A record without a student counts for nothing; every
other one does, whether or not the student is still on the roster, and the size of the roster is
the possible attendance of every day. -/

namespace SchoolRegister.Report

open Number

/-- What is reported of one date. -/
structure Day (N : Type) where
  date : Date
  possible : Int
  actual : Int
  absentCount : Int
  rate : Binary64
  absent : List (Summary N)

variable {N : Type}

/-- The records that count, each with its student. -/
def counted (records : List (Record N)) : List (Record N × Summary N) :=
  records.filterMap fun r => r.student.map fun s => (r, s)

def countedOn (records : List (Record N)) (date : Date) : List (Record N × Summary N) :=
  (counted records).filter fun p => p.1.date = date

/-- The dates of the records that count, each once, in ascending order. -/
def markedDates (records : List (Record N)) : List Date :=
  (distinct ((counted records).map (·.1.date))).mergeSort fun a b => a ≤ b

/-- What is reported of one date, for a roster of `total` students. -/
def dayOf (records : List (Record N)) (total : Int) (date : Date) : Except Failure (Day N) := do
  let marks := countedOn records date
  let present : Int := marks.countP (·.1.present)
  let absent := (marks.filter fun p => !p.1.present).map (·.2)
  let rate ← attendanceRate present total
  return ⟨date, total, present, absent.length, rate, absent⟩

/-- What is reported of each date of the records. -/
def dailyMetrics (records : List (Record N)) (total : Int) : Except Failure (List (Day N)) :=
  (markedDates records).mapM (dayOf records total)

def Day.document [Name N] (d : Day N) : Value :=
  .dict [("date", .text d.date.text), ("possible_attendance", .int d.possible),
    ("actual_attendance", .int d.actual), ("absent_count", .int d.absentCount),
    ("attendance_rate", .float d.rate), ("absent_students", .list (d.absent.map Summary.document))]

end SchoolRegister.Report
