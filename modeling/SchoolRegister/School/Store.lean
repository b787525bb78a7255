import SchoolRegister.School.Keyed
import SchoolRegister.School.Register

/-! # The store in memory

A `Store` holds the students of the school, each number once, the rosters, and the attendance
records, each key once and in the order in which the keys were first stored.  Marking changes the
presence of a record that exists and otherwise appends one with the next identifier; it never
touches another record.  A store that is down still accepts marks but answers no list of records. -/

namespace SchoolRegister

/-- Students, rosters and attendance records in memory. -/
structure Store where
  students : List (Student String) := []
  rosters : List (ClassTerm × List (Option (Student String))) := []
  records : List (Record String) := []
  lastId : Int := 0
  down : Bool := false
  numbers_nodup : (students.map (·.number)).Nodup := by simp
  keys_nodup : (records.map Record.key).Nodup := by simp

namespace Store

/-! ### Students and rosters -/

def findStudent (s : Store) (number : String) : Option (Student String) :=
  s.students.find? fun x => x.number = number

/-- Adds a student, in place of the one with the same number if there is one. -/
def addStudent (s : Store) (student : Student String) : Store :=
  { s with
    students := putUnder (·.number) s.students student
    numbers_nodup := nodup_putUnder s.numbers_nodup student }

/-- The members of a class in a term, in the order of their enrolment. -/
def members (s : Store) (place : ClassTerm) : List (Option (Student String)) :=
  ((s.rosters.find? fun r => r.1 = place).map (·.2)).getD []

/-- Appends members to the roster of a class in a term. -/
def enrol (s : Store) (place : ClassTerm) (new : List (Option (Student String))) : Store :=
  let known := s.rosters.any fun r => r.1 = place
  { s with rosters :=
      if known then s.rosters.map fun r => if r.1 = place then (r.1, r.2 ++ new) else r
      else s.rosters ++ [(place, new)] }

/-- The roster of a class in a term, its places numbered from 1. -/
def enrolled (s : Store) (place : ClassTerm) : List (Enrolment String) :=
  ((s.members place).zipIdx 1).map fun (student, i) =>
    ⟨i, place.className, place.term, place.year, student⟩

/-! ### Records -/

def find? (s : Store) (key : AttendanceKey) : Option (Record String) :=
  s.records.find? fun r => r.key = key

/-- The summary of the first student with an identifier. -/
def summaryOf? (s : Store) (studentId : Int) : Option (Summary String) :=
  (s.students.find? fun x => x.id == studentId).map Student.summary

def newRecord (s : Store) (key : AttendanceKey) (present : Bool) : Record String :=
  { id := s.lastId + 1, studentId := key.studentId, className := key.place.className,
    term := key.place.term, year := key.place.year, date := key.date, present := present,
    student := s.summaryOf? key.studentId }

/-- Stores a record under its own key, in place of the one that is there. -/
def put (s : Store) (record : Record String) : Store :=
  { s with
    records := putUnder Record.key s.records record
    keys_nodup := nodup_putUnder s.keys_nodup record }

/-- Creates the record under a key, or changes the presence of the one that exists. -/
def mark (s : Store) (key : AttendanceKey) (present : Bool) : Record String × Store :=
  match s.find? key with
  | some old =>
    let record := { old with present := present }
    (record, s.put record)
  | none =>
    let record := s.newRecord key present
    (record, { s.put record with lastId := s.lastId + 1 })

/-- The surname by which a record is sorted, empty if it has no student. -/
def sortName (r : Record String) : String := (r.student.map (·.surname)).getD ""

/-- One record does not come after another in the list of a class: by date, then by surname. -/
def classLE (a b : Record String) : Bool :=
  a.date < b.date || (a.date = b.date && !Text.precedes (sortName b) (sortName a))

/-- The records of a class in a term within a range, by date and surname. -/
def classRecords (s : Store) (place : ClassTerm) (span : Span) : List (Record String) :=
  (s.records.filter fun r => r.key.place = place && span.contains r.date).mergeSort classLE

/-- The records of a student in a term of a year within a range, latest first. -/
def studentRecords (s : Store) (number : String) (term year : Int) (span : Span) :
    List (Record String) :=
  (s.records.filter fun r => r.student.any (fun x => x.number == number)
    && r.term == term && r.year == year && span.contains r.date).mergeSort
    fun a b => b.date ≤ a.date

/-! ### The store as a register -/

/-- A list that a store answers unless it is down. -/
def answerList {α : Type} (f : Store → List α) : Action Store (List α) :=
  Action.ofFunction fun s => (if s.down then .error .storeDown else .ok (f s), s)

/-- The register that is kept in memory. -/
def register : Register Store String where
  findStudent number := Action.ofFunction fun s => (.ok (s.findStudent number), s)
  enrolled place := Action.ofFunction fun s => (.ok (s.enrolled place), s)
  mark key present := Action.ofFunction fun s =>
    let (record, s') := s.mark key present
    (.ok record, s')
  classRecords place span := answerList fun s => s.classRecords place span
  studentRecords number term year span := answerList fun s => s.studentRecords number term year span

end Store
end SchoolRegister
