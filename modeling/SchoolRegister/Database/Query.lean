import SchoolRegister.Database.Cells

/-! # Queries

The four ways in which the service talks to its tables: it looks a student up by number, lists a
roster, lists records of a class or of a student within a range of dates, and writes a record.  Each
is one transaction.  `register` presents them as a register, so that the use cases run over a database
as they run over a store in memory. -/

namespace SchoolRegister.Database

/-! ### Students and rosters -/

def studentSql : String :=
  "SELECT student_id, student_number, surname, name, gender FROM students WHERE student_number=%s"

def findStudent (config : Config) (number : Value) : Action Server (Option (Student Value)) :=
  transaction config do
    execute studentSql [number]
    match ← fetchOne with
    | none => return none
    | some row => Action.ofExcept (studentOf row)

def rosterSql : String :=
  "SELECT e.enrol_id, e.class_name, e.term_num, e.year, s.student_id, s.student_number, " ++
    "s.surname, s.name, s.gender FROM enrolments e " ++
    "LEFT JOIN students s ON s.student_id = e.student_id " ++
    "WHERE e.class_name=%s AND e.term_num=%s AND e.year=%s " ++
    "ORDER BY s.surname ASC, s.name ASC, e.enrol_id ASC"

def roster (config : Config) (className term year : Value) :
    Action Server (List (Enrolment Value)) :=
  transaction config do
    let term ← Action.ofExcept (Argument.toInteger term)
    let year ← Action.ofExcept (Argument.toInteger year)
    execute rosterSql [className, .int term, .int year]
    Action.ofExcept ((← fetchAll).mapM enrolmentOf)

/-! ### Records -/

/-- The part that all queries for records share. -/
def recordSql : String :=
  "SELECT a.attendance_id, a.student_id, a.class_name, a.term_num, a.year, a.att_date, " ++
    "a.present, s.student_number, s.surname, s.name, s.gender FROM attendance a " ++
    "LEFT JOIN students s ON s.student_id = a.student_id"

/-- The conditions that keep a column within a range, and the values in them; a null bound gives
none. -/
def rangeConditions (column : String) (first last : Value) : List (String × Value) :=
  (first.nonNull?.map fun v => (column ++ " >= %s", v)).toList ++
    (last.nonNull?.map fun v => (column ++ " <= %s", v)).toList

/-- Lists the records that meet some conditions. -/
def listRecords (config : Config) (conditions : List (String × Value)) (order : String) :
    Action Server (List (Record Value)) :=
  transaction config do
    execute (recordSql ++ " WHERE " ++ " AND ".intercalate (conditions.map (·.1)) ++ " ORDER BY "
      ++ order) (conditions.map (·.2))
    Action.ofExcept ((← fetchAll).mapM recordOf)

/-- Lists the records of whoever or whatever a column names, in a term of a year and a range. -/
def listBy (config : Config) (column order : String) (owner term year first last : Value) :
    Action Server (List (Record Value)) := do
  let term ← Action.ofExcept (Argument.toInteger term)
  let year ← Action.ofExcept (Argument.toInteger year)
  listRecords config
    ([(column ++ "=%s", owner), ("a.term_num=%s", .int term), ("a.year=%s", .int year)]
      ++ rangeConditions "a.att_date" first last) order

def classRecords (config : Config) : (className term year first last : Value) →
    Action Server (List (Record Value)) :=
  listBy config "a.class_name" "a.att_date ASC, s.surname ASC"

/-- The records of a student in a term of a year within a range. -/
def studentRecords (config : Config) : (number term year first last : Value) →
    Action Server (List (Record Value)) :=
  listBy config "s.student_number" "a.att_date DESC, a.class_name ASC"

/-! ### Writing -/

/-- A key as it is given, each part a value of any type. -/
structure RowKey where
  studentId : Value
  className : Value
  term : Value
  year : Value
  date : Value

/-- The key as messages show it. -/
def RowKey.shown (k : RowKey) : String :=
  "AttendanceKey(student_id=" ++ k.studentId.shown ++ ", class_name=" ++ k.className.shown
    ++ ", term_num=" ++ k.term.shown ++ ", year=" ++ k.year.shown ++ ", date=" ++ k.date.shown ++ ")"

/-- The values that stand for a key in a statement. -/
def RowKey.parameters (k : RowKey) : Except Failure (List Value) := do
  let studentId ← Argument.toInteger k.studentId
  let term ← Argument.toInteger k.term
  let year ← Argument.toInteger k.year
  return [.int studentId, k.className, .int term, .int year, k.date]

def upsertSql : String :=
  "INSERT INTO attendance(student_id, class_name, term_num, year, att_date, present) " ++
    "VALUES(%s,%s,%s,%s,%s,%s) AS new ON DUPLICATE KEY UPDATE present=new.present"

/-- The conditions that a row with a key meets. -/
def keyConditions : String :=
  "a.student_id=%s AND a.class_name=%s AND a.term_num=%s AND a.year=%s AND a.att_date=%s"

/-- Writes the record under a key and reads it again. -/
def upsert (config : Config) (key : RowKey) (present : Value) : Action Server (Record Value) :=
  transaction config do
    let parameters ← Action.ofExcept key.parameters
    execute upsertSql (parameters ++ [.int (if present.isTruthy then 1 else 0)])
    execute (recordSql ++ " WHERE " ++ keyConditions) parameters
    match ← fetchOne with
    | none => throw (.rowMissing key.shown)
    | some row => Action.ofExcept (recordOf row)

/-! ### The database as a register -/

/-- The register that is kept in a database. -/
def register (config : Config) : Register Server Value where
  findStudent number := findStudent config (.text number)
  enrolled place := roster config (.text place.className) (.int place.term) (.int place.year)
  mark key present :=
    upsert config ⟨.int key.studentId, .text key.place.className, .int key.place.term,
      .int key.place.year, .date key.date⟩ (.bool present)
  classRecords place span :=
    classRecords config (.text place.className) (.int place.term) (.int place.year)
      (.ofOption (span.first.map .date)) (.ofOption (span.last.map .date))
  studentRecords number term year span :=
    studentRecords config (.text number) (.int term) (.int year)
      (.ofOption (span.first.map .date)) (.ofOption (span.last.map .date))

end SchoolRegister.Database
