import SchoolRegister.Service.Reports
import SchoolRegister.Text.Blank
import SchoolRegister.Text.Surrogate

/-! # Reports as files

The daily metrics of a report are exported as comma-separated values, one row for each date, after a
byte order mark by which spreadsheets know the encoding.  A row is its fields joined by commas and ended
by a carriage return and a line feed.  A field that holds a comma, a double quote, a carriage return or a
line feed is put in double quotes, and a double quote inside is written twice (`Csv.field`).

The name of the file tells the class, the term, the year and the period; of the class name it keeps only
letters, digits, underscores and hyphens of the ASCII range.  A file is written in UTF-8, which has no
bytes for half of a surrogate pair. -/

namespace SchoolRegister

/-! ### Comma-separated values -/

namespace Csv

/-- A character that makes quotation necessary. -/
def isSpecial (c : Char) : Bool := c == ',' || c == '"' || c == '\r' || c == '\n'

/-- The text with every double quote written twice. -/
def doubled : List Char → List Char
  | [] => []
  | c :: rest => if c = '"' then '"' :: '"' :: doubled rest else c :: doubled rest

/-- A field of a row. -/
def field (s : List Char) : List Char :=
  if s.any isSpecial then '"' :: doubled s ++ ['"'] else s

def rowEnd : List Char := ['\r', '\n']

def row (fields : List (List Char)) : List Char :=
  [','].intercalate (fields.map field) ++ rowEnd

def table (rows : List (List (List Char))) : List Char := rows.flatMap row

end Csv

namespace Report

open Number Text Service

/-! ### Files -/

/-- A file for download. -/
structure Download where
  name : String
  content : String

def Download.document (d : Download) : Value :=
  .dict [("filename", .text d.name), ("csv", .text d.content)]

def csvHeader : List (List Char) :=
  ["date", "possible_attendance", "actual_attendance", "absent_count", "attendance_rate",
    "absent_students"].map String.toList

variable {N : Type} [Name N]

/-- An absent student in a list: number, surname and name. -/
def absentText (s : Summary N) : String :=
  trim (s.number ++ " " ++ Name.text s.surname ++ " " ++ Name.text s.name)

/-- The fields of a date. -/
def Day.csvFields (d : Day N) : List (List Char) :=
  [d.date.text, integerText d.possible, integerText d.actual, integerText d.absentCount,
    d.rate.text, "; ".intercalate (d.absent.map absentText)].map String.toList

/-- The mark at the start of the file. -/
def byteOrderMark : Char := '\ufeff'

/-- The daily metrics as comma-separated values. -/
def csvOf (days : List (Day N)) : String :=
  String.ofList (byteOrderMark :: Csv.table (csvHeader :: days.map Day.csvFields))

/-- A character that may stand in the name of a file. -/
def isSafe (c : Char) : Bool := c.isAlphanum || c == '_' || c == '-'

/-- The text with an underscore in place of every longest run of unsafe characters; `inRun` says that
the preceding character is unsafe. -/
def slugFrom (inRun : Bool) : List Char → List Char
  | [] => []
  | c :: rest =>
    if isSafe c then c :: slugFrom false rest
    else if inRun then slugFrom true rest
    else '_' :: slugFrom true rest

/-- The text with an underscore in place of every longest run of unsafe characters. -/
def slug (s : List Char) : List Char := slugFrom false s

/-- A date of the period without its hyphens, or `all` if that leaves nothing. -/
def periodPart (s : String) : List Char :=
  let ds := s.toList.filter (· != '-')
  if ds.isEmpty then "all".toList else ds

/-- The name of the file for a class and a period. -/
def csvName (place : ClassTerm) (period : Period) : String :=
  String.ofList ("attendance_".toList ++ slug place.className.toList
    ++ "_T".toList ++ (integerText place.term).toList
    ++ '_' :: (integerText place.year).toList
    ++ '_' :: periodPart period.start ++ '_' :: periodPart period.finish ++ ".csv".toList)

/-- The file, if its content has bytes. -/
def Download.encoded (d : Download) : Except Failure Download :=
  if d.content.toList.any isStandIn then .error .unencodable else .ok d

/-- A report as a file. -/
def exportReport (r : AttendanceReport N) : Except Failure Download :=
  Download.encoded ⟨csvName r.place r.period, csvOf r.days⟩

variable {σ : Type}

/-- The attendance report of a class as a file. -/
def classReportFile (register : Register σ N) (args : ReportArgs) : Action σ Download := do
  let report ← classReport register args
  Action.ofExcept (exportReport report)

end Report
end SchoolRegister
