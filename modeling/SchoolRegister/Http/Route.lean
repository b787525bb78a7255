import SchoolRegister.Role
import SchoolRegister.Http.Escape

/-! # Routes

The service answers at six resources below `/api/attendance`, one of which carries the number of a
student in its path.  Every resource serves one operation by one method, `GET` standing for `HEAD`
as well; the options of any resource may be asked for.  `placeAt` tells what is at a path: paths are
compared character by character once their escapes are resolved. -/

namespace SchoolRegister.Http

open Text

/-- What the service answers about. -/
inductive Resource where
  | mark
  | classView
  | student (number : String)
  | report
  | reportFile
  | summary
  deriving DecidableEq, Repr

/-- The methods that a resource may be asked by. -/
inductive Verb where
  | get
  | post
  deriving DecidableEq, Repr

def Verb.name : Verb → String
  | .get => "GET"
  | .post => "POST"

namespace Resource

def operation : Resource → Operation
  | mark => .markAttendance
  | classView => .viewClassAttendance
  | student _ => .viewStudentAttendance
  | report => .viewAttendanceReport
  | reportFile => .viewAttendanceReport
  | summary => .viewAttendanceSummary

def verb : Resource → Verb
  | mark => .post
  | _ => .get

/-- The name under which a resource is registered. -/
def endpoint : Resource → String
  | mark => "attendance_mark"
  | classView => "attendance_class"
  | student _ => "attendance_student"
  | report => "attendance_reports"
  | reportFile => "attendance_reports_csv"
  | summary => "attendance_summary"

/-- The last part of the path of a resource, without the number of a student. -/
def leaf : Resource → String
  | mark => "mark"
  | classView => "class"
  | student _ => "student"
  | report => "reports"
  | reportFile => "reports.csv"
  | summary => "summary"

/-- The resources whose path is fixed, in the order of their paths. -/
def fixed : List Resource := [classView, mark, report, reportFile, summary]

end Resource

/-- The first parts of every path. -/
def basePath : List String := ["api", "attendance"]

/-- A rule of the service: the path with the variable part in angle brackets, the name of the
resource, and its methods. -/
structure Rule where
  path : String
  endpoint : String
  methods : List String

def Resource.rule (r : Resource) : Rule :=
  let tail := match r with
    | .student number => "/<" ++ number ++ ">"
    | _ => ""
  ⟨"/" ++ "/".intercalate (basePath ++ [r.leaf]) ++ tail, r.endpoint, [r.verb.name]⟩

def rules : List Rule :=
  [Resource.classView, .mark, .report, .reportFile, .student "student_number", .summary].map
    Resource.rule

/-! ### Paths -/

/-- The text with one slash in place of every run of slashes. -/
def mergeSlashes : List Char → List Char
  | [] => []
  | c :: rest =>
    if c == '/' && rest.head? == some '/' then mergeSlashes rest else c :: mergeSlashes rest

/-- A path below `static` that may be that of a file: it does not start with a slash, and no line
ends after its first character. -/
def isFilePath : List Char → Bool
  | [] => false
  | c :: rest => c != '/' && !rest.contains '\n'

/-- What is at a path. -/
inductive Place where
  | resource (r : Resource)
  | file
  | nothing
  deriving DecidableEq, Repr

/-- What is at a path given by its parts; the files of the service lie below `static`, but there are
none. -/
def placeOf (parts : List String) : Place :=
  match parts with
  | ["api", "attendance", "student", number] =>
    if number.isEmpty then .nothing else .resource (.student number)
  | ["api", "attendance", leaf] =>
    match Resource.fixed.find? fun r => r.leaf == leaf with
    | some r => .resource r
    | none => .nothing
  | "static" :: parts => if isFilePath ("/".intercalate parts).toList then .file else .nothing
  | _ => .nothing

/-- What is at a path whose escapes are resolved. -/
def placeAt (path : List Char) : Place :=
  placeOf ((separated '/' path).map String.ofList)

/-- What comes of a method at a place: a resource answers, the options are listed, there is no such
file, there is nothing at all, or the method is not allowed. -/
inductive Match where
  | found (r : Resource)
  | options
  | noFile
  | missing
  | notAllowed
  deriving DecidableEq, Repr

/-- A method that reads: `HEAD` is `GET` without the body. -/
def isReading (method : String) : Bool := method == "GET" || method == "HEAD"

def Resource.accepts (r : Resource) (method : String) : Bool :=
  match r.verb with
  | .get => isReading method
  | .post => method == "POST"

/-- What comes of a method at a place. -/
def matchAt (place : Place) (method : String) : Match :=
  match place with
  | .nothing => .missing
  | .file =>
    if method == "OPTIONS" then .options else if isReading method then .noFile else .notAllowed
  | .resource r =>
    if method == "OPTIONS" then .options else if r.accepts method then .found r else .notAllowed

/-- Something at the place takes the request. -/
def Match.isTaken : Match → Bool
  | .found _ | .options | .noFile => true
  | .missing | .notAllowed => false

/-- Where a request goes. -/
inductive Target where
  | here (m : Match)
  | redirected
  deriving DecidableEq, Repr

/-- Something takes the request, at once or where it is redirected to. -/
def Target.isTaken : Target → Bool
  | .here m => m.isTaken
  | .redirected => true

/-- Where a request to a path goes.  Slashes at the start count as one; a path with runs of slashes
that would be answered with single ones is redirected there. -/
def target (path method : String) : Target :=
  let cs := (pathText path.toList).dropWhile (· == '/')
  let direct := matchAt (placeAt cs) method
  let merged := mergeSlashes cs
  if direct.isTaken || merged == cs then .here direct
  else
    let other := matchAt (placeAt merged) method
    if other.isTaken then .redirected else .here other

end SchoolRegister.Http
