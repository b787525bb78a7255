/-! # Roles and operations

A role is what an authenticated person is to the school; an operation is what the service lets some
roles do.  Both have a name under which they appear in requests and messages, and different roles
have different names (`Role.ofName?_name`). -/

namespace SchoolRegister

/-- What a person is to the school. -/
inductive Role where
  | admin
  | director
  | auditor
  | hod
  | teacher
  | reception
  | parent
  | student
  deriving DecidableEq, Repr

namespace Role

/-- All roles, in their fixed order. -/
def all : List Role := [admin, director, auditor, hod, teacher, reception, parent, student]

/-- The name of the role. -/
def name : Role → String
  | admin => "admin"
  | director => "director"
  | auditor => "auditor"
  | hod => "hod"
  | teacher => "teacher"
  | reception => "reception"
  | parent => "parent"
  | student => "student"

/-- The role with a name. -/
def ofName? (s : String) : Option Role := all.find? fun r => r.name == s

theorem mem_all (r : Role) : r ∈ all := by cases r <;> decide

theorem ofName?_name (r : Role) : ofName? r.name = some r := by cases r <;> rfl

end Role

/-- What the service does on request. -/
inductive Operation where
  | markAttendance
  | viewClassAttendance
  | viewAttendanceReport
  | viewAttendanceSummary
  | viewStudentAttendance
  deriving DecidableEq, Repr

namespace Operation

/-- All operations, in their fixed order. -/
def all : List Operation :=
  [markAttendance, viewClassAttendance, viewAttendanceReport, viewAttendanceSummary,
    viewStudentAttendance]

/-- The name of the operation. -/
def name : Operation → String
  | markAttendance => "mark_attendance"
  | viewClassAttendance => "view_class_attendance"
  | viewAttendanceReport => "view_attendance_report"
  | viewAttendanceSummary => "view_attendance_summary"
  | viewStudentAttendance => "view_student_attendance"

/-- The operation with a name. -/
def ofName? (s : String) : Option Operation := all.find? fun o => o.name == s

theorem mem_all (o : Operation) : o ∈ all := by cases o <;> decide

theorem ofName?_name (o : Operation) : ofName? o.name = some o := by cases o <;> rfl

end Operation
end SchoolRegister
