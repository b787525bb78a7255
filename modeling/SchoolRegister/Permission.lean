import SchoolRegister.Argument

/-! # Permissions

`Operation.permitted` is the table of who may do what; nothing else in the service knows about
roles.  An actor comes with a role as the login found it: a role proper, or a value that names one
once it is trimmed and put in lower case (`roleOf?`).  `check` answers whether the actor may
perform an operation, with a reason if not. -/

namespace SchoolRegister

open Text

def Role.readers : List Role := [.admin, .director, .auditor, .hod, .teacher]

def Operation.permitted : Operation → List Role
  | .markAttendance => [.admin, .hod, .teacher]
  | .viewClassAttendance => Role.readers ++ [.reception]
  | .viewAttendanceReport => Role.readers
  | .viewAttendanceSummary => Role.readers
  | .viewStudentAttendance => Role.all

namespace Permission

/-- Who asks: an identifier and a role, as the login recorded them. -/
structure Actor where
  id : Value
  role : Value

/-- Whether an actor may go on, and if not, why. -/
inductive Decision where
  | allowed
  | denied (reason : String)
  deriving DecidableEq, Repr

/-- The role that a value stands for. -/
def roleOf? : Value → Option Role
  | .role r => some r
  | v => if v.isTruthy then Role.ofName? (Argument.lowered (trim v.plain)) else none

/-- Whether an actor, if there is one, may perform an operation. -/
def check (actor : Option Actor) (operation : Operation) : Decision :=
  match actor with
  | none => .denied "Not authenticated"
  | some actor =>
    match roleOf? actor.role with
    | none => .denied s!"Invalid user role: {actor.role.shown}"
    | some role =>
      if role ∈ operation.permitted then .allowed
      else .denied s!"Access denied for role {role.name} on {operation.name}"

/-- The actor, if permitted to perform the operation. -/
def require (actor : Option Actor) (operation : Operation) : Except Failure (Option Actor) :=
  match check actor operation with
  | .allowed => .ok actor
  | .denied reason => .error (.unauthorized reason)

/-- The whole table: each operation with each role, and whether it is permitted. -/
def table : List (Operation × Role × Bool) :=
  Operation.all.flatMap fun o => Role.all.map fun r => (o, r, o.permitted.contains r)

end Permission
end SchoolRegister
