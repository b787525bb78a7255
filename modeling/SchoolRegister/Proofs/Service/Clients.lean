import Mathlib.Logic.Function.Basic
import SchoolRegister.Service.Attendance

/-! # Clients that mark at the same time

To mark is to look up a student and then to store a mark, and other clients may do something between the
two (`markAttendance_eq`).  A `Client` stands before the first of these steps, between them, or has its
answer, and `Client.step` takes it one step further.  `Clients` mark over one state: `Clients.after` lets
them take their steps in any order, and `Clients.stored` tells in which order their marks were stored.  A
client that is left alone comes to what `markAttendance` comes to (`Clients.after_alone`). -/

namespace SchoolRegister.Service

variable {σ N ι : Type}

/-- The first half of marking: the key and the presence of the mark. -/
def lookUp (register : Register σ N) (args : MarkArgs) : Action σ (AttendanceKey × Bool) := do
  let mark ← Action.ofExcept args.validate
  match ← register.findStudent mark.studentNumber with
  | none => throw .unknownStudent
  | some student => return (⟨student.id, mark.place, mark.date⟩, mark.present)

/-- Where a client stands that marks. -/
inductive Client (N : Type) where
  /-- It has not looked up its student yet. -/
  | waiting (args : MarkArgs)
  /-- It knows the key and the presence of its mark, which is not stored yet. -/
  | found (key : AttendanceKey) (present : Bool)
  /-- It has its answer. -/
  | answered (outcome : Except Failure (Record N))

/-- The client is about to store its mark. -/
def Client.isStoring : Client N → Bool
  | .found _ _ => true
  | _ => false

/-- The next step of a client, and the state after it. -/
def Client.step (register : Register σ N) (state : σ) : Client N → Client N × σ
  | .waiting args =>
    match (lookUp register args).outcome state with
    | (.ok (key, present), state') => (.found key present, state')
    | (.error f, state') => (.answered (.error f), state')
  | .found key present =>
    let (outcome, state') := (register.mark key present).outcome state
    (.answered outcome, state')
  | .answered outcome => (.answered outcome, state)

/-- Clients that mark over one state. -/
structure Clients (σ N ι : Type) where
  state : σ
  client : ι → Client N

/-- Clients that have not done anything yet. -/
def Clients.waiting (state : σ) (args : ι → MarkArgs) : Clients σ N ι where
  state := state
  client i := .waiting (args i)

section Runs

variable [DecidableEq ι] (register : Register σ N)

def Clients.step (c : Clients σ N ι) (i : ι) : Clients σ N ι :=
  let (client, state) := (c.client i).step register c.state
  ⟨state, Function.update c.client i client⟩

/-- The clients take steps one after another. -/
def Clients.after (c : Clients σ N ι) (schedule : List ι) : Clients σ N ι :=
  schedule.foldl (fun c i => c.step register i) c

/-- The clients whose marks are stored on the way, in that order. -/
def Clients.stored (c : Clients σ N ι) : List ι → List ι
  | [] => []
  | i :: rest => (if (c.client i).isStoring then [i] else []) ++ (c.step register i).stored rest

/-- The clients of a row have been answered, and those whose marks were stored stand in it in the order of
these. -/
structure Clients.IsRow (c : Clients σ N ι) (stored row : List ι) : Prop where
  answered : ∀ i ∈ row, ∃ outcome, c.client i = .answered outcome
  stored : row.filter (· ∈ stored) = stored

end Runs

/-! ### Marking as two steps -/

theorem markAttendance_eq (register : Register σ N) (args : MarkArgs) :
    markAttendance register args = lookUp register args >>= fun p => register.mark p.1 p.2 := by
  rw [markAttendance, lookUp, bind_assoc]
  refine bind_congr fun mark => ?_
  rw [bind_assoc]
  refine bind_congr fun student? => ?_
  cases student? with
  | none => rfl
  | some student => rw [pure_bind]

namespace Clients

/-- A client that is left alone marks as if there were no others. -/
theorem after_alone [DecidableEq ι] (register : Register σ N) (state : σ) (args : ι → MarkArgs) (i : ι) :
    let c := (waiting state args).after register [i, i]
    c.client i = .answered ((markAttendance register (args i)).outcome state).1 ∧
      c.state = ((markAttendance register (args i)).outcome state).2 := by
  rw [markAttendance_eq, Action.outcome_bind]
  rcases h : (lookUp register (args i)).outcome state with ⟨_ | p, state'⟩
  · simp [after, step, waiting, Client.step, h]
  · simp [after, step, waiting, Client.step, h]

end Clients

end SchoolRegister.Service
