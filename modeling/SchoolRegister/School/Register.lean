import SchoolRegister.School.Record
import SchoolRegister.Failure

/-! # What a register offers

An `Action` reads and changes a state and either gives a result or fails; the changes made before a
failure stay.  A `Register` is what the use cases of the service need of a place where students,
rosters and records are kept: the same use cases run over a store in memory and over a database. -/

namespace SchoolRegister

/-- A step over a state that may fail. -/
abbrev Action (σ : Type) := ExceptT Failure (StateM σ)

namespace Action

variable {σ α β : Type}

/-- A result or a failure that needs no state. -/
def ofExcept (e : Except Failure α) : Action σ α := ExceptT.mk (pure e)

/-- A step that is given by its outcome and the state after it. -/
def ofFunction (f : σ → Except Failure α × σ) : Action σ α := ExceptT.mk f

/-- The outcome of a step and the state after it. -/
def outcome (a : Action σ α) (s : σ) : Except Failure α × σ := (ExceptT.run a).run s

@[simp] theorem outcome_ofFunction (f : σ → Except Failure α × σ) (s : σ) :
    (ofFunction f).outcome s = f s := rfl

@[simp] theorem outcome_ofExcept (e : Except Failure α) (s : σ) :
    (ofExcept e : Action σ α).outcome s = (e, s) := rfl

@[simp] theorem outcome_pure (a : α) (s : σ) : (pure a : Action σ α).outcome s = (.ok a, s) := rfl

@[simp] theorem outcome_throw (f : Failure) (s : σ) :
    (throw f : Action σ α).outcome s = (.error f, s) := rfl

/-- A step and what follows on its result; nothing follows on a failure. -/
theorem outcome_bind (a : Action σ α) (k : α → Action σ β) (s : σ) :
    (a >>= k).outcome s =
      match a.outcome s with
      | (.ok x, s') => (k x).outcome s'
      | (.error f, s') => (.error f, s') := by
  simp only [outcome, ExceptT.run_bind, StateT.run_bind]
  rcases (ExceptT.run a).run s with ⟨r, s'⟩
  cases r <;> rfl

theorem outcome_map (f : α → β) (a : Action σ α) (s : σ) :
    (f <$> a).outcome s = ((a.outcome s).1.map f, (a.outcome s).2) := by
  rw [← bind_pure_comp, outcome_bind]
  rcases a.outcome s with ⟨r, s'⟩
  cases r <;> rfl

theorem outcome_tryCatch (a : Action σ α) (k : Failure → Action σ α) (s : σ) :
    (tryCatch a k).outcome s =
      match a.outcome s with
      | (.ok x, s') => (.ok x, s')
      | (.error f, s') => (k f).outcome s' := by
  simp only [outcome, ExceptT.run_tryCatch, StateT.run_bind]
  rcases (ExceptT.run a).run s with ⟨r, s'⟩
  cases r <;> rfl

/-- What is done last is done after a failure as well; if it fails itself, that is the outcome. -/
theorem outcome_tryFinally (a : Action σ α) (last : Action σ β) (s : σ) :
    (tryFinally a last).outcome s =
      match last.outcome (a.outcome s).2 with
      | (.ok _, s') => ((a.outcome s).1, s')
      | (.error f, s') => (.error f, s') := by
  rw [tryFinally, outcome_map]
  rcases h : a.outcome s with ⟨r, s₁⟩
  rcases h' : last.outcome s₁ with ⟨r', s₂⟩
  simp only [outcome, ExceptT.run, StateT.run] at h h'
  cases r <;> cases r' <;> simp only [outcome, ExceptT.run, StateT.run, tryFinally', ExceptT.mk, bind,
    StateT.bind, pure, h, h'] <;> rfl

end Action

/-- A range of dates; both bounds belong to it, and each may be missing. -/
structure Span where
  first : Option Date := none
  last : Option Date := none

def Span.contains (span : Span) (d : Date) : Bool :=
  span.first.all (fun s => s ≤ d) && span.last.all (fun e => d ≤ e)

/-- The range of a single date. -/
def Span.only (d : Date) : Span := ⟨some d, some d⟩

/-- A place where students, rosters and attendance records are kept. -/
structure Register (σ N : Type) where
  /-- The student with a number. -/
  findStudent : String → Action σ (Option (Student N))
  /-- The roster of a class in a term. -/
  enrolled : ClassTerm → Action σ (List (Enrolment N))
  /-- Creates the record under a key, or changes the presence of the one that exists. -/
  mark : AttendanceKey → Bool → Action σ (Record N)
  /-- The records of a class in a term within a range, in ascending order of dates. -/
  classRecords : ClassTerm → Span → Action σ (List (Record N))
  /-- The records of a student in a term of a year within a range, latest first. -/
  studentRecords : String → Int → Int → Span → Action σ (List (Record N))

end SchoolRegister
