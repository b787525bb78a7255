import SchoolRegister.Session

/-! # What the use cases do to a register

A `Conduct` says what an action may do to a state: it relates the state before the action, whether the
action succeeds, and the state after it.  It allows doing nothing, and after a success it allows
whatever it allows then.  An action that is built from actions which keep to a conduct keeps to it
itself, so every use case of the service does what the operations of its register do:

* `Step.useCase_keepsTo` for the use cases of a session, and `Register.ReadsKeepTo.serve` for what a
  resource answers: they keep to any conduct that the operations of the register keep to;
* `Step.outcome_of_refusal`: a use case whose arguments are refused does nothing at all;
* `Conduct.keeping` is the conduct of whoever leaves a part of the state as it is; the reading
  operations of the store in memory leave all of it (`Store.register_reads`). -/

namespace SchoolRegister

open Service

/-- What an action may do to a state: nothing at all, and one thing after another that succeeded. -/
structure Conduct (σ : Type) where
  allows : σ → Bool → σ → Prop
  rest : ∀ s b, allows s b s
  next : ∀ {s t u b}, allows s true t → allows t b u → allows s b u

namespace Action

variable {σ α β : Type} {c : Conduct σ}

/-- What the action does to a state is allowed by the conduct, whatever the state and whether the
action succeeds or fails. -/
def KeepsTo (a : Action σ α) (c : Conduct σ) : Prop :=
  ∀ s, c.allows s (a.outcome s).1.isOk (a.outcome s).2

theorem KeepsTo.pure (x : α) : (Pure.pure x : Action σ α).KeepsTo c := fun s => c.rest s _

theorem KeepsTo.throw (f : Failure) : (MonadExcept.throw f : Action σ α).KeepsTo c :=
  fun s => c.rest s _

theorem KeepsTo.ofExcept (e : Except Failure α) : (Action.ofExcept e : Action σ α).KeepsTo c :=
  fun s => c.rest s _

theorem KeepsTo.bind {a : Action σ α} {k : α → Action σ β} (ha : a.KeepsTo c)
    (hk : ∀ x, (k x).KeepsTo c) : (a >>= k).KeepsTo c := by
  intro s
  have h := ha s
  rw [outcome_bind]
  rcases e : a.outcome s with ⟨r, s'⟩
  rw [e] at h
  cases r with
  | ok x => exact c.next h (hk x s')
  | error f => exact h

theorem KeepsTo.map {a : Action σ α} (f : α → β) (ha : a.KeepsTo c) : (f <$> a).KeepsTo c := by
  intro s
  have h := ha s
  rw [outcome_map]
  rcases e : a.outcome s with ⟨r, s'⟩
  rw [e] at h
  cases r <;> exact h

end Action

open SchoolRegister.Action

/-! ### Use cases -/

variable {σ N : Type} {register : Register σ N} {c : Conduct σ} (today : Date)

/-- The operations of a register that only read keep to a conduct. -/
structure Register.ReadsKeepTo (register : Register σ N) (c : Conduct σ) : Prop where
  findStudent : ∀ number, (register.findStudent number).KeepsTo c
  enrolled : ∀ place, (register.enrolled place).KeepsTo c
  classRecords : ∀ place span, (register.classRecords place span).KeepsTo c
  studentRecords : ∀ number term year span, (register.studentRecords number term year span).KeepsTo c

namespace Register.ReadsKeepTo

theorem markAttendance (h : register.ReadsKeepTo c)
    (hm : ∀ key present, (register.mark key present).KeepsTo c) (args : MarkArgs) :
    (Service.markAttendance register args).KeepsTo c := by
  refine (KeepsTo.ofExcept _).bind fun m => (h.findStudent _).bind fun student => ?_
  cases student with
  | none => exact KeepsTo.throw _
  | some student => exact hm _ _

theorem roster (h : register.ReadsKeepTo c) (place : ClassTerm) :
    (Service.roster register place).KeepsTo c := by
  refine (h.enrolled place).bind fun enrolments => ?_
  cases enrolments.isEmpty with
  | true => exact (KeepsTo.throw _).bind fun _ => KeepsTo.pure _
  | false => exact KeepsTo.pure _

theorem classAttendance (h : register.ReadsKeepTo c) (args : ClassArgs) :
    (Service.classAttendance register today args).KeepsTo c := by
  refine (KeepsTo.ofExcept _).bind fun ⟨place, date⟩ => (h.roster place).bind fun enrolments => ?_
  exact (h.classRecords place _).bind fun records => KeepsTo.pure _

theorem studentHistory (h : register.ReadsKeepTo c) (args : HistoryArgs) :
    (Service.studentHistory register args).KeepsTo c := by
  refine (KeepsTo.ofExcept _).bind fun query => ?_
  exact (h.studentRecords _ _ _ _).bind fun records => KeepsTo.pure _

theorem daysOf (h : register.ReadsKeepTo c) (query : ReportQuery) :
    (Service.daysOf register query).KeepsTo c := by
  refine (h.roster query.place).bind fun enrolments => (h.classRecords _ _).bind fun records => ?_
  exact (KeepsTo.ofExcept _).bind fun days => KeepsTo.pure _

theorem classDays (h : register.ReadsKeepTo c) (args : ReportArgs) :
    (Service.classDays register args).KeepsTo c :=
  (KeepsTo.ofExcept _).bind fun query => (h.daysOf query).bind fun _ => KeepsTo.pure _

theorem classReport (h : register.ReadsKeepTo c) (args : ReportArgs) :
    (Service.classReport register args).KeepsTo c :=
  (KeepsTo.ofExcept _).bind fun query => (h.daysOf query).bind fun _ => KeepsTo.ofExcept _

theorem classReportFile [Name N] (h : register.ReadsKeepTo c) (args : ReportArgs) :
    (Report.classReportFile register args).KeepsTo c :=
  (h.classReport args).bind fun _ => KeepsTo.ofExcept _

theorem classSummary [Name N] (h : register.ReadsKeepTo c) (className term year : Value) :
    (Service.classSummary register className term year).KeepsTo c := by
  refine (KeepsTo.ofExcept _).bind fun query => ?_
  exact (h.classRecords _ _).bind fun records => KeepsTo.ofExcept _

/-- What a resource answers, where the resource for marks marks in the same way or is not asked. -/
theorem serve [Name N] (h : register.ReadsKeepTo c) (request : Http.Request)
    {resource : Http.Resource}
    (hm : resource = .mark → ∀ args, (Service.markAttendance register args).KeepsTo c) :
    (Http.serve register today request resource).KeepsTo c := by
  cases resource with
  | mark =>
      exact (KeepsTo.ofExcept _).bind fun entries => (hm rfl _).bind fun record => KeepsTo.pure _
  | classView => exact (h.classAttendance today _).bind fun _ => KeepsTo.pure _
  | student number => exact (h.studentHistory _).bind fun _ => KeepsTo.pure _
  | report => exact (h.classReport _).bind fun _ => KeepsTo.pure _
  | reportFile => exact (h.classReportFile _).bind fun _ => KeepsTo.pure _
  | summary => exact (h.classSummary _ _ _).bind fun _ => KeepsTo.pure _

end Register.ReadsKeepTo

variable [Name N]

/-- A use case keeps to the conduct that the reading operations of its register keep to, if it marks
in the same way or not at all. -/
theorem Step.useCase_keepsTo (h : register.ReadsKeepTo c) {x : Step} {a : Action σ (Answer N)}
    (hm : ∀ args, x = .mark args → (markAttendance register args).KeepsTo c)
    (ha : x.useCase? register today = some a) : a.KeepsTo c := by
  cases x with
  | mark args => cases ha; exact (hm args rfl).map _
  | classView args => cases ha; exact (h.classAttendance today args).map _
  | history args => cases ha; exact (h.studentHistory args).map _
  | daily args => cases ha; exact (h.classDays args).map _
  | report args => cases ha; exact (h.classReport args).map _
  | reportFile args => cases ha; exact (h.classReportFile args).map _
  | summary className term year => cases ha; exact (h.classSummary className term year).map _
  | _ => cases ha

/-! ### Refused arguments -/

/-- The failure of a validation that fails. -/
def refusalOf {α : Type} : Except Failure α → Option Failure
  | .ok _ => none
  | .error f => some f

/-- Why the arguments of a use case are refused, if they are. -/
def Step.refusal? (today : Date) : Step → Option Failure
  | .mark args => refusalOf args.validate
  | .classView args => refusalOf (args.validate today)
  | .history args => refusalOf args.validate
  | .daily args | .report args | .reportFile args => refusalOf args.validate
  | .summary className term year => refusalOf (ReportArgs.validate { className, term, year })
  | _ => none

theorem Action.outcome_of_refusal {α β : Type} {e : Except Failure α} {f : Failure}
    (h : refusalOf e = some f) (k : α → Action σ β) (s : σ) :
    (Action.ofExcept e >>= k).outcome s = (.error f, s) := by
  cases e with
  | ok x => cases h
  | error g =>
      cases h
      rfl

section Errors

variable {α β : Type} {a : Action σ α} {f : Failure} {s : σ}

theorem Action.outcome_bind_of_error (h : a.outcome s = (.error f, s)) (k : α → Action σ β) :
    (a >>= k).outcome s = (.error f, s) := by
  rw [outcome_bind, h]

theorem Action.outcome_map_of_error (h : a.outcome s = (.error f, s)) (answer : α → β) :
    (answer <$> a).outcome s = (.error f, s) := by
  rw [outcome_map, h]
  rfl

end Errors

/-- A use case whose arguments are refused fails and changes nothing. -/
theorem Step.outcome_of_refusal {x : Step} {f : Failure} (h : x.refusal? today = some f)
    {a : Action σ (Answer N)} (ha : x.useCase? register today = some a) (s : σ) :
    a.outcome s = (.error f, s) := by
  cases x with
  | mark args => cases ha; exact Action.outcome_map_of_error (Action.outcome_of_refusal h _ s) _
  | classView args => cases ha; exact Action.outcome_map_of_error (Action.outcome_of_refusal h _ s) _
  | history args => cases ha; exact Action.outcome_map_of_error (Action.outcome_of_refusal h _ s) _
  | daily args => cases ha; exact Action.outcome_map_of_error (Action.outcome_of_refusal h _ s) _
  | report args => cases ha; exact Action.outcome_map_of_error (Action.outcome_of_refusal h _ s) _
  | reportFile args =>
      cases ha
      have hreport : (classReport register args).outcome s = (.error f, s) :=
        Action.outcome_of_refusal h _ s
      exact Action.outcome_map_of_error (Action.outcome_bind_of_error hreport _) _
  | summary className term year =>
      cases ha
      exact Action.outcome_map_of_error (Action.outcome_of_refusal h _ s) _
  | _ => cases ha

/-! ### Keeping and reading -/

/-- The conduct of whoever keeps some part of the state as it is. -/
def Conduct.keeping {β : Type} (part : σ → β) : Conduct σ where
  allows s _ t := part t = part s
  rest _ _ := rfl
  next h h' := h'.trans h

/-- The conduct of whoever changes nothing. -/
abbrev Conduct.reading (σ : Type) : Conduct σ := .keeping id

theorem Store.register_reads {β : Type} (part : Store → β) :
    Store.register.ReadsKeepTo (.keeping part) where
  findStudent _ _ := rfl
  enrolled _ _ := rfl
  classRecords _ _ _ := rfl
  studentRecords _ _ _ _ _ := rfl

end SchoolRegister
