import SchoolRegister.Proofs.Service.Names

/-! # The same use case over two registers

A `Link` says how an action over one state goes together with an action over another one.  All that it
has to respect is how actions are put together: a result or a failure that needs no state, and one action
after another.  If the operations of two registers go together (`Register.Linked`), so does every use
case of the service over the two (`Register.Linked.useCase?`), the names of the one being replaced by
those of the other. -/

namespace SchoolRegister

open Report Service

/-- How actions over two states go together: the second one gives the result of the first one, changed by
a function, or fails in the same way. -/
structure Link (σ τ : Type) where
  holds : {α β : Type} → (α → β) → Action σ α → Action τ β → Prop
  ofExcept : ∀ {α β : Type} (g : α → β) (e : Except Failure α),
    holds g (Action.ofExcept e) (Action.ofExcept (e.map g))
  bind : ∀ {α β γ δ : Type} {g : α → β} {h : γ → δ} {a : Action σ α} {b : Action τ β}
    {k : α → Action σ γ} {l : β → Action τ δ},
    holds g a b → (∀ x, holds h (k x) (l (g x))) → holds h (a >>= k) (b >>= l)

namespace Link

variable {σ τ α β γ δ : Type} (L : Link σ τ)

theorem pure (g : α → β) (x : α) : L.holds g (Pure.pure x) (Pure.pure (g x)) := L.ofExcept g (.ok x)

theorem throw (g : α → β) (f : Failure) : L.holds g (MonadExcept.throw f) (MonadExcept.throw f) :=
  L.ofExcept g (.error f)

theorem map {g : α → β} {h : γ → δ} {a : Action σ α} {b : Action τ β} {u : α → γ} {v : β → δ}
    (hab : L.holds g a b) (huv : ∀ x, v (g x) = h (u x)) : L.holds h (u <$> a) (v <$> b) := by
  rw [← bind_pure_comp, ← bind_pure_comp]
  refine L.bind hab fun x => ?_
  rw [huv]
  exact L.pure h (u x)

end Link

theorem Step.exists_useCase? {σ τ N M : Type} [Name N] [Name M] {r : Register σ N} (t : Register τ M)
    {today : Date} {x : Step} {a : Action σ (Answer N)} (ha : x.useCase? r today = some a) :
    ∃ b, x.useCase? t today = some b := by
  cases x <;> first | exact ⟨_, rfl⟩ | cases ha

/-- The operations of two registers go together, names being replaced. -/
structure Register.Linked {σ τ N M : Type} (L : Link σ τ) (f : N → M) (r : Register σ N)
    (t : Register τ M) : Prop where
  findStudent : ∀ number,
    L.holds (Option.map (Student.map f)) (r.findStudent number) (t.findStudent number)
  enrolled : ∀ place, L.holds (List.map (Enrolment.map f)) (r.enrolled place) (t.enrolled place)
  mark : ∀ key present, L.holds (Record.map f) (r.mark key present) (t.mark key present)
  classRecords : ∀ place span,
    L.holds (List.map (Record.map f)) (r.classRecords place span) (t.classRecords place span)
  studentRecords : ∀ number term year span, L.holds (List.map (Record.map f))
    (r.studentRecords number term year span) (t.studentRecords number term year span)

namespace Register.Linked

variable {σ τ N M : Type} {L : Link σ τ} {f : N → M} {r : Register σ N} {t : Register τ M}

theorem ofExcept_self {α : Type} (e : Except Failure α) :
    L.holds (fun x => x) (Action.ofExcept e) (Action.ofExcept e) := by
  have h := L.ofExcept (fun x => x) e
  cases e <;> exact h

theorem markAttendance (h : r.Linked L f t) (args : MarkArgs) :
    L.holds (Record.map f) (Service.markAttendance r args) (Service.markAttendance t args) := by
  refine L.bind (ofExcept_self _) fun mark => L.bind (h.findStudent _) fun student => ?_
  cases student with
  | none => exact L.throw _ _
  | some student => exact h.mark _ _

theorem roster (h : r.Linked L f t) (place : ClassTerm) :
    L.holds (List.map (Enrolment.map f)) (Service.roster r place) (Service.roster t place) := by
  refine L.bind (h.enrolled place) fun enrolments => ?_
  rw [List.isEmpty_map]
  cases enrolments.isEmpty with
  | true => exact L.bind (L.throw (fun x => x) _) fun _ => L.pure _ _
  | false => exact L.pure _ _

theorem classAttendance (h : r.Linked L f t) (today : Date) (args : ClassArgs) :
    L.holds (List.map (ClassEntry.map f)) (Service.classAttendance r today args)
      (Service.classAttendance t today args) := by
  refine L.bind (ofExcept_self _) fun ⟨place, date⟩ => L.bind (h.roster place) fun enrolments => ?_
  refine L.bind (h.classRecords place _) fun records => ?_
  rw [classEntries_map]
  exact L.pure _ _

theorem studentHistory (h : r.Linked L f t) (args : HistoryArgs) :
    L.holds (List.map (HistoryEntry.map f)) (Service.studentHistory r args)
      (Service.studentHistory t args) := by
  refine L.bind (ofExcept_self _) fun query => L.bind (h.studentRecords _ _ _ _) fun records => ?_
  rw [historyEntries_map]
  exact L.pure _ _

theorem daysOf (h : r.Linked L f t) (query : ReportQuery) :
    L.holds (Prod.map (List.map (Day.mapAbsent (Summary.map f))) id) (Service.daysOf r query)
      (Service.daysOf t query) := by
  refine L.bind (h.roster query.place) fun enrolments => L.bind (h.classRecords _ _) fun records => ?_
  rw [dailyMetrics_map (rewrites_map f), List.length_map]
  exact L.bind (L.ofExcept _ _) fun days => L.pure _ _

theorem classDays (h : r.Linked L f t) (args : ReportArgs) :
    L.holds (List.map (Day.mapAbsent (Summary.map f))) (Service.classDays r args)
      (Service.classDays t args) := by
  refine L.bind (ofExcept_self _) fun query => ?_
  exact L.bind (h.daysOf query) fun days => L.pure _ _

theorem classReport (h : r.Linked L f t) (args : ReportArgs) :
    L.holds (AttendanceReport.map f) (Service.classReport r args) (Service.classReport t args) := by
  refine L.bind (ofExcept_self _) fun query => L.bind (h.daysOf query) fun ⟨days, total⟩ => ?_
  show L.holds _ _ (Action.ofExcept (reportOn query (days.map (Day.mapAbsent (Summary.map f))) total))
  rw [reportOn_map]
  exact L.ofExcept _ _

end Register.Linked

namespace Register.Linked

variable {σ τ M : Type} [Name M] {L : Link σ τ} {f : String → M} {r : Register σ String}
  {t : Register τ M}

theorem classSummary (h : r.Linked L f t) (hf : Name.Renames f) (className term year : Value) :
    L.holds (ClassSummary.mapStudents (Summary.map f)) (Service.classSummary r className term year)
      (Service.classSummary t className term year) := by
  refine L.bind (ofExcept_self _) fun query => L.bind (h.classRecords _ _) fun records => ?_
  rw [summarize_map (rewrites_map f) (fun _ => rfl) (studentBefore?_map hf)]
  exact L.ofExcept _ _

theorem classReportFile (h : r.Linked L f t) (hf : Name.Renames f) (args : ReportArgs) :
    L.holds (fun file => file) (Report.classReportFile r args) (Report.classReportFile t args) := by
  refine L.bind (h.classReport args) fun report => ?_
  rw [exportReport_map hf]
  exact ofExcept_self _

/-- A use case over one register goes together with the same use case over the other one. -/
theorem useCase? (h : r.Linked L f t) (hf : Name.Renames f) {today : Date} {x : Step}
    {a : Action σ (Answer String)} {b : Action τ (Answer M)} (ha : x.useCase? r today = some a)
    (hb : x.useCase? t today = some b) : L.holds (Answer.map f) a b := by
  cases x with
  | mark args => cases ha; cases hb; exact L.map (h.markAttendance args) fun _ => rfl
  | classView args => cases ha; cases hb; exact L.map (h.classAttendance today args) fun _ => rfl
  | history args => cases ha; cases hb; exact L.map (h.studentHistory args) fun _ => rfl
  | daily args => cases ha; cases hb; exact L.map (h.classDays args) fun _ => rfl
  | report args => cases ha; cases hb; exact L.map (h.classReport args) fun _ => rfl
  | reportFile args =>
      cases ha
      cases hb
      exact L.map (h.classReportFile hf args) fun _ => rfl
  | summary className term year =>
      cases ha
      cases hb
      exact L.map (h.classSummary hf className term year) fun _ => rfl
  | _ => cases ha

end Register.Linked
end SchoolRegister
