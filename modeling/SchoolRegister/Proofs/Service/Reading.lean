import SchoolRegister.Session
import SchoolRegister.Proofs.Outcome
import SchoolRegister.Proofs.School.ClassList
import SchoolRegister.Proofs.School.Store

/-! # What the use cases read from the store in memory

A use case that only reads answers a function of its arguments, of rosters and of lists of records, and
leaves the store as it is.  `Action.Answers` says so of an action; it passes from the parts of an action
to the whole, so each reading use case has one equation (`Store.answers_classAttendance`,
`Store.answers_studentHistory`, `Store.answers_classDays`, `Store.answers_classReport`,
`Store.answers_classSummary`), and so has what a session answers to the step (`Session.step_history_eq`,
`Session.step_daily_eq`, `Session.step_report_eq`).  As long as the store is up and the roster that is asked
for is not empty, valid arguments get what is computed of the records
(`Session.step_classView_of_validate` and the like). -/

namespace SchoolRegister

open Service Report

namespace Action

variable {σ α β : Type} {s : σ}

/-- In a state, an action has an outcome and changes nothing. -/
def Answers (a : Action σ α) (s : σ) (e : Except Failure α) : Prop := a.outcome s = (e, s)

theorem Answers.pure (x : α) : (Pure.pure x : Action σ α).Answers s (.ok x) := rfl

theorem Answers.throw (f : Failure) : (MonadExcept.throw f : Action σ α).Answers s (.error f) := rfl

theorem Answers.ofExcept (e : Except Failure α) : (Action.ofExcept e : Action σ α).Answers s e := rfl

theorem Answers.bind {a : Action σ α} {k : α → Action σ β} {e : Except Failure α}
    {f : α → Except Failure β} (ha : a.Answers s e) (hk : ∀ x, (k x).Answers s (f x)) :
    (a >>= k).Answers s (e >>= f) := by
  unfold Answers at ha hk ⊢
  rw [outcome_bind, ha]
  cases e with
  | error g => rfl
  | ok x => exact hk x

end Action

open SchoolRegister.Action

namespace Store

variable {s : Store}

/-! ### Rosters and lists -/

theorem enrolled_students (place : ClassTerm) :
    (s.enrolled place).filterMap (·.student) = (s.members place).filterMap id := by
  unfold enrolled
  generalize 1 = i
  induction s.members place generalizing i with
  | nil => rfl
  | cons x rest ih =>
      rw [List.zipIdx_cons, List.map_cons, List.filterMap_cons, List.filterMap_cons, ih]
      rfl

theorem length_enrolled (place : ClassTerm) : (s.enrolled place).length = (s.members place).length := by
  rw [enrolled, List.length_map, List.length_zipIdx]

/-- The roster of a class, which must not be empty. -/
def rosterOf (s : Store) (place : ClassTerm) : Except Failure (List (Enrolment String)) :=
  if (s.enrolled place).isEmpty then .error .noRoster else .ok (s.enrolled place)

theorem rosterOf_of_ne_nil {place : ClassTerm} (h : s.members place ≠ []) :
    s.rosterOf place = .ok (s.enrolled place) := by
  unfold rosterOf
  rw [if_neg]
  rw [List.isEmpty_iff_length_eq_zero, length_enrolled, List.length_eq_zero_iff]
  exact h

/-- The records of a class, unless the store is down. -/
def listOf (s : Store) (place : ClassTerm) (span : Span) : Except Failure (List (Record String)) :=
  if s.down then .error .storeDown else .ok (s.classRecords place span)

theorem listOf_of_up (hd : s.down = false) (place : ClassTerm) (span : Span) :
    s.listOf place span = .ok (s.classRecords place span) := by
  rw [listOf, hd]
  rfl

/-- The records of a number in a class on a date. -/
def recordsOf (s : Store) (place : ClassTerm) (date : Date) (number : String) : List (Record String) :=
  (s.classRecords place (.only date)).filter fun r => r.student.any fun x => x.number == number

theorem mem_recordsOf {place : ClassTerm} {date : Date} {number : String} {r : Record String} :
    r ∈ s.recordsOf place date number ↔ r ∈ s.records ∧ r.key.place = place ∧ r.date = date ∧
      r.student.any (fun x => x.number == number) = true := by
  rw [recordsOf, List.mem_filter, mem_classRecords, Span.contains_only, and_assoc, and_assoc]

/-- Records of one number are records under one identifier of the student. -/
def OneIdEach (s : Store) : Prop :=
  ∀ r ∈ s.records, ∀ r' ∈ s.records, ∀ x y, r.student = some x → r'.student = some y →
    x.number = y.number → r.studentId = r'.studentId

/-- Then a number has one record in a class on a date. -/
theorem OneIdEach.eq_of_mem (h : s.OneIdEach) {place : ClassTerm} {date : Date} {number : String}
    {r r' : Record String} (hr : r ∈ s.recordsOf place date number)
    (hr' : r' ∈ s.recordsOf place date number) : r = r' := by
  obtain ⟨hr, hp, hd, hn⟩ := mem_recordsOf.mp hr
  obtain ⟨hr', hp', hd', hn'⟩ := mem_recordsOf.mp hr'
  obtain ⟨x, hx, hxn⟩ := (Option.any_eq_true _ _).mp hn
  obtain ⟨y, hy, hyn⟩ := (Option.any_eq_true _ _).mp hn'
  rw [beq_iff_eq] at hxn hyn
  have hid := h r hr r' hr' x y hx hy (hxn.trans hyn.symm)
  apply s.eq_of_key_eq hr hr'
  exact AttendanceKey.eq_iff.mpr ⟨hid, hp.trans hp'.symm, hd.trans hd'.symm⟩

/-- What the view of a class shows of a number is the last of its records. -/
theorem recordOf?_eq_getLast? (place : ClassTerm) (date : Date) (number : String) :
    recordOf? (s.classRecords place (.only date)) number =
      (s.recordsOf place date number).getLast? := rfl

/-! ### Operations -/

theorem answers_roster (place : ClassTerm) :
    (roster register place).Answers s (s.rosterOf place) := by
  have he : (register.enrolled place).Answers s (.ok (s.enrolled place)) := rfl
  refine he.bind (f := fun es => if es.isEmpty then .error .noRoster else .ok es) fun es => ?_
  cases es.isEmpty with
  | true => exact Answers.throw _
  | false => exact Answers.pure _

theorem answers_classRecords (place : ClassTerm) (span : Span) :
    (register.classRecords place span).Answers s (s.listOf place span) := rfl

/-! ### Use cases -/

theorem answers_classAttendance (today : Date) (args : ClassArgs) :
    (classAttendance register today args).Answers s (do
      let (place, date) ← args.validate today
      let enrolments ← s.rosterOf place
      let records ← s.listOf place (.only date)
      return (enrolments.filterMap (·.student)).map (classEntry records place date)) := by
  refine (Answers.ofExcept _).bind fun ⟨place, date⟩ => (answers_roster place).bind fun enrolments => ?_
  exact (answers_classRecords place _).bind fun records => Answers.pure _

/-- The records of a student, unless the store is down. -/
def studentListOf (s : Store) (query : HistoryQuery) : Except Failure (List (Record String)) :=
  if s.down then .error .storeDown
  else .ok (s.studentRecords query.studentNumber query.term query.year query.span)

theorem studentListOf_of_up (hd : s.down = false) (query : HistoryQuery) :
    s.studentListOf query = .ok (s.studentRecords query.studentNumber query.term query.year query.span) := by
  rw [studentListOf, hd]
  rfl

/-- The entries of some records in the order of a history. -/
def newestFirst (rs : List (Record String)) : List (HistoryEntry String) :=
  (rs.filterMap historyItem?).mergeSort fun a b => b.date ≤ a.date

theorem answers_studentHistory (args : HistoryArgs) :
    (studentHistory register args).Answers s (do
      let query ← args.validate
      let records ← s.studentListOf query
      return newestFirst records) := by
  refine (Answers.ofExcept _).bind fun query => ?_
  have hlist : (register.studentRecords query.studentNumber query.term query.year query.span).Answers s
      (s.studentListOf query) := rfl
  exact hlist.bind fun records => Answers.pure _

/-- The daily metrics that a query asks for, and the size of the roster. -/
def daysOf (s : Store) (query : ReportQuery) : Except Failure (List (Day String) × Nat) := do
  let enrolments ← s.rosterOf query.place
  let records ← s.listOf query.place query.span
  let days ← dailyMetrics records enrolments.length
  return (days, enrolments.length)

theorem daysOf_eq {query : ReportQuery} (hd : s.down = false) (hm : s.members query.place ≠ []) :
    s.daysOf query = (dailyMetrics (s.classRecords query.place query.span) (s.members query.place).length).map
      fun days => (days, (s.members query.place).length) := by
  unfold daysOf
  rw [rosterOf_of_ne_nil hm, listOf_of_up hd]
  show (do let days ← dailyMetrics (s.classRecords query.place query.span) (s.enrolled query.place).length
           return (days, (s.enrolled query.place).length)) = _
  rw [length_enrolled]
  cases dailyMetrics (s.classRecords query.place query.span) (s.members query.place).length <;> rfl

theorem answers_daysOf (query : ReportQuery) :
    (Service.daysOf register query).Answers s (s.daysOf query) := by
  refine (answers_roster query.place).bind fun enrolments => ?_
  refine (answers_classRecords _ _).bind fun records => ?_
  exact (Answers.ofExcept _).bind fun days => Answers.pure _

theorem answers_classDays (args : ReportArgs) :
    (classDays register args).Answers s (do
      let query ← args.validate
      let (days, _) ← s.daysOf query
      return days) := by
  refine (Answers.ofExcept _).bind fun query => (answers_daysOf query).bind fun (days, _) => ?_
  exact Answers.pure _

theorem answers_classReport (args : ReportArgs) :
    (classReport register args).Answers s (do
      let query ← args.validate
      let (days, total) ← s.daysOf query
      reportOn query days total) := by
  refine (Answers.ofExcept _).bind fun query => (answers_daysOf query).bind fun (days, total) => ?_
  exact Answers.ofExcept _

theorem exists_reportOn_of_ok {args : ReportArgs} {report : AttendanceReport String}
    (h : (do
      let query ← args.validate
      let (days, total) ← s.daysOf query
      reportOn query days total) = .ok report) :
    ∃ query days total, args.validate = .ok query ∧ s.daysOf query = .ok (days, total) ∧
      reportOn query days total = .ok report := by
  obtain ⟨query, hquery, h⟩ := bind_eq_ok.mp h
  obtain ⟨⟨days, total⟩, hdays, h⟩ := bind_eq_ok.mp h
  exact ⟨query, days, total, hquery, hdays, h⟩

theorem answers_classSummary (className term year : Value) :
    (classSummary register className term year).Answers s (do
      let query ← ReportArgs.validate { className, term, year }
      let records ← s.listOf query.place query.span
      summarize records query.place) := by
  refine (Answers.ofExcept _).bind fun query => (answers_classRecords _ _).bind fun records => ?_
  exact Answers.ofExcept _

end Store

/-! ### Steps -/

namespace Session

variable (s : Session)

theorem step_classView_eq (args : ClassArgs) : (s.step (.classView args)).1 = Except.map .classEntries (do
    let (place, date) ← args.validate s.today
    let enrolments ← s.store.rosterOf place
    let records ← s.store.listOf place (.only date)
    return (enrolments.filterMap (·.student)).map (classEntry records place date)) := by
  have ha := Store.answers_classAttendance (s := s.store) s.today args
  unfold Action.Answers at ha
  simp only [step, Step.useCase?, Action.outcome_map, ha]

theorem step_summary_eq (className term year : Value) :
    (s.step (.summary className term year)).1 = Except.map .summary (do
      let query ← ReportArgs.validate { className, term, year }
      let records ← s.store.listOf query.place query.span
      summarize records query.place) := by
  have ha := Store.answers_classSummary (s := s.store) className term year
  unfold Action.Answers at ha
  simp only [step, Step.useCase?, Action.outcome_map, ha]

theorem step_history_eq (args : HistoryArgs) : (s.step (.history args)).1 = Except.map .historyEntries (do
    let query ← args.validate
    let records ← s.store.studentListOf query
    return Store.newestFirst records) := by
  have ha := Store.answers_studentHistory (s := s.store) args
  unfold Action.Answers at ha
  simp only [step, Step.useCase?, Action.outcome_map, ha]

theorem step_daily_eq (args : ReportArgs) : (s.step (.daily args)).1 = Except.map .days (do
    let query ← args.validate
    let (days, _) ← s.store.daysOf query
    return days) := by
  have ha := Store.answers_classDays (s := s.store) args
  unfold Action.Answers at ha
  simp only [step, Step.useCase?, Action.outcome_map, ha]

theorem step_report_eq (args : ReportArgs) : (s.step (.report args)).1 = Except.map .report (do
    let query ← args.validate
    let (days, total) ← s.store.daysOf query
    reportOn query days total) := by
  have ha := Store.answers_classReport (s := s.store) args
  unfold Action.Answers at ha
  simp only [step, Step.useCase?, Action.outcome_map, ha]

/-! ### Steps while the store is up -/

section Up

variable {s} (hd : s.store.down = false)
include hd

/-- The view of a class shows each student on the roster as the records of the date have it. -/
theorem step_classView_of_validate {args : ClassArgs} {place : ClassTerm} {date : Date}
    (hv : args.validate s.today = .ok (place, date)) (hm : s.store.members place ≠ []) :
    (s.step (.classView args)).1 = .ok (.classEntries (((s.store.members place).filterMap id).map
      (classEntry (s.store.classRecords place (.only date)) place date))) := by
  rw [step_classView_eq, hv, ← Store.enrolled_students]
  simp only [bind, Except.bind, Store.rosterOf_of_ne_nil hm, Store.listOf_of_up hd]
  rfl

theorem step_history_of_validate {args : HistoryArgs} {query : HistoryQuery} (hv : args.validate = .ok query) :
    (s.step (.history args)).1 = .ok (.historyEntries (Store.newestFirst
      (s.store.studentRecords query.studentNumber query.term query.year query.span))) := by
  rw [step_history_eq, hv]
  simp only [bind, Except.bind, Store.studentListOf_of_up hd]
  rfl

theorem step_summary_of_validate {className term year : Value} {query : ReportQuery}
    (hv : ReportArgs.validate { className, term, year } = .ok query) :
    (s.step (.summary className term year)).1 =
      (summarize (s.store.classRecords query.place query.span) query.place).map .summary := by
  rw [step_summary_eq, hv]
  simp only [bind, Except.bind, Store.listOf_of_up hd]

variable {args : ReportArgs} {query : ReportQuery} (hv : args.validate = .ok query)
  (hm : s.store.members query.place ≠ [])
include hv hm

theorem step_daily_of_validate : (s.step (.daily args)).1 =
    (dailyMetrics (s.store.classRecords query.place query.span) (s.store.members query.place).length).map
      .days := by
  rw [step_daily_eq, hv]
  simp only [bind, Except.bind, Store.daysOf_eq hd hm]
  cases dailyMetrics (s.store.classRecords query.place query.span) (s.store.members query.place).length <;> rfl

theorem step_report_of_validate : (s.step (.report args)).1 = Except.map .report (do
    let days ← dailyMetrics (s.store.classRecords query.place query.span) (s.store.members query.place).length
    reportOn query days (s.store.members query.place).length) := by
  rw [step_report_eq, hv]
  simp only [bind, Except.bind, Store.daysOf_eq hd hm]
  cases dailyMetrics (s.store.classRecords query.place query.span) (s.store.members query.place).length <;> rfl

end Up

end Session
end SchoolRegister
