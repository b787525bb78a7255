import SchoolRegister.Proofs.Report.Completion
import SchoolRegister.Proofs.Session.Bounds

/-! # How a report comes out

Of five things that may come of a report, the first one that applies does: the arguments are refused, the roster
is empty, the store is down, a record that counts lies in the week in which the calendar ends, or there is a
report.  The daily metrics come out in the same way but for the last week, which they do not look at
(`Reported`, `Session.reported`).  Since no two of the five apply together, each outcome has exactly one reason
(`ReportOutcomes`, `Session.report_outcomes`). -/

namespace SchoolRegister

open Argument Report Service

/-- A record with a student, of the class and in the range of the query, lies in the week in which the calendar
ends: on 27 December 9999 or later. -/
def Store.HasLateRecord (store : Store) (query : ReportQuery) : Prop :=
  ∃ r ∈ store.records, r.student.isSome ∧ r.key.place = query.place ∧ query.span.contains r.date = true ∧
    Date.lastMonday ≤ r.date

/-- What comes of the daily metrics and of the report for some arguments, by the first reason that applies. -/
inductive Reported (store : Store) (args : ReportArgs) :
    Except Failure (Answer String) → Except Failure (Answer String) → Prop
  | refused {f : Failure} : args.Refused → f.domain? = some .validation → Reported store args (.error f) (.error f)
  | noRoster {query : ReportQuery} : args.Denotes query → store.members query.place = [] →
      Reported store args (.error .noRoster) (.error .noRoster)
  | storeDown {query : ReportQuery} : args.Denotes query → store.members query.place ≠ [] → store.down = true →
      Reported store args (.error .storeDown) (.error .storeDown)
  | beyond {query : ReportQuery} {days : List (Day String)} : args.Denotes query →
      store.members query.place ≠ [] → store.down = false → store.HasLateRecord query →
      Reported store args (.ok (.days days)) (.error .beyondCalendar)
  | made {query : ReportQuery} {report : AttendanceReport String} : args.Denotes query →
      store.members query.place ≠ [] → store.down = false → ¬ store.HasLateRecord query →
      Reported store args (.ok (.days report.days)) (.ok (.report report))

/-- The reasons of every outcome of the daily metrics and of the report for some arguments. -/
structure ReportOutcomes (store : Store) (args : ReportArgs) (daily report : Except Failure (Answer String)) :
    Prop where
  refused : (∃ f, report = .error f ∧ f.domain? = some .validation) ↔ args.Refused
  noRoster : report = .error .noRoster ↔ ∃ query, args.Denotes query ∧ store.members query.place = []
  storeDown : report = .error .storeDown ↔
    ∃ query, args.Denotes query ∧ store.members query.place ≠ [] ∧ store.down = true
  beyond : report = .error .beyondCalendar ↔ ∃ query, args.Denotes query ∧ store.members query.place ≠ [] ∧
    store.down = false ∧ store.HasLateRecord query
  made : (∃ r, report = .ok (.report r)) ↔ ∃ query, args.Denotes query ∧ store.members query.place ≠ [] ∧
    store.down = false ∧ ¬ store.HasLateRecord query
  /-- Nothing else comes of a report. -/
  failures : (∃ r, report = .ok (.report r)) ∨ ∃ f, report = .error f ∧
    (f.domain? = some .validation ∨ f = .noRoster ∨ f = .storeDown ∨ f = .beyondCalendar)
  /-- The daily metrics fail as the report does, apart from the end of the calendar. -/
  daily_failures : ∀ f, daily = .error f ↔ report = .error f ∧ f ≠ .beyondCalendar
  daily_made : (∃ days, daily = .ok (.days days)) ↔
    (∃ r, report = .ok (.report r)) ∨ report = .error .beyondCalendar
  days : ∀ r, report = .ok (.report r) → daily = .ok (.days r.days)

variable {args : ReportArgs} {query : ReportQuery} {P : ReportQuery → Prop}

theorem Service.ReportArgs.Denotes.exists_iff (h : args.Denotes query) :
    (∃ q, args.Denotes q ∧ P q) ↔ P query := by
  constructor
  · rintro ⟨q, hq, hP⟩
    rwa [h.unique hq]
  · intro hP
    exact ⟨query, h, hP⟩

theorem Reported.outcomes {store : Store} {daily report : Except Failure (Answer String)}
    (h : Reported store args daily report) : ReportOutcomes store args daily report := by
  cases h with
  | @refused f hr hf =>
      have hnone : ∀ q, ¬ args.Denotes q := fun q => hr.not_denotes
      have hne : f ≠ .noRoster ∧ f ≠ .storeDown ∧ f ≠ .beyondCalendar := by
        refine ⟨?_, ?_, ?_⟩ <;> rintro rfl <;> cases hf
      constructor <;> simp_all
  | noRoster hq hm =>
      have hr : ¬ args.Refused := fun hr => hr.not_denotes hq
      constructor <;> simp [hq.exists_iff, hr, hm, Failure.domain?]
  | storeDown hq hm hd =>
      have hr : ¬ args.Refused := fun hr => hr.not_denotes hq
      constructor <;> simp [hq.exists_iff, hr, hm, hd, Failure.domain?]
  | beyond hq hm hd hl =>
      have hr : ¬ args.Refused := fun hr => hr.not_denotes hq
      constructor <;> simp [hq.exists_iff, hr, hm, hd, hl, Failure.domain?]
  | made hq hm hd hl =>
      have hr : ¬ args.Refused := fun hr => hr.not_denotes hq
      constructor <;> simp [hq.exists_iff, hr, hm, hd, hl]

/-! ### What a store makes of a query -/

namespace Store

variable {s : Store} {days : List (Day String)}

theorem daysOf_of_nil (h : s.members query.place = []) : s.daysOf query = .error .noRoster := by
  have hempty : (s.enrolled query.place).isEmpty = true := by
    rw [List.isEmpty_iff_length_eq_zero, length_enrolled, h, List.length_nil]
  rw [daysOf, rosterOf, if_pos hempty]
  rfl

theorem daysOf_of_down (hm : s.members query.place ≠ []) (hd : s.down = true) :
    s.daysOf query = .error .storeDown := by
  rw [daysOf, rosterOf_of_ne_nil hm, listOf, if_pos hd]
  rfl

theorem hasLateRecord_iff (h : s.metrics query.place query.span = .ok days) :
    s.HasLateRecord query ↔ ∃ d ∈ days, Date.lastMonday ≤ d.date := by
  have hdates := (daysOf_of_ok h).dates
  constructor
  · rintro ⟨r, hr, hstudent, hplace, hspan, hlate⟩
    obtain ⟨d, hd, hdate⟩ := (hdates r.date).mpr ⟨r, mem_classRecords.mpr ⟨hr, hplace, hspan⟩, hstudent, rfl⟩
    exact ⟨d, hd, hdate ▸ hlate⟩
  · rintro ⟨d, hd, hlate⟩
    obtain ⟨r, hr, hstudent, hdate⟩ := (hdates d.date).mp ⟨d, hd, rfl⟩
    obtain ⟨hmem, hplace, hspan⟩ := mem_classRecords.mp hr
    exact ⟨r, hmem, hstudent, hplace, hspan, hdate ▸ hlate⟩

end Store

/-! ### Steps -/

namespace Session

variable {s : Session}

/-- Of fewer than `10 ^ 20` records, a report on arguments that are texts comes out by the first reason that
applies. -/
theorem reported (hargs : args.Textual) (hlength : s.store.records.length < 10 ^ 20) :
    Reported s.store args (s.step (.daily args)).1 (s.step (.report args)).1 := by
  rw [step_daily_eq, step_report_eq]
  rcases ReportArgs.validate_cases hargs with ⟨query, hq⟩ | ⟨hr, f, hv, hf⟩
  swap
  · rw [hv]
    exact .refused hr hf
  rw [ReportArgs.validate_eq_ok_iff.mpr hq]
  by_cases hm : s.store.members query.place = []
  · have hdays := Store.daysOf_of_nil hm
    simp only [bind, Except.bind, hdays]
    exact .noRoster hq hm
  cases hd : s.store.down with
  | true =>
      have hdays := Store.daysOf_of_down hm hd
      simp only [bind, Except.bind, hdays]
      exact .storeDown hq hm hd
  | false =>
      obtain ⟨days, hdays⟩ := s.store.exists_metrics hlength query.place query.span
      have hrecords := s.store.length_classRecords_le query.place query.span
      have hof : s.store.daysOf query = .ok (days, (s.store.members query.place).length) := by
        rw [Store.daysOf_eq hd hm, ← Store.metrics, hdays]
        rfl
      have hlate := Store.hasLateRecord_iff hdays
      simp only [bind, Except.bind, hof]
      by_cases hl : s.store.HasLateRecord query
      · rw [reportOn_beyond hdays (by omega) (hlate.mp hl)]
        exact .beyond hq hm hd hl
      · have hbefore : ∀ d ∈ days, d.date < Date.lastMonday := by
          intro d hmem
          by_contra hge
          exact hl (hlate.mpr ⟨d, hmem, Nat.not_lt.mp hge⟩)
        obtain ⟨report, hreport, hsame⟩ :=
          exists_reportOn hdays (by omega) hbefore query (s.store.members query.place).length
        rw [hreport]
        exact hsame ▸ .made hq hm hd hl

/-- Every outcome of a report, and of the daily metrics for the same arguments, has exactly one reason. -/
theorem report_outcomes (hargs : args.Textual) (hlength : s.store.records.length < 10 ^ 20) :
    ReportOutcomes s.store args (s.step (.daily args)).1 (s.step (.report args)).1 :=
  (reported hargs hlength).outcomes

/-- One mark on the last Monday of the calendar: there is no report up to that day, there is one up to the day
before, and the arguments are refused if a bound cannot be read. -/
theorem report_outcomes_lastMonday :
    let t := small.after [smallMark true "2024-01-02", smallMark true "9999-12-27"]
    let args : Value → ReportArgs := fun finish =>
      { className := .text "5B", term := .text " 1", year := .text "2024", finish := finish }
    (t.step (.report (args .null))).1 = .error .beyondCalendar ∧
      (∃ r, (t.step (.report (args (.text "9999-12-26")))).1 = .ok (.report r)) ∧
      ∃ f, (t.step (.report (args (.text "today")))).1 = .error f ∧ f.domain? = some .validation := by
  intro t args
  have htextual : ∀ v : Value, v.IsTextual → (args v).Textual := fun v hv =>
    ⟨.inr ⟨_, rfl⟩, .inr ⟨_, rfl⟩, .inr ⟨_, rfl⟩, .inl rfl, hv⟩
  have hlength : t.store.records.length < 10 ^ 20 := by decide
  have hm : t.store.members ⟨"5B", 1, 2024⟩ ≠ [] := by decide
  refine ⟨?_, ?_, ?_⟩
  · have hq : (args .null).Denotes ⟨⟨"5B", 1, 2024⟩, {}⟩ := ReportArgs.validate_eq_ok_iff.mp (by rfl)
    apply (report_outcomes (htextual _ (.inl rfl)) hlength).beyond.mpr
    refine ⟨_, hq, hm, rfl, ?_⟩
    refine ⟨⟨2, 7, "5B", 1, 2024, ⟨9999, 12, 27, by decide⟩, true, some ⟨"17", "Adams", "Zoe", none⟩⟩, ?_⟩
    exact ⟨.tail _ (.head _), rfl, rfl, rfl, Nat.le_refl _⟩
  · have hq : (args (.text "9999-12-26")).Denotes
        ⟨⟨"5B", 1, 2024⟩, ⟨none, some ⟨9999, 12, 26, by decide⟩⟩⟩ := ReportArgs.validate_eq_ok_iff.mp (by rfl)
    apply (report_outcomes (htextual _ (.inr ⟨_, rfl⟩)) hlength).made.mpr
    refine ⟨_, hq, hm, rfl, ?_⟩
    rintro ⟨r, _, _, _, hspan, hlate⟩
    simp only [Span.contains, Option.all_none, Option.all_some, Bool.true_and, decide_eq_true_eq] at hspan
    exact absurd (Date.le_trans hlate hspan) (by decide)
  · apply (report_outcomes (htextual _ (.inr ⟨_, rfl⟩)) hlength).refused.mpr
    refine .finish ⟨"today", rfl, by decide, fun d hd => ?_⟩
    have hread : toDate (.text "today") "" = .ok d := toDate_eq_ok_iff.mpr hd
    cases hread

end Session
end SchoolRegister
