import SchoolRegister.Proofs.Calendar.Written
import SchoolRegister.Proofs.Report.DailyCounts
import SchoolRegister.Proofs.Service.Reporting
import SchoolRegister.Proofs.Service.Tally

/-! # The period of a report encloses its days

The period of a report has two ends, each of which is the text of the bound that is given, or else that of the
outermost day.  The two differ in the direction only, so `PeriodEnd` says of either what it is and that no day
lies beyond it.  The days of a report are in ascending order and in the range that is asked for, which makes the
first and the last of them the outermost ones and the given bounds true (`Service.encloses_periodOf`).  So the
period encloses the days of every report (`Session.report_period_encloses`). -/

namespace SchoolRegister

open Report Service

/-! ### Ends of a period -/

/-- What one end of a period says, in the direction in which `before` goes: the text is that of the bound, if it
is given, or else that of the outermost date; it is empty only if there is neither; and all dates lie on the
inner side of the date that it gives. -/
structure PeriodEnd (before : Date → Date → Prop) (bound : Option Date) (dates : List Date) (text : String) :
    Prop where
  given : ∀ d, bound = some d → text = d.text
  outermost : bound = none → dates ≠ [] → ∃ d ∈ dates, (∀ e ∈ dates, before d e) ∧ text = d.text
  empty : text = "" ↔ bound = none ∧ dates = []
  inside : ∀ d, text = d.text → ∀ e ∈ dates, before d e

/-- The period has its ends where the range and the dates have theirs, and it does not end before it starts. -/
structure Service.Period.Encloses (period : Period) (span : Span) (dates : List Date) : Prop where
  start : PeriodEnd (fun d e => d ≤ e) span.first dates period.start
  finish : PeriodEnd (fun d e => e ≤ d) span.last dates period.finish
  ordered : ∀ a b : Date, period.start = a.text → period.finish = b.text → a ≤ b

section Ends

variable {before : Date → Date → Prop} {bound outer : Option Date} {dates : List Date} {d : Date}

theorem Date.textOrEmpty_eq_text_iff : Date.textOrEmpty bound = d.text ↔ bound = some d := by
  cases bound with
  | none => simp [textOrEmpty, (text_ne_empty d).symm]
  | some e =>
      rw [textOrEmpty, Option.some.injEq]
      exact ⟨text_injective, congrArg text⟩

theorem Date.textOrEmpty_eq_empty_iff : Date.textOrEmpty bound = "" ↔ bound = none := by
  cases bound <;> simp [textOrEmpty, text_ne_empty]

/-- An end that falls back on a date is right if the date is the outermost one and none is beyond the bound. -/
theorem periodEnd_of_or (hempty : outer = none ↔ dates = [])
    (houter : ∀ d, outer = some d → d ∈ dates ∧ ∀ e ∈ dates, before d e)
    (hbound : ∀ d, bound = some d → ∀ e ∈ dates, before d e) :
    PeriodEnd before bound dates (Date.textOrEmpty (bound.or outer)) where
  given d hd := by rw [hd]; rfl
  outermost hnone hne := by
    obtain ⟨d, hd⟩ := Option.ne_none_iff_exists'.mp (mt hempty.mp hne)
    exact ⟨d, (houter d hd).1, (houter d hd).2, by rw [hnone, hd]; rfl⟩
  empty := by rw [Date.textOrEmpty_eq_empty_iff, Option.or_eq_none_iff, hempty]
  inside d hd := by
    rcases Option.or_eq_some_iff.mp (Date.textOrEmpty_eq_text_iff.mp hd) with hd | ⟨_, hd⟩
    · exact hbound d hd
    · exact (houter d hd).2

/-- Without dates, what an end gives is the bound. -/
theorem PeriodEnd.given_of_nil {text : String} (h : PeriodEnd before bound [] text) (ht : text = d.text) :
    bound = some d := by
  cases hbound : bound with
  | none => exact absurd (ht.symm.trans (h.empty.mpr ⟨hbound, rfl⟩)) d.text_ne_empty
  | some c => rw [Date.text_injective ((h.given c hbound).symm.trans ht)]

theorem Date.head?_le (h : dates.Pairwise fun d e => d < e) (hd : dates.head? = some d) :
    d ∈ dates ∧ ∀ e ∈ dates, d ≤ e := by
  cases dates with
  | nil => cases hd
  | cons c rest =>
      cases hd
      refine ⟨List.mem_cons_self, fun e he => ?_⟩
      rcases List.mem_cons.mp he with rfl | he
      · exact Nat.le_refl _
      · exact Nat.le_of_lt (List.rel_of_pairwise_cons h he)

theorem Date.le_getLast? (h : dates.Pairwise fun d e => d < e) (hd : dates.getLast? = some d) :
    d ∈ dates ∧ ∀ e ∈ dates, e ≤ d := by
  obtain ⟨front, rfl⟩ := List.getLast?_eq_some_iff.mp hd
  refine ⟨List.mem_append_right _ List.mem_cons_self, fun e he => ?_⟩
  rcases List.mem_append.mp he with he | he
  · exact Nat.le_of_lt ((List.pairwise_append.mp h).2.2 e he d List.mem_cons_self)
  · rw [List.mem_singleton.mp he]
    exact Nat.le_refl _

end Ends

/-! ### Periods of ascending days -/

namespace Service

variable {span : Span} {days : List (Day String)}

theorem Period.Encloses.of_ends {period : Period} {dates : List Date}
    (hstart : PeriodEnd (fun d e => d ≤ e) span.first dates period.start)
    (hfinish : PeriodEnd (fun d e => e ≤ d) span.last dates period.finish)
    (hspan : ∀ a b, span.first = some a → span.last = some b → a ≤ b) : period.Encloses span dates where
  start := hstart
  finish := hfinish
  ordered a b ha hb := by
    -- a date in between settles the order; without one, both texts are those of the given bounds
    cases dates with
    | nil => exact hspan a b (hstart.given_of_nil ha) (hfinish.given_of_nil hb)
    | cons e rest =>
        have hae := hstart.inside a ha e List.mem_cons_self
        exact Date.le_trans hae (hfinish.inside b hb e List.mem_cons_self)

/-- The period of ascending days in a range encloses them. -/
theorem encloses_periodOf (hspan : ∀ a b, span.first = some a → span.last = some b → a ≤ b)
    (hascending : days.Pairwise fun c d => c.date < d.date)
    (hinside : ∀ d ∈ days, span.contains d.date = true) :
    (periodOf span days).Encloses span (days.map (·.date)) := by
  have hdates : (days.map (·.date)).Pairwise fun d e => d < e := List.pairwise_map.mpr hascending
  have hrange : ∀ e ∈ days.map (·.date),
      (∀ a, span.first = some a → a ≤ e) ∧ ∀ b, span.last = some b → e ≤ b := by
    intro e he
    obtain ⟨d, hd, rfl⟩ := List.mem_map.mp he
    exact Span.contains_iff.mp (hinside d hd)
  rw [periodOf, ← List.head?_map, ← List.getLast?_map]
  refine .of_ends ?_ ?_ hspan
  · exact periodEnd_of_or List.head?_eq_none_iff (fun d => Date.head?_le hdates)
      fun a ha e he => (hrange e he).1 a ha
  · exact periodEnd_of_or List.getLast?_eq_none_iff (fun d => Date.le_getLast? hdates)
      fun b hb e he => (hrange e he).2 b hb

end Service

/-! ### Reports -/

theorem Store.ascending_of_daysOf {s : Store} {query : ReportQuery} {days : List (Day String)} {total : Nat}
    (h : s.daysOf query = .ok (days, total)) :
    days.Pairwise (fun c d => c.date < d.date) ∧ ∀ d ∈ days, query.span.contains d.date = true := by
  obtain ⟨enrolments, _, h⟩ := bind_eq_ok.mp h
  obtain ⟨records, hrecords, h⟩ := bind_eq_ok.mp h
  obtain ⟨ds, hdays, h⟩ := bind_eq_ok.mp h
  cases h
  have hof := daysOf_of_ok hdays
  refine ⟨hof.ascending, fun d hd => ?_⟩
  obtain ⟨r, hr, _, hdate⟩ := (hof.dates d.date).mp ⟨d, hd, rfl⟩
  have hmem : r ∈ s.classRecords query.place query.span := by
    unfold listOf at hrecords
    split at hrecords
    · cases hrecords
    · cases hrecords
      exact hr
  rw [← hdate]
  exact (mem_classRecords.mp hmem).2.2

namespace Session

variable {s : Session} {args : ReportArgs} {report : AttendanceReport String}

/-- The period of every report encloses its days.  Each end is that of the range that the arguments denote, if it
is given there, or else that of the days. -/
theorem report_period_encloses (h : (s.step (.report args)).1 = .ok (.report report)) :
    ∃ query, args.Denotes query ∧ report.period.Encloses query.span (report.days.map (·.date)) := by
  rw [step_report_eq] at h
  obtain ⟨r, hr, e⟩ := map_eq_ok.mp h
  cases e
  obtain ⟨query, days, total, hquery, hdays, hreport⟩ := Store.exists_reportOn_of_ok hr
  have hargs := ReportArgs.validate_eq_ok_iff.mp hquery
  obtain ⟨hascending, hinside⟩ := Store.ascending_of_daysOf hdays
  obtain ⟨_, _, rfl, _⟩ := eq_of_reportOn hreport
  refine ⟨query, hargs, ?_⟩
  rw [period_of_reportOn hreport]
  exact encloses_periodOf hargs.span.ordered hascending hinside

/-- Two days are marked, and a start is given between them, but no end. -/
theorem report_period_encloses_small :
    let t := small.after [smallMark false "2024-01-02", smallMark true "2024-01-08"]
    let args : ReportArgs := { className := .text "5B", term := .int 1, year := .int 2024,
                               start := .text " 2024-01-03T23:00+01", finish := .text " " }
    ∃ report, (t.step (.report args)).1 = .ok (.report report) ∧ report.period = ⟨"2024-01-03", "2024-01-08"⟩ ∧
      ∃ query, args.Denotes query ∧ report.period.Encloses query.span (report.days.map (·.date)) := by
  intro t args
  have hstep : (t.step (.report args)).1 = ((classReport Store.register args).outcome t.store).1.map .report := by
    simp only [step, Step.useCase?, Action.outcome_map]
  have hperiod : (((classReport Store.register args).outcome t.store).1.map
      fun report => (report.period.start, report.period.finish)).toOption =
        some ("2024-01-03", "2024-01-08") := by decide +kernel
  cases h : ((classReport Store.register args).outcome t.store).1 with
  | error f =>
      rw [h] at hperiod
      cases hperiod
  | ok report =>
      rw [h] at hperiod hstep
      obtain ⟨hstart, hfinish⟩ := Prod.mk.inj (Option.some.inj hperiod)
      refine ⟨report, hstep, ?_, report_period_encloses hstep⟩
      rw [← hstart, ← hfinish]

end Session
end SchoolRegister
