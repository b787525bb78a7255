import SchoolRegister.Proofs.Report.Averages
import SchoolRegister.Proofs.Service.RosterView
import SchoolRegister.Proofs.Service.Tally
import SchoolRegister.Proofs.Session.ClassView

/-! # Daily metrics and the view of a class

After a run in which students can be told apart (`Session.StableStudents`), the store holds one record at most
of a number in a class on a date.  If the roster of the class lists each number once and all that were marked
there (`Session.covers_after`), every day of the metrics counts the entries of the view of its date, so no more
are present than possible and all rates are percentages: `Session.daily_agrees` is the main result.  Without
the condition on the roster a student who is marked but not enrolled counts as present as well, and the rate
may exceed 100. -/

namespace SchoolRegister

open Argument Report Service

namespace Service

theorem ClassArgs.validate_of_report {args : ReportArgs} {query : ReportQuery} (h : args.validate = .ok query)
    (date today : Date) : ClassArgs.validate
      { className := args.className, term := args.term, year := args.year, date := .date date } today =
        .ok (query.place, date) := by
  obtain ⟨_, _, h⟩ := bind_eq_ok.mp h
  obtain ⟨_, _, h⟩ := bind_eq_ok.mp h
  obtain ⟨_, _, h⟩ := bind_eq_ok.mp h
  obtain ⟨className, hc, h⟩ := bind_eq_ok.mp h
  obtain ⟨term, ht, h⟩ := bind_eq_ok.mp h
  obtain ⟨year, hy, h⟩ := bind_eq_ok.mp h
  cases h
  unfold ClassArgs.validate
  rw [hc, ht, hy]
  rfl

end Service

namespace Session

variable {s : Session} {steps : List Step} {args : ReportArgs} {query : ReportQuery}

/-! ### Rosters -/

/-- The roster of a class has no place without a student, lists each number once, and lists every number that
was marked in the class. -/
structure CompleteRoster (members : List (Option (Student String))) (marks : List Marking)
    (place : ClassTerm) : Prop where
  nonempty : members ≠ []
  named : none ∉ members
  nodup : ((members.filterMap id).map (·.number)).Nodup
  marked : ∀ m ∈ marks, m.key.place = place → ∃ x, some x ∈ members ∧ x.number = m.number

theorem CompleteRoster.length_students {members : List (Option (Student String))} {marks : List Marking}
    {place : ClassTerm} (h : CompleteRoster members marks place) :
    (members.filterMap id).length = members.length := by
  rw [List.length_filterMap_eq_countP, List.countP_eq_length]
  intro o ho
  cases o with
  | none => exact absurd ho h.named
  | some x => rfl

/-! ### Metrics and report -/

section Steps

variable {days : List (Day String)} (hd : s.store.down = false) (hv : args.validate = .ok query)
  (hm : s.store.members query.place ≠ [])
  (hdays : dailyMetrics (s.store.classRecords query.place query.span) (s.store.members query.place).length =
    .ok days)
include hd hv hm hdays

theorem step_daily : (s.step (.daily args)).1 = .ok (.days days) := by
  rw [step_daily_of_validate hd hv hm, hdays]
  rfl

theorem reportOn_of_step {report : AttendanceReport String}
    (h : (s.step (.report args)).1 = .ok (.report report)) :
    reportOn query days (s.store.members query.place).length = .ok report := by
  rw [step_report_of_validate hd hv hm, hdays] at h
  simp only [bind, Except.bind] at h
  cases hreport : reportOn query days (s.store.members query.place).length with
  | error f =>
      rw [hreport] at h
      cases h
  | ok r =>
      rw [hreport] at h
      cases h
      rfl

end Steps

/-! ### After a run -/

section After

variable (hr : s.store.records = []) (hi : s.store.lastId = 0) (hp : ∀ r, Step.put r ∉ steps)
  (hs : s.StableStudents steps)
include hr hi hp hs

/-- A complete roster knows every student with a record in the class. -/
theorem covers_after {place : ClassTerm}
    (h : CompleteRoster ((s.after steps).store.members place) (s.marks steps) place) :
    (s.after steps).store.Covers place (((s.after steps).store.members place).filterMap id) where
  nodup := h.nodup
  known r hmem hplace := by
    obtain ⟨m, hm, hk, hnumber⟩ := Store.number_of_record (reflects_run hr hi hp) hs.identified hmem
    obtain ⟨x, hx, hn⟩ := h.marked m hm (by rw [hk]; exact hplace)
    exact ⟨x, List.mem_filterMap.mpr ⟨some x, hx, rfl⟩, (hnumber x.number).mpr hn.symm⟩

theorem oneIdEach_after : (s.after steps).store.OneIdEach :=
  Store.oneIdEach_of_identified (reflects_run hr hi hp) hs.identified

/-- After a run from a store without records, in which no record is put, the store stays up and students can
be told apart: the metrics of a class with a complete roster count, day by day, the entries of the view of the
date, the present ones and the marked but not present ones, and all rates of its report lie between 0 and
100. -/
theorem daily_agrees (hd : s.store.down = false) (hb : Step.breakStore ∉ steps)
    (hv : args.validate = .ok query)
    (hroster : CompleteRoster ((s.after steps).store.members query.place) (s.marks steps) query.place) :
    ∃ days, ((s.after steps).step (.daily args)).1 = .ok (.days days) ∧
      (∀ d ∈ days, d.actual + d.absentCount ≤ d.possible ∧ IsPercentage d.rate ∧
        (∃ view : ClassArgs, view.validate (s.after steps).today = .ok (query.place, d.date)) ∧
        ∀ view : ClassArgs, view.validate (s.after steps).today = .ok (query.place, d.date) →
          ∃ entries, ((s.after steps).step (.classView view)).1 = .ok (.classEntries entries) ∧
            Store.DayShown entries d) ∧
      ∀ report, ((s.after steps).step (.report args)).1 = .ok (.report report) → report.days = days ∧
        (∀ w ∈ report.weeks, IsPercentage w.rate) ∧ IsPercentage report.overall.rate := by
  have hdown := down_after hd hb
  have hone := oneIdEach_after hr hi hp hs
  have hcovers := covers_after hr hi hp hs hroster
  obtain ⟨days, hdays⟩ := Store.exists_dailyMetrics hone hcovers query.span
  have hshown : ∀ d ∈ days, Store.DayShown ((s.after steps).store.viewOf query.place d.date
      (((s.after steps).store.members query.place).filterMap id)) d :=
    fun d hmem => Store.dayShown_of_mem hone hcovers hdays hmem
  have hcounts : ∀ d ∈ days, 0 ≤ d.actual ∧ d.actual ≤ d.possible := by
    intro d hmem
    have h := (hshown d hmem).counts
    omega
  have hof := daysOf_of_ok hdays
  rw [hroster.length_students] at hdays
  refine ⟨days, step_daily hdown hv hroster.nonempty hdays, fun d hmem => ⟨?_, ?_, ?_, ?_⟩,
    fun report hreport => ?_⟩
  · exact (hshown d hmem).counts.2.2
  · have hrate := hof.rates d hmem
    rw [← hof.possible d hmem] at hrate
    exact isPercentage_attendanceRate (hcounts d hmem).1 (hcounts d hmem).2 hrate
  · exact ⟨_, ClassArgs.validate_of_report hv d.date _⟩
  · intro view hview
    exact ⟨_, step_classView_of_validate hdown hview hroster.nonempty, hshown d hmem⟩
  · obtain ⟨_, _, rfl, hw, ho⟩ :=
      eq_of_reportOn (reportOn_of_step hdown hv hroster.nonempty hdays hreport)
    exact ⟨rfl, isPercentage_of_weeks hcounts hw, isPercentage_of_overall hcounts ho⟩

end After

/-- The small school with a second student and a second class, in which both students are enrolled. -/
def pair : Session :=
  let adams : Student String := ⟨7, "17", "Adams", "Zoe", none⟩
  let banda : Student String := ⟨8, "18", "Banda", "Alice", none⟩
  { small with store := (small.store.addStudent banda).enrol ⟨"5C", 1, 2024⟩ [some adams, some banda] }

/-- A mark of the first student in that class. -/
def pairMark (present : Bool) : Step :=
  .mark { studentNumber := .text "17", className := .text "5C", term := .int 1, year := .int 2024,
          present := .bool present, date := .text "2024-01-02" }

/-- One of the two is marked, and marked again, and the other one is not. -/
theorem daily_agrees_pair :
    let steps := [pairMark false, pairMark true]
    let args : ReportArgs := { className := .text "5C", term := .int 1, year := .int 2024 }
    ∃ days, ((pair.after steps).step (.daily args)).1 = .ok (.days days) ∧
      (days.map fun d => (d.possible, d.actual, d.absentCount)) = [(2, 1, 0)] ∧
      (∀ d ∈ days, IsPercentage d.rate) ∧
      ∀ report, ((pair.after steps).step (.report args)).1 = .ok (.report report) → report.days = days ∧
        (∀ w ∈ report.weeks, IsPercentage w.rate) ∧ IsPercentage report.overall.rate := by
  intro steps args
  have hs : pair.StableStudents steps := by
    apply StableStudents.of_fixed
    · simp [steps, pairMark]
    · simp [pair, small, Store.addStudent, Store.enrol, putUnder]
  have hmarked : ∀ m ∈ pair.marks steps, m.number = "17" := by decide +kernel
  have hroster : CompleteRoster ((pair.after steps).store.members ⟨"5C", 1, 2024⟩) (pair.marks steps)
      ⟨"5C", 1, 2024⟩ :=
    ⟨by decide, by decide, by decide, fun m hm _ =>
      ⟨⟨7, "17", "Adams", "Zoe", none⟩, by decide, (hmarked m hm).symm⟩⟩
  have hv : args.validate = .ok ⟨⟨"5C", 1, 2024⟩, {}⟩ := by rfl
  obtain ⟨days, hdays, hagree, hreport⟩ := daily_agrees (s := pair) rfl rfl
    (by simp [steps, pairMark]) hs rfl (by simp [steps, pairMark]) hv hroster
  refine ⟨days, hdays, ?_, fun d hd => (hagree d hd).2.1, hreport⟩
  have hcounts : (((classDays Store.register args).outcome (pair.after steps).store).1.map fun days =>
      days.map fun d => (d.possible, d.actual, d.absentCount)).toOption = some [(2, 1, 0)] := by decide +kernel
  simp only [step, Step.useCase?, Action.outcome_map] at hdays
  cases hd : ((classDays Store.register args).outcome (pair.after steps).store).1 with
  | error f =>
      rw [hd] at hdays
      cases hdays
  | ok found =>
      rw [hd] at hdays hcounts
      cases hdays
      exact Option.some.inj hcounts

end Session
end SchoolRegister
