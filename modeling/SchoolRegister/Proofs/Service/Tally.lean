import SchoolRegister.Proofs.Report.Completion
import SchoolRegister.Proofs.Report.Tally
import SchoolRegister.Proofs.Service.Reading
import SchoolRegister.Proofs.Session.Records

/-! # The report and the summary of a class

A store that is up has a report on a class, unless a record lies in the week in which the calendar ends
(`Store.exists_classReport`).  Whenever there is a report on a class without dates, there is a summary of the
class as well (`Store.exists_tally`).  The two go back to the same records of the store, so they agree on all
that they count (`Store.Tally`). -/

namespace SchoolRegister

open Argument Report Service

namespace Service

variable {args : ReportArgs} {query : ReportQuery}

theorem ReportArgs.validate_of_missing (hs : isMissing args.start = true)
    (hf : isMissing args.finish = true) : args.validate =
      ReportArgs.validate { className := args.className, term := args.term, year := args.year } := by
  unfold ReportArgs.validate toOptionalDate
  rw [if_pos hs, if_pos hf]
  rfl

theorem ReportArgs.span_of_missing (hs : isMissing args.start = true)
    (hf : isMissing args.finish = true) (h : args.validate = .ok query) : query.span = {} := by
  unfold ReportArgs.validate toOptionalDate at h
  rw [if_pos hs, if_pos hf] at h
  obtain ⟨start, e, h⟩ := bind_eq_ok.mp h
  obtain ⟨finish, e', h⟩ := bind_eq_ok.mp h
  cases e
  cases e'
  obtain ⟨_, _, h⟩ := bind_eq_ok.mp h
  obtain ⟨_, _, h⟩ := bind_eq_ok.mp h
  obtain ⟨_, _, h⟩ := bind_eq_ok.mp h
  obtain ⟨_, _, h⟩ := bind_eq_ok.mp h
  cases h
  rfl

theorem eq_of_reportOn {days : List (Day String)} {total : Nat} {report : AttendanceReport String}
    (h : reportOn query days total = .ok report) :
    report.place = query.place ∧ report.totalStudents = total ∧ report.days = days ∧
      weeklySummaries days = .ok report.weeks ∧ overallStats days = .ok report.overall := by
  obtain ⟨weeks, hw, h⟩ := bind_eq_ok.mp h
  obtain ⟨trends, _, h⟩ := bind_eq_ok.mp h
  obtain ⟨overall, ho, h⟩ := bind_eq_ok.mp h
  cases h
  exact ⟨rfl, rfl, rfl, hw, ho⟩

theorem period_of_reportOn {days : List (Day String)} {total : Nat} {report : AttendanceReport String}
    (h : reportOn query days total = .ok report) : report.period = periodOf query.span days := by
  obtain ⟨weeks, _, h⟩ := bind_eq_ok.mp h
  obtain ⟨trends, _, h⟩ := bind_eq_ok.mp h
  obtain ⟨overall, _, h⟩ := bind_eq_ok.mp h
  cases h
  rfl

end Service

namespace Store

variable {s : Store} {place : ClassTerm}

/-- How many records of a class have a student and meet a condition. -/
def countIn (s : Store) (place : ClassTerm) (p : Record String → Bool) : Nat :=
  s.records.countP fun r => r.key.place = place && (r.student.isSome && p r)

/-- What is counted of the list of a class is counted of the records of the store. -/
theorem countP_classRecords (p : Record String → Bool) :
    (counted (s.classRecords place {})).countP (fun q => p q.1) = s.countIn place p := by
  have hp : (s.classRecords place {}).Perm (s.records.filter fun r => r.key.place = place) := by
    refine (List.mergeSort_perm _ _).trans (.of_eq (List.filter_congr fun r _ => ?_))
    rw [show Span.contains {} r.date = true from rfl, Bool.and_true]
  rw [(counted_perm hp).countP_eq, counted, List.countP_filterMap, List.countP_filter, countIn]
  refine List.countP_congr fun r _ => ?_
  cases r.student <;> simp [and_comm]

/-- The report on a class and its summary count the same records of a store. -/
structure Tally (s : Store) (report : AttendanceReport String) (summary : ClassSummary String) :
    Prop where
  place : summary.place = report.place
  /-- The summary counts the records of the class that have a student. -/
  records : summary.records = s.countIn report.place fun _ => true
  present : summary.present = s.countIn report.place fun r => r.present
  absent : summary.absent = s.countIn report.place fun r => !r.present
  actual_days : (report.days.map (·.actual)).sum = summary.present
  actual_weeks : (report.weeks.map (·.actual)).sum = summary.present
  actual_overall : report.overall.actual = summary.present
  absent_days : (report.days.map (·.absentCount)).sum = summary.absent
  days_overall : report.overall.days = report.days.length
  days_weeks : (report.weeks.map (·.days)).sum = report.days.length
  /-- The possible attendance is that of the roster on every day. -/
  roster : report.totalStudents = (s.members report.place).length
  possible_weeks : (report.weeks.map (·.possible)).sum = report.totalStudents * report.days.length
  possible_overall : report.overall.possible = report.totalStudents * report.days.length
  total_students : (summary.students.map (·.total)).sum = summary.records
  present_students : (summary.students.map (·.present)).sum = summary.present
  absent_students : (summary.students.map (·.absent)).sum = summary.absent
  /-- There is one entry for each number that has a record. -/
  numbers_nodup : (summary.students.map (·.student.number)).Nodup
  mem_numbers : ∀ number, number ∈ summary.students.map (·.student.number) ↔
    ∃ r ∈ s.records, r.key.place = report.place ∧ ∃ x, r.student = some x ∧ x.number = number
  /-- A number is among the absent students of the days as often as its entry says. -/
  absences : ∀ number,
    (report.days.flatMap (·.absent)).countP (·.number == number) = summary.absences number

theorem mem_studentNumbers {number : String} :
    number ∈ studentNumbers (s.classRecords place {}) ↔
      ∃ r ∈ s.records, r.key.place = place ∧ ∃ x, r.student = some x ∧ x.number = number := by
  rw [studentNumbers, mem_distinct, List.mem_map]
  constructor
  · rintro ⟨p, hp, hn⟩
    obtain ⟨r, hr, hsome⟩ := List.mem_filterMap.mp hp
    obtain ⟨x, hx, rfl⟩ := Option.map_eq_some_iff.mp hsome
    obtain ⟨hr, hplace, _⟩ := mem_classRecords.mp hr
    exact ⟨r, hr, hplace, x, hx, hn⟩
  · rintro ⟨r, hr, hplace, x, hx, hn⟩
    refine ⟨(r, x), List.mem_filterMap.mpr ⟨r, mem_classRecords.mpr ⟨hr, hplace, rfl⟩, ?_⟩, hn⟩
    rw [hx]
    rfl

theorem tally_of_list {query : ReportQuery} {days : List (Day String)}
    {report : AttendanceReport String} {summary : ClassSummary String}
    (hd : dailyMetrics (s.classRecords query.place {}) (s.members query.place).length = .ok days)
    (hr : reportOn query days (s.members query.place).length = .ok report)
    (hplace : summary.place = query.place)
    (hs : Summarized (s.classRecords query.place {}) summary) : s.Tally report summary := by
  obtain ⟨hp, ht, hdays, hw, ho⟩ := eq_of_reportOn hr
  obtain ⟨hopossible, hoactual, hodays⟩ := counts_of_overallStats ho
  have hactual : totalActual days = summary.present := by
    rw [totalActual_eq_sum, hs.present]
    exact sum_days (fun _ _ => rfl) hd
  have hpossible := totalPossible_dailyMetrics hd
  subst hdays
  rw [← hp] at hs hplace
  refine
    { place := hplace
      records := ?_
      present := hs.present.trans (countP_classRecords _)
      absent := hs.absent.trans (countP_classRecords fun r => !r.present)
      actual_days := by rw [← totalActual_eq_sum, hactual]
      actual_weeks := by rw [sum_actual_weeks hw, hactual]
      actual_overall := by rw [hoactual, hactual]
      absent_days := ?_
      days_overall := hodays
      days_weeks := sum_days_weeks hw
      roster := by rw [ht, hp]
      possible_weeks := by rw [sum_possible_weeks hw, hpossible, ht]
      possible_overall := by rw [hopossible, hpossible, ht]
      total_students := ?_
      present_students := ?_
      absent_students := ?_
      numbers_nodup := hs.numbers_perm.nodup_iff.mpr (nodup_distinct _)
      mem_numbers := fun number => hs.numbers_perm.mem_iff.trans mem_studentNumbers
      absences := fun number => (countP_absent hd number).trans (hp ▸ (hs.absences_eq number).symm) }
  · rw [hs.records, ← countP_classRecords, List.countP_true]
  · rw [hs.absent, hp]
    exact sum_days (fun date _ => congrArg Nat.cast (length_absentOn _ date)) hd
  · rw [hs.records, ← List.countP_true]
    exact hs.sum_students (g := (·.total)) fun number => by rw [List.countP_true]; rfl
  · rw [hs.present]
    exact hs.sum_students (g := (·.present)) fun number => rfl
  · rw [hs.absent]
    exact hs.sum_students (g := (·.absent)) fun number => rfl

/-- A store that is up has a report on a class with a roster, if all its records lie before the week in which the
calendar ends. -/
theorem exists_classReport {args : ReportArgs} {query : ReportQuery} (hquery : args.validate = .ok query)
    (hd : s.down = false) (hm : s.members query.place ≠ []) (hlength : s.records.length < 10 ^ 20)
    (hbefore : ∀ r ∈ s.records, r.date < Date.lastMonday) :
    ∃ report, ((classReport register args).outcome s).1 = .ok report ∧ report.place = query.place := by
  have hlist := Nat.lt_of_le_of_lt (s.length_classRecords_le query.place query.span) hlength
  obtain ⟨days, hdays, hof⟩ := exists_daysOf hlist (s.members query.place).length
  have hdates : ∀ d ∈ days, d.date < Date.lastMonday := by
    intro d hmem
    obtain ⟨r, hr, _, hdate⟩ := (hof.dates d.date).mp ⟨d, hmem, rfl⟩
    exact hdate ▸ hbefore r (mem_classRecords.mp hr).1
  obtain ⟨report, hreport, _⟩ := exists_reportOn hdays hlist hdates query (s.members query.place).length
  rw [show (classReport register args).outcome s = _ from answers_classReport args]
  refine ⟨report, bind_eq_ok.mpr ⟨query, hquery, bind_eq_ok.mpr ⟨(days, _), ?_, hreport⟩⟩,
    (eq_of_reportOn hreport).1⟩
  rw [daysOf_eq hd hm, hdays]
  rfl

/-- Whenever there is a report on a class without dates, there is a summary of the class, and both count
the same records. -/
theorem exists_tally {args : ReportArgs} {report : AttendanceReport String}
    (hs : isMissing args.start = true) (hf : isMissing args.finish = true)
    (h : ((classReport register args).outcome s).1 = .ok report) :
    ∃ summary, ((classSummary register args.className args.term args.year).outcome s).1 = .ok summary ∧
      s.Tally report summary := by
  rw [show (classReport register args).outcome s = _ from answers_classReport args] at h
  obtain ⟨query, hq, h⟩ := bind_eq_ok.mp h
  obtain ⟨⟨days, total⟩, hdays, h⟩ := bind_eq_ok.mp h
  obtain ⟨enrolments, he, hdays⟩ := bind_eq_ok.mp hdays
  obtain ⟨records, hl, hdays⟩ := bind_eq_ok.mp hdays
  obtain ⟨days, hd, hdays⟩ := bind_eq_ok.mp hdays
  cases hdays
  -- the store is not down, and the roster is not empty
  have he' : enrolments = s.enrolled query.place := by
    unfold rosterOf at he
    split at he <;> cases he
    rfl
  have hl' : records = s.classRecords query.place {} ∧ s.down = false := by
    unfold listOf at hl
    rw [ReportArgs.span_of_missing hs hf hq] at hl
    split at hl <;> cases hl
    exact ⟨rfl, by simpa using ‹¬ s.down = true›⟩
  obtain ⟨rfl, hdown⟩ := hl'
  subst he'
  rw [length_enrolled] at hd h
  obtain ⟨summary, hsummary, hplace, hcounts⟩ :=
    exists_summarize (s.classRecords query.place {}) query.place
  refine ⟨summary, ?_, tally_of_list hd h hplace hcounts⟩
  rw [show (classSummary register args.className args.term args.year).outcome s = _ from
    answers_classSummary args.className args.term args.year,
    ← ReportArgs.validate_of_missing hs hf, hq]
  refine bind_eq_ok.mpr ⟨query, rfl, bind_eq_ok.mpr ⟨s.classRecords query.place {}, ?_, hsummary⟩⟩
  rw [listOf, hdown, ReportArgs.span_of_missing hs hf hq]
  rfl

/-- Two students are marked in two weeks, once as present, and one record has no student. -/
theorem exists_tally_small :
    let other : Student String := ⟨8, "18", "Brown", "Max", some "m"⟩
    let mark (number : String) (present : Bool) (date : String) : Step :=
      .mark { studentNumber := .text number, className := .text "5B", term := .int 1, year := .int 2024,
              present := .bool present, date := .text date }
    let s := (Session.small.after [.addStudent other,
      .enrol ⟨"5B", 1, 2024⟩ [.number "18"],
      mark "17" true "2024-01-09", mark "18" false "2024-01-02", mark "17" false "2024-01-02",
      .put ⟨9, 70, "5B", 1, 2024, ⟨2024, 1, 3, by decide⟩, true, none⟩]).store
    let args : ReportArgs :=
      { className := .text "5B", term := .int 1, year := .int 2024, finish := .text " " }
    s.records.length = 4 ∧ ∃ report summary, ((classReport register args).outcome s).1 = .ok report ∧
      ((classSummary register args.className args.term args.year).outcome s).1 = .ok summary ∧
        summary.records = 3 ∧ summary.present = 1 ∧ summary.absent = 2 ∧ report.totalStudents = 3 ∧
          s.Tally report summary := by
  intro other mark s args
  have hquery : args.validate = .ok ⟨⟨"5B", 1, 2024⟩, {}⟩ := rfl
  obtain ⟨report, h, hplace⟩ :=
    exists_classReport hquery (s := s) rfl (by decide +kernel) (by decide +kernel) (by decide +kernel)
  obtain ⟨summary, hs, ht⟩ := exists_tally rfl rfl h
  refine ⟨by decide +kernel, report, summary, h, hs, ?_, ?_, ?_, ?_, ht⟩
  · rw [ht.records, hplace]
    decide +kernel
  · rw [ht.present, hplace]
    decide +kernel
  · rw [ht.absent, hplace]
    decide +kernel
  · rw [ht.roster, hplace]
    decide +kernel

end Store
end SchoolRegister
