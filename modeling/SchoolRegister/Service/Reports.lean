import SchoolRegister.Service.Attendance
import SchoolRegister.Report.Weekly
import SchoolRegister.Report.ClassSummary

/-! # Reports of a class

The use cases around whole classes: the daily metrics, the full report with weeks, trends and overall
statistics, and the summary by student.  The first two need a roster; the summary does not. -/

namespace SchoolRegister.Service

open Argument Report

/-- The arguments of a report, as they came. -/
structure ReportArgs where
  className : Value := .null
  term : Value := .null
  year : Value := .null
  start : Value := .null
  finish : Value := .null

/-- A report with valid arguments. -/
structure ReportQuery where
  place : ClassTerm
  span : Span

/-- The report that the arguments ask for; the dates are looked at first. -/
def ReportArgs.validate (args : ReportArgs) : Except Failure ReportQuery := do
  let start ← toOptionalDate args.start "start_date"
  let finish ← toOptionalDate args.finish "end_date"
  checkRange start finish
  let className ← requireText args.className "class_name"
  let term ← requirePositive args.term "term_num"
  let year ← requirePositive args.year "year"
  return ⟨⟨className, term, year⟩, ⟨start, finish⟩⟩

/-- The period of a report: the dates that were asked for, or else the first and the last date of
the daily metrics, as texts that are empty when there is no date. -/
structure Period where
  start : String
  finish : String

/-- All that is reported of a class in a term. -/
structure AttendanceReport (N : Type) where
  place : ClassTerm
  period : Period
  totalStudents : Nat
  days : List (Day N)
  weeks : List Week
  trends : List Trend
  overall : Overall

variable {σ N : Type}

def periodOf (span : Span) (days : List (Day N)) : Period :=
  ⟨Date.textOrEmpty (span.first.or (days.head?.map (·.date))),
    Date.textOrEmpty (span.last.or (days.getLast?.map (·.date)))⟩

/-- The daily metrics that a query asks for, and the size of the roster. -/
def daysOf (register : Register σ N) (query : ReportQuery) : Action σ (List (Day N) × Nat) := do
  let enrolments ← roster register query.place
  let records ← register.classRecords query.place query.span
  let days ← Action.ofExcept (dailyMetrics records enrolments.length)
  return (days, enrolments.length)

def classDays (register : Register σ N) (args : ReportArgs) : Action σ (List (Day N)) := do
  let query ← Action.ofExcept args.validate
  return (← daysOf register query).1

def reportOn (query : ReportQuery) (days : List (Day N)) (total : Nat) :
    Except Failure (AttendanceReport N) := do
  let weeks ← weeklySummaries days
  let trends ← classifyTrends weeks
  let overall ← overallStats days
  return ⟨query.place, periodOf query.span days, total, days, weeks, trends, overall⟩

/-- The attendance report of a class. -/
def classReport (register : Register σ N) (args : ReportArgs) : Action σ (AttendanceReport N) := do
  let query ← Action.ofExcept args.validate
  let (days, total) ← daysOf register query
  Action.ofExcept (reportOn query days total)

/-- The summary of a class by student. -/
def classSummary [Name N] (register : Register σ N) (className term year : Value) :
    Action σ (ClassSummary N) := do
  let query ← Action.ofExcept (ReportArgs.validate { className, term, year })
  let records ← register.classRecords query.place query.span
  Action.ofExcept (summarize records query.place)

def AttendanceReport.document [Name N] (r : AttendanceReport N) : Value :=
  .dict [("class_name", .text r.place.className), ("term_num", .int r.place.term),
    ("year", .int r.place.year),
    ("report_period",
      .dict [("start_date", .text r.period.start), ("end_date", .text r.period.finish)]),
    ("total_students", .int r.totalStudents),
    ("daily_metrics", .list (r.days.map (·.document))),
    ("weekly_summaries", .list (r.weeks.map (·.document))),
    ("trends", .list (r.trends.map (·.document))),
    ("overall_stats", r.overall.document)]

end SchoolRegister.Service
