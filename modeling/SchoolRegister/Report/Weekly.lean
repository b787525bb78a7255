import SchoolRegister.Report.Daily
import SchoolRegister.Calendar.Week

/-! # Weeks, trends and overall statistics

The days of a report are gathered into weeks that start on Monday and are numbered from 1.  With two
weeks or more, each has a trend against the one before it.  The overall statistics add up all days. -/

namespace SchoolRegister.Report

open Number

/-- What is reported of one week. -/
structure Week where
  start : Date
  finish : Date
  number : Int
  possible : Int
  actual : Int
  rate : Binary64
  days : Nat

/-- The movement of the attendance rate in one week. -/
structure Trend where
  period : String
  rate : Binary64
  label : TrendLabel

/-- The totals of all days. -/
structure Overall where
  possible : Int
  actual : Int
  rate : Binary64
  days : Nat

variable {N : Type}

def totalPossible (days : List (Day N)) : Int := days.foldr (fun d n => d.possible + n) 0

def totalActual (days : List (Day N)) : Int := days.foldr (fun d n => d.actual + n) 0

/-- Each day with the Monday of its week. -/
def withWeekStart (days : List (Day N)) : Except Failure (List (Date × Day N)) :=
  days.mapM fun d => d.date.weekStart?.elim (.error .beyondCalendar) fun s => .ok (s, d)

/-- What is reported of the week with a number that starts on a date. -/
def weekOf (placed : List (Date × Day N)) (start : Date) (number : Int) : Except Failure Week := do
  let days := (placed.filter fun p => p.1 = start).map (·.2)
  let possible := totalPossible days
  let actual := totalActual days
  let finish ← start.weekEnd?.elim (.error .beyondCalendar) .ok
  let rate ← attendanceRate actual possible
  return ⟨start, finish, number, possible, actual, rate, days.length⟩

/-- What is reported of each week that holds one of the days. -/
def weeklySummaries (days : List (Day N)) : Except Failure (List Week) := do
  let placed ← withWeekStart days
  let starts := (distinct (placed.map (·.1))).mergeSort fun a b => a ≤ b
  (starts.zipIdx 1).mapM fun (start, number) => weekOf placed start number

/-- The trends of weeks after an earlier one. -/
def trendsAfter (previous : Binary64) : List Week → Except Failure (List Trend)
  | [] => .ok []
  | w :: rest => do
    let label ← classifyTrend (.ofDouble previous) (.ofDouble w.rate)
    return ⟨s!"Week {w.number}", w.rate, label⟩ :: (← trendsAfter w.rate rest)

/-- The trend of each week against the one before it, the first being stable; a single week has
none. -/
def classifyTrends : List Week → Except Failure (List Trend)
  | first :: second :: rest => do
    return ⟨s!"Week {first.number}", first.rate, .stable⟩ ::
      (← trendsAfter first.rate (second :: rest))
  | _ => .ok []

def overallStats (days : List (Day N)) : Except Failure Overall := do
  let possible := totalPossible days
  let actual := totalActual days
  let rate ← attendanceRate actual possible
  return ⟨possible, actual, rate, days.length⟩

/-! ### As answers -/

def Week.document (w : Week) : Value :=
  .dict [("week_start_date", .text w.start.text), ("week_end_date", .text w.finish.text),
    ("week_number", .int w.number), ("total_possible_attendance", .int w.possible),
    ("total_actual_attendance", .int w.actual), ("average_attendance_rate", .float w.rate),
    ("days_with_attendance", .int w.days)]

def Trend.document (t : Trend) : Value :=
  .dict [("period", .text t.period), ("attendance_rate", .float t.rate),
    ("trend", .text t.label.name)]

def Overall.document (o : Overall) : Value :=
  .dict [("total_possible_attendance", .int o.possible), ("total_actual_attendance", .int o.actual),
    ("overall_attendance_rate", .float o.rate), ("total_days_marked", .int o.days)]

end SchoolRegister.Report
