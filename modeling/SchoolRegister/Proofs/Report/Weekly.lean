import SchoolRegister.Proofs.Report.Daily
import SchoolRegister.Service.Reports

/-! # Weeks and reports of days that are alike

Weeks, trends and overall statistics are made from the dates and counts of the days: they stay the same
under a change that keeps these (`weeklySummaries_map`, `overallStats_map`), as leaving out the lists of
absent students does.  So the reports on days that are alike are alike as well: they differ in the order
of students of one surname on a day (`reportOn_alike`). -/

namespace SchoolRegister.Report

open Service

variable {N M : Type}

/-- A change of days that keeps their dates and what is counted in them. -/
structure KeepsCounts (g : Day N → Day M) : Prop where
  date : ∀ d, (g d).date = d.date
  possible : ∀ d, (g d).possible = d.possible
  actual : ∀ d, (g d).actual = d.actual

section KeepsCounts

variable {g : Day N → Day M}

theorem totalPossible_map (hg : KeepsCounts g) (days : List (Day N)) :
    totalPossible (days.map g) = totalPossible days := by
  rw [totalPossible, List.foldr_map]
  simp only [hg.possible]
  rfl

theorem totalActual_map (hg : KeepsCounts g) (days : List (Day N)) :
    totalActual (days.map g) = totalActual days := by
  rw [totalActual, List.foldr_map]
  simp only [hg.actual]
  rfl

/-- A day of a week, changed. -/
def placedMap (g : Day N → Day M) (p : Date × Day N) : Date × Day M := (p.1, g p.2)

theorem withWeekStart_map (hg : KeepsCounts g) (days : List (Day N)) :
    withWeekStart (days.map g) = (withWeekStart days).map fun l => l.map (placedMap g) := by
  unfold withWeekStart
  apply mapM_map_eq
  intro d
  rw [hg.date]
  cases d.date.weekStart? <;> rfl

theorem weekOf_map (hg : KeepsCounts g) (placed : List (Date × Day N)) (start : Date) (number : Int) :
    weekOf (placed.map (placedMap g)) start number = weekOf placed start number := by
  have hdays : ((placed.map (placedMap g)).filter fun p => p.1 = start).map (·.2) =
      ((placed.filter fun p => p.1 = start).map (·.2)).map g := by
    rw [List.filter_map, List.map_map, List.map_map]
    rfl
  simp only [weekOf, hdays, totalPossible_map hg, totalActual_map hg, List.length_map]

theorem weeklySummaries_map (hg : KeepsCounts g) (days : List (Day N)) :
    weeklySummaries (days.map g) = weeklySummaries days := by
  unfold weeklySummaries
  rw [withWeekStart_map hg]
  cases withWeekStart days with
  | error f => rfl
  | ok placed =>
      have hstarts : (placed.map (placedMap g)).map (·.1) = placed.map (·.1) := by
        rw [List.map_map]
        rfl
      show (((distinct ((placed.map (placedMap g)).map (·.1))).mergeSort fun a b => a ≤ b).zipIdx 1).mapM
        (fun p => weekOf (placed.map (placedMap g)) p.1 p.2) = _
      rw [hstarts]
      simp only [weekOf_map hg]
      rfl

theorem overallStats_map (hg : KeepsCounts g) (days : List (Day N)) :
    overallStats (days.map g) = overallStats days := by
  simp only [overallStats, totalPossible_map hg, totalActual_map hg, List.length_map]

theorem periodOf_map (hg : KeepsCounts g) (span : Span) (days : List (Day N)) :
    periodOf span (days.map g) = periodOf span days := by
  unfold periodOf
  rw [List.head?_map, List.getLast?_map, Option.map_map, Option.map_map]
  simp only [Function.comp_def, hg.date]

end KeepsCounts

/-! ### Days without their absent students -/

/-- A day without its list of absent students. -/
def Day.bare (d : Day N) : Day N := { d with absent := [] }

theorem keepsCounts_bare : KeepsCounts (Day.bare : Day N → Day N) :=
  ⟨fun _ => rfl, fun _ => rfl, fun _ => rfl⟩

/-! ### Days that are alike -/

theorem Day.Alike.bare {a b : Day String} (h : a.Alike b) : a.bare = b.bare := by
  unfold Day.bare
  rw [h.date, h.possible, h.actual, h.absentCount, h.rate]

theorem map_bare_of_alike {days days' : List (Day String)} (h : List.Forall₂ Day.Alike days days') :
    days.map Day.bare = days'.map Day.bare := by
  induction h with
  | nil => rfl
  | cons hd _ ih => rw [List.map_cons, List.map_cons, hd.bare, ih]

end SchoolRegister.Report

namespace SchoolRegister.Service

open Report

/-- Two reports are alike: their days are, and all the rest is the same. -/
structure AttendanceReport.Alike (a b : AttendanceReport String) : Prop where
  place : a.place = b.place
  period : a.period = b.period
  totalStudents : a.totalStudents = b.totalStudents
  days : List.Forall₂ Day.Alike a.days b.days
  weeks : a.weeks = b.weeks
  trends : a.trends = b.trends
  overall : a.overall = b.overall

theorem reportOn_alike {days days' : List (Day String)} (h : List.Forall₂ Day.Alike days days')
    (query : ReportQuery) (total : Nat) :
    Alike AttendanceReport.Alike (reportOn query days total) (reportOn query days' total) := by
  have hb := map_bare_of_alike h
  have hperiod : periodOf query.span days = periodOf query.span days' := by
    rw [← periodOf_map keepsCounts_bare, hb, periodOf_map keepsCounts_bare]
  have hweeks : weeklySummaries days = weeklySummaries days' := by
    rw [← weeklySummaries_map keepsCounts_bare, hb, weeklySummaries_map keepsCounts_bare]
  have hoverall : overallStats days = overallStats days' := by
    rw [← overallStats_map keepsCounts_bare, hb, overallStats_map keepsCounts_bare]
  unfold reportOn
  rw [hweeks, hoverall]
  refine (Alike.refl (fun _ => rfl) (weeklySummaries days')).bind fun weeks weeks' hw => ?_
  subst hw
  refine (Alike.refl (fun _ => rfl) (classifyTrends weeks)).bind fun trends trends' ht => ?_
  refine (Alike.refl (fun _ => rfl) (overallStats days')).bind fun overall overall' ho => ?_
  exact ⟨rfl, hperiod, rfl, h, rfl, ht, ho⟩

end SchoolRegister.Service
