import SchoolRegister.Proofs.Number.Sizes
import SchoolRegister.Proofs.Report.Averages
import SchoolRegister.Service.Reports

/-! # Which reports can be completed

The daily metrics of fewer than `10 ^ 20` records have rates of counts that are not too large (`OfCounts`).
Such rates can always be compared (`exists_classifyTrend`), so after the daily metrics nothing can go wrong but
the end of the last week: there is a report on the days unless one of them lies in the week in which the
calendar ends (`exists_reportOn`, `reportOn_beyond`). -/

namespace SchoolRegister.Report

open Number Date Service

/-! ### Comparable rates -/

/-- The rate is that of a count below `10 ^ 20`. -/
def OfCounts (rate : Binary64) : Prop :=
  ∃ actual possible, 0 ≤ actual ∧ actual < 10 ^ 20 ∧ attendanceRate actual possible = .ok rate

variable {rate rate' : Binary64}

/-- In decimal arithmetic, such a rate is a number far below the largest ones. -/
theorem OfCounts.exists_ofDouble (h : OfCounts rate) :
    ∃ x, Quantity.ofDouble rate = .finite x ∧ x.size < 10 ^ 24 := by
  obtain ⟨actual, possible, hnonneg, hlt, hrate⟩ := h
  have hle := rateHundredths_le hnonneg possible
  rw [attendanceRate_eq hnonneg hlt] at hrate
  obtain ⟨m, e, hfinite, hsize⟩ :=
    Binary64.exists_finite_ofHundredths (c := (rateHundredths actual possible).toNat) (by omega)
  rw [← Except.ok.inj hrate, hfinite]
  have hcast : ((rateHundredths actual possible).toNat : ℚ) < 1000000000000000000000000 := by
    have : (rateHundredths actual possible).toNat < 1000000000000000000000000 := by omega
    exact_mod_cast this
  have hshortest := Binary64.size_shortestMagnitude_le m e
  refine ⟨⟨false, (Binary64.shortestMagnitude m e).1, (Binary64.shortestMagnitude m e).2⟩, rfl,
    hshortest.trans_lt ?_⟩
  norm_num
  linarith

theorem exists_classifyTrend (h : OfCounts rate) (h' : OfCounts rate') :
    ∃ label, classifyTrend (.ofDouble rate) (.ofDouble rate') = .ok label := by
  obtain ⟨x, hx, hsize⟩ := h.exists_ofDouble
  obtain ⟨y, hy, hsize'⟩ := h'.exists_ofDouble
  have hdiff := Decimal.size_sub_le y x
  have hlarge : (y.sub x).isTooLarge = false := by
    apply Decimal.isTooLarge_eq_false (k := 25) _ (by decide)
    norm_num at hsize hsize' ⊢
    linarith
  rw [hx, hy]
  show ∃ label, (if (y.sub x).isTooLarge then _ else _) = _
  rw [hlarge, if_neg Bool.false_ne_true]
  exact ⟨_, rfl⟩

theorem exists_trendsAfter {weeks : List Week} (h : OfCounts rate) (hweeks : ∀ w ∈ weeks, OfCounts w.rate) :
    ∃ trends, trendsAfter rate weeks = .ok trends := by
  induction weeks generalizing rate with
  | nil => exact ⟨[], rfl⟩
  | cons w rest ih =>
      have hw := hweeks w List.mem_cons_self
      obtain ⟨label, hlabel⟩ := exists_classifyTrend h hw
      obtain ⟨trends, htrends⟩ := ih hw fun v hv => hweeks v (List.mem_cons_of_mem w hv)
      rw [trendsAfter, hlabel, htrends]
      exact ⟨_, rfl⟩

theorem exists_classifyTrends {weeks : List Week} (hweeks : ∀ w ∈ weeks, OfCounts w.rate) :
    ∃ trends, classifyTrends weeks = .ok trends := by
  match weeks with
  | [] => exact ⟨[], rfl⟩
  | [_] => exact ⟨[], rfl⟩
  | first :: second :: rest =>
      obtain ⟨trends, htrends⟩ := exists_trendsAfter (hweeks first List.mem_cons_self)
        fun v hv => hweeks v (List.mem_cons_of_mem first hv)
      rw [classifyTrends, htrends]
      exact ⟨_, rfl⟩

/-! ### Reports on the days of some records -/

theorem sum_natAbs_actual {N : Type} {days : List (Day N)} (h : ∀ d ∈ days, 0 ≤ d.actual) :
    (((days.map fun d => d.actual.natAbs).sum : Nat) : Int) = totalActual days := by
  induction days with
  | nil => rfl
  | cons d rest ih =>
      have hd := h d List.mem_cons_self
      have hrest := ih fun c hc => h c (List.mem_cons_of_mem d hc)
      have hcons : totalActual (d :: rest) = d.actual + totalActual rest := rfl
      rw [List.map_cons, List.sum_cons, hcons]
      omega

section Days

variable {N : Type} {rs : List (Record N)} {total : Int} {days : List (Day N)}
  (hdays : dailyMetrics rs total = .ok days) (hlength : rs.length < 10 ^ 20)
include hdays hlength

theorem sum_natAbs_actual_lt : (days.map fun d => d.actual.natAbs).sum < 10 ^ 20 := by
  have htotal := totalActual_le_length hdays
  have hsum := sum_natAbs_actual (actual_nonneg_of_daysOf (daysOf_of_ok hdays))
  omega

theorem ofCounts_of_mem_weeks {weeks : List Week} (hw : weeklySummaries days = .ok weeks) :
    ∀ w ∈ weeks, OfCounts w.rate := by
  intro w hmem
  have hnonneg := actual_nonneg_of_daysOf (daysOf_of_ok hdays)
  have htotal := totalActual_le_length hdays
  have hweeks := weeksOf_of_ok hw
  have hsub : (days.filter (w.holds ·.date)).Sublist days := List.filter_sublist
  have hactual : w.actual = totalActual (days.filter (w.holds ·.date)) := by
    rw [hweeks.actual w hmem, totalActual_eq_sum]
  have hle := totalActual_le_of_sublist hsub hnonneg
  refine ⟨w.actual, w.possible, ?_, by omega, hweeks.rates w hmem⟩
  rw [hactual]
  exact totalActual_nonneg fun d hd => hnonneg d (hsub.subset hd)

/-- There is no report on a day of the week in which the calendar ends. -/
theorem reportOn_beyond (h : ∃ d ∈ days, lastMonday ≤ d.date) (query : ReportQuery) (size : Nat) :
    reportOn query days size = .error .beyondCalendar := by
  rw [reportOn, weeklySummaries_beyond (sum_natAbs_actual_lt hdays hlength) h]
  rfl

/-- There is a report on other days. -/
theorem exists_reportOn (h : ∀ d ∈ days, d.date < lastMonday) (query : ReportQuery) (size : Nat) :
    ∃ report, reportOn query days size = .ok report ∧ report.days = days := by
  have hsum := sum_natAbs_actual_lt hdays hlength
  obtain ⟨weeks, hw, _⟩ := exists_weeksOf hsum h
  obtain ⟨trends, ht⟩ := exists_classifyTrends (ofCounts_of_mem_weeks hdays hlength hw)
  have htotal := natAbs_totalActual_le (List.Sublist.refl days)
  obtain ⟨rate, hr⟩ := exists_attendanceRate_of_lt (Nat.lt_of_le_of_lt htotal hsum) (totalPossible days)
  have ho : overallStats days = .ok ⟨totalPossible days, totalActual days, rate, days.length⟩ := by
    rw [overallStats, hr]
    rfl
  refine ⟨_, bind_eq_ok.mpr ⟨weeks, hw, bind_eq_ok.mpr ⟨trends, ht, bind_eq_ok.mpr ⟨_, ho, rfl⟩⟩⟩, rfl⟩

end Days

end SchoolRegister.Report
