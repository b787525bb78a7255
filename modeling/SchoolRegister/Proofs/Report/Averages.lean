import Mathlib.Data.List.MinMax
import SchoolRegister.Proofs.Report.DailyCounts
import SchoolRegister.Proofs.Report.MondayWeeks
import SchoolRegister.Proofs.Report.Rate

/-! # Averages lie between what they average

The rate of a week is not made of the rates of its days but of their counts, as is the overall rate of those
of the weeks.  A quotient of sums lies between the quotients of the summands, and rounding keeps the order
(`rateHundredths_mono`): so the rate of summed counts lies between the smallest and the largest of the
summands' rates (`between_of_rates`), whatever the number of days in each week (`averages_between`).  Without
a roster all rates are zero.

If on no day more are present than possible, nor are they in any week, so all rates are percentages
(`isPercentage_of_weeks`, `isPercentage_of_overall`). -/

namespace SchoolRegister.Report

open Number Date

/-- The rate is not smaller than the smallest of the rates and not larger than the largest one. -/
def Between (rate : Binary64) (rates : List Binary64) : Prop :=
  ∃ lowest ∈ rates, ∃ highest ∈ rates, (∀ r ∈ rates, lowest ≤ r ∧ r ≤ highest) ∧
    lowest ≤ rate ∧ rate ≤ highest

/-! ### Summed counts -/

section Summed

variable {α : Type} {l : List α} {actual possible : α → Int} {rate : α → Binary64} {r : Binary64}

/-- Two of the summands have quotients on either side of the quotient of the sums. -/
theorem exists_mediants (actual possible : α → Int) (hne : l ≠ []) :
    (∃ x ∈ l, actual x * (l.map possible).sum ≤ (l.map actual).sum * possible x) ∧
      ∃ x ∈ l, (l.map actual).sum * possible x ≤ actual x * (l.map possible).sum := by
  have hsums : (l.map fun x => actual x * (l.map possible).sum).sum =
      (l.map fun x => (l.map actual).sum * possible x).sum := by
    rw [List.sum_map_mul_right, List.sum_map_mul_left]
  exact ⟨List.exists_le_of_sum_le hne _ _ hsums.le, List.exists_le_of_sum_le hne _ _ hsums.ge⟩

theorem exists_rateHundredths_between (actual : α → Int) (hne : l ≠ [])
    (hp : (∀ x ∈ l, 0 < possible x) ∨ ∀ x ∈ l, possible x ≤ 0) :
    ∃ x ∈ l, ∃ y ∈ l,
      rateHundredths (actual x) (possible x) ≤ rateHundredths (l.map actual).sum (l.map possible).sum ∧
      rateHundredths (l.map actual).sum (l.map possible).sum ≤ rateHundredths (actual y) (possible y) := by
  rcases hp with hpos | hzero
  · have hsum : 0 < (l.map possible).sum :=
      List.sum_pos _ (by simpa using hpos) (by simpa using hne)
    obtain ⟨⟨x, hx, hlow⟩, y, hy, hhigh⟩ := exists_mediants actual possible hne
    exact ⟨x, hx, y, hy, rateHundredths_mono (hpos x hx) hsum hlow,
      rateHundredths_mono hsum (hpos y hy) hhigh⟩
  · -- nothing was possible, so all rates are zero
    have hsum : (l.map possible).sum ≤ 0 := by
      have hle := List.sum_le_sum (g := fun _ => 0) hzero
      simpa using hle
    obtain ⟨x, hx⟩ := List.exists_mem_of_ne_nil l hne
    have heq : rateHundredths (actual x) (possible x) =
        rateHundredths (l.map actual).sum (l.map possible).sum := by
      rw [rateHundredths_of_nonpos _ (hzero x hx), rateHundredths_of_nonpos _ hsum]
    exact ⟨x, hx, x, hx, heq.le, heq.ge⟩

/-- The rate of summed counts lies between the rates of the summands. -/
theorem between_of_rates (hne : l ≠ []) (ha : ∀ x ∈ l, 0 ≤ actual x) (hlt : (l.map actual).sum < 10 ^ 11)
    (hp : (∀ x ∈ l, 0 < possible x) ∨ ∀ x ∈ l, possible x ≤ 0)
    (hrates : ∀ x ∈ l, attendanceRate (actual x) (possible x) = .ok (rate x))
    (hr : attendanceRate (l.map actual).sum (l.map possible).sum = .ok r) : Between r (l.map rate) := by
  have hnonneg : ∀ n ∈ l.map actual, 0 ≤ n := by simpa using ha
  have hsum : 0 ≤ (l.map actual).sum := List.sum_nonneg hnonneg
  have hsmall : ∀ x ∈ l, actual x < 10 ^ 11 := fun x hx =>
    (List.single_le_sum hnonneg _ (List.mem_map_of_mem hx)).trans_lt hlt
  have hle : ∀ x ∈ l, ∀ y ∈ l, rateHundredths (actual x) (possible x) ≤
      rateHundredths (actual y) (possible y) → rate x ≤ rate y := fun x hx y hy =>
    attendanceRate_le (ha x hx) (ha y hy) (hsmall x hx) (hsmall y hy) (hrates x hx) (hrates y hy)
  -- the summands with the fewest and the most hundredths
  obtain ⟨lo, hlo⟩ := Option.ne_none_iff_exists'.mp
    (mt List.argmin_eq_none.mp hne : l.argmin (fun x => rateHundredths (actual x) (possible x)) ≠ none)
  obtain ⟨hi, hhi⟩ := Option.ne_none_iff_exists'.mp
    (mt List.argmax_eq_none.mp hne : l.argmax (fun x => rateHundredths (actual x) (possible x)) ≠ none)
  have hlomem := List.argmin_mem hlo
  have hhimem := List.argmax_mem hhi
  obtain ⟨x, hx, y, hy, hlow, hhigh⟩ := exists_rateHundredths_between actual hne hp
  refine ⟨rate lo, List.mem_map_of_mem hlomem, rate hi, List.mem_map_of_mem hhimem, ?_, ?_, ?_⟩
  · intro q hq
    obtain ⟨z, hz, rfl⟩ := List.mem_map.mp hq
    exact ⟨hle lo hlomem z hz (List.le_of_mem_argmin hz hlo),
      hle z hz hi hhimem (List.le_of_mem_argmax hz hhi)⟩
  · exact attendanceRate_le (ha lo hlomem) hsum (hsmall lo hlomem) hlt (hrates lo hlomem) hr
      ((List.le_of_mem_argmin hx hlo).trans hlow)
  · exact attendanceRate_le hsum (ha hi hhimem) hlt (hsmall hi hhimem) hr (hrates hi hhimem)
      (hhigh.trans (List.le_of_mem_argmax hy hhi))

end Summed

/-! ### Days and weeks -/

section Reports

variable {N : Type} {rs : List (Record N)} {total : Int} {days : List (Day N)} {weeks : List Week}

theorem actual_nonneg_of_daysOf (h : DaysOf rs total days) : ∀ d ∈ days, 0 ≤ d.actual := by
  intro d hd
  rw [h.actual d hd]
  exact Int.natCast_nonneg _

theorem totalActual_le_length (h : dailyMetrics rs total = .ok days) : totalActual days ≤ rs.length := by
  rw [totalActual_eq_sum, sum_days (p := fun q => q.1.present) (fun _ _ => rfl) h]
  have hcounted : (counted rs).length ≤ rs.length := List.length_filterMap_le _ _
  exact_mod_cast List.countP_le_length.trans hcounted

/-- The rate of a week lies between those of its days. -/
theorem between_of_mem_weeks (hdays : DaysOf rs total days) (hweeks : WeeksOf days weeks)
    (hlt : totalActual days < 10 ^ 11) {w : Week} (hw : w ∈ weeks) :
    Between w.rate ((days.filter (w.holds ·.date)).map (·.rate)) := by
  have hnonneg := actual_nonneg_of_daysOf hdays
  have hsub : (days.filter (w.holds ·.date)).Sublist days := List.filter_sublist
  have hrate := hweeks.rates w hw
  rw [hweeks.actual w hw, hweeks.possible w hw] at hrate
  refine between_of_rates ?_ (fun d hd => hnonneg d (hsub.subset hd)) ?_ ?_ (fun d hd => ?_) hrate
  · obtain ⟨d, hd, hheld⟩ := hweeks.inhabited w hw
    exact List.ne_nil_of_mem (List.mem_filter.mpr ⟨hd, hheld⟩)
  · rw [← totalActual_eq_sum]
    exact (totalActual_le_of_sublist hsub hnonneg).trans_lt hlt
  · rcases le_or_gt total 0 with htotal | htotal
    · exact .inr fun d hd => (hdays.possible d (hsub.subset hd)).trans_le htotal
    · exact .inl fun d hd => htotal.trans_eq (hdays.possible d (hsub.subset hd)).symm
  · rw [hdays.possible d (hsub.subset hd)]
    exact hdays.rates d (hsub.subset hd)

/-- What is possible in a week is a multiple of the size of the roster. -/
theorem possible_of_mem_weeks (hdays : DaysOf rs total days) (hweeks : WeeksOf days weeks) {w : Week}
    (hw : w ∈ weeks) : w.possible = w.days * total := by
  have hpossible : (days.filter (w.holds ·.date)).map (·.possible) =
      (days.filter (w.holds ·.date)).map fun _ => total :=
    List.map_congr_left fun d hd => hdays.possible d (List.mem_filter.mp hd).1
  rw [hweeks.possible w hw, hweeks.counted w hw, hpossible, List.map_const', List.sum_replicate, nsmul_eq_mul]

/-- The overall rate lies between those of the weeks. -/
theorem between_overall (hdays : DaysOf rs total days) (hw : weeklySummaries days = .ok weeks)
    (hlt : totalActual days < 10 ^ 11) (hne : days ≠ []) {rate : Binary64}
    (hr : attendanceRate (totalActual days) (totalPossible days) = .ok rate) :
    Between rate (weeks.map (·.rate)) := by
  have hweeks := weeksOf_of_ok hw
  rw [← sum_actual_weeks hw, ← sum_possible_weeks hw] at hr
  refine between_of_rates ?_ (fun w hw => ?_) ?_ ?_ hweeks.rates hr
  · obtain ⟨d, hd⟩ := List.exists_mem_of_ne_nil days hne
    obtain ⟨w, ⟨hw, _⟩, _⟩ := hweeks.covered d hd
    exact List.ne_nil_of_mem hw
  · rw [hweeks.actual w hw, ← totalActual_eq_sum]
    exact totalActual_nonneg fun d hd => actual_nonneg_of_daysOf hdays d (List.mem_filter.mp hd).1
  · rwa [sum_actual_weeks hw]
  · have hcount : ∀ w ∈ weeks, 0 < w.days := by
      intro w hw
      obtain ⟨d, hd, hheld⟩ := hweeks.inhabited w hw
      rw [hweeks.counted w hw]
      exact List.length_pos_of_mem (List.mem_filter.mpr ⟨hd, hheld⟩)
    rcases le_or_gt total 0 with htotal | htotal
    · refine .inr fun w hw => ?_
      rw [possible_of_mem_weeks hdays hweeks hw]
      exact Int.mul_nonpos_of_nonneg_of_nonpos (Int.natCast_nonneg _) htotal
    · refine .inl fun w hw => ?_
      rw [possible_of_mem_weeks hdays hweeks hw]
      exact Int.mul_pos (Int.natCast_pos.mpr (hcount w hw)) htotal

/-- Whatever the size of the roster, the rate of a week lies between the smallest and the largest rate of its
days, and the overall rate between those of the weeks. -/
theorem averages_between (rs : List (Record N)) (total : Int) (hlength : rs.length < 10 ^ 11)
    (hdates : ∀ r ∈ rs, r.student.isSome → r.date < lastMonday) :
    ∃ days weeks overall, dailyMetrics rs total = .ok days ∧ DaysOf rs total days ∧
      weeklySummaries days = .ok weeks ∧ WeeksOf days weeks ∧ overallStats days = .ok overall ∧
      (∀ w ∈ weeks, Between w.rate ((days.filter (w.holds ·.date)).map (·.rate))) ∧
      (days ≠ [] → Between overall.rate (weeks.map (·.rate))) := by
  obtain ⟨days, hd⟩ := exists_mapM (l := markedDates rs) fun date _ =>
    exists_dayOf (hlength.trans (by decide)) total date
  have hdays := daysOf_of_ok hd
  have hnonneg := actual_nonneg_of_daysOf hdays
  have hlt : totalActual days < 10 ^ 11 := (totalActual_le_length hd).trans_lt (by exact_mod_cast hlength)
  have hbefore : ∀ d ∈ days, d.date < lastMonday := by
    intro d hd
    obtain ⟨r, hr, hs, he⟩ := (hdays.dates d.date).mp ⟨d, hd, rfl⟩
    exact he ▸ hdates r hr hs
  -- of all of the days and of those of one week there is a rate
  have hrate : ∀ l : List (Day N), l.Sublist days →
      ∃ rate, attendanceRate (totalActual l) (totalPossible l) = .ok rate := by
    intro l hl
    have hle := totalActual_le_of_sublist hl hnonneg
    have hzero : 0 ≤ totalActual l := totalActual_nonneg fun d hd => hnonneg d (hl.subset hd)
    exact ⟨_, attendanceRate_eq hzero (by omega) _⟩
  obtain ⟨weeks, hw⟩ := exists_weeklySummaries hbefore fun d _ => hrate _ List.filter_sublist
  have hweeks := weeksOf_of_ok hw
  obtain ⟨rate, hr⟩ := hrate days (List.Sublist.refl _)
  have hoverall : overallStats days = .ok ⟨totalPossible days, totalActual days, rate, days.length⟩ := by
    rw [overallStats, hr]
    rfl
  exact ⟨days, weeks, _, hd, hdays, hw, hweeks, hoverall,
    fun w hw => between_of_mem_weeks hdays hweeks hlt hw, fun hne => between_overall hdays hw hlt hne hr⟩

/-! ### Percentages -/

section Percentages

variable (hcounts : ∀ d ∈ days, 0 ≤ d.actual ∧ d.actual ≤ d.possible)
include hcounts

/-- If on no day more are present than possible, the rates of the weeks are percentages. -/
theorem isPercentage_of_weeks (hw : weeklySummaries days = .ok weeks) : ∀ w ∈ weeks, IsPercentage w.rate := by
  intro w hmem
  have hweeks := weeksOf_of_ok hw
  have hheld : ∀ d ∈ days.filter (w.holds ·.date), d ∈ days := fun d hd => (List.mem_filter.mp hd).1
  refine isPercentage_attendanceRate ?_ ?_ (hweeks.rates w hmem)
  · rw [hweeks.actual w hmem, ← totalActual_eq_sum]
    exact totalActual_nonneg fun d hd => (hcounts d (hheld d hd)).1
  · rw [hweeks.actual w hmem, hweeks.possible w hmem]
    exact List.sum_le_sum fun d hd => (hcounts d (hheld d hd)).2

theorem isPercentage_of_overall {overall : Overall} (ho : overallStats days = .ok overall) :
    IsPercentage overall.rate := by
  obtain ⟨rate, hr, ho⟩ := bind_eq_ok.mp ho
  cases ho
  refine isPercentage_attendanceRate (totalActual_nonneg fun d hd => (hcounts d hd).1) ?_ hr
  rw [totalActual_eq_sum, totalPossible_eq_sum]
  exact List.sum_le_sum fun d hd => (hcounts d hd).2

end Percentages

end Reports

/-- Two students on two days of one week and one of them on a day of the next week. -/
def unevenWeeks : List (Record String) :=
  let adams : Summary String := ⟨"17", "Adams", "Zoe", none⟩
  let banda : Summary String := ⟨"18", "Banda", "Alice", none⟩
  [⟨1, 7, "5A", 1, 2024, ⟨2024, 6, 4, by decide⟩, true, some adams⟩,
    ⟨2, 8, "5A", 1, 2024, ⟨2024, 6, 4, by decide⟩, true, some banda⟩,
    ⟨3, 7, "5A", 1, 2024, ⟨2024, 6, 5, by decide⟩, true, some adams⟩,
    ⟨4, 8, "5A", 1, 2024, ⟨2024, 6, 5, by decide⟩, false, some banda⟩,
    ⟨5, 8, "5A", 1, 2024, ⟨2024, 6, 11, by decide⟩, false, some banda⟩]

theorem averages_between_unevenWeeks :
    ∃ days weeks overall, dailyMetrics unevenWeeks 2 = .ok days ∧ weeklySummaries days = .ok weeks ∧
      overallStats days = .ok overall ∧
      (∀ w ∈ weeks, Between w.rate ((days.filter (w.holds ·.date)).map (·.rate))) ∧
      Between overall.rate (weeks.map (·.rate)) := by
  obtain ⟨days, weeks, overall, hd, hdays, hw, _, ho, hweek, hall⟩ :=
    averages_between unevenWeeks 2 (by decide) (by decide)
  obtain ⟨d, hmem, _⟩ := (hdays.dates ⟨2024, 6, 4, by decide⟩).mpr ⟨_, List.mem_cons_self, rfl, rfl⟩
  exact ⟨days, weeks, overall, hd, hw, ho, hweek, hall (List.ne_nil_of_mem hmem)⟩

end SchoolRegister.Report
