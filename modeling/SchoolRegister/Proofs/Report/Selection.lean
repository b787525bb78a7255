import SchoolRegister.Proofs.Report.DailyCounts

/-! # Daily metrics of selected dates

A day is reported by the records of its date alone (`dayOf_filter`), so the metrics of the records of some
dates are the days of these dates, as they are reported among all others (`dailyMetrics_filter_of_ok`).  At any
date the metrics fall into those up to it and those after it (`dailyMetrics_split`). -/

namespace SchoolRegister.Report

variable {N : Type} {rs : List (Record N)} {total : Int} {days : List (Day N)} {date : Date} {p : Date → Bool}

theorem counted_filter_date (p : Date → Bool) (rs : List (Record N)) :
    counted (rs.filter fun r => p r.date) = (counted rs).filter fun q => p q.1.date := by
  rw [counted, counted, ← List.filterMap_eq_filter, List.filterMap_filterMap, ← List.filterMap_eq_filter,
    List.filterMap_filterMap]
  apply List.filterMap_congr
  intro r _
  cases hs : r.student <;> cases hp : p r.date <;> simp [Option.guard, hs, hp]

theorem countedOn_filter (h : p date = true) (rs : List (Record N)) :
    countedOn (rs.filter fun r => p r.date) date = countedOn rs date := by
  rw [countedOn, countedOn, counted_filter_date, List.filter_filter]
  apply List.filter_congr
  intro q _
  by_cases hq : q.1.date = date
  · simp [hq, h]
  · simp [hq]

theorem dayOf_filter (h : p date = true) (rs : List (Record N)) (total : Int) :
    dayOf (rs.filter fun r => p r.date) total date = dayOf rs total date := by
  rw [dayOf, dayOf, countedOn_filter h]

theorem markedDates_filter (p : Date → Bool) (rs : List (Record N)) :
    markedDates (rs.filter fun r => p r.date) = (markedDates rs).filter p := by
  have hle : ∀ a b : Date, decide (a ≤ b) = true ↔ a.ordinal ≤ b.ordinal := fun _ _ => decide_eq_true_iff
  have hmap : ((counted rs).filter fun q => p q.1.date).map (·.1.date) =
      ((counted rs).map (·.1.date)).filter p := by
    rw [List.filter_map]
    rfl
  rw [markedDates, markedDates, counted_filter_date, hmap, distinct_filter, filter_mergeSort hle]

/-- The metrics of the records of some dates are made date by date, as the metrics of all records. -/
theorem dailyMetrics_filter (p : Date → Bool) (rs : List (Record N)) (total : Int) :
    dailyMetrics (rs.filter fun r => p r.date) total = ((markedDates rs).filter p).mapM (dayOf rs total) := by
  rw [dailyMetrics, markedDates_filter]
  apply mapM_congr
  intro date hdate
  exact dayOf_filter (List.mem_filter.mp hdate).2 rs total

theorem dailyMetrics_filter_of_ok (p : Date → Bool) (h : dailyMetrics rs total = .ok days) :
    dailyMetrics (rs.filter fun r => p r.date) total = .ok (days.filter fun d => p d.date) := by
  rw [dailyMetrics_filter]
  refine mapM_filter_eq (g := fun d : Day N => d.date) (p := p) ?_ h
  intro date _ d hd
  exact (dayOf_ok hd).dated

theorem dailyMetrics_split (bound : Date) (rs : List (Record N)) (total : Int) : dailyMetrics rs total = do
    let earlier ← dailyMetrics (rs.filter fun r => r.date ≤ bound) total
    let later ← dailyMetrics (rs.filter fun r => !decide (r.date ≤ bound)) total
    return earlier ++ later := by
  have hdates : (markedDates rs).filter (fun d => d ≤ bound) ++
      (markedDates rs).filter (fun d => !decide (d ≤ bound)) = markedDates rs := by
    apply filter_append_filter_not (pairwise_sorted_dates _)
    intro a b hab hb
    rw [decide_eq_true_iff] at hb ⊢
    exact Date.le_trans (Nat.le_of_lt hab) hb
  rw [dailyMetrics_filter fun d => d ≤ bound, dailyMetrics_filter fun d => !decide (d ≤ bound), ← List.mapM_append,
    hdates]
  rfl

end SchoolRegister.Report
