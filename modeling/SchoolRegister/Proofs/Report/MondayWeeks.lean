import Mathlib.Algebra.Order.Group.Nat
import Mathlib.Algebra.Order.BigOperators.Group.List
import SchoolRegister.Proofs.Calendar.Weeks
import SchoolRegister.Proofs.Report.Tally

/-! # The weeks of some days

The weekly summaries divide the days among weeks from Monday to Sunday.  `WeeksOf` says what the summaries
of some days are: consecutively numbered weeks in ascending order, such that each day lies in exactly one
of them and each of them counts exactly the days that lie in it.

Every day has a Monday (`withWeekStart_eq`), so the summaries are made week by week from the days of each
Monday that occurs (`weeklySummaries_eq`).  As long as the counts are not too large, the only week that
cannot be made is the one in which the calendar ends (`weekFrom_error`): there are summaries that fit the
days, unless a day lies in that week, and the order of the days is of no account
(`weeklySummaries_partition`). -/

namespace SchoolRegister.Report

open Number Date

/-- The week holds the date. -/
def Week.holds (w : Week) (date : Date) : Bool := w.start ≤ date && date ≤ w.finish

/-- What the weekly summaries of some days say. -/
structure WeeksOf {N : Type} (days : List (Day N)) (weeks : List Week) : Prop where
  mondays : ∀ w ∈ weeks, w.start.weekday = 0
  sundays : ∀ w ∈ weeks, w.finish.ordinal = w.start.ordinal + 6
  ascending : weeks.Pairwise fun v w => v.start < w.start
  numbers : weeks.map (·.number) = (List.range weeks.length).map fun (i : Nat) => (i : Int) + 1
  covered : ∀ d ∈ days, ∃! w, w ∈ weeks ∧ w.holds d.date
  inhabited : ∀ w ∈ weeks, ∃ d ∈ days, w.holds d.date
  possible : ∀ w ∈ weeks, w.possible = ((days.filter (w.holds ·.date)).map (·.possible)).sum
  actual : ∀ w ∈ weeks, w.actual = ((days.filter (w.holds ·.date)).map (·.actual)).sum
  counted : ∀ w ∈ weeks, w.days = (days.filter (w.holds ·.date)).length
  rates : ∀ w ∈ weeks, attendanceRate w.actual w.possible = .ok w.rate

variable {N : Type} {days days' : List (Day N)} {weeks : List Week} {start : Date} {number : Int} {w : Week}

/-! ### Week by week -/

/-- The days of the week of a Monday. -/
def daysFrom (days : List (Day N)) (start : Date) : List (Day N) :=
  days.filter fun d => d.date.monday = start

/-- The Mondays of the days, each once, in ascending order. -/
def weekStarts (days : List (Day N)) : List Date :=
  (distinct (days.map (·.date.monday))).mergeSort fun a b => a ≤ b

/-- What is reported of the week of a Monday. -/
def weekFrom (days : List (Day N)) (start : Date) (number : Int) : Except Failure Week := do
  let possible := totalPossible (daysFrom days start)
  let actual := totalActual (daysFrom days start)
  let finish ← start.weekEnd?.elim (.error .beyondCalendar) .ok
  let rate ← attendanceRate actual possible
  return ⟨start, finish, number, possible, actual, rate, (daysFrom days start).length⟩

theorem withWeekStart_eq (days : List (Day N)) :
    withWeekStart days = .ok (days.map fun d => (d.date.monday, d)) := by
  refine mapM_eq_map (List.forall₂_same.mpr fun d _ => ?_)
  rw [weekStart?_eq]
  rfl

theorem daysOfWeek_placed (days : List (Day N)) (start : Date) :
    daysOfWeek (days.map fun d => (d.date.monday, d)) start = daysFrom days start := by
  rw [daysOfWeek, List.filter_map, List.map_map]
  exact List.map_id _

theorem weeklySummaries_eq (days : List (Day N)) :
    weeklySummaries days = ((weekStarts days).zipIdx 1).mapM fun p => weekFrom days p.1 p.2 := by
  have hweek : ∀ start number, weekOf (days.map fun d => (d.date.monday, d)) start number =
      weekFrom days start number := fun start number => by
    unfold weekFrom
    rw [← daysOfWeek_placed]
    rfl
  unfold weeklySummaries
  rw [withWeekStart_eq]
  show (((distinct ((days.map fun d => (d.date.monday, d)).map (·.1))).mergeSort
    fun a b => a ≤ b).zipIdx 1).mapM (fun p => weekOf (days.map fun d => (d.date.monday, d)) p.1 p.2) = _
  simp only [hweek, List.map_map]
  rfl

/-! ### The Mondays -/

theorem mem_weekStarts : start ∈ weekStarts days ↔ ∃ d ∈ days, d.date.monday = start := by
  rw [weekStarts, List.mem_mergeSort, mem_distinct, List.mem_map]

theorem pairwise_weekStarts (days : List (Day N)) : (weekStarts days).Pairwise (· < ·) :=
  pairwise_sorted_dates _

theorem exists_mem_zipIdx (h : start ∈ weekStarts days) :
    ∃ number, (start, number) ∈ (weekStarts days).zipIdx 1 := by
  rw [← List.zipIdx_map_fst 1 (weekStarts days)] at h
  obtain ⟨⟨_, number⟩, hp, rfl⟩ := List.mem_map.mp h
  exact ⟨number, hp⟩

/-! ### One week -/

theorem daysFrom_perm (h : days.Perm days') (start : Date) :
    (daysFrom days start).Perm (daysFrom days' start) := h.filter _

theorem weekFrom_perm (h : days.Perm days') (start : Date) (number : Int) :
    weekFrom days start number = weekFrom days' start number := by
  have hd := daysFrom_perm h start
  have hpossible : totalPossible (daysFrom days start) = totalPossible (daysFrom days' start) := by
    rw [totalPossible_eq_sum, totalPossible_eq_sum]
    exact (hd.map _).sum_eq
  have hactual : totalActual (daysFrom days start) = totalActual (daysFrom days' start) := by
    rw [totalActual_eq_sum, totalActual_eq_sum]
    exact (hd.map _).sum_eq
  unfold weekFrom
  rw [hpossible, hactual, hd.length_eq]

/-- The counts of some of the days are not larger than those of all days. -/
theorem natAbs_totalActual_le {l : List (Day N)} (h : l.Sublist days) :
    (totalActual l).natAbs ≤ (days.map fun d => d.actual.natAbs).sum := by
  have habs : ∀ l : List (Day N), (totalActual l).natAbs ≤ (l.map fun d => d.actual.natAbs).sum := by
    intro l
    induction l with
    | nil => exact Nat.le_refl 0
    | cons d rest ih =>
        rw [List.map_cons, List.sum_cons]
        exact Nat.le_trans (Int.natAbs_add_le _ _) (Nat.add_le_add_left ih _)
  exact Nat.le_trans (habs l) ((h.map _).sum_le_sum fun _ _ => Nat.zero_le _)

theorem totalActual_nonneg (h : ∀ d ∈ days, 0 ≤ d.actual) : 0 ≤ totalActual days := by
  rw [totalActual_eq_sum]
  refine List.sum_nonneg fun n hn => ?_
  obtain ⟨d, hd, rfl⟩ := List.mem_map.mp hn
  exact h d hd

theorem totalActual_le_of_sublist {l : List (Day N)} (hl : l.Sublist days) (h : ∀ d ∈ days, 0 ≤ d.actual) :
    totalActual l ≤ totalActual days := by
  rw [totalActual_eq_sum, totalActual_eq_sum]
  refine (hl.map _).sum_le_sum fun n hn => ?_
  obtain ⟨d, hd, rfl⟩ := List.mem_map.mp hn
  exact h d hd

theorem exists_weekFrom_of_rate {finish : Date} {rate : Binary64} (h : start.weekEnd? = some finish)
    (hr : attendanceRate (totalActual (daysFrom days start)) (totalPossible (daysFrom days start)) = .ok rate)
    (number : Int) : ∃ w, weekFrom days start number = .ok w := by
  refine ⟨_, bind_eq_ok.mpr ⟨finish, ?_, bind_eq_ok.mpr ⟨rate, hr, rfl⟩⟩⟩
  rw [h]
  rfl

section Bounded

variable (hsum : (days.map fun d => d.actual.natAbs).sum < 10 ^ 20)
include hsum

theorem exists_weekFrom {finish : Date} (h : start.weekEnd? = some finish) (number : Int) :
    ∃ w, weekFrom days start number = .ok w := by
  have hle := natAbs_totalActual_le (List.filter_sublist (p := fun d => d.date.monday = start) (l := days))
  obtain ⟨rate, hr⟩ := exists_attendanceRate_of_lt (Nat.lt_of_le_of_lt hle hsum)
    (totalPossible (daysFrom days start))
  exact exists_weekFrom_of_rate h hr number

/-- The only week that cannot be reported is one without a last day. -/
theorem weekFrom_error {f : Failure} (h : weekFrom days start number = .error f) :
    f = .beyondCalendar := by
  cases he : start.weekEnd? with
  | some finish =>
      obtain ⟨w, hw⟩ := exists_weekFrom hsum he number
      rw [hw] at h
      cases h
  | none =>
      unfold weekFrom at h
      rw [he] at h
      cases h
      rfl

/-- A day in the week in which the calendar ends has no weekly summary. -/
theorem weeklySummaries_beyond (h : ∃ d ∈ days, lastMonday ≤ d.date) :
    weeklySummaries days = .error .beyondCalendar := by
  obtain ⟨d, hd, hlast⟩ := h
  obtain ⟨number, hp⟩ := exists_mem_zipIdx (mem_weekStarts.mpr ⟨d, hd, rfl⟩)
  rw [weeklySummaries_eq]
  refine mapM_eq_error (fun p _ f hf => weekFrom_error hsum hf) ⟨_, hp, ?_⟩
  unfold weekFrom
  rw [weekEnd?_monday_of_le hlast]
  rfl

end Bounded

/-! ### All weeks -/

/-- What is reported of the week of a Monday. -/
structure WeekFrom (days : List (Day N)) (start : Date) (number : Int) (w : Week) : Prop where
  startsOn : w.start = start
  numbered : w.number = number
  endsOn : start.weekEnd? = some w.finish
  possible : w.possible = ((daysFrom days start).map (·.possible)).sum
  actual : w.actual = ((daysFrom days start).map (·.actual)).sum
  counted : w.days = (daysFrom days start).length
  rate : attendanceRate w.actual w.possible = .ok w.rate

theorem weekFrom_ok (h : weekFrom days start number = .ok w) : WeekFrom days start number w := by
  obtain ⟨finish, hf, h⟩ := bind_eq_ok.mp h
  obtain ⟨rate, hr, h⟩ := bind_eq_ok.mp h
  cases h
  refine ⟨rfl, rfl, ?_, totalPossible_eq_sum _, totalActual_eq_sum _, rfl, hr⟩
  cases he : start.weekEnd? with
  | none => rw [he] at hf; cases hf
  | some e => rw [he] at hf; cases hf; rfl

section Summaries

variable (h : weeklySummaries days = .ok weeks)
include h

theorem map_start_of_ok : weeks.map (·.start) = weekStarts days := by
  rw [weeklySummaries_eq] at h
  rw [← List.zipIdx_map_fst 1 (weekStarts days)]
  exact map_eq_of_mapM (fun _ _ _ hw => (weekFrom_ok hw).startsOn) h

theorem map_number_of_ok :
    weeks.map (·.number) = (List.range weeks.length).map fun (i : Nat) => (i : Int) + 1 := by
  have hlength : weeks.length = (weekStarts days).length := by
    rw [← map_start_of_ok h, List.length_map]
  rw [weeklySummaries_eq] at h
  have hnumbers := map_eq_of_mapM (h := fun p : Date × Nat => (p.2 : Int))
    (fun _ _ _ hw => (weekFrom_ok hw).numbered) h
  calc weeks.map (·.number)
      = (((weekStarts days).zipIdx 1).map Prod.snd).map fun (i : Nat) => (i : Int) := by
        rw [hnumbers, List.map_map]
        rfl
    _ = (List.range weeks.length).map fun (i : Nat) => (i : Int) + 1 := by
        rw [List.zipIdx_map_snd, List.range'_eq_map_range, List.map_map, hlength]
        refine List.map_congr_left fun i _ => ?_
        rw [Function.comp_apply, Nat.cast_add, Nat.cast_one, add_comm]

theorem exists_weekFrom_of_mem (hw : w ∈ weeks) : ∃ number, WeekFrom days w.start number w := by
  rw [weeklySummaries_eq] at h
  obtain ⟨⟨start, number⟩, _, hp⟩ := exists_of_mem_mapM h hw
  have hfrom := weekFrom_ok hp
  exact ⟨number, hfrom.startsOn ▸ hfrom⟩

end Summaries

theorem holds_iff {date : Date} (hm : w.start.weekday = 0) (hs : w.finish.ordinal = w.start.ordinal + 6) :
    w.holds date ↔ date.monday = w.start := by
  rw [monday_eq_iff hm, Week.holds, Bool.and_eq_true, decide_eq_true_iff, decide_eq_true_iff,
    le_iff_ordinal, le_iff_ordinal, hs]

theorem filter_holds_eq (hm : w.start.weekday = 0) (hs : w.finish.ordinal = w.start.ordinal + 6)
    (days : List (Day N)) : days.filter (w.holds ·.date) = daysFrom days w.start :=
  List.filter_congr fun _ _ => Bool.eq_iff_iff.mpr ((holds_iff hm hs).trans decide_eq_true_iff.symm)

/-- Weekly summaries are those of the days. -/
theorem weeksOf_of_ok (h : weeklySummaries days = .ok weeks) : WeeksOf days weeks := by
  have hstarts := map_start_of_ok h
  have hascending : weeks.Pairwise fun v w => v.start < w.start :=
    List.pairwise_map.mp (hstarts ▸ pairwise_weekStarts days)
  have hmonday : ∀ w ∈ weeks, w.start.weekday = 0 := by
    intro w hw
    obtain ⟨d, _, hd⟩ := mem_weekStarts.mp (hstarts ▸ List.mem_map_of_mem hw)
    rw [← hd, weekday_monday]
  have hsunday : ∀ w ∈ weeks, w.finish.ordinal = w.start.ordinal + 6 := by
    intro w hw
    obtain ⟨number, hfrom⟩ := exists_weekFrom_of_mem h hw
    exact weekEnd?_eq_some_iff.mp hfrom.endsOn
  have hholds : ∀ w ∈ weeks, ∀ date, w.holds date ↔ date.monday = w.start := fun w hw _ =>
    holds_iff (hmonday w hw) (hsunday w hw)
  have hdays : ∀ w ∈ weeks, days.filter (w.holds ·.date) = daysFrom days w.start := fun w hw =>
    filter_holds_eq (hmonday w hw) (hsunday w hw) days
  refine ⟨hmonday, hsunday, hascending, map_number_of_ok h, ?_, ?_, ?_, ?_, ?_, ?_⟩
  · intro d hd
    obtain ⟨w, hw, hs⟩ := List.mem_map.mp (hstarts ▸ mem_weekStarts.mpr ⟨d, hd, rfl⟩)
    -- a week that holds the day starts on the day's Monday, and no two weeks start on one date
    refine ⟨w, ⟨hw, (hholds w hw _).mpr hs.symm⟩, fun v ⟨hv, hheld⟩ => ?_⟩
    have he : v.start = w.start := ((hholds v hv _).mp hheld).symm.trans hs.symm
    exact List.inj_on_of_nodup_map (hstarts ▸ nodup_sorted_distinct _) hv hw he
  · intro w hw
    obtain ⟨d, hd, hs⟩ := mem_weekStarts.mp (hstarts ▸ List.mem_map_of_mem hw)
    exact ⟨d, hd, (hholds w hw _).mpr hs⟩
  · intro w hw
    obtain ⟨_, hfrom⟩ := exists_weekFrom_of_mem h hw
    rw [hdays w hw, hfrom.possible]
  · intro w hw
    obtain ⟨_, hfrom⟩ := exists_weekFrom_of_mem h hw
    rw [hdays w hw, hfrom.actual]
  · intro w hw
    obtain ⟨_, hfrom⟩ := exists_weekFrom_of_mem h hw
    rw [hdays w hw, hfrom.counted]
  · intro w hw
    obtain ⟨_, hfrom⟩ := exists_weekFrom_of_mem h hw
    exact hfrom.rate

/-- There are weekly summaries if the weeks have rates and the calendar does not end in any of them. -/
theorem exists_weeklySummaries (hbefore : ∀ d ∈ days, d.date < lastMonday)
    (hrate : ∀ d ∈ days, ∃ rate, attendanceRate (totalActual (daysFrom days d.date.monday))
      (totalPossible (daysFrom days d.date.monday)) = .ok rate) :
    ∃ weeks, weeklySummaries days = .ok weeks := by
  rw [weeklySummaries_eq]
  refine exists_mapM fun p hp => ?_
  have hstart : p.1 ∈ weekStarts days :=
    List.zipIdx_map_fst 1 (weekStarts days) ▸ List.mem_map_of_mem hp
  obtain ⟨d, hd, hm⟩ := mem_weekStarts.mp hstart
  obtain ⟨finish, hf⟩ := weekEnd?_monday (hbefore d hd)
  obtain ⟨rate, hr⟩ := hrate d hd
  rw [hm] at hf hr
  exact exists_weekFrom_of_rate hf hr p.2

/-- The weekly summaries do not depend on the order of the days. -/
theorem weeklySummaries_perm (h : days.Perm days') : weeklySummaries days = weeklySummaries days' := by
  have hstarts : weekStarts days = weekStarts days' :=
    mergeSort_eq_of_perm (fun a b => decide_eq_true_iff) (distinct_perm (h.map _))
      fun _ _ _ _ => ordinal_injective
  rw [weeklySummaries_eq, weeklySummaries_eq, hstarts]
  simp only [weekFrom_perm h]

theorem exists_weeksOf (hsum : (days.map fun d => d.actual.natAbs).sum < 10 ^ 20)
    (hbefore : ∀ d ∈ days, d.date < lastMonday) : ∃ weeks, weeklySummaries days = .ok weeks ∧ WeeksOf days weeks := by
  have hmake : ∀ p ∈ (weekStarts days).zipIdx 1, ∃ w, weekFrom days p.1 p.2 = .ok w := by
    intro p hp
    have hstart : p.1 ∈ weekStarts days :=
      List.zipIdx_map_fst 1 (weekStarts days) ▸ List.mem_map_of_mem hp
    obtain ⟨d, hd, hm⟩ := mem_weekStarts.mp hstart
    obtain ⟨finish, hf⟩ := weekEnd?_monday (hbefore d hd)
    exact exists_weekFrom hsum (hm ▸ hf) p.2
  obtain ⟨weeks, hw⟩ := exists_mapM hmake
  have hok : weeklySummaries days = .ok weeks := (weeklySummaries_eq days).trans hw
  exact ⟨weeks, hok, weeksOf_of_ok hok⟩

/-- The days are divided among the weeks that start on their Mondays, unless one of them lies in the week
in which the calendar ends; their order is of no account. -/
theorem weeklySummaries_partition (days : List (Day N))
    (hsum : (days.map fun d => d.actual.natAbs).sum < 10 ^ 20) :
    ((∃ d ∈ days, lastMonday ≤ d.date) → weeklySummaries days = .error .beyondCalendar) ∧
    ((∀ d ∈ days, d.date < lastMonday) →
      ∃ weeks, weeklySummaries days = .ok weeks ∧ WeeksOf days weeks) ∧
    ∀ days', days.Perm days' → weeklySummaries days' = weeklySummaries days :=
  ⟨weeklySummaries_beyond hsum, exists_weeksOf hsum, fun _ h => (weeklySummaries_perm h).symm⟩

/-- Three days, not in order, of the weeks before and after a new year. -/
def acrossNewYear : List (Day String) :=
  [⟨⟨2025, 1, 6, by decide⟩, 30, 28, 2, Binary64.zero, []⟩,
    ⟨⟨2024, 12, 31, by decide⟩, 30, 30, 0, Binary64.zero, []⟩,
    ⟨⟨2025, 1, 5, by decide⟩, 30, 27, 3, Binary64.zero, []⟩]

/-- A day of the week in which the calendar ends. -/
def lastDay : Day String := ⟨last, 30, 29, 1, Binary64.zero, []⟩

theorem weeklySummaries_partition_newYear :
    (∃ weeks, weeklySummaries acrossNewYear = .ok weeks ∧ WeeksOf acrossNewYear weeks) ∧
    weeklySummaries (lastDay :: acrossNewYear) = .error .beyondCalendar ∧
    weeklySummaries acrossNewYear.reverse = weeklySummaries acrossNewYear :=
  ⟨(weeklySummaries_partition acrossNewYear (by decide)).2.1 (by decide),
    (weeklySummaries_partition (lastDay :: acrossNewYear) (by decide)).1
      ⟨lastDay, List.mem_cons_self, by decide⟩,
    (weeklySummaries_partition acrossNewYear (by decide)).2.2 _ (List.reverse_perm _).symm⟩

end SchoolRegister.Report
