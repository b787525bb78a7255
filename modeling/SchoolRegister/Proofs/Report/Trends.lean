import SchoolRegister.Proofs.Report.MondayWeeks
import SchoolRegister.Proofs.Report.Rate

/-! # Trends are exact

On its way from one week to the next a rate is a double, its shortest decimal, and a term of a difference.
None of these steps changes its hundredths, so two rates are compared as their hundredths are
(`classifyTrend_ofHundredths`): the trends are those of the weeks' counts (`TrendsOf`), however close to the
threshold they move (`classifyTrends_exact`). -/

namespace SchoolRegister.Report

open Number Date

/-! ### Movements -/

/-- How a rate moves from one number of hundredths to another. -/
def movement (previous current : Int) : TrendLabel :=
  if 200 < current - previous then .improving
  else if current - previous < -200 then .declining
  else .stable

/-- The movement backwards. -/
def TrendLabel.opposite : TrendLabel → TrendLabel
  | .improving => .declining
  | .declining => .improving
  | .stable => .stable

theorem movement_swap (a b : Int) : movement b a = (movement a b).opposite := by
  unfold movement
  split
  · rw [if_neg (by omega), if_pos (by omega)]
    rfl
  · split
    · rw [if_pos (by omega)]
      rfl
    · rw [if_neg (by omega), if_neg (by omega)]
      rfl

/-- A movement by exactly two percentage points is stable. -/
theorem movement_iff (a b : Int) :
    (movement a b = .improving ↔ 200 < b - a) ∧ (movement a b = .declining ↔ b - a < -200) ∧
      (movement a b = .stable ↔ -200 ≤ b - a ∧ b - a ≤ 200) := by
  unfold movement
  split
  · simp only [reduceCtorEq, true_iff, false_iff]
    omega
  · split
    · simp only [reduceCtorEq, true_iff, false_iff]
      omega
    · simp only [reduceCtorEq, true_iff, false_iff]
      omega

theorem classifyTrend_ofHundredths {a b : Nat} (ha : a < 10 ^ 15) (hb : b < 10 ^ 15) :
    classifyTrend (.ofDouble (Binary64.ofHundredths a)) (.ofDouble (Binary64.ofHundredths b)) =
      .ok (movement a b) := by
  obtain ⟨x, hx, hxa⟩ := Binary64.exists_ofDouble ha
  obtain ⟨y, hy, hyb⟩ := Binary64.exists_ofDouble hb
  have hdiff : (y.sub x).IsHundredths (b - a) := hyb.sub hxa (by omega) (by omega)
  have hsmall : ((b : Int) - a).natAbs < 10 ^ 18 := by omega
  rw [hx, hy]
  show (if (y.sub x).isTooLarge then _ else _) = _
  rw [hdiff.isTooLarge_eq_false hsmall, if_neg Bool.false_ne_true]
  simp only [hdiff.exceeds_iff hsmall (show trendThreshold.natAbs < 10 ^ 15 by decide),
    hdiff.fallsBelow_iff hsmall (show (-trendThreshold).natAbs < 10 ^ 15 by decide)]
  rfl

/-! ### Weeks -/

namespace Week

/-- The rate of a week in hundredths, by its counts. -/
def hundredths (w : Week) : Int := rateHundredths w.actual w.possible

/-- The rate of the week is that of its counts, which are not too large. -/
structure Exact (w : Week) : Prop where
  nonneg : 0 ≤ w.actual
  small : w.actual < 10 ^ 11
  rate : attendanceRate w.actual w.possible = .ok w.rate

namespace Exact

variable {v w : Week}

theorem hundredths_nonneg (h : w.Exact) : 0 ≤ w.hundredths := rateHundredths_nonneg h.nonneg _

theorem hundredths_lt (h : w.Exact) : w.hundredths < 10 ^ 15 := by
  have hle := rateHundredths_le h.nonneg w.possible
  have hsmall := h.small
  show rateHundredths _ _ < _
  omega

theorem rate_eq (h : w.Exact) : w.rate = Binary64.ofHundredths w.hundredths.toNat := by
  have hsmall := h.small
  have hr := h.rate
  rw [attendanceRate_eq h.nonneg (by omega)] at hr
  exact (Except.ok.inj hr).symm

theorem textDenotes (h : w.Exact) : w.rate.TextDenotes (w.hundredths / 100) := by
  obtain ⟨rate, hr, hd⟩ := exists_attendanceRate_denotes h.nonneg h.small w.possible
  rw [h.rate] at hr
  cases hr
  exact hd

theorem classifyTrend_eq (hv : v.Exact) (hw : w.Exact) :
    classifyTrend (.ofDouble v.rate) (.ofDouble w.rate) = .ok (movement v.hundredths w.hundredths) := by
  have hvn := hv.hundredths_nonneg
  have hwn := hw.hundredths_nonneg
  have hvlt := hv.hundredths_lt
  have hwlt := hw.hundredths_lt
  rw [hv.rate_eq, hw.rate_eq, classifyTrend_ofHundredths (by omega) (by omega), Int.toNat_of_nonneg hvn,
    Int.toNat_of_nonneg hwn]

end Exact
end Week

/-! ### Week after week -/

/-- The trend of a week against the one before it. -/
def trendBetween (v w : Week) : Trend :=
  ⟨s!"Week {w.number}", w.rate, movement v.hundredths w.hundredths⟩

variable {weeks : List Week} {trends : List Trend}

theorem trendsAfter_eq {v : Week} (hv : v.Exact) (h : ∀ w ∈ weeks, w.Exact) :
    trendsAfter v.rate weeks = .ok (List.zipWith trendBetween (v :: weeks) weeks) := by
  induction weeks generalizing v with
  | nil => rfl
  | cons w rest ih =>
      have hw := h w List.mem_cons_self
      rw [trendsAfter, hv.classifyTrend_eq hw, ih hw fun u hu => h u (List.mem_cons_of_mem w hu)]
      rfl

theorem classifyTrends_cons {first second : Week} {rest : List Week}
    (h : ∀ w ∈ first :: second :: rest, w.Exact) :
    classifyTrends (first :: second :: rest) = .ok (⟨s!"Week {first.number}", first.rate, .stable⟩ ::
      List.zipWith trendBetween (first :: second :: rest) (second :: rest)) := by
  rw [classifyTrends, trendsAfter_eq (h first List.mem_cons_self)
    fun w hw => h w (List.mem_cons_of_mem first hw)]
  rfl

/-- What the trends of some weeks say: fewer than two weeks have none, and of several weeks each one has its
own, in order.  It is told by the hundredths of the weeks' rates; backwards, a movement is the opposite
one. -/
structure TrendsOf (weeks : List Week) (trends : List Trend) : Prop where
  few : weeks.length < 2 → trends = []
  length : 2 ≤ weeks.length → trends.length = weeks.length
  period : ∀ (i : Nat) (t : Trend), trends[i]? = some t → t.period = s!"Week {i + 1}"
  rate : ∀ (i : Nat) (t : Trend) (w : Week), trends[i]? = some t → weeks[i]? = some w →
    t.rate = w.rate ∧ t.rate.TextDenotes (w.hundredths / 100)
  first : ∀ t : Trend, trends[0]? = some t → t.label = .stable
  later : ∀ (i : Nat) (t : Trend) (v w : Week), trends[i + 1]? = some t → weeks[i]? = some v →
    weeks[i + 1]? = some w →
    (t.label = .improving ↔ 200 < w.hundredths - v.hundredths) ∧
    (t.label = .declining ↔ w.hundredths - v.hundredths < -200) ∧
    (t.label = .stable ↔ -200 ≤ w.hundredths - v.hundredths ∧ w.hundredths - v.hundredths ≤ 200)
  backwards : ∀ v ∈ weeks, ∀ w ∈ weeks, ∃ label,
    classifyTrend (.ofDouble v.rate) (.ofDouble w.rate) = .ok label ∧
    classifyTrend (.ofDouble w.rate) (.ofDouble v.rate) = .ok label.opposite

theorem classifyTrends_of_few (h : weeks.length < 2) : classifyTrends weeks = .ok [] := by
  match weeks, h with
  | [], _ => rfl
  | [_], _ => rfl
  | _ :: _ :: _, h => exact absurd h (by simp)

theorem exists_of_getElem?_later {first : Week} {rest : List Week} {i : Nat} {t : Trend}
    (h : (List.zipWith trendBetween (first :: rest) rest)[i]? = some t) :
    ∃ v w, (first :: rest)[i]? = some v ∧ (first :: rest)[i + 1]? = some w ∧ t = trendBetween v w := by
  obtain ⟨v, w, hv, hw, hvw⟩ := List.getElem?_zipWith_eq_some.mp h
  exact ⟨v, w, hv, hw, hvw.symm⟩

theorem exists_classifyTrend_backwards (h : ∀ w ∈ weeks, w.Exact) : ∀ v ∈ weeks, ∀ w ∈ weeks, ∃ label,
    classifyTrend (.ofDouble v.rate) (.ofDouble w.rate) = .ok label ∧
    classifyTrend (.ofDouble w.rate) (.ofDouble v.rate) = .ok label.opposite := fun v hv w hw =>
  ⟨_, (h v hv).classifyTrend_eq (h w hw), movement_swap _ _ ▸ (h w hw).classifyTrend_eq (h v hv)⟩

/-- Numbered weeks with exact rates have such trends. -/
theorem exists_trendsOf (h : ∀ w ∈ weeks, w.Exact)
    (hnumber : ∀ (i : Nat) (w : Week), weeks[i]? = some w → w.number = i + 1) :
    ∃ trends, classifyTrends weeks = .ok trends ∧ TrendsOf weeks trends := by
  have hbackwards := exists_classifyTrend_backwards h
  by_cases hfew : weeks.length < 2
  · exact ⟨[], classifyTrends_of_few hfew, fun _ => rfl, fun hle => absurd hfew (by omega), by simp, by simp,
      by simp, by simp, hbackwards⟩
  obtain ⟨first, second, rest, rfl⟩ : ∃ first second rest, weeks = first :: second :: rest := by
    match weeks, hfew with
    | [], hfew => exact absurd (by decide) hfew
    | [_], hfew => exact absurd (by simp) hfew
    | first :: second :: rest, _ => exact ⟨first, second, rest, rfl⟩
  have hweek : ∀ (i : Nat) (w : Week), (first :: second :: rest)[i]? = some w →
      s!"Week {w.number}" = s!"Week {i + 1}" := by
    intro i w hw
    rw [hnumber i w hw]
    rfl
  refine ⟨_, classifyTrends_cons h, fun hlt => absurd hlt hfew, fun _ => ?_, ?_, ?_, ?_, ?_, hbackwards⟩
  · simp
  · intro i t ht
    cases i with
    | zero =>
        cases ht
        exact hweek 0 first rfl
    | succ i =>
        obtain ⟨v, w, _, hw, rfl⟩ := exists_of_getElem?_later ht
        exact hweek (i + 1) w hw
  · intro i t w ht hw
    have hdenotes := (h w (List.mem_of_getElem? hw)).textDenotes
    cases i with
    | zero =>
        cases ht
        cases hw
        exact ⟨rfl, hdenotes⟩
    | succ i =>
        obtain ⟨v, w', _, hw', rfl⟩ := exists_of_getElem?_later ht
        cases hw'.symm.trans hw
        exact ⟨rfl, hdenotes⟩
  · intro t ht
    cases ht
    rfl
  · intro i t v w ht hv hw
    obtain ⟨v', w', hv', hw', rfl⟩ := exists_of_getElem?_later ht
    cases hv'.symm.trans hv
    cases hw'.symm.trans hw
    exact movement_iff _ _

/-! ### Weekly summaries -/

section Days

variable {N : Type} {days : List (Day N)}

theorem WeeksOf.number_eq (h : WeeksOf days weeks) {i : Nat} {w : Week} (hi : weeks[i]? = some w) :
    w.number = i + 1 := by
  have hlt := (List.getElem?_eq_some_iff.mp hi).1
  have hmap := congrArg (·[i]?) h.numbers
  rw [List.getElem?_map, hi, List.getElem?_map, List.getElem?_range hlt] at hmap
  exact Option.some.inj hmap

/-- The weeks of days without negative counts are exact if few are present in each. -/
theorem exact_of_weeksOf (hweeks : WeeksOf days weeks) (hnonneg : ∀ d ∈ days, 0 ≤ d.actual)
    (htotal : ∀ d ∈ days, totalActual (daysFrom days d.date.monday) < 10 ^ 11) : ∀ w ∈ weeks, w.Exact := by
  intro w hw
  have hactual : w.actual = totalActual (daysFrom days w.start) := by
    rw [hweeks.actual w hw, filter_holds_eq (hweeks.mondays w hw) (hweeks.sundays w hw), totalActual_eq_sum]
  obtain ⟨d, hd, hheld⟩ := hweeks.inhabited w hw
  refine ⟨?_, ?_, hweeks.rates w hw⟩
  · rw [hactual]
    exact totalActual_nonneg fun d hd => hnonneg d (List.mem_filter.mp hd).1
  · rw [hactual, ← (holds_iff (hweeks.mondays w hw) (hweeks.sundays w hw)).mp hheld]
    exact htotal d hd

/-- The weeks of days without negative counts have trends that are exact in their counts, as long as their
totals are not too large and the calendar does not end in any of them. -/
theorem classifyTrends_exact (hcounts : ∀ d ∈ days, 0 ≤ d.possible ∧ 0 ≤ d.actual)
    (htotals : ∀ d ∈ days, totalPossible (daysFrom days d.date.monday) < 10 ^ 11 ∧
      totalActual (daysFrom days d.date.monday) < 10 ^ 11)
    (hdates : ∀ d ∈ days, d.date < lastMonday) :
    ∃ weeks trends, weeklySummaries days = .ok weeks ∧ WeeksOf days weeks ∧
      classifyTrends weeks = .ok trends ∧ TrendsOf weeks trends := by
  have hnonneg : ∀ d ∈ days, 0 ≤ d.actual := fun d hd => (hcounts d hd).2
  have htotal : ∀ d ∈ days, totalActual (daysFrom days d.date.monday) < 10 ^ 11 := fun d hd =>
    (htotals d hd).2
  have hrate : ∀ d ∈ days, ∃ rate, attendanceRate (totalActual (daysFrom days d.date.monday))
      (totalPossible (daysFrom days d.date.monday)) = .ok rate := by
    intro d hd
    have hlt := htotal d hd
    have hzero : 0 ≤ totalActual (daysFrom days d.date.monday) :=
      totalActual_nonneg fun c hc => hnonneg c (List.mem_filter.mp hc).1
    exact ⟨_, attendanceRate_eq hzero (by omega) _⟩
  obtain ⟨weeks, hw⟩ := exists_weeklySummaries hdates hrate
  have hweeks := weeksOf_of_ok hw
  obtain ⟨trends, ht, htrends⟩ := exists_trendsOf (exact_of_weeksOf hweeks hnonneg htotal)
    fun _ _ => hweeks.number_eq
  exact ⟨weeks, trends, hw, hweeks, ht, htrends⟩

end Days

/-- Three weeks with rates of 80.01, 82.01 and 80.00: the first movement is by the threshold, the second one
by more. -/
def atThreshold : List (Day String) :=
  [⟨⟨2024, 5, 8, by decide⟩, 10000, 8001, 1999, Binary64.zero, []⟩,
    ⟨⟨2024, 5, 14, by decide⟩, 10000, 8201, 1799, Binary64.zero, []⟩,
    ⟨⟨2024, 5, 21, by decide⟩, 10000, 8000, 2000, Binary64.zero, []⟩]

theorem classifyTrends_exact_atThreshold :
    ∃ weeks trends, weeklySummaries atThreshold = .ok weeks ∧ WeeksOf atThreshold weeks ∧
      classifyTrends weeks = .ok trends ∧ TrendsOf weeks trends :=
  classifyTrends_exact (by decide) (by decide +kernel) (by decide)

end SchoolRegister.Report
