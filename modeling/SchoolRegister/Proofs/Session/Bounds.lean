import SchoolRegister.Proofs.Calendar.Weeks
import SchoolRegister.Proofs.Report.Selection
import SchoolRegister.Proofs.Service.Reading
import SchoolRegister.Proofs.Service.Reporting
import SchoolRegister.Proofs.Session.Records

/-! # Bounds select days

The bounds of a request select records of the store before these are sorted and counted.  Sorting is stable and
a day is made of the records of its date, so the daily metrics with bounds are those days of the metrics without
bounds that lie in the range, and the metrics of two adjacent ranges are put together to those of the joined
one.  A history with bounds is the part of the history without bounds that lies in the range
(`Session.bounds_select`). -/

namespace SchoolRegister

open Argument Report Service

/-- The arguments of a report without its bounds. -/
def Service.ReportArgs.unbounded (args : ReportArgs) : ReportArgs := { args with start := .null, finish := .null }

/-- The arguments of a history without its bounds. -/
def Service.HistoryArgs.unbounded (args : HistoryArgs) : HistoryArgs :=
  { args with start := .null, finish := .null }

theorem Service.ReportArgs.Denotes.unbounded {args : ReportArgs} {query : ReportQuery} (h : args.Denotes query) :
    args.unbounded.Denotes ⟨query.place, {}⟩ where
  span := ⟨.missing rfl, .missing rfl, nofun⟩
  className := h.className
  term := h.term
  year := h.year

theorem Service.HistoryArgs.Denotes.unbounded {args : HistoryArgs} {query : HistoryQuery}
    (h : args.Denotes query) : args.unbounded.Denotes { query with span := {} } where
  studentNumber := h.studentNumber
  term := h.term
  year := h.year
  span := ⟨.missing rfl, .missing rfl, nofun⟩

/-! ### Ranges -/

theorem Date.le_iff_of_next? {b b' d : Date} (h : b.next? = some b') : b' ≤ d ↔ ¬ d ≤ b := by
  have hnext : b'.ordinal = b.ordinal + 1 := by
    rcases b.next?_cases with ⟨e, he, ho⟩ | ⟨hnone, _⟩
    · rw [h, Option.some.injEq] at he
      rw [he, ho]
    · rw [h] at hnone
      cases hnone
  rw [Date.le_iff_ordinal, Date.le_iff_ordinal]
  omega

/-! ### Records of a range -/

namespace Store

variable {s : Store} {place : ClassTerm} {inner outer : Span}

/-- The records of a range are selected from those of any wider one. -/
theorem classRecords_eq_filter {p : Date → Bool} (h : ∀ d, inner.contains d = (outer.contains d && p d)) :
    s.classRecords place inner = (s.classRecords place outer).filter fun r => p r.date := by
  rw [classRecords, classRecords, filter_mergeSort classLE_iff, List.filter_filter]
  congr 1
  apply List.filter_congr
  intro r _
  rw [h, Bool.and_comm (p r.date), Bool.and_assoc]

theorem studentRecords_eq_filter (number : String) (term year : Int) (span : Span) :
    s.studentRecords number term year span =
      (s.studentRecords number term year {}).filter fun r => span.contains r.date := by
  have hle : ∀ a b : Record String, decide (b.date ≤ a.date) = true ↔
      OrderDual.toDual a.date.ordinal ≤ OrderDual.toDual b.date.ordinal := fun _ _ => decide_eq_true_iff
  rw [studentRecords, studentRecords, filter_mergeSort hle, List.filter_filter]
  congr 1
  apply List.filter_congr
  intro r _
  have hall : Span.contains {} r.date = true := rfl
  rw [hall, Bool.and_true, Bool.and_comm]

theorem newestFirst_filter (p : Date → Bool) (rs : List (Record String)) :
    newestFirst (rs.filter fun r => p r.date) = (newestFirst rs).filter fun e => p e.date := by
  have hle : ∀ a b : HistoryEntry String, decide (b.date ≤ a.date) = true ↔
      OrderDual.toDual a.date.ordinal ≤ OrderDual.toDual b.date.ordinal := fun _ _ => decide_eq_true_iff
  have hentries : (rs.filter fun r => p r.date).filterMap historyItem? =
      (rs.filterMap historyItem?).filter fun e => p e.date := by
    rw [← List.filterMap_eq_filter, List.filterMap_filterMap, ← List.filterMap_eq_filter, List.filterMap_filterMap]
    apply List.filterMap_congr
    intro r _
    cases hs : r.student <;> cases hp : p r.date <;> simp [Option.guard, historyItem?, hs, hp]
  rw [newestFirst, newestFirst, hentries, filter_mergeSort hle]

def metrics (s : Store) (place : ClassTerm) (span : Span) : Except Failure (List (Day String)) :=
  dailyMetrics (s.classRecords place span) (s.members place).length

theorem exists_metrics (hlength : s.records.length < 10 ^ 20) (place : ClassTerm) (span : Span) :
    ∃ days, s.metrics place span = .ok days := by
  have hle := s.length_classRecords_le place span
  obtain ⟨days, hdays, _⟩ := exists_daysOf (Nat.lt_of_le_of_lt hle hlength) (s.members place).length
  exact ⟨days, hdays⟩

theorem metrics_of_unbounded {days : List (Day String)} (h : s.metrics place {} = .ok days) (span : Span) :
    s.metrics place span = .ok (days.filter fun d => span.contains d.date) := by
  have hall : ∀ d, span.contains d = (Span.contains {} d && span.contains d) := fun _ => rfl
  rw [metrics, classRecords_eq_filter hall]
  exact dailyMetrics_filter_of_ok span.contains h

/-- The metrics of two adjacent ranges are put together to those of the joined range. -/
theorem metrics_join (place : ClassTerm) {first last : Option Date} {b b' : Date} (hnext : b.next? = some b')
    (hfirst : ∀ a, first = some a → a ≤ b) (hlast : ∀ c, last = some c → b' ≤ c) :
    s.metrics place ⟨first, last⟩ = do
      let earlier ← s.metrics place ⟨first, some b⟩
      let later ← s.metrics place ⟨some b', last⟩
      return earlier ++ later := by
  have hafter : ∀ d, b' ≤ d ↔ ¬ d ≤ b := fun d => Date.le_iff_of_next? hnext
  have hearlier : ∀ d, Span.contains ⟨first, some b⟩ d =
      (Span.contains ⟨first, last⟩ d && decide (d ≤ b)) := by
    intro d
    cases last with
    | none => simp [Span.contains]
    | some c =>
        have hc : d ≤ b → d ≤ c := fun hdb => by
          have := hlast c rfl
          rw [hafter] at this
          exact Date.le_trans hdb ((Date.le_total b c).resolve_right this)
        by_cases hdb : d ≤ b <;> simp [Span.contains, hdb, hc]
  have hlater : ∀ d, Span.contains ⟨some b', last⟩ d =
      (Span.contains ⟨first, last⟩ d && !decide (d ≤ b)) := by
    intro d
    cases first with
    | none => simp [Span.contains, hafter, Bool.and_comm]
    | some a =>
        have ha : ¬ d ≤ b → a ≤ d := fun hdb =>
          Date.le_trans (hfirst a rfl) ((Date.le_total b d).resolve_right hdb)
        by_cases hdb : d ≤ b <;> simp [Span.contains, hafter, hdb, ha]
  rw [metrics, metrics, metrics, classRecords_eq_filter hearlier, classRecords_eq_filter hlater]
  exact dailyMetrics_split b _ _

end Store

/-! ### Steps -/

namespace Session

variable {s : Session}

theorem step_daily_eq_metrics (hd : s.store.down = false) {args : ReportArgs} {query : ReportQuery}
    (h : args.Denotes query) (hm : s.store.members query.place ≠ []) :
    (s.step (.daily args)).1 = Except.map Answer.days (s.store.metrics query.place query.span) :=
  step_daily_of_validate hd (ReportArgs.validate_eq_ok_iff.mpr h) hm

theorem map_days_eq_ok_iff {e : Except Failure (List (Day String))} {days : List (Day String)} :
    Except.map Answer.days e = .ok (.days days) ↔ e = .ok days := by
  cases e <;> simp [Except.map]

/-- Bounds select days.  The metrics with bounds are the days of the metrics without bounds that lie in the
range, those of two adjacent ranges are put together to those of the joined range, and a history with bounds is
the part of the one without bounds that lies in the range. -/
theorem bounds_select (hd : s.store.down = false) :
    (∀ (args : ReportArgs) query, args.Denotes query → s.store.members query.place ≠ [] →
      (s.store.records.length < 10 ^ 20 → ∃ days, (s.step (.daily args)).1 = .ok (.days days)) ∧
      ∀ days, (s.step (.daily args.unbounded)).1 = .ok (.days days) →
        (s.step (.daily args)).1 = .ok (.days (days.filter fun d => query.span.contains d.date))) ∧
    (∀ (earlier later joined : ReportArgs) place first last b b', b.next? = some b' →
      earlier.Denotes ⟨place, ⟨first, some b⟩⟩ → later.Denotes ⟨place, ⟨some b', last⟩⟩ →
      joined.Denotes ⟨place, ⟨first, last⟩⟩ → s.store.members place ≠ [] →
      ∀ days, (s.step (.daily joined)).1 = .ok (.days days) ↔
        ∃ days₁ days₂, (s.step (.daily earlier)).1 = .ok (.days days₁) ∧
          (s.step (.daily later)).1 = .ok (.days days₂) ∧ days = days₁ ++ days₂) ∧
    ∀ (args : HistoryArgs) query, args.Denotes query → ∃ entries,
      (s.step (.history args.unbounded)).1 = .ok (.historyEntries entries) ∧
      (s.step (.history args)).1 =
        .ok (.historyEntries (entries.filter fun e => query.span.contains e.date)) := by
  refine ⟨fun args query h hm => ⟨fun hlength => ?_, fun days hdays => ?_⟩, ?_, fun args query h => ?_⟩
  · obtain ⟨days, hdays⟩ := s.store.exists_metrics hlength query.place query.span
    exact ⟨days, by rw [step_daily_eq_metrics hd h hm, hdays]; rfl⟩
  · rw [step_daily_eq_metrics hd h.unbounded hm, map_days_eq_ok_iff] at hdays
    rw [step_daily_eq_metrics hd h hm, Store.metrics_of_unbounded hdays]
    rfl
  · intro earlier later joined place first last b b' hnext hearlier hlater hjoined hm days
    have hjoin := s.store.metrics_join place hnext (fun a ha => hearlier.span.ordered a b ha rfl)
      fun c hc => hlater.span.ordered b' c rfl hc
    rw [step_daily_eq_metrics hd hearlier hm, step_daily_eq_metrics hd hlater hm,
      step_daily_eq_metrics hd hjoined hm, map_days_eq_ok_iff, hjoin]
    simp only [map_days_eq_ok_iff, bind_eq_ok]
    constructor
    · rintro ⟨days₁, h₁, days₂, h₂, h⟩
      cases h
      exact ⟨days₁, days₂, h₁, h₂, rfl⟩
    · rintro ⟨days₁, days₂, h₁, h₂, rfl⟩
      exact ⟨days₁, h₁, days₂, h₂, rfl⟩
  · refine ⟨_, step_history_of_validate hd (HistoryArgs.validate_eq_ok_iff.mpr h.unbounded), ?_⟩
    rw [step_history_of_validate hd (HistoryArgs.validate_eq_ok_iff.mpr h), Store.studentRecords_eq_filter, Store.newestFirst_filter]

/-- Two days that are marked one after another: a range of the earlier one of them, that range and the one that
follows on it, and the same range of the history. -/
theorem bounds_select_small :
    let t := small.after [smallMark true "2024-01-04", smallMark false "2024-01-02"]
    let span : Span := ⟨some ⟨2024, 1, 2, by decide⟩, some ⟨2024, 1, 3, by decide⟩⟩
    let args (start finish : Value) : ReportArgs :=
      { className := .text "5B", term := .text "1", year := .int 2024, start, finish }
    let earlier := args (.text "2024-01-02") (.text " 2024-01-03")
    let later := args (.text "2024-01-04") .null
    let joined := args (.text "2024-01-02") (.text "")
    let history : HistoryArgs := { studentNumber := .text "17", term := .int 1, year := .int 2024,
                                   start := .text "2024-01-02", finish := .text "2024-01-03" }
    (∃ days, (t.step (.daily earlier.unbounded)).1 = .ok (.days days) ∧
      (∃ d ∈ days, d.date = ⟨2024, 1, 4, by decide⟩) ∧
      (t.step (.daily earlier)).1 = .ok (.days (days.filter fun d => span.contains d.date))) ∧
    (∃ days₁ days₂, (t.step (.daily earlier)).1 = .ok (.days days₁) ∧
      (t.step (.daily later)).1 = .ok (.days days₂) ∧
      (t.step (.daily joined)).1 = .ok (.days (days₁ ++ days₂))) ∧
    ∃ entries, (t.step (.history history.unbounded)).1 = .ok (.historyEntries entries) ∧
      (t.step (.history history)).1 =
        .ok (.historyEntries (entries.filter fun e => span.contains e.date)) := by
  intro t span args earlier later joined history
  have hearlier : earlier.Denotes ⟨⟨"5B", 1, 2024⟩, span⟩ := ReportArgs.validate_eq_ok_iff.mp (by rfl)
  have hlater : later.Denotes ⟨⟨"5B", 1, 2024⟩, ⟨some ⟨2024, 1, 4, by decide⟩, none⟩⟩ :=
    ReportArgs.validate_eq_ok_iff.mp (by rfl)
  have hjoined : joined.Denotes ⟨⟨"5B", 1, 2024⟩, ⟨some ⟨2024, 1, 2, by decide⟩, none⟩⟩ :=
    ReportArgs.validate_eq_ok_iff.mp (by rfl)
  have hhistory : history.Denotes ⟨"17", 1, 2024, span⟩ := HistoryArgs.validate_eq_ok_iff.mp (by rfl)
  have hm : t.store.members ⟨"5B", 1, 2024⟩ ≠ [] := by decide
  obtain ⟨hselect, hjoin, hpast⟩ := bounds_select (s := t) rfl
  obtain ⟨days, hdays⟩ := (hselect _ _ hearlier.unbounded hm).1 (by decide)
  refine ⟨⟨days, hdays, ?_, (hselect _ _ hearlier hm).2 days hdays⟩, ?_, hpast _ _ hhistory⟩
  · rw [step_daily_eq_metrics rfl hearlier.unbounded hm, map_days_eq_ok_iff] at hdays
    rw [(daysOf_of_ok hdays).dates]
    refine ⟨⟨1, 7, "5B", 1, 2024, ⟨2024, 1, 4, by decide⟩, true, some ⟨"17", "Adams", "Zoe", none⟩⟩, ?_, rfl, rfl⟩
    exact Store.mem_classRecords.mpr ⟨.head _, rfl, rfl⟩
  · obtain ⟨all, hall⟩ := (hselect _ _ hjoined hm).1 (by decide)
    obtain ⟨days₁, days₂, h₁, h₂, rfl⟩ :=
      (hjoin _ _ _ _ _ _ _ _ (by rfl) hearlier hlater hjoined hm all).mp hall
    exact ⟨days₁, days₂, h₁, h₂, hall⟩

end Session
end SchoolRegister
