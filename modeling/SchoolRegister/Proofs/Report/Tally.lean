import Mathlib.Algebra.BigOperators.Ring.Finset
import SchoolRegister.Proofs.Groups
import SchoolRegister.Proofs.Number.Percentage
import SchoolRegister.Proofs.Report.ClassSummary
import SchoolRegister.Proofs.Report.Weekly

/-! # Report and summary count the same records

A report groups the records of a class by date and the days by week, a summary groups the records by
student.  All of them are groupings of the records that count, so they come to the same totals:

* `sum_days` says what the daily metrics add up to, and `sum_weeks` what the weeks of some days do;
* `Summarized` says what a summary counts: its students add up to the records (`Summarized.sum_students`),
  and there always is one (`exists_summarize`). -/

namespace SchoolRegister.Report

/-! ### Days -/

theorem nodup_sorted_distinct {α : Type} [DecidableEq α] {le : α → α → Bool} (l : List α) :
    ((distinct l).mergeSort le).Nodup :=
  (List.mergeSort_perm _ _).nodup_iff.mpr (nodup_distinct l)

theorem mem_sorted_distinct {α : Type} [DecidableEq α] {le : α → α → Bool} {l : List α} {a : α}
    (h : a ∈ l) : a ∈ (distinct l).mergeSort le := by
  rw [List.mem_mergeSort, mem_distinct]
  exact h

theorem pairwise_sorted_dates (l : List Date) :
    ((distinct l).mergeSort fun a b => a ≤ b).Pairwise (· < ·) := by
  have hle : ((distinct l).mergeSort fun a b => a ≤ b).Pairwise fun a b => a.ordinal ≤ b.ordinal :=
    pairwise_mergeSort_of_rank (fun a b => decide_eq_true_iff) _
  refine (hle.and (nodup_sorted_distinct l)).imp fun {a b} hab => ?_
  exact Date.lt_iff_ordinal.mpr (Nat.lt_of_le_of_ne hab.1 fun e => hab.2 (Date.ordinal_injective e))

section Days

variable {N : Type} {rs : List (Record N)} {total : Int} {days : List (Day N)}

theorem date_mem_markedDates : ∀ p ∈ counted rs, p.1.date ∈ markedDates rs :=
  fun _ hp => mem_sorted_distinct (List.mem_map_of_mem hp)

/-- What the daily metrics say is read off the dates of the records. -/
theorem map_dailyMetrics {β : Type} {g : Day N → β} {h : Date → β}
    (hg : ∀ date rate, g ⟨date, total, presentOn rs date, (absentOn rs date).length, rate,
      absentOn rs date⟩ = h date)
    (hd : dailyMetrics rs total = .ok days) : days.map g = (markedDates rs).map h := by
  refine map_eq_of_mapM (fun date _ day hday => ?_) hd
  rw [dayOf_eq] at hday
  obtain ⟨rate, _, hday⟩ := bind_eq_ok.mp hday
  cases hday
  exact hg date rate

theorem sum_countedOn (rs : List (Record N)) (p : Record N × Summary N → Bool) :
    ((markedDates rs).map fun date => (countedOn rs date).countP p).sum = (counted rs).countP p :=
  countP_groups (nodup_sorted_distinct _) date_mem_markedDates p

/-- A count of each day that is one of the records of its date adds up to the count of all records. -/
theorem sum_days {g : Day N → Int} {p : Record N × Summary N → Bool}
    (hg : ∀ date rate, g ⟨date, total, presentOn rs date, (absentOn rs date).length, rate,
      absentOn rs date⟩ = (countedOn rs date).countP p)
    (hd : dailyMetrics rs total = .ok days) : (days.map g).sum = (counted rs).countP p := by
  rw [map_dailyMetrics hg hd, ← sum_countedOn rs p, Nat.cast_list_sum, List.map_map]
  rfl

theorem length_absentOn (rs : List (Record N)) (date : Date) :
    (absentOn rs date).length = (countedOn rs date).countP (!·.1.present) := by
  rw [absentOn, List.length_map, List.countP_eq_length_filter]

/-- A number occurs among the absent students of the days as often as it was marked absent. -/
theorem countP_absent (hd : dailyMetrics rs total = .ok days) (number : String) :
    (days.flatMap (·.absent)).countP (·.number == number) =
      ((counted rs).filter fun p => p.2.number == number).countP (!·.1.present) := by
  have habsent : days.map (·.absent) = (markedDates rs).map (absentOn rs) :=
    map_dailyMetrics (fun _ _ => rfl) hd
  rw [List.countP_filter, ← sum_countedOn, List.flatMap_def, habsent, List.countP_flatten, List.map_map]
  congr 1
  refine List.map_congr_left fun date _ => ?_
  rw [Function.comp_apply, absentOn, List.countP_map, List.countP_filter]
  refine List.countP_congr fun p _ => ?_
  rw [Function.comp_apply, Bool.and_comm]

end Days

/-! ### Weeks -/

section Weeks

variable {N : Type} {days : List (Day N)} {weeks : List Week}

/-- The days of the week that starts on a date. -/
def daysOfWeek (placed : List (Date × Day N)) (start : Date) : List (Day N) :=
  (placed.filter fun p => p.1 = start).map (·.2)

theorem totalPossible_eq_sum (days : List (Day N)) :
    totalPossible days = (days.map (·.possible)).sum := by
  rw [totalPossible, List.sum_eq_foldr, List.foldr_map]

theorem totalActual_eq_sum (days : List (Day N)) : totalActual days = (days.map (·.actual)).sum := by
  rw [totalActual, List.sum_eq_foldr, List.foldr_map]

theorem totalPossible_dailyMetrics {rs : List (Record N)} {total : Int}
    (hd : dailyMetrics rs total = .ok days) : totalPossible days = total * days.length := by
  have hpossible : days.map (·.possible) = (markedDates rs).map fun _ => total :=
    map_dailyMetrics (fun _ _ => rfl) hd
  have htotal : days.map (fun _ => total) = (markedDates rs).map fun _ => total :=
    map_dailyMetrics (fun _ _ => rfl) hd
  rw [totalPossible_eq_sum, hpossible, ← htotal, List.map_const', List.sum_replicate, nsmul_eq_mul,
    mul_comm]

theorem counts_of_overallStats {overall : Overall} (h : overallStats days = .ok overall) :
    overall.possible = totalPossible days ∧ overall.actual = totalActual days ∧
      overall.days = days.length := by
  obtain ⟨rate, _, h⟩ := bind_eq_ok.mp h
  cases h
  exact ⟨rfl, rfl, rfl⟩

theorem counts_of_weekOf {placed : List (Date × Day N)} {start : Date} {number : Int} {w : Week}
    (h : weekOf placed start number = .ok w) :
    w.possible = totalPossible (daysOfWeek placed start) ∧
      w.actual = totalActual (daysOfWeek placed start) ∧
        w.days = (daysOfWeek placed start).length := by
  obtain ⟨finish, _, h⟩ := bind_eq_ok.mp h
  obtain ⟨rate, _, h⟩ := bind_eq_ok.mp h
  cases h
  exact ⟨rfl, rfl, rfl⟩

theorem map_snd_withWeekStart {placed : List (Date × Day N)} (h : withWeekStart days = .ok placed) :
    placed.map (·.2) = days := by
  rw [← List.map_id days]
  refine map_eq_of_mapM (fun d _ p hd => ?_) h
  cases hs : d.date.weekStart? with
  | none => rw [hs] at hd; cases hd
  | some start => rw [hs] at hd; cases hd; rfl

/-- What the weeks add up to is what their days add up to. -/
theorem sum_weeks {M : Type} [AddCommMonoid M] {g : Week → M} {f : Day N → M}
    (hg : ∀ placed start number w, weekOf placed start number = .ok w →
      g w = ((daysOfWeek placed start).map f).sum)
    (hw : weeklySummaries days = .ok weeks) : (weeks.map g).sum = (days.map f).sum := by
  obtain ⟨placed, hp, hw⟩ := bind_eq_ok.mp hw
  -- the weeks are the groups of the placed days by the start of the week
  have hnodup : ((distinct (placed.map (·.1))).mergeSort fun a b : Date => a ≤ b).Nodup :=
    nodup_sorted_distinct _
  have hmem : ∀ p ∈ placed, p.1 ∈ (distinct (placed.map (·.1))).mergeSort fun a b : Date => a ≤ b :=
    fun p hp => mem_sorted_distinct (List.mem_map_of_mem hp)
  have hweeks := map_eq_of_mapM (f := fun p : Date × Nat => weekOf placed p.1 p.2)
    (h := (fun start => ((daysOfWeek placed start).map f).sum) ∘ Prod.fst)
    (fun p _ w h => hg _ _ _ w h) hw
  have hgroups := sum_groups hnodup hmem (f ∘ (·.2))
  rw [← List.map_map, map_snd_withWeekStart hp] at hgroups
  rw [hweeks, ← List.map_map, List.zipIdx_map_fst, ← hgroups]
  congr 1
  refine List.map_congr_left fun start _ => ?_
  rw [daysOfWeek, List.map_map]

theorem sum_actual_weeks (hw : weeklySummaries days = .ok weeks) :
    (weeks.map (·.actual)).sum = totalActual days := by
  rw [totalActual_eq_sum]
  refine sum_weeks (fun placed start number w h => ?_) hw
  rw [(counts_of_weekOf h).2.1, totalActual_eq_sum]

theorem sum_possible_weeks (hw : weeklySummaries days = .ok weeks) :
    (weeks.map (·.possible)).sum = totalPossible days := by
  rw [totalPossible_eq_sum]
  refine sum_weeks (fun placed start number w h => ?_) hw
  rw [(counts_of_weekOf h).1, totalPossible_eq_sum]

theorem sum_days_weeks (hw : weeklySummaries days = .ok weeks) :
    (weeks.map (·.days)).sum = days.length := by
  have hone : ∀ l : List (Day N), (l.map fun _ => 1).sum = l.length := by simp
  rw [← hone]
  refine sum_weeks (fun placed start number w h => ?_) hw
  rw [(counts_of_weekOf h).2.2, hone]

end Weeks

/-! ### Students -/

section Students

variable {rs : List (Record String)} {number : String}

/-- How many records of a number say that the student was absent. -/
def absentOf (rs : List (Record String)) (number : String) : Nat :=
  (countedOf rs number).countP (!·.1.present)

/-- How many records say that their student was absent. -/
def absentIn (rs : List (Record String)) : Nat := (counted rs).countP (!·.1.present)

/-- The number of a student and what is counted for it. -/
structure Count where
  number : String
  total : Nat
  present : Nat
  absent : Nat

/-- What the records count for a number. -/
def countOf (rs : List (Record String)) (number : String) : Count :=
  ⟨number, (countedOf rs number).length, presentOf rs number, absentOf rs number⟩

/-- What the counts of a student say, apart from the names and the rate. -/
def StudentStats.count (x : StudentStats String) : Count :=
  ⟨x.student.number, x.total, x.present, x.absent⟩

theorem length_sub_countP {α : Type} (l : List α) (p : α → Bool) :
    l.length - l.countP p = l.countP fun a => !p a := by
  have h := List.length_eq_countP_add_countP (l := l) p
  have hnot : l.countP (fun a => decide ¬p a = true) = l.countP fun a => !p a :=
    List.countP_congr fun a _ => by simp
  omega

theorem not_mem_studentNumbers (h : number ∉ studentNumbers rs) : countedOf rs number = [] := by
  refine List.filter_eq_nil_iff.mpr fun p hp e => h ?_
  rw [studentNumbers, mem_distinct, ← beq_iff_eq.mp e]
  exact List.mem_map_of_mem hp

theorem countedOf_ne_nil (h : number ∈ studentNumbers rs) : countedOf rs number ≠ [] := by
  obtain ⟨p, hp, hn⟩ := List.mem_map.mp (mem_distinct.mp h)
  exact List.ne_nil_of_mem (List.mem_filter.mpr ⟨hp, beq_iff_eq.mpr hn⟩)

theorem exists_statsOf? (h : number ∈ studentNumbers rs) :
    ∃ x, statsOf? rs number = .ok (some x) ∧ x.count = countOf rs number := by
  obtain ⟨student, hs, hn⟩ := exists_head?_studentsOf h
  have hlength : (studentsOf rs number).length = (countedOf rs number).length := List.length_map _
  have hle : presentOf rs number ≤ (studentsOf rs number).length := hlength ▸ List.countP_le_length
  obtain ⟨rate, hr⟩ := exists_attendanceRate hle
  refine ⟨⟨student, (studentsOf rs number).length, presentOf rs number,
    (studentsOf rs number).length - presentOf rs number, rate⟩, ?_, ?_⟩
  · rw [statsOf?_eq, hr, hs]
    rfl
  · rw [StudentStats.count, countOf, hn, hlength, presentOf, length_sub_countP]
    rfl

theorem exists_sortStudents {stats : List (StudentStats String)}
    (h : (stats.map (·.student.number)).Nodup) : ∃ l, sortStudents stats = .ok l ∧ l.Perm stats :=
  ⟨_, by rw [sortStudents, ranked?, if_pos (isDecided_of_nodup h)]; rfl, List.mergeSort_perm _ _⟩

/-- What a summary says of some records. -/
structure Summarized (rs : List (Record String)) (summary : ClassSummary String) : Prop where
  records : summary.records = (counted rs).length
  present : summary.present = presentIn rs
  absent : summary.absent = absentIn rs
  students : (summary.students.map (·.count)).Perm ((studentNumbers rs).map (countOf rs))

/-- Records always have a summary. -/
theorem exists_summarize (rs : List (Record String)) (place : ClassTerm) :
    ∃ summary, summarize rs place = .ok summary ∧ summary.place = place ∧ Summarized rs summary := by
  obtain ⟨found, hf⟩ := exists_mapM (f := statsOf? rs) (l := studentNumbers rs) fun number h =>
    (exists_statsOf? h).imp' some fun _ hx => hx.1
  have hcounts : (found.filterMap id).map (·.count) = (studentNumbers rs).map (countOf rs) := by
    refine map_filterMap_of_mapM (fun number h o ho => ?_) hf
    obtain ⟨x, hx, hc⟩ := exists_statsOf? h
    rw [hx] at ho
    cases ho
    rw [Option.map_some, hc]
  obtain ⟨students, hs, hp⟩ := exists_sortStudents (nodup_of_mapM hf)
  have hle : presentIn rs ≤ (counted rs).length := List.countP_le_length
  obtain ⟨rate, hr⟩ := exists_attendanceRate hle
  refine ⟨⟨place, (counted rs).length, presentIn rs, (counted rs).length - presentIn rs, rate, students⟩,
    ?_, rfl, ?_⟩
  · rw [summarize_eq, hf]
    refine bind_eq_ok.mpr ⟨found, rfl, bind_eq_ok.mpr ⟨students, hs, bind_eq_ok.mpr ⟨rate, hr, rfl⟩⟩⟩
  · exact ⟨rfl, rfl, length_sub_countP _ _, hcounts ▸ hp.map _⟩

/-- How often a summary says that a number was absent: not at all if it has no entry. -/
def ClassSummary.absences (summary : ClassSummary String) (number : String) : Nat :=
  ((summary.students.find? fun x => x.student.number = number).map (·.absent)).getD 0

namespace Summarized

variable {summary : ClassSummary String}

theorem numbers_perm (h : Summarized rs summary) :
    (summary.students.map (·.student.number)).Perm (studentNumbers rs) := by
  have hn := h.students.map (·.number)
  rw [List.map_map, List.map_map] at hn
  exact hn.trans (.of_eq (List.map_id _))

/-- What the students add up to is what their records add up to. -/
theorem sum_students (h : Summarized rs summary) {g : Count → Nat} {p : Record String × Summary String → Bool}
    (hg : ∀ number, g (countOf rs number) = (countedOf rs number).countP p) :
    (summary.students.map fun x => g x.count).sum = (counted rs).countP p := by
  have hmem : ∀ q ∈ counted rs, q.2.number ∈ studentNumbers rs := fun q hq =>
    mem_distinct.mpr (List.mem_map_of_mem (f := fun q : Record String × Summary String => q.2.number) hq)
  have hsum := (h.students.map g).sum_eq
  rw [List.map_map, List.map_map] at hsum
  refine hsum.trans ?_
  rw [← countP_groups (nodup_distinct _) hmem p]
  congr 1
  refine List.map_congr_left fun number _ => ?_
  rw [Function.comp_apply, hg]
  rfl

/-- A number that occurs has one entry, with what is counted for it, and any other has none. -/
theorem counts_of_number (h : Summarized rs summary) (number : String) :
    (summary.students.filter fun x => x.student.number = number).map (·.count) =
      if number ∈ studentNumbers rs then [countOf rs number] else [] := by
  have hp := h.students.filter fun c => c.number = number
  rw [List.filter_map, List.filter_map] at hp
  have hnumber : (studentNumbers rs).filter ((fun c : Count => decide (c.number = number)) ∘ countOf rs) =
      if number ∈ studentNumbers rs then [number] else [] := by
    have hn : (studentNumbers rs).Nodup := nodup_distinct _
    rw [show ((fun c : Count => decide (c.number = number)) ∘ countOf rs) =
      fun n => decide (n = number) from rfl, List.filter_eq, hn.count]
    split <;> rfl
  rw [hnumber] at hp
  split at hp
  · rename_i hm
    rw [if_pos hm]
    exact List.perm_singleton.mp hp
  · rename_i hm
    rw [if_neg hm]
    exact List.perm_nil.mp hp

theorem absences_eq (h : Summarized rs summary) (number : String) :
    summary.absences number = absentOf rs number := by
  unfold ClassSummary.absences
  cases hx : summary.students.find? fun x => x.student.number = number with
  | some x =>
      have hn : x.student.number = number := by simpa using List.find?_some hx
      have hmem := h.students.mem_iff.mp (List.mem_map_of_mem (f := fun y => y.count)
        (List.mem_of_find?_eq_some hx))
      obtain ⟨n, _, hc⟩ := List.mem_map.mp hmem
      have hn' : n = number := (congrArg Count.number hc).trans hn
      have ha : absentOf rs n = x.absent := congrArg Count.absent hc
      rw [Option.map_some, Option.getD_some, ← ha, hn']
  | none =>
      have hnot : number ∉ studentNumbers rs := by
        rw [← h.numbers_perm.mem_iff]
        intro hmem
        obtain ⟨x, hx', hn⟩ := List.mem_map.mp hmem
        simpa [hn] using List.find?_eq_none.mp hx x hx'
      rw [absentOf, not_mem_studentNumbers hnot]
      rfl

end Summarized

end Students

end SchoolRegister.Report
