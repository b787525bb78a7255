import SchoolRegister.Proofs.Report.Tally

/-! # The days of some records

The daily metrics divide the records with a student among their dates.  `DaysOf` says what the metrics of
some records are: one day for each date of such a record, in ascending order, each of which counts exactly
the records of its date and lists the absent students as their records stand.

There are such metrics whatever the size of the roster (`exists_dayOf`, `daysOf_of_ok`).  They depend on
the records with a student only (`dailyMetrics_of_counted`), and on the order of these only for the order
of the absent students of a day (`dailyMetrics_reordered`). -/

namespace SchoolRegister.Report

/-- What the daily metrics of some records say. -/
structure DaysOf {N : Type} (rs : List (Record N)) (total : Int) (days : List (Day N)) : Prop where
  dates : ∀ date, (∃ d ∈ days, d.date = date) ↔ ∃ r ∈ rs, r.student.isSome ∧ r.date = date
  ascending : days.Pairwise fun c d => c.date < d.date
  actual : ∀ d ∈ days, d.actual = rs.countP fun r => r.student.isSome && r.date = d.date && r.present
  absent : ∀ d ∈ days,
    d.absent = rs.filterMap fun r => if r.date = d.date ∧ r.present = false then r.student else none
  absentCount : ∀ d ∈ days, d.absentCount = d.absent.length
  possible : ∀ d ∈ days, d.possible = total
  rates : ∀ d ∈ days, attendanceRate d.actual total = .ok d.rate

/-- Two days are reported alike but for the order of the absent students. -/
structure Day.Reordered {N : Type} (a b : Day N) : Prop where
  date : a.date = b.date
  possible : a.possible = b.possible
  actual : a.actual = b.actual
  absentCount : a.absentCount = b.absentCount
  rate : a.rate = b.rate
  absent : a.absent.Perm b.absent

variable {N : Type} {rs rs' : List (Record N)} {total : Int} {days : List (Day N)} {date : Date}

/-! ### The records of a date -/

theorem mem_markedDates : date ∈ markedDates rs ↔ ∃ r ∈ rs, r.student.isSome ∧ r.date = date := by
  rw [markedDates, List.mem_mergeSort, mem_distinct, List.mem_map]
  constructor
  · rintro ⟨p, hp, rfl⟩
    obtain ⟨r, hr, hs⟩ := List.mem_filterMap.mp hp
    obtain ⟨s, hsome, rfl⟩ := Option.map_eq_some_iff.mp hs
    exact ⟨r, hr, Option.isSome_of_eq_some hsome, rfl⟩
  · rintro ⟨r, hr, hs, rfl⟩
    obtain ⟨s, hs⟩ := Option.isSome_iff_exists.mp hs
    exact ⟨(r, s), List.mem_filterMap.mpr ⟨r, hr, by rw [hs]; rfl⟩, rfl⟩

theorem countP_countedOn (rs : List (Record N)) (date : Date) (p : Record N → Bool) :
    (countedOn rs date).countP (fun q => p q.1) =
      rs.countP fun r => r.student.isSome && r.date = date && p r := by
  rw [countedOn, counted, List.countP_filter, List.countP_filterMap]
  refine List.countP_congr fun r _ => ?_
  cases r.student <;> simp [and_comm]

theorem presentOn_eq_countP (rs : List (Record N)) (date : Date) :
    presentOn rs date = rs.countP fun r => r.student.isSome && r.date = date && r.present :=
  countP_countedOn rs date fun r => r.present

theorem absentOn_eq_filterMap (rs : List (Record N)) (date : Date) :
    absentOn rs date =
      rs.filterMap fun r => if r.date = date ∧ r.present = false then r.student else none := by
  rw [absentOn, countedOn, counted, List.filter_filter, ← List.filterMap_eq_filter, ← List.filterMap_eq_map,
    List.filterMap_filterMap, List.filterMap_filterMap]
  refine List.filterMap_congr fun r _ => ?_
  by_cases hd : r.date = date <;> by_cases hp : r.present <;> cases r.student <;> simp [hd, hp]

/-! ### One day -/

/-- What is reported of one date. -/
structure DayOn (rs : List (Record N)) (total : Int) (date : Date) (d : Day N) : Prop where
  dated : d.date = date
  possible : d.possible = total
  actual : d.actual = presentOn rs date
  absent : d.absent = absentOn rs date
  absentCount : d.absentCount = d.absent.length
  rate : attendanceRate d.actual total = .ok d.rate

theorem dayOf_ok {d : Day N} (h : dayOf rs total date = .ok d) : DayOn rs total date d := by
  rw [dayOf_eq] at h
  obtain ⟨rate, hr, h⟩ := bind_eq_ok.mp h
  cases h
  exact ⟨rfl, rfl, rfl, rfl, rfl, hr⟩

/-- There is a report of every date, unless there are too many records to compute with. -/
theorem exists_dayOf (hlength : rs.length < 10 ^ 20) (total : Int) (date : Date) :
    ∃ d, dayOf rs total date = .ok d := by
  have hle : presentOn rs date ≤ rs.length := by
    rw [presentOn_eq_countP]
    exact List.countP_le_length
  have hpresent : (presentOn rs date : Int).natAbs < 10 ^ 20 := Nat.lt_of_le_of_lt hle hlength
  obtain ⟨rate, hr⟩ := exists_attendanceRate_of_lt hpresent total
  rw [dayOf_eq, hr]
  exact ⟨_, rfl⟩

/-! ### All days -/

/-- Daily metrics are those of the records. -/
theorem daysOf_of_ok (h : dailyMetrics rs total = .ok days) : DaysOf rs total days := by
  have hdates : days.map (·.date) = markedDates rs :=
    (map_eq_of_mapM (h := id) (fun _ _ _ hd => (dayOf_ok hd).dated) h).trans (List.map_id _)
  have hon : ∀ d ∈ days, DayOn rs total d.date d := by
    intro d hd
    obtain ⟨date, _, hday⟩ := exists_of_mem_mapM h hd
    have hon := dayOf_ok hday
    exact hon.dated.symm ▸ hon
  refine ⟨fun date => ?_, ?_, ?_, ?_, fun d hd => (hon d hd).absentCount, fun d hd => (hon d hd).possible,
    fun d hd => (hon d hd).rate⟩
  · rw [← mem_markedDates, ← hdates, List.mem_map]
  · exact List.pairwise_map.mp (hdates ▸ pairwise_sorted_dates _)
  · intro d hd
    rw [(hon d hd).actual, presentOn_eq_countP]
  · intro d hd
    rw [(hon d hd).absent, absentOn_eq_filterMap]

theorem dayOf_reordered (h : rs.Perm rs') (total : Int) (date : Date) :
    Alike Day.Reordered (dayOf rs total date) (dayOf rs' total date) := by
  have habsent := absentOn_perm h date
  rw [dayOf_eq, dayOf_eq, presentOn_perm h]
  refine (Alike.refl (fun _ => rfl) (attendanceRate _ total)).bind fun rate rate' e => ?_
  exact ⟨rfl, rfl, rfl, congrArg Int.ofNat habsent.length_eq, e, habsent⟩

/-- The order of the records shows in nothing but the order of the absent students. -/
theorem dailyMetrics_reordered (h : rs.Perm rs') (total : Int) :
    Alike (List.Forall₂ Day.Reordered) (dailyMetrics rs total) (dailyMetrics rs' total) :=
  dailyMetrics_of_perm h (dayOf_reordered h total)

theorem dailyMetrics_of_counted (h : counted rs = counted rs') (total : Int) :
    dailyMetrics rs total = dailyMetrics rs' total := by
  unfold dailyMetrics markedDates dayOf countedOn
  rw [h]

theorem counted_filter (rs : List (Record N)) : counted (rs.filter (·.student.isSome)) = counted rs := by
  rw [counted, counted, ← List.filterMap_eq_filter, List.filterMap_filterMap]
  refine List.filterMap_congr fun r _ => ?_
  cases hs : r.student <;> simp [hs]

theorem exists_daysOf (hlength : rs.length < 10 ^ 20) (total : Int) :
    ∃ days, dailyMetrics rs total = .ok days ∧ DaysOf rs total days := by
  obtain ⟨days, hd⟩ := exists_mapM (l := markedDates rs) fun date _ => exists_dayOf hlength total date
  exact ⟨days, hd, daysOf_of_ok hd⟩

/-- The records are divided among the days of their dates; their order shows in the lists of absent
students only, and records without a student do not show at all. -/
theorem dailyMetrics_partition (rs : List (Record N)) (total : Int) (hlength : rs.length < 10 ^ 20) :
    (∃ days, dailyMetrics rs total = .ok days ∧ DaysOf rs total days) ∧
    (∀ rs', rs.Perm rs' →
      Alike (List.Forall₂ Day.Reordered) (dailyMetrics rs total) (dailyMetrics rs' total)) ∧
    ∀ rs', rs.filter (·.student.isSome) = rs'.filter (·.student.isSome) →
      dailyMetrics rs' total = dailyMetrics rs total := by
  refine ⟨exists_daysOf hlength total, fun rs' h => dailyMetrics_reordered h total, fun rs' h => ?_⟩
  refine dailyMetrics_of_counted ?_ total
  rw [← counted_filter rs', ← counted_filter rs, h]

/-- Two students on one day and one of them on the day before, and a record without a student. -/
def twoDays : List (Record String) :=
  let adams : Summary String := ⟨"17", "Adams", "Zoe", none⟩
  let banda : Summary String := ⟨"18", "Banda", "Alice", none⟩
  [⟨1, 7, "5A", 1, 2024, ⟨2024, 1, 3, by decide⟩, true, some adams⟩,
    ⟨2, 8, "5A", 1, 2024, ⟨2024, 1, 3, by decide⟩, false, some banda⟩,
    ⟨3, 9, "5A", 1, 2024, ⟨2024, 1, 4, by decide⟩, true, none⟩,
    ⟨4, 7, "5A", 1, 2024, ⟨2024, 1, 2, by decide⟩, false, some adams⟩]

theorem dailyMetrics_partition_twoDays :
    (∃ days, dailyMetrics twoDays 30 = .ok days ∧ DaysOf twoDays 30 days) ∧
    Alike (List.Forall₂ Day.Reordered) (dailyMetrics twoDays 30) (dailyMetrics twoDays.reverse 30) ∧
    dailyMetrics (twoDays.filter (·.student.isSome)) 30 = dailyMetrics twoDays 30 := by
  obtain ⟨hdays, hperm, hdropped⟩ := dailyMetrics_partition twoDays 30 (by decide)
  refine ⟨hdays, hperm _ (List.reverse_perm _).symm, hdropped _ ?_⟩
  simp only [List.filter_filter, Bool.and_self]

end SchoolRegister.Report
