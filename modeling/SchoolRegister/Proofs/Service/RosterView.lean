import SchoolRegister.Proofs.Report.DailyCounts
import SchoolRegister.Proofs.Service.Reading

/-! # The roster shows all records

The daily metrics of a class count its records, the view of a class goes through its roster.  If each number
has one record at most and the roster knows every student with a record, each of them once
(`Store.Covers`), the two meet: the records that the view of a date finds for its students are the records of
the date (`Store.filterMap_recordOf?_perm`).  So each day counts the entries of its view
(`Store.DayShown`). -/

namespace SchoolRegister

open Report Service

namespace Store

/-- The roster knows every student with a record in the class, and each number once. -/
structure Covers (s : Store) (place : ClassTerm) (students : List (Student String)) : Prop where
  nodup : (students.map (·.number)).Nodup
  known : ∀ r ∈ s.records, r.key.place = place →
    ∃ x ∈ students, r.student.any (fun y => y.number == x.number) = true

variable {s : Store} {place : ClassTerm} {students : List (Student String)} {date : Date} {span : Span}

/-! ### The records of the view -/

theorem nodup_classRecords (s : Store) (place : ClassTerm) (span : Span) : (s.classRecords place span).Nodup :=
  (List.mergeSort_perm _ _).nodup_iff.mpr ((List.Nodup.of_map _ s.keys_nodup).filter _)

/-- A number has no record in a class on a date but the one that the view finds. -/
theorem OneIdEach.recordsOf_eq (h : s.OneIdEach) (place : ClassTerm) (date : Date) (number : String) :
    s.recordsOf place date number = (recordOf? (s.classRecords place (.only date)) number).toList := by
  rw [recordOf?_eq_getLast?]
  have hnodup : (s.recordsOf place date number).Nodup := (s.nodup_classRecords place _).filter _
  cases hrecords : s.recordsOf place date number with
  | nil => rfl
  | cons r rest =>
      rw [hrecords, List.nodup_cons] at hnodup
      have hrest : rest = [] := by
        refine List.eq_nil_iff_forall_not_mem.mpr fun r' hr' => hnodup.1 ?_
        have heq : r' = r := h.eq_of_mem (hrecords ▸ List.mem_cons_of_mem r hr')
          (hrecords ▸ List.mem_cons_self)
        exact heq ▸ hr'
      rw [hrest]
      rfl

/-- The number of the student of a record, empty if it has none. -/
def numberOf (r : Record String) : String := (r.student.map (·.number)).getD ""

/-- The records that the view of a class finds for the students on the roster are the records of the date. -/
theorem filterMap_recordOf?_perm (h : s.OneIdEach) (hc : s.Covers place students) (date : Date) :
    (students.filterMap fun x => recordOf? (s.classRecords place (.only date)) x.number).Perm
      (s.classRecords place (.only date)) := by
  -- the records are grouped by the numbers of their students, all of which are on the roster
  have hstudent : ∀ r ∈ s.classRecords place (.only date), ∃ x ∈ students,
      ∃ y, r.student = some y ∧ y.number = x.number := by
    intro r hr
    obtain ⟨hr, hplace, _⟩ := mem_classRecords.mp hr
    obtain ⟨x, hx, hany⟩ := hc.known r hr hplace
    obtain ⟨y, hy, hn⟩ := (Option.any_eq_true _ _).mp hany
    exact ⟨x, hx, y, hy, beq_iff_eq.mp hn⟩
  have hnumber : ∀ r ∈ s.classRecords place (.only date), numberOf r ∈ students.map (·.number) := by
    intro r hr
    obtain ⟨x, hx, y, hy, hn⟩ := hstudent r hr
    rw [numberOf, hy, Option.map_some, Option.getD_some, hn]
    exact List.mem_map_of_mem hx
  have hgroups := flatMap_groups_perm hc.nodup hnumber
  rw [List.flatMap_map] at hgroups
  rw [List.filterMap_eq_flatMap_toList]
  refine (List.Perm.of_eq (List.flatMap_congr fun x _ => ?_)).trans hgroups
  rw [← h.recordsOf_eq, recordsOf]
  refine List.filter_congr fun r hr => ?_
  obtain ⟨_, _, y, hy, _⟩ := hstudent r hr
  rw [numberOf, hy]
  rfl

theorem countP_classRecords_only (h : s.OneIdEach) (hc : s.Covers place students) (date : Date)
    (p : Record String → Bool) : (s.classRecords place (.only date)).countP p =
      students.countP fun x => (recordOf? (s.classRecords place (.only date)) x.number).any p := by
  rw [← (filterMap_recordOf?_perm h hc date).countP_eq, List.countP_filterMap]
  refine List.countP_congr fun x _ => ?_
  cases recordOf? (s.classRecords place (.only date)) x.number <;> rfl

theorem countP_classRecords_on (h : span.contains date = true) (p : Record String → Bool) :
    (s.classRecords place span).countP (fun r => decide (r.date = date) && p r) =
      (s.classRecords place (.only date)).countP p := by
  unfold classRecords
  rw [(List.mergeSort_perm _ _).countP_eq, (List.mergeSort_perm _ _).countP_eq, List.countP_filter,
    List.countP_filter]
  refine List.countP_congr fun r _ => ?_
  by_cases hd : r.date = date
  · simp [hd, h, Span.contains_only.mpr]
  · have hnot : (Span.only date).contains r.date = false :=
      Bool.eq_false_iff.mpr fun hc => hd (Span.contains_only.mp hc)
    simp [hd, hnot]

/-! ### The days -/

/-- The entries of the view of a class on a date. -/
def viewOf (s : Store) (place : ClassTerm) (date : Date) (students : List (Student String)) :
    List (ClassEntry String) :=
  students.map (classEntry (s.classRecords place (.only date)) place date)

/-- A day counts the entries of a view: those that are present, those that are marked but not present, and
the rest, which have no mark. -/
structure DayShown (entries : List (ClassEntry String)) (d : Day String) : Prop where
  possible : d.possible = entries.length
  actual : d.actual = entries.countP fun e => e.present
  absent : d.absentCount = entries.countP fun e => e.id.isSome && !e.present
  unmarked : d.possible - d.actual - d.absentCount = entries.countP fun e => e.id.isNone
  absence : ∀ e ∈ entries, e.id = none → e.present = false

theorem present_of_id_none (s : Store) (place : ClassTerm) (date : Date) (students : List (Student String)) :
    ∀ e ∈ s.viewOf place date students, e.id = none → e.present = false := by
  intro e he hid
  obtain ⟨x, _, rfl⟩ := List.mem_map.mp he
  unfold classEntry at hid ⊢
  rw [Option.map_eq_none_iff.mp hid]
  rfl

/-- An entry is present, or else marked, or else neither. -/
theorem countP_entries {entries : List (ClassEntry String)}
    (h : ∀ e ∈ entries, e.id = none → e.present = false) :
    entries.countP (fun e => e.present) + entries.countP (fun e => e.id.isSome && !e.present) +
      entries.countP (fun e => e.id.isNone) = entries.length := by
  induction entries with
  | nil => rfl
  | cons e rest ih =>
      have hrest := ih fun e he => h e (List.mem_cons_of_mem _ he)
      have hhead := h e List.mem_cons_self
      rw [List.countP_cons, List.countP_cons, List.countP_cons, List.length_cons]
      cases hid : e.id with
      | none =>
          simp [hhead hid]
          omega
      | some i => cases e.present <;> simp <;> omega

section Covered

variable (h : s.OneIdEach) (hc : s.Covers place students) (hspan : span.contains date = true)
include h hc hspan

/-- What a day counts of the records, the view of its date shows. -/
theorem countP_countedOn_classRecords (p : Record String → Bool) :
    (countedOn (s.classRecords place span) date).countP (fun q => p q.1) =
      students.countP fun x => (recordOf? (s.classRecords place (.only date)) x.number).any p := by
  have hnamed : ∀ r ∈ s.classRecords place span, r.student.isSome = true := by
    intro r hr
    obtain ⟨hr, hplace, _⟩ := mem_classRecords.mp hr
    obtain ⟨_, _, hany⟩ := hc.known r hr hplace
    obtain ⟨y, hy, _⟩ := (Option.any_eq_true _ _).mp hany
    exact Option.isSome_of_eq_some hy
  rw [countP_countedOn, ← countP_classRecords_only h hc, ← countP_classRecords_on hspan]
  refine List.countP_congr fun r hr => ?_
  rw [hnamed r hr, Bool.true_and]

theorem presentOn_eq_countP_view :
    presentOn (s.classRecords place span) date = (s.viewOf place date students).countP fun e => e.present := by
  rw [viewOf, List.countP_map]
  exact countP_countedOn_classRecords h hc hspan fun r => r.present

theorem length_absentOn_eq_countP_view : (absentOn (s.classRecords place span) date).length =
    (s.viewOf place date students).countP fun e => e.id.isSome && !e.present := by
  rw [length_absentOn, viewOf, List.countP_map]
  refine (countP_countedOn_classRecords h hc hspan fun r => !r.present).trans (List.countP_congr fun x _ => ?_)
  show _ ↔ (((recordOf? (s.classRecords place (.only date)) x.number).map (·.id)).isSome &&
    !(recordOf? (s.classRecords place (.only date)) x.number).any (·.present)) = true
  cases recordOf? (s.classRecords place (.only date)) x.number <;> simp

/-- The metrics of a date count the entries of its view. -/
theorem dayShown_of_dayOf {d : Day String}
    (hd : dayOf (s.classRecords place span) students.length date = .ok d) :
    DayShown (s.viewOf place date students) d := by
  have hon := dayOf_ok hd
  have hcounts := countP_entries (s.present_of_id_none place date students)
  have hactual := presentOn_eq_countP_view h hc hspan
  have habsent := length_absentOn_eq_countP_view h hc hspan
  have hlength : (s.viewOf place date students).length = students.length := List.length_map _
  refine ⟨?_, ?_, ?_, ?_, s.present_of_id_none place date students⟩
  · rw [hon.possible, hlength]
  · rw [hon.actual, hactual]
  · rw [hon.absentCount, hon.absent, habsent]
  · rw [hon.absentCount, hon.absent, hon.actual, hon.possible]
    omega

/-- No more are present on a date than the roster has students, so the date has metrics. -/
theorem exists_dayOf_classRecords : ∃ d, dayOf (s.classRecords place span) students.length date = .ok d := by
  have hle : presentOn (s.classRecords place span) date ≤ students.length := by
    rw [presentOn_eq_countP_view h hc hspan]
    exact List.countP_le_length.trans (List.length_map _).le
  obtain ⟨rate, hr⟩ := exists_attendanceRate hle
  rw [dayOf_eq, hr]
  exact ⟨_, rfl⟩

end Covered

section Metrics

variable (h : s.OneIdEach) (hc : s.Covers place students)
include h hc

theorem exists_dailyMetrics (span : Span) :
    ∃ days, dailyMetrics (s.classRecords place span) students.length = .ok days := by
  refine exists_mapM fun date hdate => ?_
  obtain ⟨r, hr, _, rfl⟩ := mem_markedDates.mp hdate
  exact exists_dayOf_classRecords h hc (mem_classRecords.mp hr).2.2

theorem dayShown_of_mem {days : List (Day String)}
    (hd : dailyMetrics (s.classRecords place span) students.length = .ok days) {d : Day String}
    (hmem : d ∈ days) :
    DayShown (s.viewOf place d.date students) d := by
  obtain ⟨date, hdate, hday⟩ := exists_of_mem_mapM hd hmem
  obtain ⟨r, hr, _, rfl⟩ := mem_markedDates.mp hdate
  rw [(dayOf_ok hday).dated]
  exact dayShown_of_dayOf h hc (mem_classRecords.mp hr).2.2 hday

end Metrics

theorem DayShown.counts {entries : List (ClassEntry String)} {d : Day String} (h : DayShown entries d) :
    0 ≤ d.actual ∧ 0 ≤ d.absentCount ∧ d.actual + d.absentCount ≤ d.possible := by
  have hactual := h.actual
  have habsent := h.absent
  have hunmarked := h.unmarked
  omega

end Store
end SchoolRegister
