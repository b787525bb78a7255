import SchoolRegister.Proofs.Service.Reading
import SchoolRegister.Proofs.Session.Records

/-! # The view of a class after a run

When every number keeps its identifier and no two numbers share one (`Session.StableStudents`), the marks
of a run tell students apart by number as well as by identifier (`Identified`).  Then a class on a date
holds at most one record of a number, and that is the record of the latest mark of the number
(`Store.recordOf?_classRecords`).  So the view of a class shows for each student on the roster what the
latest mark says: `Session.classView_after` is the main result. -/

namespace SchoolRegister

open Service

/-- The latest mark of a student's number for a class and a date. -/
def latestOf? (marks : List Marking) (number : String) (place : ClassTerm) (date : Date) :
    Option Marking :=
  marks.reverse.find? fun m => m.number = number ∧ m.key.place = place ∧ m.key.date = date

/-- The entry of a student that the latest mark, if there is one, gives. -/
def markedEntry (latest : Option Marking) (place : ClassTerm) (date : Date)
    (student : Student String) : ClassEntry String :=
  ⟨latest.map (·.answer.id), student.summary, latest.any (·.present), date, place⟩

/-- Marks with one number have one identifier of the student, those with two have two, and what they saw
has their number. -/
structure Identified (marks : List Marking) : Prop where
  studentId_eq_iff : ∀ m ∈ marks, ∀ m' ∈ marks,
    m.key.studentId = m'.key.studentId ↔ m.number = m'.number
  number_of_seen : ∀ m ∈ marks, ∀ student, m.seen = some student → student.number = m.number

/-! ### Records and marks of a number -/

theorem getLast?_of_forall_eq {α : Type} {l : List α} {x : α} (hx : x ∈ l) (h : ∀ y ∈ l, y = x) :
    l.getLast? = some x := by
  have hne : l ≠ [] := List.ne_nil_of_mem hx
  rw [List.getLast?_eq_some_getLast hne, h _ (List.getLast_mem hne)]

variable {marks : List Marking} {m : Marking}

/-- The latest mark of a number is the latest one of its key. -/
theorem Identified.latest?_key (h : Identified marks) (hm : m ∈ marks) :
    latest? marks m.key = latestOf? marks m.number m.key.place m.key.date := by
  unfold latest? latestOf?
  rw [← List.head?_filter, ← List.head?_filter]
  congr 1
  apply List.filter_congr
  intro m' hm'
  have hi := h.studentId_eq_iff m' (List.mem_reverse.mp hm') m hm
  simp only [AttendanceKey.eq_iff, hi]

namespace Store

variable {s : Store}

/-- A record is one of a number if and only if a mark of its key is. -/
theorem number_of_record (h : s.Reflects marks) (hi : Identified marks) {r : Record String}
    (hr : r ∈ s.records) : ∃ m ∈ marks, m.key = r.key ∧
      ∀ number, r.student.any (fun student => student.number == number) = true ↔ m.number = number := by
  obtain ⟨m, hm, hs⟩ := Option.map_eq_some_iff.mp (h.student r hr)
  obtain ⟨hmem, hk⟩ := earliest?_eq_some hm
  refine ⟨m, hmem, hk, ?_⟩
  intro number
  obtain ⟨student, hst⟩ := Option.isSome_iff_exists.mp (h.named r hr)
  rw [hst] at hs ⊢
  rw [Option.any_some, beq_iff_eq, hi.number_of_seen m hmem student hs]

theorem oneIdEach_of_identified (h : s.Reflects marks) (hi : Identified marks) : s.OneIdEach := by
  intro r hr r' hr' x y hx hy e
  obtain ⟨m, hm, hk, hnum⟩ := number_of_record h hi hr
  obtain ⟨m', hm', hk', hnum'⟩ := number_of_record h hi hr'
  have hx' : m.number = x.number := (hnum x.number).mp (by simp [hx])
  have hy' : m'.number = y.number := (hnum' y.number).mp (by simp [hy])
  have hid := (hi.studentId_eq_iff m hm m' hm').mpr (by rw [hx', hy', e])
  rw [hk, hk'] at hid
  exact hid

theorem mem_recordsOf_of_mark (h : s.Reflects marks) (hi : Identified marks) (hm : m ∈ marks)
    {r : Record String} (hr : r ∈ s.records) (hk : r.key = m.key) :
    r ∈ s.recordsOf m.key.place m.key.date m.number := by
  obtain ⟨m', hm', hk', hnum⟩ := number_of_record h hi hr
  have e : m'.number = m.number := (hi.studentId_eq_iff m' hm' m hm).mp (by rw [hk', hk])
  exact mem_recordsOf.mpr ⟨hr, by rw [hk], by rw [← hk]; rfl, (hnum m.number).mpr e⟩

/-- The record of a number in a class on a date is the one that the latest mark left. -/
theorem recordOf?_classRecords (h : s.Reflects marks) (hi : Identified marks) (place : ClassTerm)
    (date : Date) (number : String) :
    (recordOf? (s.classRecords place (.only date)) number).map (fun r => (r.id, r.present)) =
      (latestOf? marks number place date).map fun m => (m.answer.id, m.present) := by
  rw [recordOf?_eq_getLast?]
  cases hl : latestOf? marks number place date with
  | none =>
      have hnone : s.recordsOf place date number = [] := by
        rw [List.eq_nil_iff_forall_not_mem]
        intro r hr
        obtain ⟨hr, hp, hd, hn⟩ := mem_recordsOf.mp hr
        obtain ⟨m, hm, hk, hnum⟩ := number_of_record h hi hr
        have hp' : m.key.place = place := by rw [hk, hp]
        have hd' : m.key.date = date := by rw [hk, ← hd]; rfl
        have hnone := List.find?_eq_none.mp hl m (List.mem_reverse.mpr hm)
        simp [(hnum number).mp hn, hp', hd'] at hnone
      rw [hnone]
      rfl
  | some m =>
      have hm : m ∈ marks := List.mem_reverse.mp (List.mem_of_find?_eq_some hl)
      have hp : m.number = number ∧ m.key.place = place ∧ m.key.date = date := by
        simpa using List.find?_some hl
      obtain ⟨r, hr, hk, hid⟩ := h.answers m hm
      -- the record of the latest mark is the only one of the number, so it comes last
      have hmem := mem_recordsOf_of_mark h hi hm hr hk
      have hlast := h.present r hr
      rw [hk, hi.latest?_key hm] at hlast
      rw [hp.1, hp.2.1, hp.2.2] at hmem hlast
      rw [hl] at hlast
      have hpresent : m.present = r.present := Option.some.inj hlast
      have hone := oneIdEach_of_identified h hi
      rw [getLast?_of_forall_eq hmem fun r' hr' => hone.eq_of_mem hr' hmem, Option.map_some,
        Option.map_some, hid, hpresent]

end Store

/-! ### Runs that tell students apart -/

namespace Session

variable {s : Session} {steps : List Step}

/-- In a run, no two students ever share an identifier, and no number ever changes its own. -/
structure StableStudents (s : Session) (steps : List Step) : Prop where
  apart : ∀ front, front <+: steps →
    ∀ a ∈ (s.after front).store.students, ∀ b ∈ (s.after front).store.students,
      a.id = b.id → a.number = b.number
  constant : ∀ front, front <+: steps → ∀ front', front' <+: steps →
    ∀ a ∈ (s.after front).store.students, ∀ b ∈ (s.after front').store.students,
      a.number = b.number → a.id = b.id

theorem mem_numbers_after {number : String} (h : number ∈ s.store.students.map (·.number)) :
    number ∈ (s.after steps).store.students.map (·.number) := by
  refine after_induction (fun store _ => number ∈ store.students.map (·.number)) steps [] ?_ h
  intro t x _ _ ht
  rw [step_keeps Store.students (fun _ _ _ => Store.mark_students ..) x]
  cases x with
  | addStudent student =>
      show number ∈ (putUnder (·.number) t.store.students student).map (·.number)
      rw [map_key_putUnder]
      split
      · exact ht
      · exact List.mem_append_left _ ht
  | _ => exact ht

/-- Every mark of a stable run is one of a student whom the school has at its end. -/
theorem StableStudents.exists_student (h : s.StableStudents steps) {m : Marking}
    (hm : m ∈ s.marks steps) : ∃ student ∈ (s.after steps).store.students,
      student.number = m.number ∧ student.id = m.key.studentId := by
  obtain ⟨front, hf, _, student, hmem, hnum, hid⟩ := origin_of_mem_marks hm
  have hlast : student.number ∈ (s.after steps).store.students.map (·.number) := by
    obtain ⟨back, rfl⟩ := hf
    rw [after_append]
    exact mem_numbers_after (List.mem_map_of_mem hmem)
  obtain ⟨last, hl, e⟩ := List.mem_map.mp hlast
  refine ⟨last, hl, e.trans hnum, ?_⟩
  -- the number may have been given to another student since, but not another identifier
  rw [← hid]
  exact h.constant _ (List.prefix_refl _) front hf last hl student hmem e

theorem StableStudents.number_of_seen (h : s.StableStudents steps) {m : Marking}
    (hm : m ∈ s.marks steps) {summary : Summary String} (hs : m.seen = some summary) :
    summary.number = m.number := by
  obtain ⟨front, hf, hseen, student, hmem, hnum, hid⟩ := origin_of_mem_marks hm
  rw [hseen] at hs
  obtain ⟨found, hfound, rfl⟩ := Option.map_eq_some_iff.mp hs
  have hid' : found.id = m.key.studentId := by simpa using List.find?_some hfound
  rw [← hnum]
  exact h.apart front hf found (List.mem_of_find?_eq_some hfound) student hmem (hid'.trans hid.symm)

/-- The marks of a stable run tell students apart by number as well as by identifier. -/
theorem StableStudents.identified (h : s.StableStudents steps) : Identified (s.marks steps) where
  studentId_eq_iff m hm m' hm' := by
    obtain ⟨a, ha, hnum, hid⟩ := h.exists_student hm
    obtain ⟨b, hb, hnum', hid'⟩ := h.exists_student hm'
    rw [← hid, ← hid', ← hnum, ← hnum']
    exact ⟨h.apart _ (List.prefix_refl _) a ha b hb,
      h.constant _ (List.prefix_refl _) _ (List.prefix_refl _) a ha b hb⟩
  number_of_seen m hm summary hs := h.number_of_seen hm hs

theorem StableStudents.of_fixed (hx : ∀ student, Step.addStudent student ∉ steps)
    (h : ∀ a ∈ s.store.students, ∀ b ∈ s.store.students, a.id = b.id → a.number = b.number) :
    s.StableStudents steps := by
  have hfixed : ∀ front, front <+: steps → (s.after front).store.students = s.store.students := by
    intro front hf
    apply after_keeps Store.students (fun _ _ _ => Store.mark_students ..)
    intro t x hmem
    cases x with
    | addStudent student => exact absurd (hf.subset hmem) (hx student)
    | _ => rfl
  constructor
  · intro front hf
    rw [hfixed front hf]
    exact h
  · intro front hf front' hf' a ha b hb e
    rw [hfixed front hf] at ha
    rw [hfixed front' hf'] at hb
    rw [s.store.eq_of_number_eq ha hb e]

theorem down_after (hd : s.store.down = false) (hb : Step.breakStore ∉ steps) :
    (s.after steps).store.down = false := by
  rw [after_keeps Store.down (fun _ _ _ => Store.mark_down ..), hd]
  intro t x hx
  cases x with
  | breakStore => exact absurd hx hb
  | _ => rfl

/-! ### The view -/

/-- After a run from a store without records, in which no record is put, the store stays up and students
can be told apart, the view of a class with a roster shows each student on it, in the order of the
roster, with the presence and the identifier that the latest mark of the student's number for the class
and the date gave, or as absent without an identifier if there was none. -/
theorem classView_after (hr : s.store.records = []) (hi : s.store.lastId = 0)
    (hd : s.store.down = false) (hp : ∀ r, Step.put r ∉ steps) (hb : Step.breakStore ∉ steps)
    (hs : s.StableStudents steps) {args : ClassArgs} {place : ClassTerm} {date : Date}
    (hv : args.validate (s.after steps).today = .ok (place, date))
    (hm : (s.after steps).store.members place ≠ []) :
    ((s.after steps).step (.classView args)).1 = .ok (.classEntries
      ((((s.after steps).store.members place).filterMap id).map fun student =>
        markedEntry (latestOf? (s.marks steps) student.number place date) place date student)) := by
  rw [step_classView_of_validate (down_after hd hb) hv hm]
  congr 2
  apply List.map_congr_left
  intro student _
  have h := Store.recordOf?_classRecords (reflects_run hr hi hp) hs.identified place date student.number
  unfold classEntry markedEntry
  cases hl : latestOf? (s.marks steps) student.number place date with
  | none =>
      rw [hl, Option.map_none, Option.map_eq_none_iff] at h
      rw [h]
      rfl
  | some m =>
      rw [hl, Option.map_some] at h
      obtain ⟨r, hr, e⟩ := Option.map_eq_some_iff.mp h
      obtain ⟨hid, hpres⟩ := Prod.mk.inj e
      rw [hr]
      simp [hid, hpres]

theorem classView_after_small :
    let steps := [smallMark true "2024-01-02", smallMark false "2024-01-03",
      smallMark false "2024-01-02"]
    let args : ClassArgs := { className := .text " 5B", term := .text "1", year := .int 2024,
                              date := .text "2024-01-02" }
    ((small.after steps).step (.classView args)).1 = .ok (.classEntries
      [⟨some 1, ⟨"17", "Adams", "Zoe", none⟩, false, ⟨2024, 1, 2, by decide⟩, ⟨"5B", 1, 2024⟩⟩]) := by
  intro steps args
  have hs : small.StableStudents steps := by
    apply StableStudents.of_fixed
    · simp [steps, smallMark]
    · simp [small, Store.addStudent, Store.enrol, putUnder]
  have hv : args.validate (small.after steps).today =
      .ok (⟨"5B", 1, 2024⟩, ⟨2024, 1, 2, by decide⟩) := by rfl
  have h := classView_after rfl rfl rfl (by simp [steps, smallMark]) (by simp [steps, smallMark]) hs hv
    (by decide)
  rw [h]
  rfl

end Session
end SchoolRegister
