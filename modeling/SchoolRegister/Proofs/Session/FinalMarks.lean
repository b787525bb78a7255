import SchoolRegister.Proofs.Service.Agreement
import SchoolRegister.Proofs.Session.ClassView

/-! # Final marks

Two runs that change nothing but records (`Session.MarksOnly`), in the same school
(`Session.SameSchool`), may mark in any order, as often as they like, and for other classes as well.  If
the latest mark of every key of a class says the same in both (`SameFinalMarks`), then what is read of
the class after them is alike (`Session.AlikeOn`): `Session.alikeOn_of_sameFinalMarks` is the main
result. -/

namespace SchoolRegister

open Service

/-- The latest marks of a class in a term say the same: a key has been marked in both histories or in
none, and with the same presence at last. -/
def SameFinalMarks (place : ClassTerm) (marks marks' : List Marking) : Prop :=
  ∀ key : AttendanceKey, key.place = place →
    (latest? marks key).map (·.present) = (latest? marks' key).map (·.present)

theorem SameFinalMarks.symm {place : ClassTerm} {marks marks' : List Marking}
    (h : SameFinalMarks place marks marks') : SameFinalMarks place marks' marks :=
  fun key hk => (h key hk).symm

/-- It is enough to look at the keys that were marked. -/
theorem SameFinalMarks.of_mem {place : ClassTerm} {marks marks' : List Marking}
    (h : ∀ m ∈ marks ++ marks', m.key.place = place →
      (latest? marks m.key).map (·.present) = (latest? marks' m.key).map (·.present)) :
    SameFinalMarks place marks marks' := by
  intro key hk
  by_cases hm : key ∈ (marks ++ marks').map (·.key)
  · obtain ⟨m, hmem, rfl⟩ := List.mem_map.mp hm
    exact h m hmem hk
  · rw [List.map_append, List.mem_append, not_or] at hm
    rw [latest?_eq_none_iff.mpr hm.1, latest?_eq_none_iff.mpr hm.2]

/-- Two answers are alike: two views of a class may differ in the identifiers of the records, two reports
in the order of students of one surname on a day, and all others not at all. -/
def Answer.Alike : Answer String → Answer String → Prop
  | .classEntries es, .classEntries es' => List.Forall₂ ClassEntry.Alike es es'
  | .report r, .report r' => r.Alike r'
  | a, a' => a = a'

/-- A step that changes neither students nor rosters, puts no record and does not break the store. -/
def Step.KeepsSchool : Step → Prop
  | .enrol _ _ | .addStudent _ | .put _ | .breakStore => False
  | _ => True

namespace Session

variable {s t : Session} {steps steps' : List Step} {place : ClassTerm}

/-- A run that starts without records and changes nothing but records and the login. -/
structure MarksOnly (s : Session) (steps : List Step) : Prop where
  records : s.store.records = []
  lastId : s.store.lastId = 0
  keeps : ∀ x ∈ steps, x.KeepsSchool

/-- Two sessions have the same students and rosters, and their stores are both up or both down. -/
structure SameSchool (s t : Session) : Prop where
  students : s.store.students = t.store.students
  rosters : s.store.rosters = t.store.rosters
  down : s.store.down = t.store.down

theorem SameSchool.symm (h : s.SameSchool t) : t.SameSchool s :=
  ⟨h.students.symm, h.rosters.symm, h.down.symm⟩

/-- What is read of a class in two sessions is alike: the summary is the same, and the report and the view
of any date are alike. -/
structure AlikeOn (place : ClassTerm) (s t : Session) : Prop where
  summary : ∀ className term year,
    (∀ query, ReportArgs.validate { className, term, year } = .ok query → query.place = place) →
      (s.step (.summary className term year)).1 = (t.step (.summary className term year)).1
  report : ∀ args : ReportArgs, (∀ query, args.validate = .ok query → query.place = place) →
    Alike Answer.Alike (s.step (.report args)).1 (t.step (.report args)).1
  view : ∀ args : ClassArgs, args.validate s.today = args.validate t.today →
    (∀ asked, args.validate s.today = .ok asked → asked.1 = place) →
      Alike Answer.Alike (s.step (.classView args)).1 (t.step (.classView args)).1

/-! ### Runs that only mark -/

theorem MarksOnly.after_eq (h : s.MarksOnly steps) {β : Type} (part : Store → β)
    (hmark : ∀ (st : Store) key present, part (st.mark key present).2 = part st)
    {front : List Step} (hf : front <+: steps) : part (s.after front).store = part s.store := by
  apply after_keeps part hmark
  intro t x hx
  have hk := h.keeps x (hf.subset hx)
  cases x with
  | enrol place members => exact hk.elim
  | addStudent student => exact hk.elim
  | put record => exact hk.elim
  | breakStore => exact hk.elim
  | _ => rfl

theorem MarksOnly.students_after (h : s.MarksOnly steps) {front : List Step} (hf : front <+: steps) :
    (s.after front).store.students = s.store.students :=
  h.after_eq Store.students (fun _ _ _ => Store.mark_students ..) hf

theorem MarksOnly.reflects (h : s.MarksOnly steps) : (s.after steps).store.Reflects (s.marks steps) :=
  reflects_run h.records h.lastId fun r hr => h.keeps (.put r) hr

/-- After a run that only marks, every record has the student whom the school has under the
identifier. -/
theorem MarksOnly.student_of_record (h : s.MarksOnly steps) {r : Record String}
    (hr : r ∈ (s.after steps).store.records) : r.student = s.store.summaryOf? r.studentId := by
  obtain ⟨m, hm, hs⟩ := Option.map_eq_some_iff.mp (h.reflects.student r hr)
  obtain ⟨hmem, hk⟩ := earliest?_eq_some hm
  obtain ⟨front, hf, hseen, _⟩ := origin_of_mem_marks hmem
  rw [← hs, hseen, hk]
  unfold Store.summaryOf?
  rw [h.students_after hf]
  rfl

theorem MarksOnly.faithful (h : s.MarksOnly steps) : (s.after steps).store.Faithful := by
  intro r hr
  rw [h.student_of_record hr]
  unfold Store.summaryOf?
  rw [h.students_after (List.prefix_refl steps)]

/-! ### Two runs -/

theorem exists_record_of_sameFinalMarks (hst : s.SameSchool t) (hs : s.MarksOnly steps)
    (ht : t.MarksOnly steps') (hm : SameFinalMarks place (s.marks steps) (t.marks steps'))
    {r : Record String} (hr : r ∈ (s.after steps).store.records) (hp : r.key.place = place) :
    ∃ r' ∈ (t.after steps').store.records, r'.key.place = place ∧ r'.withoutId = r.withoutId := by
  have hpresent := hs.reflects.present r hr
  -- the key was marked in the other run as well, with the same presence at last
  rw [hm r.key hp] at hpresent
  obtain ⟨m, hl, hmp⟩ := Option.map_eq_some_iff.mp hpresent
  obtain ⟨hmem, hk⟩ := latest?_eq_some hl
  obtain ⟨r', hr', hk', _⟩ := ht.reflects.answers m hmem
  have hkey : r'.key = r.key := hk'.trans hk
  have hpres : r'.present = r.present := by
    have h' := ht.reflects.present r' hr'
    rw [hkey, hl, Option.map_some, hmp] at h'
    exact (Option.some.inj h').symm
  have hstudent : r'.student = r.student := by
    have hid : r'.studentId = r.studentId := congrArg AttendanceKey.studentId hkey
    rw [ht.student_of_record hr', hs.student_of_record hr, hid]
    unfold Store.summaryOf?
    rw [hst.students]
  exact ⟨r', hr', by rw [hkey, hp], Record.withoutId_eq hkey hpres hstudent⟩

/-- After two runs with the same final marks of a class, the stores agree on the class. -/
theorem agreeOn_of_sameFinalMarks (hst : s.SameSchool t) (hs : s.MarksOnly steps)
    (ht : t.MarksOnly steps') (hm : SameFinalMarks place (s.marks steps) (t.marks steps')) :
    Store.AgreeOn place (s.after steps).store (t.after steps').store where
  rosters := by
    rw [hs.after_eq Store.rosters (fun _ _ _ => Store.mark_rosters ..) (List.prefix_refl _),
      ht.after_eq Store.rosters (fun _ _ _ => Store.mark_rosters ..) (List.prefix_refl _), hst.rosters]
  down := by
    rw [hs.after_eq Store.down (fun _ _ _ => Store.mark_down ..) (List.prefix_refl _),
      ht.after_eq Store.down (fun _ _ _ => Store.mark_down ..) (List.prefix_refl _), hst.down]
  faithful := hs.faithful
  records := by
    rw [List.perm_ext_iff_of_nodup (Store.nodup_withoutId _ _) (Store.nodup_withoutId _ _)]
    intro a
    simp only [List.mem_map, List.mem_filter, decide_eq_true_eq]
    constructor
    · rintro ⟨r, ⟨hr, hp⟩, rfl⟩
      obtain ⟨r', hr', hp', e⟩ := exists_record_of_sameFinalMarks hst hs ht hm hr hp
      exact ⟨r', ⟨hr', hp'⟩, e⟩
    · rintro ⟨r, ⟨hr, hp⟩, rfl⟩
      obtain ⟨r', hr', hp', e⟩ := exists_record_of_sameFinalMarks hst.symm ht hs hm.symm hr hp
      exact ⟨r', ⟨hr', hp'⟩, e⟩

/-- What is read of a class depends on the final marks of the class only. -/
theorem alikeOn_of_sameFinalMarks (hst : s.SameSchool t) (hs : s.MarksOnly steps)
    (ht : t.MarksOnly steps') (hm : SameFinalMarks place (s.marks steps) (t.marks steps')) :
    AlikeOn place (s.after steps) (t.after steps') := by
  have h := agreeOn_of_sameFinalMarks hst hs ht hm
  constructor
  · intro className term year hplace
    have e := h.classSummary hplace
    simp only [step, Step.useCase?, Action.outcome_map, e]
  · intro args hplace
    simp only [step, Step.useCase?, Action.outcome_map]
    exact (h.classReport hplace).map fun _ _ hr => hr
  · intro args htoday hplace
    simp only [step, Step.useCase?, Action.outcome_map]
    exact (h.classAttendance htoday hplace).map fun _ _ he => he

theorem alikeOn_small :
    AlikeOn ⟨"5B", 1, 2024⟩
      (small.after [smallMark true "2024-01-02", smallMark false "2024-01-03"])
      (small.after [smallMark false "2024-01-03", smallMark false "2024-01-02",
        smallMark true "2024-01-02"]) :=
  alikeOn_of_sameFinalMarks ⟨rfl, rfl, rfl⟩ ⟨rfl, rfl, by simp [smallMark, Step.KeepsSchool]⟩
    ⟨rfl, rfl, by simp [smallMark, Step.KeepsSchool]⟩ (.of_mem (by decide +kernel))

end Session
end SchoolRegister
