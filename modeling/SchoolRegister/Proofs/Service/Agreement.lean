import SchoolRegister.Proofs.Report.ClassSummary
import SchoolRegister.Proofs.Report.Weekly
import SchoolRegister.Proofs.Service.Reading

/-! # Stores that agree on a class

Two stores agree on a class in a term (`Store.AgreeOn`) if they have the same rosters and the same records
of the class, but for the order of the records and their identifiers.  Then nothing that is read of the
class tells them apart: the summary is the same (`Store.AgreeOn.classSummary`), the reports are alike
(`Store.AgreeOn.classReport`), and so are the views of any date (`Store.AgreeOn.classAttendance`).

Every student of the records must be the one that the store has under the identifier
(`Store.Faithful`); then a number belongs to one student and to one record for each date. -/

namespace SchoolRegister

open Service Report

/-- Two entries are alike: the identifiers of their records may differ. -/
structure ClassEntry.Alike (a b : ClassEntry String) : Prop where
  marked : a.id.isSome = b.id.isSome
  student : a.student = b.student
  present : a.present = b.present
  date : a.date = b.date
  place : a.place = b.place

namespace Store

/-- Every record has the student whom the store has under the identifier. -/
def Faithful (s : Store) : Prop := ∀ r ∈ s.records, r.student = s.summaryOf? r.studentId

variable {s t : Store}

theorem Faithful.eq_of_number_eq (h : s.Faithful) {r r' : Record String} {x y : Summary String}
    (hr : r ∈ s.records) (hr' : r' ∈ s.records) (hx : r.student = some x) (hy : r'.student = some y)
    (e : x.number = y.number) : x = y ∧ r.studentId = r'.studentId := by
  rw [h r hr] at hx
  rw [h r' hr'] at hy
  obtain ⟨a, ha, rfl⟩ := Option.map_eq_some_iff.mp hx
  obtain ⟨b, hb, rfl⟩ := Option.map_eq_some_iff.mp hy
  have hab := s.eq_of_number_eq (List.mem_of_find?_eq_some ha) (List.mem_of_find?_eq_some hb) e
  have hida : a.id = r.studentId := by simpa using List.find?_some ha
  have hidb : b.id = r'.studentId := by simpa using List.find?_some hb
  exact ⟨by rw [hab], by rw [← hida, ← hidb, hab]⟩

theorem Faithful.oneStudentEach (h : s.Faithful) (place : ClassTerm) (span : Span) :
    OneStudentEach (s.classRecords place span) := by
  intro p hp q hq e
  obtain ⟨r, hr, hpr⟩ := List.mem_filterMap.mp hp
  obtain ⟨r', hr', hqr⟩ := List.mem_filterMap.mp hq
  obtain ⟨x, hx, rfl⟩ := Option.map_eq_some_iff.mp hpr
  obtain ⟨y, hy, rfl⟩ := Option.map_eq_some_iff.mp hqr
  exact (h.eq_of_number_eq (mem_classRecords.mp hr).1 (mem_classRecords.mp hr').1 hx hy e).1

theorem Faithful.oneIdEach (h : s.Faithful) : s.OneIdEach :=
  fun _ hr _ hr' _ _ hx hy e => (h.eq_of_number_eq hr hr' hx hy e).2

/-- Two stores have the same rosters, are both down or both up, and have the same records of a class but
for the order and the identifiers. -/
structure AgreeOn (place : ClassTerm) (s t : Store) : Prop where
  rosters : s.rosters = t.rosters
  down : s.down = t.down
  faithful : s.Faithful
  records : ((s.records.filter fun r => r.key.place = place).map Record.withoutId).Perm
    ((t.records.filter fun r => r.key.place = place).map Record.withoutId)

namespace AgreeOn

variable {place : ClassTerm}

theorem rosterOf (h : AgreeOn place s t) (other : ClassTerm) : s.rosterOf other = t.rosterOf other := by
  unfold Store.rosterOf enrolled members
  rw [h.rosters]

theorem listOf (h : AgreeOn place s t) (span : Span) :
    Alike (fun rs rs' => rs = s.classRecords place span ∧ rs' = t.classRecords place span)
      (s.listOf place span) (t.listOf place span) := by
  unfold Store.listOf
  rw [h.down]
  cases t.down with
  | true => exact rfl
  | false => exact ⟨rfl, rfl⟩

/-- The lists of the class have the same records but for the order and the identifiers. -/
theorem classRecords (h : AgreeOn place s t) (span : Span) :
    ((s.classRecords place span).map Record.withoutId).Perm
      ((t.classRecords place span).map Record.withoutId) :=
  classRecords_withoutId_perm h.records span

theorem summarize (h : AgreeOn place s t) (span : Span) :
    Report.summarize (s.classRecords place span) place =
      Report.summarize (t.classRecords place span) place := by
  have hone : OneStudentEach ((s.classRecords place span).map Record.withoutId) := by
    intro p hp q hq e
    rw [counted_map rewrites_withoutId] at hp hq
    obtain ⟨p', hp', rfl⟩ := List.mem_map.mp hp
    obtain ⟨q', hq', rfl⟩ := List.mem_map.mp hq
    exact h.faithful.oneStudentEach place span p' hp' q' hq' e
  rw [← summarize_withoutId, summarize_perm (h.classRecords span) hone, summarize_withoutId]

theorem dailyMetrics (h : AgreeOn place s t) (span : Span) (total : Int) :
    Alike (List.Forall₂ Day.Alike) (Report.dailyMetrics (s.classRecords place span) total)
      (Report.dailyMetrics (t.classRecords place span) total) := by
  rw [← dailyMetrics_withoutId, ← dailyMetrics_withoutId (t.classRecords place span)]
  apply dailyMetrics_alike (h.classRecords span)
  · exact List.pairwise_map.mpr (s.pairwise_classRecords place span)
  · exact List.pairwise_map.mpr (t.pairwise_classRecords place span)

theorem recordOf? (h : AgreeOn place s t) (date : Date) (number : String) :
    (Service.recordOf? (s.classRecords place (.only date)) number).map Record.withoutId =
      (Service.recordOf? (t.classRecords place (.only date)) number).map Record.withoutId := by
  rw [recordOf?_eq_getLast?, recordOf?_eq_getLast?, ← List.getLast?_map, ← List.getLast?_map]
  have hp := (h.classRecords (.only date)).filter fun r => r.student.any fun x => x.number == number
  rw [List.filter_map, List.filter_map] at hp
  congr 1
  apply eq_of_perm_of_forall_eq hp
  intro a ha b hb
  obtain ⟨r, hr, rfl⟩ := List.mem_map.mp ha
  obtain ⟨r', hr', rfl⟩ := List.mem_map.mp hb
  rw [h.faithful.oneIdEach.eq_of_mem hr hr']

theorem classEntry (h : AgreeOn place s t) (date : Date) (student : Student String) :
    (Service.classEntry (s.classRecords place (.only date)) place date student).Alike
      (Service.classEntry (t.classRecords place (.only date)) place date student) := by
  have hr := h.recordOf? date student.number
  have hsome := congrArg Option.isSome hr
  have hpresent := congrArg (fun o => o.any Record.present) hr
  simp only [Option.isSome_map, Option.any_map] at hsome hpresent
  refine ⟨?_, rfl, hpresent, rfl, rfl⟩
  unfold Service.classEntry
  rw [Option.isSome_map, Option.isSome_map, hsome]

theorem daysOf (h : AgreeOn place s t) {query : ReportQuery} (hq : query.place = place) :
    Alike (fun p p' => List.Forall₂ Day.Alike p.1 p'.1 ∧ p.2 = p'.2) (s.daysOf query)
      (t.daysOf query) := by
  subst hq
  unfold Store.daysOf
  rw [h.rosterOf]
  refine (Alike.refl (fun _ => rfl) (t.rosterOf query.place)).bind fun enrolments _ he => ?_
  subst he
  refine (h.listOf query.span).bind ?_
  rintro _ _ ⟨rfl, rfl⟩
  exact (h.dailyMetrics query.span enrolments.length).bind fun days days' hd => ⟨hd, rfl⟩

/-! ### Use cases -/

theorem classSummary (h : AgreeOn place s t) {className term year : Value}
    (hplace : ∀ query, ReportArgs.validate { className, term, year } = .ok query →
      query.place = place) :
    ((Service.classSummary register className term year).outcome s).1 =
      ((Service.classSummary register className term year).outcome t).1 := by
  rw [answers_classSummary (s := s), answers_classSummary (s := t)]
  refine Alike.eq (((Alike.refl (R := Eq) (fun _ => rfl) _).and_left hplace).bind ?_)
  rintro query _ ⟨rfl, rfl⟩
  refine (h.listOf query.span).bind ?_
  rintro _ _ ⟨rfl, rfl⟩
  rw [h.summarize]
  exact Alike.refl (fun _ => rfl) _

/-- The reports of the class are alike. -/
theorem classReport (h : AgreeOn place s t) {args : ReportArgs}
    (hplace : ∀ query, args.validate = .ok query → query.place = place) :
    Alike AttendanceReport.Alike ((Service.classReport register args).outcome s).1
      ((Service.classReport register args).outcome t).1 := by
  rw [answers_classReport (s := s), answers_classReport (s := t)]
  refine ((Alike.refl (R := Eq) (fun _ => rfl) _).and_left hplace).bind ?_
  rintro query _ ⟨rfl, rfl⟩
  refine (h.daysOf rfl).bind ?_
  rintro ⟨days, total⟩ ⟨days', _⟩ ⟨hd, rfl⟩
  exact reportOn_alike hd query total

/-- The views of the class are alike. -/
theorem classAttendance (h : AgreeOn place s t) {today today' : Date} {args : ClassArgs}
    (htoday : args.validate today = args.validate today')
    (hplace : ∀ asked, args.validate today = .ok asked → asked.1 = place) :
    Alike (List.Forall₂ ClassEntry.Alike)
      ((Service.classAttendance register today args).outcome s).1
      ((Service.classAttendance register today' args).outcome t).1 := by
  rw [answers_classAttendance (s := s), answers_classAttendance (s := t), htoday]
  refine ((Alike.refl (R := Eq) (fun _ => rfl) _).and_left (htoday ▸ hplace)).bind ?_
  rintro ⟨_, date⟩ _ ⟨rfl, rfl⟩
  dsimp only
  rw [h.rosterOf]
  refine (Alike.refl (fun _ => rfl) (t.rosterOf _)).bind fun enrolments _ he => ?_
  subst he
  refine (h.listOf (.only date)).bind ?_
  rintro _ _ ⟨rfl, rfl⟩
  exact List.forall₂_map_left_iff.mpr (List.forall₂_map_right_iff.mpr
    (List.forall₂_same.mpr fun student _ => h.classEntry date student))

end AgreeOn
end Store
end SchoolRegister
