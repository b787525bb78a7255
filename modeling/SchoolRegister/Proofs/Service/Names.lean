import SchoolRegister.Proofs.Report.ClassSummary
import SchoolRegister.Proofs.Report.Weekly
import SchoolRegister.Session
import SchoolRegister.Value.Naming

/-! # Other names for the same people

The school may hold its names in two types.  A function between them that changes neither how a name
reads nor how names compare (`Name.Renames`) can be applied to whatever holds names: students,
enrolments, records, reports and answers.  Nobody who reads an answer can tell (`Answer.document_map`). -/

namespace SchoolRegister

open Report Service

/-- Names of one type stand for those of another: they read, are answered and compare as those do. -/
structure Name.Renames {N M : Type} [Name N] [Name M] (f : N → M) : Prop where
  text : ∀ n, Name.text (f n) = Name.text n
  value : ∀ n, Name.value (f n) = Name.value n
  same : ∀ a b, Name.same (f a) (f b) = Name.same a b
  before? : ∀ a b, Name.before? (f a) (f b) = Name.before? a b

theorem Name.renames_self {N : Type} [Name N] : Name.Renames fun n : N => n :=
  ⟨fun _ => rfl, fun _ => rfl, fun _ _ => rfl, fun _ _ => rfl⟩

theorem Name.renames_text : Name.Renames Value.text :=
  ⟨fun _ => rfl, fun _ => rfl, fun _ _ => rfl, fun _ _ => rfl⟩

variable {N M : Type}

/-! ### Renaming -/

section Map

variable (f : N → M)

/-- A student under the other names. -/
def Summary.map (s : Summary N) : Summary M := ⟨s.number, f s.surname, f s.name, s.gender.map f⟩

def Student.map (s : Student N) : Student M :=
  ⟨s.id, s.number, f s.surname, f s.name, s.gender.map f⟩

def Enrolment.map (e : Enrolment N) : Enrolment M :=
  ⟨e.id, f e.className, e.term, e.year, e.student.map (Student.map f)⟩

def Record.map (r : Record N) : Record M :=
  ⟨r.id, r.studentId, f r.className, r.term, r.year, r.date, r.present, r.student.map (Summary.map f)⟩

def ClassEntry.map (e : ClassEntry N) : ClassEntry M :=
  ⟨e.id, e.student.map f, e.present, e.date, e.place⟩

def HistoryEntry.map (e : HistoryEntry N) : HistoryEntry M :=
  ⟨e.id, e.student.map f, e.present, e.date, f e.className, e.term, e.year⟩

def Service.AttendanceReport.map (r : AttendanceReport N) : AttendanceReport M :=
  ⟨r.place, r.period, r.totalStudents, r.days.map (Day.mapAbsent (Summary.map f)), r.weeks, r.trends,
    r.overall⟩

def Answer.map : Answer N → Answer M
  | .done => .done
  | .record r => .record (r.map f)
  | .classEntries es => .classEntries (es.map (ClassEntry.map f))
  | .historyEntries es => .historyEntries (es.map (HistoryEntry.map f))
  | .days ds => .days (ds.map (Day.mapAbsent (Summary.map f)))
  | .report r => .report (r.map f)
  | .file d => .file d
  | .summary s => .summary (s.mapStudents (Summary.map f))
  | .records rs => .records (rs.map (Record.map f))
  | .response r => .response r

end Map

/-! ### The same names -/

@[simp] theorem Summary.map_self : Summary.map (fun n : N => n) = fun s => s := by
  funext s
  simp [Summary.map]

@[simp] theorem Student.map_self : Student.map (fun n : N => n) = fun s => s := by
  funext s
  simp [Student.map]

@[simp] theorem Enrolment.map_self : Enrolment.map (fun n : N => n) = fun e => e := by
  funext e
  simp [Enrolment.map]

@[simp] theorem Record.map_self : Record.map (fun n : N => n) = fun r => r := by
  funext r
  simp [Record.map]

@[simp] theorem ClassEntry.map_self : ClassEntry.map (fun n : N => n) = fun e => e := by
  funext e
  simp [ClassEntry.map]

@[simp] theorem HistoryEntry.map_self : HistoryEntry.map (fun n : N => n) = fun e => e := by
  funext e
  simp [HistoryEntry.map]

@[simp] theorem Answer.map_self : Answer.map (fun n : N => n) = fun a => a := by
  funext a
  cases a <;> simp [Answer.map, AttendanceReport.map]

/-! ### Documents -/

section Documents

variable [Name N] [Name M] {f : N → M} (hf : Name.Renames f)

include hf

theorem Summary.entries_map (s : Summary N) : (s.map f).entries = s.entries := by
  have hg : (s.gender.map f).map Name.value = s.gender.map Name.value := by
    rw [Option.map_map]
    exact congrArg (Option.map · s.gender) (funext hf.value)
  simp only [entries, map, hf.value, hg]

theorem Summary.document_map (s : Summary N) : (s.map f).document = s.document :=
  congrArg Value.dict (s.entries_map hf)

theorem Record.document_map (r : Record N) : (r.map f).document = r.document := by
  have hs : (r.student.map (Summary.map f)).map Summary.document = r.student.map Summary.document := by
    rw [Option.map_map]
    exact congrArg (Option.map · r.student) (funext (Summary.document_map hf))
  simp only [document, map, hf.value, hs]

theorem ClassEntry.document_map (e : ClassEntry N) : (e.map f).document = e.document := by
  simp only [document, map, Summary.entries_map hf]

theorem HistoryEntry.document_map (e : HistoryEntry N) : (e.map f).document = e.document := by
  simp only [document, map, Summary.entries_map hf, hf.value]

theorem Report.Day.document_mapAbsent (d : Day N) :
    (d.mapAbsent (Summary.map f)).document = d.document := by
  have ha : (d.absent.map (Summary.map f)).map Summary.document = d.absent.map Summary.document := by
    rw [List.map_map]
    exact List.map_congr_left fun s _ => Summary.document_map hf s
  simp only [document, mapAbsent, ha]

theorem Report.map_document_days (days : List (Day N)) :
    (days.map (Day.mapAbsent (Summary.map f))).map (·.document) = days.map (·.document) := by
  rw [List.map_map]
  exact List.map_congr_left fun d _ => Day.document_mapAbsent hf d

theorem Report.ClassSummary.document_mapStudents (s : ClassSummary N) :
    (s.mapStudents (Summary.map f)).document = s.document := by
  have hs : (s.students.map (StudentStats.mapStudent (Summary.map f))).map (·.document) =
      s.students.map (·.document) := by
    rw [List.map_map]
    refine List.map_congr_left fun x _ => ?_
    simp only [Function.comp_apply, StudentStats.mapStudent, StudentStats.document,
      Summary.document_map hf]
  simp only [document, mapStudents, hs]

theorem Service.AttendanceReport.document_map (r : AttendanceReport N) :
    (r.map f).document = r.document := by
  simp only [document, map, map_document_days hf]

theorem Answer.document_map (a : Answer N) : (a.map f).document = a.document := by
  cases a with
  | record r => exact r.document_map hf
  | classEntries es =>
      simp only [map, document, List.map_map]
      exact congrArg Value.list (List.map_congr_left fun e _ => e.document_map hf)
  | historyEntries es =>
      simp only [map, document, List.map_map]
      exact congrArg Value.list (List.map_congr_left fun e _ => e.document_map hf)
  | days ds => exact congrArg Value.list (map_document_days hf ds)
  | report r => exact r.document_map hf
  | summary s => exact s.document_mapStudents hf
  | records rs =>
      simp only [map, document, List.map_map]
      exact congrArg Value.list (List.map_congr_left fun r _ => r.document_map hf)
  | _ => rfl

end Documents

/-! ### What is made of records -/

theorem rewrites_map (f : N → M) : Rewrites (Record.map f) (Summary.map f) :=
  ⟨fun _ => rfl, fun _ => rfl, fun _ => rfl⟩

theorem keepsCounts_mapAbsent (f : N → M) : KeepsCounts (Day.mapAbsent (Summary.map f)) :=
  ⟨fun _ => rfl, fun _ => rfl, fun _ => rfl⟩

namespace Service

variable {f : N → M}

theorem recordOf?_map (rs : List (Record N)) (number : String) :
    recordOf? (rs.map (Record.map f)) number = (recordOf? rs number).map (Record.map f) := by
  unfold recordOf?
  rw [List.filter_map, List.getLast?_map]
  congr 2
  refine List.filter_congr fun r _ => ?_
  show (r.student.map (Summary.map f)).any _ = _
  rw [Option.any_map]
  rfl

theorem classEntry_map (rs : List (Record N)) (place : ClassTerm) (date : Date) (student : Student N) :
    classEntry (rs.map (Record.map f)) place date (student.map f) =
      (classEntry rs place date student).map f := by
  unfold classEntry
  rw [show (student.map f).number = student.number from rfl, recordOf?_map]
  cases recordOf? rs student.number <;> rfl

theorem classEntries_map (es : List (Enrolment N)) (rs : List (Record N)) (place : ClassTerm)
    (date : Date) :
    ((es.map (Enrolment.map f)).filterMap (·.student)).map
        (classEntry (rs.map (Record.map f)) place date) =
      ((es.filterMap (·.student)).map (classEntry rs place date)).map (ClassEntry.map f) := by
  have hstudents : (es.map (Enrolment.map f)).filterMap (·.student) =
      (es.filterMap (·.student)).map (Student.map f) := by
    rw [List.filterMap_map, List.map_filterMap]
    rfl
  rw [hstudents, List.map_map, List.map_map]
  exact List.map_congr_left fun student _ => classEntry_map rs place date student

theorem historyEntries_map (rs : List (Record N)) :
    ((rs.map (Record.map f)).filterMap historyItem?).mergeSort (fun a b => b.date ≤ a.date) =
      ((rs.filterMap historyItem?).mergeSort fun a b => b.date ≤ a.date).map (HistoryEntry.map f) := by
  have hentries : (rs.map (Record.map f)).filterMap historyItem? =
      (rs.filterMap historyItem?).map (HistoryEntry.map f) := by
    rw [List.filterMap_map, List.map_filterMap]
    refine List.filterMap_congr fun r _ => ?_
    unfold historyItem?
    rw [Function.comp_apply, show (r.map f).student = r.student.map (Summary.map f) from rfl,
      Option.map_map, Option.map_map]
    rfl
  rw [hentries]
  exact (List.map_mergeSort (f := HistoryEntry.map f) fun a _ b _ => rfl).symm

theorem reportOn_map (query : ReportQuery) (days : List (Day N)) (total : Nat) :
    reportOn query (days.map (Day.mapAbsent (Summary.map f))) total =
      (reportOn query days total).map (AttendanceReport.map f) := by
  have hg := keepsCounts_mapAbsent f
  unfold reportOn
  rw [weeklySummaries_map hg, overallStats_map hg, periodOf_map hg]
  cases weeklySummaries days with
  | error e => rfl
  | ok weeks =>
      show (classifyTrends weeks >>= _) = (classifyTrends weeks >>= _).map _
      cases classifyTrends weeks with
      | error e => rfl
      | ok trends => cases overallStats days <;> rfl

end Service

section Renaming

variable [Name N] [Name M] {f : N → M} (hf : Name.Renames f)

include hf

theorem Report.studentBefore?_map (a b : Summary N) :
    studentBefore? (a.map f) (b.map f) = studentBefore? a b := by
  simp only [studentBefore?, Summary.map, hf.same, hf.before?]

theorem Report.exportReport_map (r : AttendanceReport N) : exportReport (r.map f) = exportReport r := by
  have hrows : (r.days.map (Day.mapAbsent (Summary.map f))).map Day.csvFields =
      r.days.map Day.csvFields := by
    rw [List.map_map]
    refine List.map_congr_left fun d _ => ?_
    have ha : (d.absent.map (Summary.map f)).map absentText = d.absent.map absentText := by
      rw [List.map_map]
      refine List.map_congr_left fun s _ => ?_
      simp only [Function.comp_apply, absentText, Summary.map, hf.text]
    simp only [Function.comp_apply, Day.csvFields, Day.mapAbsent, ha]
  simp only [exportReport, csvOf, AttendanceReport.map, hrows]

end Renaming

end SchoolRegister
