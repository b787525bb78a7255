import SchoolRegister.Proofs.Argument
import SchoolRegister.Proofs.Service.Tally
import SchoolRegister.Proofs.Session.ClassView

/-! # Three ways to read the marks of a student

The history of a student, the views of a class and its summary are three queries: by number over all
classes, by class and date, and by class and then number.  Where a number has one identifier
(`Store.OneIdEach`), they show the same records of the store (`Store.mem_historyOf`,
`Store.recordOf?_eq_some_iff`, `Store.countP_historyOf`).  `Session.ReadsAgree` says what this comes to
for a student on a roster, and `Session.reads_agree` that it holds after every run in which students can be
told apart and no record is put. -/

namespace SchoolRegister

open Argument Report Service Text

namespace Store

variable {s : Store} {place : ClassTerm} {number : String}

/-! ### The history of a number -/

/-- The history of a number in a term of a year, over all dates. -/
def historyOf (s : Store) (number : String) (term year : Int) : List (HistoryEntry String) :=
  newestFirst (s.studentRecords number term year {})

/-- The record is one of a number in a term of a year. -/
def isOf (number : String) (term year : Int) (r : Record String) : Bool :=
  r.student.any (fun x => x.number == number) && r.term == term && r.year == year

theorem historyOf_perm (s : Store) (number : String) (term year : Int) :
    (s.historyOf number term year).Perm
      ((s.records.filter (isOf number term year)).filterMap historyItem?) := by
  have hrecords : (s.studentRecords number term year {}).Perm
      (s.records.filter (isOf number term year)) := by
    refine (List.mergeSort_perm _ _).trans (.of_eq (List.filter_congr fun r _ => ?_))
    rw [show Span.contains {} r.date = true from rfl, Bool.and_true]
    rfl
  exact (List.mergeSort_perm _ _).trans (hrecords.filterMap _)

theorem isOf_eq_true_iff {term year : Int} {r : Record String} : isOf number term year r = true ↔
    (∃ x, r.student = some x ∧ x.number = number) ∧ r.term = term ∧ r.year = year := by
  simp [isOf, Option.any_eq_true, and_assoc]

theorem mem_historyOf {term year : Int} {e : HistoryEntry String} :
    e ∈ s.historyOf number term year ↔ ∃ r ∈ s.records, ∃ x, r.student = some x ∧ x.number = number ∧
      r.term = term ∧ r.year = year ∧
        e = ⟨r.id, x, r.present, r.date, r.className, r.term, r.year⟩ := by
  rw [(s.historyOf_perm number term year).mem_iff, List.mem_filterMap]
  constructor
  · rintro ⟨r, hr, he⟩
    obtain ⟨hr, hof⟩ := List.mem_filter.mp hr
    obtain ⟨⟨x, hx, hn⟩, ht, hy⟩ := isOf_eq_true_iff.mp hof
    rw [historyItem?, hx] at he
    cases he
    exact ⟨r, hr, x, hx, hn, ht, hy, rfl⟩
  · rintro ⟨r, hr, x, hx, hn, ht, hy, rfl⟩
    refine ⟨r, List.mem_filter.mpr ⟨hr, isOf_eq_true_iff.mpr ⟨⟨x, hx, hn⟩, ht, hy⟩⟩, ?_⟩
    rw [historyItem?, hx]
    rfl

theorem pairwise_newestFirst (rs : List (Record String)) :
    (newestFirst rs).Pairwise fun a b => b.date ≤ a.date := by
  refine (List.pairwise_mergeSort ?_ ?_ _).imp fun {a b} h => by simpa using h
  · intro a b c hab hbc
    simp only [decide_eq_true_eq] at hab hbc ⊢
    exact Date.le_trans hbc hab
  · intro a b
    simp only [Bool.or_eq_true, decide_eq_true_eq]
    exact Date.le_total _ _

/-- A history has one entry for each class and date. -/
theorem nodup_historyOf (h : s.OneIdEach) (term year : Int) :
    ((s.historyOf number term year).map fun e => (e.className, e.date)).Nodup := by
  refine (((s.historyOf_perm number term year).map _).nodup_iff).mpr ?_
  rw [List.Nodup, List.pairwise_map, List.pairwise_filterMap]
  have hkeys : (s.records.filter (isOf number term year)).Pairwise fun a b => a.key ≠ b.key :=
    (List.pairwise_map.mp s.keys_nodup).sublist List.filter_sublist
  refine hkeys.imp_of_mem ?_
  intro a b ha hb hne e he e' he' heq
  obtain ⟨ha, hofa⟩ := List.mem_filter.mp ha
  obtain ⟨hb, hofb⟩ := List.mem_filter.mp hb
  obtain ⟨⟨x, hx, hxn⟩, hta, hya⟩ := isOf_eq_true_iff.mp hofa
  obtain ⟨⟨y, hy, hyn⟩, htb, hyb⟩ := isOf_eq_true_iff.mp hofb
  rw [historyItem?, hx] at he
  rw [historyItem?, hy] at he'
  cases he
  cases he'
  obtain ⟨hclass, hdate⟩ := Prod.mk.inj heq
  -- the two records have one number, so one identifier of the student, and so one key
  apply hne
  have hid := h a ha b hb x y hx hy (hxn.trans hyn.symm)
  exact AttendanceKey.eq_iff.mpr
    ⟨hid, ClassTerm.mk.injEq .. ▸ ⟨hclass, hta.trans htb.symm, hya.trans hyb.symm⟩, hdate⟩

/-! ### The same records -/

/-- How many records of a number in a class meet a condition on their presence. -/
def countFor (s : Store) (place : ClassTerm) (number : String) (p : Bool → Bool) : Nat :=
  s.countIn place fun r => r.student.any (fun x => x.number == number) && p r.present

theorem countP_historyOf (p : Bool → Bool) :
    (s.historyOf number place.term place.year).countP
      (fun e => e.className == place.className && p e.present) = s.countFor place number p := by
  rw [(s.historyOf_perm number place.term place.year).countP_eq, List.countP_filterMap,
    List.countP_filter, countFor, countIn]
  refine List.countP_congr fun r _ => ?_
  obtain ⟨className, term, year⟩ := place
  cases hx : r.student with
  | none => simp [historyItem?, isOf, hx]
  | some x =>
      simp only [historyItem?, isOf, hx, Option.map_some, Option.any_some, Record.key,
        ClassTerm.mk.injEq, Bool.and_eq_true, beq_iff_eq, decide_eq_true_eq, Option.isSome_some,
        Option.getD_some, true_and]
      tauto

theorem countP_countedOf (p : Bool → Bool) :
    (countedOf (s.classRecords place {}) number).countP (fun q => p q.1.present) =
      s.countFor place number p := by
  rw [countFor, ← countP_classRecords, countedOf, List.countP_filter]
  refine List.countP_congr fun q hq => ?_
  obtain ⟨r, _, hr⟩ := List.mem_filterMap.mp hq
  obtain ⟨x, hx, rfl⟩ := Option.map_eq_some_iff.mp hr
  simp only [hx, Option.any_some, Bool.and_comm]

/-- Where a number has one identifier, the view of a class on a date shows the record of the number. -/
theorem recordOf?_eq_some_iff (h : s.OneIdEach) {date : Date} {r : Record String} :
    recordOf? (s.classRecords place (.only date)) number = some r ↔
      r ∈ s.recordsOf place date number := by
  rw [recordOf?_eq_getLast?]
  constructor
  · exact List.mem_of_getLast?
  · intro hr
    exact getLast?_of_forall_eq hr fun r' hr' => h.eq_of_mem hr' hr

theorem exists_recordsOf_iff {date : Date} {P : Int → Bool → Prop} :
    (∃ r ∈ s.recordsOf place date number, P r.id r.present) ↔
      ∃ e ∈ s.historyOf number place.term place.year,
        e.className = place.className ∧ e.date = date ∧ P e.id e.present := by
  constructor
  · rintro ⟨r, hr, hP⟩
    obtain ⟨hmem, rfl, hd, hn⟩ := mem_recordsOf.mp hr
    obtain ⟨x, hx, hxn⟩ := (Option.any_eq_true _ _).mp hn
    exact ⟨_, mem_historyOf.mpr ⟨r, hmem, x, hx, beq_iff_eq.mp hxn, rfl, rfl, rfl⟩, rfl, hd, hP⟩
  · rintro ⟨e, he, hc, hd, hP⟩
    obtain ⟨r, hr, x, hx, hn, ht, hy, rfl⟩ := mem_historyOf.mp he
    refine ⟨r, mem_recordsOf.mpr ⟨hr, ?_, hd, by simp [hx, hn]⟩, hP⟩
    exact ClassTerm.mk.injEq .. ▸ ⟨hc, ht, hy⟩

end Store

/-! ### Arguments -/

/-- The name of the class is not blank and has no blanks at its ends; term and year are positive. -/
structure ClassTerm.Proper (place : ClassTerm) : Prop where
  nonblank : isBlankText place.className = false
  trimmed : trim place.className = place.className
  term : 0 < place.term
  year : 0 < place.year

namespace ClassTerm.Proper

variable {place : ClassTerm} {number : String}

theorem classArgs_validate (h : place.Proper) (today date : Date) :
    ClassArgs.validate { className := .text place.className, term := .int place.term,
                         year := .int place.year, date := .date date } today = .ok (place, date) := by
  rw [ClassArgs.validate, requireText_eq_ok_iff.mpr (denotesText_self h.nonblank h.trimmed),
    requirePositive_eq_ok_iff.mpr (.int h.term), requirePositive_eq_ok_iff.mpr (.int h.year)]
  rfl

theorem reportArgs_validate (h : place.Proper) :
    ReportArgs.validate { className := .text place.className, term := .int place.term,
                          year := .int place.year } = .ok ⟨place, {}⟩ := by
  rw [ReportArgs.validate, requireText_eq_ok_iff.mpr (denotesText_self h.nonblank h.trimmed),
    requirePositive_eq_ok_iff.mpr (.int h.term), requirePositive_eq_ok_iff.mpr (.int h.year)]
  rfl

theorem historyArgs_validate (h : place.Proper) (hb : isBlankText number = false)
    (ht : trim number = number) :
    HistoryArgs.validate { studentNumber := .text number, term := .int place.term,
                           year := .int place.year } = .ok ⟨number, place.term, place.year, {}⟩ := by
  rw [HistoryArgs.validate, requireText_eq_ok_iff.mpr (denotesText_self hb ht),
    requirePositive_eq_ok_iff.mpr (.int h.term), requirePositive_eq_ok_iff.mpr (.int h.year)]
  rfl

end ClassTerm.Proper

/-! ### After a run -/

namespace Session

/-- An entry in the view of a class on a date says what the history of its student says. -/
structure EntryAgrees (history : List (HistoryEntry String)) (place : ClassTerm) (date : Date)
    (entry : ClassEntry String) : Prop where
  marked : ∀ id present, entry.id = some id ∧ entry.present = present ↔
    ∃ e ∈ history, e.className = place.className ∧ e.date = date ∧ e.id = id ∧ e.present = present
  unmarked : entry.id = none ∧ entry.present = false ↔
    ∀ e ∈ history, ¬ (e.className = place.className ∧ e.date = date)

/-- What a history counts for a class: the entries, and those of presence, if there are any. -/
def countsOf (history : List (HistoryEntry String)) (className : String) : List (Nat × Nat) :=
  let ofClass := history.filter fun e => e.className = className
  if ofClass = [] then [] else [(ofClass.length, ofClass.countP (·.present))]

/-- The history of a student, the views of a class with the student and its summary agree. -/
structure ReadsAgree (s : Session) (place : ClassTerm) (number : String)
    (history : List (HistoryEntry String)) (summary : ClassSummary String) : Prop where
  newestFirst : history.Pairwise fun a b => b.date ≤ a.date
  once : (history.map fun e => (e.className, e.date)).Nodup
  /-- Every view of the class shows the student, and always as the history has it. -/
  views : ∀ date, ∃ entries,
    (s.step (.classView { className := .text place.className, term := .int place.term,
                          year := .int place.year, date := .date date })).1 =
        .ok (.classEntries entries) ∧
      (∃ entry ∈ entries, entry.student.number = number) ∧
        ∀ entry ∈ entries, entry.student.number = number → EntryAgrees history place date entry
  /-- The summary counts the entries of the class; without one, the student is not in it. -/
  counts : (summary.students.filter fun x => x.student.number = number).map
      (fun x => (x.total, x.present)) = countsOf history place.className

variable {s : Session} {place : ClassTerm} {number : String}

/-- The history of a student shows the records of the number. -/
theorem step_history (hd : s.store.down = false) (hp : place.Proper) (hb : isBlankText number = false)
    (ht : trim number = number) :
    (s.step (.history { studentNumber := .text number, term := .int place.term,
                        year := .int place.year })).1 =
      .ok (.historyEntries (s.store.historyOf number place.term place.year)) := by
  rw [step_history_of_validate hd (hp.historyArgs_validate hb ht)]
  rfl

theorem step_summary (hd : s.store.down = false) (hp : place.Proper) : ∃ summary,
    (s.step (.summary (.text place.className) (.int place.term) (.int place.year))).1 =
      .ok (.summary summary) ∧ Summarized (s.store.classRecords place {}) summary := by
  obtain ⟨summary, hs, _, hcounts⟩ := exists_summarize (s.store.classRecords place {}) place
  refine ⟨summary, ?_, hcounts⟩
  rw [step_summary_of_validate hd hp.reportArgs_validate, hs]
  rfl

/-- What a summary counts for a number are the entries of the class in the history of the number. -/
theorem counts_eq_of_summarized {store : Store} {summary : ClassSummary String}
    (h : Summarized (store.classRecords place {}) summary) :
    (summary.students.filter fun x => x.student.number = number).map (fun x => (x.total, x.present)) =
      countsOf (store.historyOf number place.term place.year) place.className := by
  unfold countsOf
  generalize hclass : (store.historyOf number place.term place.year).filter
    (fun e => e.className = place.className) = ofClass
  have hcount : ∀ p : Bool → Bool, ofClass.countP (fun e => p e.present) =
      (countedOf (store.classRecords place {}) number).countP fun q => p q.1.present := by
    intro p
    rw [Store.countP_countedOf, ← Store.countP_historyOf, ← hclass, List.countP_filter]
    exact List.countP_congr fun e _ => by simp [and_comm]
  have hlength : ofClass.length = (countedOf (store.classRecords place {}) number).length := by
    simpa using hcount fun _ => true
  have hcounts := congrArg (List.map fun c : Count => (c.total, c.present)) (h.counts_of_number number)
  rw [List.map_map] at hcounts
  refine Eq.trans hcounts ?_
  by_cases hm : number ∈ studentNumbers (store.classRecords place {})
  · have hne : countedOf (store.classRecords place {}) number ≠ [] := countedOf_ne_nil hm
    rw [if_pos hm, if_neg, List.map_singleton]
    · exact congrArg (fun p => [p]) (Prod.ext hlength.symm (hcount id).symm)
    · rw [← List.length_eq_zero_iff, hlength, List.length_eq_zero_iff]
      exact hne
  · rw [if_neg hm, if_pos, List.map_nil]
    rw [← List.length_eq_zero_iff, hlength, not_mem_studentNumbers hm, List.length_nil]

/-- In the view of a class, the entries of a student say what the history of the student says. -/
theorem entryAgrees_classEntry {store : Store} (h : store.OneIdEach) (date : Date)
    {student : Student String} :
    EntryAgrees (store.historyOf student.number place.term place.year) place date
      (classEntry (store.classRecords place (.only date)) place date student) := by
  cases hr : recordOf? (store.classRecords place (.only date)) student.number with
  | none =>
      have hnil : store.recordsOf place date student.number = [] := by
        rwa [Store.recordOf?_eq_getLast?, List.getLast?_eq_none_iff] at hr
      have hno : ∀ e ∈ store.historyOf student.number place.term place.year,
          ¬ (e.className = place.className ∧ e.date = date) := by
        intro e he hcd
        obtain ⟨r, hmem, _⟩ := (Store.exists_recordsOf_iff (P := fun _ _ => True)).mpr
          ⟨e, he, hcd.1, hcd.2, trivial⟩
        rw [hnil] at hmem
        cases hmem
      refine ⟨fun id present => ?_, ?_⟩
      · simp only [classEntry, hr, Option.map_none, reduceCtorEq, false_and, false_iff]
        rintro ⟨e, he, hc, hd, _⟩
        exact hno e he ⟨hc, hd⟩
      · simpa [classEntry, hr] using hno
  | some r =>
      have hmem := (Store.recordOf?_eq_some_iff h).mp hr
      refine ⟨fun id present => ?_, ?_⟩
      · rw [← Store.exists_recordsOf_iff (P := fun i p => i = id ∧ p = present)]
        simp only [classEntry, hr, Option.map_some, Option.any_some, Option.some.injEq]
        constructor
        · exact fun hs => ⟨r, hmem, hs⟩
        · rintro ⟨r', hmem', hs⟩
          rwa [h.eq_of_mem hmem hmem']
      · simp only [classEntry, hr, Option.map_some, reduceCtorEq, false_and, false_iff]
        intro hno
        obtain ⟨e, he, hc, hd, _⟩ := (Store.exists_recordsOf_iff (P := fun _ _ => True)).mp
          ⟨r, hmem, trivial⟩
        exact hno e he ⟨hc, hd⟩

/-- After a run from a store without records, in which no record is put, the store stays up and students
can be told apart, the history of a student on the roster of a class, the views of the class and its
summary agree. -/
theorem reads_agree {steps : List Step} (hr : s.store.records = []) (hi : s.store.lastId = 0)
    (hd : s.store.down = false) (hp : ∀ r, Step.put r ∉ steps) (hb : Step.breakStore ∉ steps)
    (hs : s.StableStudents steps) (hplace : place.Proper) (hnonblank : isBlankText number = false)
    (htrimmed : trim number = number)
    (hm : ∃ x, some x ∈ (s.after steps).store.members place ∧ x.number = number) :
    ∃ history summary,
      ((s.after steps).step (.history { studentNumber := .text number, term := .int place.term,
                                        year := .int place.year })).1 =
        .ok (.historyEntries history) ∧
      ((s.after steps).step
        (.summary (.text place.className) (.int place.term) (.int place.year))).1 =
          .ok (.summary summary) ∧
      (s.after steps).ReadsAgree place number history summary := by
  have hdown : (s.after steps).store.down = false := down_after hd hb
  have hone : (s.after steps).store.OneIdEach :=
    Store.oneIdEach_of_identified (reflects_run hr hi hp) hs.identified
  obtain ⟨summary, hsummary, hcounts⟩ := step_summary hdown hplace
  refine ⟨_, summary, step_history hdown hplace hnonblank htrimmed, hsummary, ?_⟩
  refine
    { newestFirst := Store.pairwise_newestFirst _
      once := Store.nodup_historyOf hone _ _
      views := fun date => ?_
      counts := counts_eq_of_summarized hcounts }
  obtain ⟨x, hx, rfl⟩ := hm
  refine ⟨_, step_classView_of_validate hdown (hplace.classArgs_validate _ date) (List.ne_nil_of_mem hx), ?_, ?_⟩
  · exact ⟨_, List.mem_map_of_mem (List.mem_filterMap.mpr ⟨some x, hx, rfl⟩), rfl⟩
  · intro entry he hnumber
    obtain ⟨student, _, rfl⟩ := List.mem_map.mp he
    rw [← hnumber]
    exact entryAgrees_classEntry hone date

theorem reads_agree_small :
    let t := small.after [smallMark true "2024-01-02", smallMark false "2024-01-03",
      smallMark false "2024-01-02"]
    ∃ history summary,
      (t.step (.history { studentNumber := .text "17", term := .int 1, year := .int 2024 })).1 =
        .ok (.historyEntries history) ∧
      (t.step (.summary (.text "5B") (.int 1) (.int 2024))).1 = .ok (.summary summary) ∧
      t.ReadsAgree ⟨"5B", 1, 2024⟩ "17" history summary := by
  intro t
  have hstudents : small.StableStudents [smallMark true "2024-01-02", smallMark false "2024-01-03",
      smallMark false "2024-01-02"] := by
    apply StableStudents.of_fixed
    · simp [smallMark]
    · simp [small, Store.addStudent, Store.enrol, putUnder]
  have hplace : ClassTerm.Proper ⟨"5B", 1, 2024⟩ :=
    ⟨by decide, by decide, by decide, by decide⟩
  exact reads_agree rfl rfl rfl (by simp [smallMark]) (by simp [smallMark]) hstudents hplace
    (by decide) (by decide) ⟨⟨7, "17", "Adams", "Zoe", none⟩, by decide +kernel, rfl⟩

end Session
end SchoolRegister
