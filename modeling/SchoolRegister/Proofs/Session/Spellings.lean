import SchoolRegister.Proofs.Calendar.Timestamp
import SchoolRegister.Proofs.Service.Marking
import SchoolRegister.Proofs.Session.Records

/-! # Spellings of a day hit one record

A day is given as a date, as a moment of it or as one of its spellings (`Argument.SpellsDate`), and whichever is
given, a mark is made under the date.  A step that puts no record keeps the identifier under each key
(`Session.exists_mem_records_step`), and so does a run of such steps (`Session.exists_mem_records_after`).
So all marks of one student, one class and one day hit one record, whatever else happens
(`Session.spellings_hit_one_record`). -/

namespace SchoolRegister

open Argument Number Text

/-! ### Spellings as arguments -/

namespace Argument

/-- The value gives the date: by itself, with a time of day, or as one of its spellings with blanks around. -/
inductive SpellsDate : Value → Date → Prop
  | date (d : Date) : SpellsDate (.date d) d
  | moment (m : Moment) : SpellsDate (.moment m) m.date
  | instant (m : Moment) : SpellsDate (.instant m) m.date
  | text {d : Date} {s : List Char} (before after : List Char) : Date.Spelling d s →
      before.all isBlank = true → after.all isBlank = true →
        SpellsDate (.text (String.ofList (before ++ s ++ after))) d

variable {v : Value} {d : Date} {s before after : List Char} {field : String}

theorem SpellsDate.denotes (h : SpellsDate v d) : DenotesDate v d := by
  cases h with
  | date => exact .date d
  | moment m => exact .moment m
  | instant m => exact .instant m
  | text before after hs hbefore hafter =>
      refine .text rfl ?_
      rw [String.toList_ofList]
      exact hs.readDate?_trimChars hbefore hafter

theorem parseDate_spelling (h : Date.Spelling d s) (hbefore : before.all isBlank = true)
    (hafter : after.all isBlank = true) :
    parseDate (.text (String.ofList (before ++ s ++ after))) field = .ok d := by
  refine dateOfText_eq_ok_iff.mpr ?_
  rw [String.toList_ofList]
  exact h.readDate?_trimChars hbefore hafter

end Argument

/-- The arguments mark the student with that number in that class, on the day, which they give in any spelling. -/
structure Service.MarkArgs.SpellsMark (args : MarkArgs) (number : String) (place : ClassTerm) (d : Date) : Prop where
  studentNumber : DenotesText args.studentNumber number
  className : DenotesText args.className place.className
  term : DenotesPositive args.term place.term
  year : DenotesPositive args.year place.year
  present : ∃ present, DenotesFlag args.present present
  date : SpellsDate args.date d

namespace Session

variable {s : Session} {x : Step} {steps : List Step} {key : AttendanceKey} {r : Record String}

/-! ### Identifiers -/

/-- A step that puts no record keeps the key and the identifier of each record. -/
theorem exists_mem_records_step (hx : ∀ r, x ≠ .put r) (hr : r ∈ s.store.records) :
    ∃ r' ∈ (s.step x).2.store.records, r'.key = r.key ∧ r'.id = r.id := by
  cases hm : s.marking? x with
  | none =>
      refine ⟨r, ?_, rfl, rfl⟩
      rw [(step_of_no_marking hm).1, (manage_records hx).1]
      exact hr
  | some m =>
      rw [step_of_marking hm]
      exact s.store.exists_mem_records_mark _ _ hr

/-- A run that puts no record keeps the key and the identifier of each record. -/
theorem exists_mem_records_after (hp : ∀ r, Step.put r ∉ steps) (hr : r ∈ s.store.records) :
    ∃ r' ∈ (s.after steps).store.records, r'.key = r.key ∧ r'.id = r.id := by
  induction steps generalizing s r with
  | nil => exact ⟨r, hr, rfl, rfl⟩
  | cons x rest ih =>
      have hx : ∀ r, x ≠ .put r := fun r e => hp r (e ▸ List.mem_cons_self)
      obtain ⟨r', hr', hk, hid⟩ := exists_mem_records_step hx hr
      obtain ⟨r'', hr'', hk', hid'⟩ := ih (fun r h => hp r (List.mem_cons_of_mem x h)) hr'
      exact ⟨r'', hr'', hk'.trans hk, hid'.trans hid⟩

/-! ### Marks in any spelling -/

/-- The step is a mark under the key: it names a student who has the identifier at that time, the class, and the
day in any spelling. -/
def MarksUnder (s : Session) (x : Step) (key : AttendanceKey) : Prop :=
  ∃ args number student, x.markArgs? s = some args ∧ args.SpellsMark number key.place key.date ∧
    s.store.findStudent number = some student ∧ student.id = key.studentId

/-- Such a mark succeeds, and it answers the record that the key has afterwards. -/
theorem step_of_marksUnder (h : s.MarksUnder x key) : ∃ answer ∈ (s.step x).2.store.records,
    (s.step x).1 = .ok (x.answering answer) ∧ answer.key = key := by
  obtain ⟨args, number, student, hargs, hspells, hstudent, hid⟩ := h
  obtain ⟨present, hpresent⟩ := hspells.present
  have hdenotes : args.Denotes ⟨number, key.place, present, key.date⟩ :=
    { studentNumber := hspells.studentNumber
      className := hspells.className
      term := hspells.term
      year := hspells.year
      present := hpresent
      date := hspells.date.denotes }
  have hmarking := Store.marking?_eq_some_iff.mpr
    ⟨_, student, Service.MarkArgs.validate_eq_ok_iff.mpr hdenotes, hstudent, rfl⟩
  have hstep : s.marking? x = some _ := Option.bind_eq_some_iff.mpr ⟨args, hargs, hmarking⟩
  rw [step_of_marking hstep]
  refine ⟨_, (s.store.mem_records_mark _ _).mpr (.inl rfl), rfl, ?_⟩
  exact (s.store.mark_key _ _).trans (AttendanceKey.eq_iff.mpr ⟨hid, rfl, rfl⟩)

/-- All marks of the run under one key hit one record: it is the only one under the key in the end, and each of
them answers it as it is at that time. -/
def HitsOneRecord (s : Session) (steps : List Step) : Prop :=
  ∀ key front x back, steps = front ++ x :: back → (s.after front).MarksUnder x key →
    ∃ r answer, (s.after steps).store.records.filter (fun y => y.key = key) = [r] ∧
      ((s.after front).step x).1 = .ok (x.answering answer) ∧ answer.key = key ∧ answer.id = r.id

/-- Every spelling of a date is read as the date, with any blanks around it, and so are the date itself and the
moments of the day; marks through any of them, in any order and among any other steps, hit one record. -/
theorem spellings_hit_one_record (hp : ∀ r, Step.put r ∉ steps) :
    (∀ d text before after field, Date.Spelling d text → before.all isBlank = true → after.all isBlank = true →
      parseDate (.text (String.ofList (before ++ text ++ after))) field = .ok d) ∧
    (∀ v d field, SpellsDate v d → toDate v field = .ok d) ∧
    s.HitsOneRecord steps := by
  refine ⟨fun _ _ _ _ _ => parseDate_spelling, fun _ _ _ h => toDate_eq_ok_iff.mpr h.denotes, ?_⟩
  rintro key front x back rfl hmark
  obtain ⟨answer, hmem, hanswer, hkey⟩ := step_of_marksUnder hmark
  have hback : ∀ r, Step.put r ∉ back :=
    fun r h => hp r (List.mem_append_right front (List.mem_cons_of_mem x h))
  obtain ⟨r, hr, hk, hid⟩ := exists_mem_records_after hback hmem
  refine ⟨r, answer, ?_, hanswer, hkey, hid.symm⟩
  rw [after_append, after_cons, ← hkey, ← hk]
  exact filter_key_eq (((s.after front).step x).2.after back).store.keys_nodup hr

theorem small_marksUnder (front : List Step) {text : String} {d : Date} {present : Bool}
    (h : SpellsDate (.text text) d)
    (hfront : (small.after front).store.findStudent "17" = some ⟨7, "17", "Adams", "Zoe", none⟩) :
    (small.after front).MarksUnder (smallMark present text) ⟨7, ⟨"5B", 1, 2024⟩, d⟩ := by
  refine ⟨_, "17", _, rfl, ?_, hfront, rfl⟩
  exact
    { studentNumber := denotesText_self (by decide) (by decide)
      className := denotesText_self (by decide) (by decide)
      term := .int (by decide)
      year := .int (by decide)
      present := ⟨present, .bool present⟩
      date := h }

/-- A day without zeros, and the same day with a time of day and an offset that reaches into the next day of
universal time. -/
theorem spellings_hit_one_record_small :
    let first := smallMark true "2024-1-2"
    let second := smallMark false " 2024-01-02T23:59-01\n"
    let key : AttendanceKey := ⟨7, ⟨"5B", 1, 2024⟩, ⟨2024, 1, 2, by decide⟩⟩
    small.MarksUnder first key ∧ (small.after [first, .records]).MarksUnder second key ∧
      small.HitsOneRecord [first, .records, second] := by
  intro first second key
  have hfirst : "2024-1-2" = String.ofList
      ([] ++ (paddedDigits 4 2024 ++ '-' :: (digitsOf 1 ++ '-' :: digitsOf 2)) ++ []) := by decide +kernel
  have hsecond : " 2024-01-02T23:59-01\n" = String.ofList ([' '] ++ key.date.timestamp 'T'
      ⟨true, 23, [59], by decide, none⟩ (some (.shifted false ⟨true, 1, [], by decide, none⟩)) ++ ['\n']) := by
    decide +kernel
  refine ⟨small_marksUnder [] ?_ rfl, small_marksUnder [first, .records] ?_ (by decide +kernel),
    (spellings_hit_one_record (by simp [first, second, smallMark])).2.2⟩
  · rw [hfirst]
    exact .text [] [] (.calendar (.inr rfl) (.inr rfl)) rfl rfl
  · rw [hsecond]
    exact .text [' '] ['\n'] (.timestamp _ _ _) rfl rfl

end Session
end SchoolRegister
