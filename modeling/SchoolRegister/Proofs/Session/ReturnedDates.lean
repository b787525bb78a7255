import SchoolRegister.Proofs.Calendar.Written
import SchoolRegister.Proofs.Service.Marking
import SchoolRegister.Proofs.Service.WrittenDates
import SchoolRegister.Proofs.Session.ClassView

/-! # Dates that are sent back

The dates in answers may be sent back as arguments.  Dates are written without the leading zeros of the
year and are read with years of four digits only, so the text of a date denotes that date if its year is
not below 1000 (`Date.returns_of_le`), and is refused otherwise (`Date.refused_of_lt`).  An answer gives no
other texts for dates (`Session.datesWritten_step`).

A record that is sent back, in any of the documents that show it (`Record.ShownAs`), is a mark of the same
key under the identifier that the key has kept, or is refused, according to its date.  That the mark finds
the student again rests on what the run has marked (`Session.Held.exists_mark`).
`Session.returned_dates` puts these together. -/

namespace SchoolRegister

open Service Text Argument

/-! ### Texts of dates as arguments -/

namespace Date

/-- The text of the date denotes the date, wherever an argument is a date. -/
structure Returns (d : Date) : Prop where
  parsed : ∀ field, parseDate (.text d.text) field = .ok d
  required : ∀ field, toDate (.text d.text) field = .ok d
  optional : ∀ field, toOptionalDate (.text d.text) field = .ok (some d)

/-- The text of the date is refused, wherever an argument is a date. -/
structure Refused (d : Date) : Prop where
  parsed : ∀ field, parseDate (.text d.text) field =
    .error (.unreadableDate field (Value.text d.text).shown)
  required : ∀ field, toDate (.text d.text) field =
    .error (.unreadableDate field (Value.text d.text).shown)
  optional : ∀ field, toOptionalDate (.text d.text) field =
    .error (.unreadableDate field (Value.text d.text).shown)

variable {d : Date}

theorem isBlankText_text (d : Date) : isBlankText d.text = false := by
  rw [isBlankText, List.all_eq_false]
  exact ⟨'-', by simp [toList_text, monthDayChars], by decide⟩

theorem dateOfText_text (v : Value) (d : Date) (field : String) : dateOfText v d.text field =
    if 1000 ≤ d.year then .ok d else .error (.unreadableDate field v.shown) := by
  rw [dateOfText, trimChars_of_forall fun _ => isBlank_of_mem_text, readDate?_text]
  split <;> rfl

theorem toOptionalDate_text (d : Date) (field : String) :
    toOptionalDate (.text d.text) field = (toDate (.text d.text) field).map some := by
  have hmissing : isMissing (.text d.text) = false := isBlankText_text d
  rw [toOptionalDate, hmissing]
  rfl

theorem returns_of_le (h : 1000 ≤ d.year) : d.Returns := by
  have hread : ∀ v field, dateOfText v d.text field = .ok d := fun v field =>
    (dateOfText_text v d field).trans (if_pos h)
  refine ⟨hread _, hread _, fun field => ?_⟩
  rw [toOptionalDate_text, toDate_of_text rfl, hread]
  rfl

theorem refused_of_lt (h : d.year < 1000) : d.Refused := by
  have hread : ∀ v field, dateOfText v d.text field = .error (.unreadableDate field v.shown) :=
    fun v field => (dateOfText_text v d field).trans (if_neg (Nat.not_le_of_lt h))
  refine ⟨hread _, hread _, fun field => ?_⟩
  rw [toOptionalDate_text, toDate_of_text rfl, hread]
  rfl

end Date

/-! ### Dates in the answers of a session -/

namespace Session

variable {s : Session} {x : Step}

theorem datesWritten_step {a : Answer String} (h : (s.step x).1 = .ok a) : a.document.DatesWritten := by
  cases hu : x.useCase? Store.register s.today with
  | some action =>
      simp only [step, hu] at h
      exact Step.yields_datesWritten hu s.store a _ (Prod.ext h rfl)
  | none =>
      cases x with
      | http draft =>
          rw [show s.step (.http draft) = s.exchange draft from rfl] at h
          cases hd : draft.request with
          | error f =>
              simp only [exchange, hd] at h
              cases h
          | ok p =>
              obtain ⟨request, atHome⟩ := p
              rw [exchange_of_request hd] at h
              cases h
              exact Http.datesWritten_respond s.today _ request s.store
      | records =>
          cases h
          simp [Answer.document, Record.datesWritten]
      | enrol => cases h; exact Value.datesWritten_null
      | addStudent => cases h; exact Value.datesWritten_null
      | put => cases h; exact Value.datesWritten_null
      | breakStore => cases h; exact Value.datesWritten_null
      | login => cases h; exact Value.datesWritten_null
      | _ => cases hu

end Session

/-! ### Records that are sent back -/

/-- The document shows the record: as an answer, in the history of its student, or in the view of its
class. -/
inductive Record.ShownAs (r : Record String) : Value → Prop
  | record : r.ShownAs r.document
  | history {e : HistoryEntry String} : historyItem? r = some e → r.ShownAs e.document
  | entry {records : List (Record String)} {student : Student String} :
      recordOf? records student.number = some r →
        r.ShownAs (classEntry records r.key.place r.date student).document

namespace Service

/-- The entries of a document, none if it is no dictionary. -/
def entriesOf : Value → List (String × Value)
  | .dict entries => entries
  | _ => []

/-- The arguments of a mark as they stand in the document of a record; the number may stand in that of the
student. -/
def resent (document : Value) : MarkArgs :=
  let entries := entriesOf document
  let args := Http.markArgs entries
  match args.studentNumber with
  | .null =>
    let student := entriesOf (Value.getOrNull entries "student")
    { args with studentNumber := Value.getOrNull student "student_number" }
  | _ => args

/-- Arguments that say what a mark says. -/
def Mark.args (mark : Mark) : MarkArgs where
  studentNumber := .text mark.studentNumber
  className := .text mark.place.className
  term := .int mark.place.term
  year := .int mark.place.year
  present := .bool mark.present
  date := .text mark.date.text

/-- Whatever shows a record gives the arguments of a mark back. -/
theorem resent_of_shownAs {r : Record String} {x : Summary String} {v : Value} (hv : r.ShownAs v)
    (hx : r.student = some x) : resent v = Mark.args ⟨x.number, r.key.place, r.present, r.date⟩ := by
  cases hv with
  | record =>
      rw [Record.document, hx]
      rfl
  | history he =>
      rw [historyItem?, hx] at he
      cases he
      rfl
  | @entry records student hrecord =>
      have hnumber : x.number = student.number := by
        have h := List.mem_of_getLast? hrecord
        simpa [hx] using (List.mem_filter.mp h).2
      rw [classEntry, hrecord, hnumber]
      rfl

/-- What arguments denote is denoted by what it says itself, if its date can be sent back, whether or not
the presence is another. -/
theorem MarkArgs.Denotes.again {args : MarkArgs} {mark : Mark} (h : args.Denotes mark)
    (hd : mark.date.Returns) (present : Bool) :
    (Mark.args { mark with present := present }).Denotes { mark with present := present } where
  studentNumber := h.studentNumber.self
  className := h.className.self
  term := .int (denotesPositive_iff.mp h.term).2.2.2
  year := .int (denotesPositive_iff.mp h.year).2.2.2
  present := .bool present
  date := toDate_eq_ok_iff.mp (hd.required "date")

theorem validate_args_of_refused (mark : Mark) (hd : mark.date.Refused) (mark' : Mark) :
    mark.args.validate ≠ .ok mark' := by
  intro h
  have hdate : toDate (.text mark.date.text) "date" = .ok mark'.date :=
    toDate_eq_ok_iff.mpr (MarkArgs.validate_eq_ok_iff.mp h).date
  rw [hd.required] at hdate
  cases hdate

end Service

namespace Session

variable {s : Session} {steps : List Step} {x : Step} {r : Record String}

theorem StableStudents.of_prefix {front : List Step} (h : s.StableStudents steps) (hf : front <+: steps) :
    s.StableStudents front where
  apart front' hf' := h.apart front' (hf'.trans hf)
  constant front' hf' front'' hf'' := h.constant front' (hf'.trans hf) front'' (hf''.trans hf)

/-- The record was in the store at some point of the run. -/
def Held (s : Session) (steps : List Step) (r : Record String) : Prop :=
  ∃ front, front <+: steps ∧ r ∈ (s.after front).store.records

theorem held_answer {m : Marking} (hm : m ∈ s.marks steps) : s.Held steps m.answer := by
  obtain ⟨front, y, back, rfl, hmarking⟩ := mem_marks_iff.mp hm
  obtain ⟨args, _, ha⟩ := Option.bind_eq_some_iff.mp hmarking
  refine ⟨front ++ [y], ⟨back, by simp⟩, ?_⟩
  rw [after_append, after_cons, step_of_marking hmarking, Store.answer_of_marking ha]
  exact (Store.mem_records_mark _ _ _).mpr (.inl rfl)

/-- A record of a stable run has been marked under the number of its student, and its key keeps its
identifier to the end. -/
theorem Held.exists_mark (hr : s.store.records = []) (hi : s.store.lastId = 0)
    (hp : ∀ r, Step.put r ∉ steps) (hs : s.StableStudents steps) (h : s.Held steps r) :
    (∃ m ∈ s.marks steps, m.key = r.key ∧
        ∃ student, r.student = some student ∧ student.number = m.number) ∧
      ∃ r' ∈ (s.after steps).store.records, r'.key = r.key ∧ r'.id = r.id := by
  obtain ⟨front, hf, hmem⟩ := h
  obtain ⟨back, rfl⟩ := hf
  have hfront := reflects_run (s := s) hr hi fun r h => hp r (List.mem_append_left back h)
  constructor
  · obtain ⟨m, hm, hk, hnumber⟩ :=
      Store.number_of_record hfront (hs.of_prefix (List.prefix_append _ _)).identified hmem
    obtain ⟨student, hstudent⟩ := Option.isSome_iff_exists.mp (hfront.named r hmem)
    refine ⟨m, ?_, hk, student, hstudent, ?_⟩
    · rw [marks_append]
      exact List.mem_append_left _ hm
    · exact ((hnumber student.number).mp (by simp [hstudent])).symm
  · exact exists_kept hr hi hp hmem

theorem marking?_again (hs : s.StableStudents steps) {m : Marking} (hm : m ∈ s.marks steps)
    (hd : m.key.date.Returns) (present : Bool) : ∃ m', m'.key = m.key ∧ m'.present = present ∧
      (s.after steps).store.marking? (Mark.args ⟨m.number, m.key.place, present, m.key.date⟩) =
        some m' := by
  obtain ⟨front, y, back, hsplit, hmarking⟩ := mem_marks_iff.mp hm
  obtain ⟨args, _, ha⟩ := Option.bind_eq_some_iff.mp hmarking
  obtain ⟨mark, student, hvalid, _, rfl⟩ := Store.marking?_eq_some_iff.mp ha
  obtain ⟨last, hlast, hnumber, hid⟩ := hs.exists_student hm
  have hagain := MarkArgs.validate_eq_ok_iff.mpr
    ((MarkArgs.validate_eq_ok_iff.mp hvalid).again hd present)
  have hfound : (s.after steps).store.findStudent mark.studentNumber = some last :=
    (find?_key_eq_some_iff (s.after steps).store.numbers_nodup).mpr ⟨hlast, hnumber⟩
  -- the number has kept its identifier, so the student found now is the one of the key
  refine ⟨_, ?_, ?_, Store.marking?_eq_some_iff.mpr ⟨_, last, hagain, hfound, rfl⟩⟩
  · exact AttendanceKey.eq_iff.mpr ⟨hid, rfl, rfl⟩
  · rfl

/-- The step marks the key and the presence of the record and answers the record under its identifier. -/
structure MarksAgain (s : Session) (x : Step) (r : Record String) : Prop where
  step_eq : s.step x = (.ok (x.answering (s.store.mark r.key r.present).1),
    { s with store := (s.store.mark r.key r.present).2 })
  id_eq : (s.store.mark r.key r.present).1.id = r.id

/-- The step is a mark that is refused, and changes nothing in the store. -/
structure Refuses (s : Session) (x : Step) : Prop where
  not_succeeds : ¬ s.Succeeds x
  store_eq : (s.step x).2.store = s.store

/-- A document of a record marks the record again if its date can be sent back. -/
theorem marksAgain_of_returns (hr : s.store.records = []) (hi : s.store.lastId = 0)
    (hp : ∀ r, Step.put r ∉ steps) (hs : s.StableStudents steps) (h : s.Held steps r) {v : Value}
    (hv : r.ShownAs v) (hx : x.markArgs? (s.after steps) = some (resent v)) (hd : r.date.Returns) :
    (s.after steps).MarksAgain x r := by
  obtain ⟨⟨m, hm, hk, student, hstudent, hnumber⟩, r', hr', hk', hid⟩ := h.exists_mark hr hi hp hs
  have hdate : m.key.date = r.date := by rw [hk]; rfl
  obtain ⟨m', hkey, hpresent, hagain⟩ := marking?_again hs hm (hdate ▸ hd) r.present
  have hmarking : (s.after steps).marking? x = some m' := by
    rw [marking?, hx, Option.bind_some, resent_of_shownAs hv hstudent, hnumber, ← hk, ← hdate]
    exact hagain
  constructor
  · rw [step_of_marking hmarking, Store.answer_of_marking hagain, hkey, hk, hpresent]
  · -- there still is a record of the key, and a mark leaves it its identifier
    rw [(Store.mark_of_mem _ _ _ hr' hk').1, hid]

/-- A document of a record marks nothing if its date is refused. -/
theorem refuses_of_refused (hr : s.store.records = []) (hi : s.store.lastId = 0)
    (hp : ∀ r, Step.put r ∉ steps) (hs : s.StableStudents steps) (h : s.Held steps r) {v : Value}
    (hv : r.ShownAs v) (hx : x.markArgs? (s.after steps) = some (resent v)) (hd : r.date.Refused) :
    (s.after steps).Refuses x := by
  obtain ⟨⟨m, hm, hk, student, hstudent, hnumber⟩, _⟩ := h.exists_mark hr hi hp hs
  have hmarking : (s.after steps).marking? x = none := by
    rw [marking?, hx, Option.bind_some, resent_of_shownAs hv hstudent, Option.eq_none_iff_forall_ne_some]
    intro m' hm'
    obtain ⟨mark', _, hvalid, _⟩ := Store.marking?_eq_some_iff.mp hm'
    exact validate_args_of_refused ⟨_, _, _, _⟩ hd mark' hvalid
  refine ⟨(step_of_no_marking hmarking).2, ?_⟩
  rw [(step_of_no_marking hmarking).1]
  cases x with
  | mark args => rfl
  | http draft => rfl
  | _ => cases hx

/-- Which dates can be sent back: those whose year is not below 1000, and no others.  Answers give no dates
but as their texts.  In a run from a store without records, in which no record is put and students can be
told apart, any document of a record that the store has held, whichever step it is sent back in, marks the
record again if its date can be sent back, and is refused otherwise. -/
theorem returned_dates (hr : s.store.records = []) (hi : s.store.lastId = 0)
    (hp : ∀ r, Step.put r ∉ steps) (hs : s.StableStudents steps) :
    (∀ d : Date, (1000 ≤ d.year → d.Returns) ∧ (d.year < 1000 → d.Refused)) ∧
    (∀ (t : Session) (x : Step) (a : Answer String), (t.step x).1 = .ok a → a.document.DatesWritten) ∧
    (∀ m ∈ s.marks steps, s.Held steps m.answer) ∧
    ∀ r, s.Held steps r → ∀ v, r.ShownAs v →
      ∀ x : Step, x.markArgs? (s.after steps) = some (resent v) →
        (1000 ≤ r.date.year → (s.after steps).MarksAgain x r) ∧
        (r.date.year < 1000 → (s.after steps).Refuses x) := by
  refine ⟨fun d => ⟨Date.returns_of_le, Date.refused_of_lt⟩, fun t x a => datesWritten_step,
    fun m => held_answer, fun r hheld v hv x hx => ⟨fun h => ?_, fun h => ?_⟩⟩
  · exact marksAgain_of_returns hr hi hp hs hheld hv hx (Date.returns_of_le h)
  · exact refuses_of_refused hr hi hp hs hheld hv hx (Date.refused_of_lt h)

theorem returned_dates_small :
    let steps := [smallMark true "0999-12-31", smallMark false "2024-01-02"]
    let again := fun r : Record String => Step.mark (resent r.document)
    (small.marks steps).map (·.answer.date.year) = [999, 2024] ∧ ∀ m ∈ small.marks steps,
      (m.answer.date.year = 999 → (small.after steps).Refuses (again m.answer)) ∧
      (m.answer.date.year = 2024 → (small.after steps).MarksAgain (again m.answer) m.answer) := by
  intro steps again
  refine ⟨by decide +kernel, fun m hm => ?_⟩
  have hs : small.StableStudents steps := by
    apply StableStudents.of_fixed
    · simp [steps, smallMark]
    · simp [small, Store.addStudent, Store.enrol, putUnder]
  obtain ⟨_, _, hheld, hresent⟩ := returned_dates rfl rfl (by simp [steps, smallMark]) hs
  obtain ⟨hmarks, hrefuses⟩ := hresent m.answer (hheld m hm) _ .record (again m.answer) rfl
  exact ⟨fun h => hrefuses (by omega), fun h => hmarks (by omega)⟩

/-- The last day of the year 999 is answered as a text that is then refused. -/
theorem yearWithoutZeros_small :
    let d : Date := ⟨999, 12, 31, by decide⟩
    ((small.step (smallMark true "0999-12-31")).1.toOption.map (·.document)) = some (.dict
      [("id", .int 1),
        ("student", .dict [("student_number", .text "17"), ("surname", .text "Adams"),
          ("name", .text "Zoe"), ("gender", .null)]),
        ("class_name", .text "5B"), ("term_num", .int 1), ("year", .int 2024),
        ("date", .text "999-12-31"), ("present", .bool true)]) ∧
    d.text = "999-12-31" ∧
    parseDate (.text d.text) "date" = .error (.unreadableDate "date" "'999-12-31'") ∧
    ((small.after [smallMark true "0999-12-31"]).step (smallMark true "999-12-31")).1 =
      .error (.unreadableDate "date" "'999-12-31'") := by
  refine ⟨rfl, rfl, rfl, rfl⟩

end Session
end SchoolRegister
