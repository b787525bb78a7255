import SchoolRegister.Proofs.Http.Access
import SchoolRegister.Proofs.School.Store

/-! # The marks of a session

`Session.marks` is the history of a run: the marks that were made in it, by the service or by a
request, each with its key, its presence, what the register knew of the student at that moment, and the
record that was answered.  Whether a step marks is read off its arguments and the state before it
(`Session.marking?`), and it says what the step answers and does:

* a step that marks answers the record of the mark and changes nothing but that record
  (`Session.step_of_marking`);
* a step that does not mark is no mark that succeeded, and it changes no record unless it puts one
  (`Session.step_of_no_marking`). -/

namespace SchoolRegister

open Service Http Text

/-- A mark that was made: the number and the key it was made under, the presence, what the register
knew of the student then, and the record that was answered. -/
structure Marking where
  number : String
  key : AttendanceKey
  present : Bool
  seen : Option (Summary String)
  answer : Record String

/-! ### Marks of a store -/

namespace Store

/-- A valid mark of a student that was found, as it is made. -/
def markingOf (s : Store) (mark : Mark) (student : Student String) : Marking :=
  let key : AttendanceKey := ⟨student.id, mark.place, mark.date⟩
  ⟨mark.studentNumber, key, mark.present, s.summaryOf? student.id, (s.mark key mark.present).1⟩

/-- The mark that arguments make, if they are valid and the student is known. -/
def marking? (s : Store) (args : MarkArgs) : Option Marking :=
  args.validate.toOption.bind fun mark => (s.findStudent mark.studentNumber).map (s.markingOf mark)

variable {s : Store} {args : MarkArgs} {m : Marking}

theorem marking?_eq_some_iff : s.marking? args = some m ↔ ∃ mark student,
    args.validate = .ok mark ∧ s.findStudent mark.studentNumber = some student ∧
      m = s.markingOf mark student := by
  unfold marking?
  cases args.validate with
  | error f => simp [Except.toOption]
  | ok mark =>
      simp only [Except.toOption, Option.bind_some, Option.map_eq_some_iff, Except.ok.injEq]
      constructor
      · rintro ⟨student, hs, rfl⟩
        exact ⟨mark, student, rfl, hs, rfl⟩
      · rintro ⟨_, student, rfl, hs, rfl⟩
        exact ⟨student, hs, rfl⟩

theorem findStudent_of_marking (h : s.marking? args = some m) :
    ∃ student, s.findStudent m.number = some student ∧ student.id = m.key.studentId := by
  obtain ⟨mark, student, _, hs, rfl⟩ := marking?_eq_some_iff.mp h
  exact ⟨student, hs, rfl⟩

theorem seen_of_marking (h : s.marking? args = some m) : m.seen = s.summaryOf? m.key.studentId := by
  obtain ⟨mark, student, _, _, rfl⟩ := marking?_eq_some_iff.mp h
  rfl

theorem answer_of_marking (h : s.marking? args = some m) : m.answer = (s.mark m.key m.present).1 := by
  obtain ⟨mark, student, _, _, rfl⟩ := marking?_eq_some_iff.mp h
  rfl

theorem outcome_of_marking (h : s.marking? args = some m) :
    (markAttendance register args).outcome s = (.ok m.answer, (s.mark m.key m.present).2) := by
  obtain ⟨mark, student, hv, hs, rfl⟩ := marking?_eq_some_iff.mp h
  have hf : (register.findStudent mark.studentNumber).outcome s = (.ok (some student), s) := by
    rw [← hs]; rfl
  rw [markAttendance, Action.outcome_bind, Action.outcome_ofExcept, hv]
  show ((register.findStudent mark.studentNumber) >>= _).outcome s = _
  rw [Action.outcome_bind, hf]
  rfl

/-- A mark that is not made fails, with an invalid argument or an unknown student, and changes
nothing. -/
theorem outcome_of_no_marking (h : s.marking? args = none) :
    ∃ f, (markAttendance register args).outcome s = (.error f, s) := by
  rw [markAttendance, Action.outcome_bind, Action.outcome_ofExcept]
  cases hv : args.validate with
  | error f => exact ⟨f, rfl⟩
  | ok mark =>
      refine ⟨.unknownStudent, ?_⟩
      have hs : s.findStudent mark.studentNumber = none := by
        simpa [marking?, hv, Except.toOption] using h
      have hf : (register.findStudent mark.studentNumber).outcome s = (.ok none, s) := by
        rw [← hs]; rfl
      show ((register.findStudent mark.studentNumber) >>= _).outcome s = _
      rw [Action.outcome_bind, hf]
      rfl

end Store

/-! ### Marks of a session -/

/-- The arguments with which a step marks: its own, or those of a request by somebody who may mark. -/
def Step.markArgs? (x : Step) (s : Session) : Option MarkArgs :=
  match x with
  | .mark args => some args
  | .http draft =>
    match draft.request with
    | .ok (request, atHome) => request.markArgs? (if atHome then s.login else {})
    | .error _ => none
  | _ => none

/-- What a step answers that marks: the record itself, or a response with it. -/
def Step.answering (x : Step) (r : Record String) : Answer String :=
  match x with
  | .http _ => .response (success r.document)
  | _ => .record r

namespace Session

/-- The mark that a step makes, if it makes one. -/
def marking? (s : Session) (x : Step) : Option Marking := (x.markArgs? s).bind s.store.marking?

/-- The marks that some steps make, in their order. -/
def marks (s : Session) : List Step → List Marking
  | [] => []
  | x :: rest => (s.marking? x).toList ++ (s.step x).2.marks rest

/-- The step is a mark that succeeds: it is one that answers a record, or a request for the resource for
marks that is answered with status 200. -/
def Succeeds (s : Session) : Step → Prop
  | .mark args => ∃ r, (s.step (.mark args)).1 = .ok (.record r)
  | .http draft =>
    ∃ request atHome content, draft.request = .ok (request, atHome) ∧
      request.resource? = some .mark ∧
        (s.step (.http draft)).1 = .ok (.response ⟨200, content⟩)
  | _ => False

variable {s : Session} {x : Step}

theorem exchange_of_request {draft : Draft} {request : Request} {atHome : Bool}
    (hd : draft.request = .ok (request, atHome)) :
    let login := if atHome then s.login else {}
    s.exchange draft =
      (.ok (.response ((respond Store.register s.today login request).run s.store).1),
        { s with store := ((respond Store.register s.today login request).run s.store).2 }) := by
  simp only [exchange, hd]
  rfl

theorem step_mark (args : MarkArgs) : s.step (.mark args) =
    ((markAttendance Store.register args).outcome s.store).map (Except.map .record)
      fun store => { s with store := store } := by
  simp only [step, Step.useCase?, Action.outcome_map]
  rfl

theorem step_useCase {a : Action Store (Answer String)} (hx : ∀ args, x ≠ .mark args)
    (ha : x.useCase? Store.register s.today = some a) : (s.step x).2.store = s.store := by
  have h : a.KeepsTo (.reading Store) :=
    x.useCase_keepsTo s.today (Store.register_reads id) (fun args e => absurd e (hx args)) ha
  simp only [step, ha]
  exact h s.store

/-- A step that marks answers the record of its mark, and its mark is all that it does. -/
theorem step_of_marking {m : Marking} (h : s.marking? x = some m) :
    s.step x = (.ok (x.answering m.answer), { s with store := (s.store.mark m.key m.present).2 }) := by
  obtain ⟨args, ha, hm⟩ := Option.bind_eq_some_iff.mp h
  cases x with
  | mark args' =>
      cases ha
      rw [step_mark, Store.outcome_of_marking hm]
      rfl
  | http draft =>
      simp only [Step.markArgs?] at ha
      split at ha
      · rename_i request atHome hd
        show s.exchange draft = _
        rw [exchange_of_request hd, respond_of_markArgs ha, Store.outcome_of_marking hm]
        rfl
      · cases ha
  | _ => cases ha

/-- A request that makes no mark changes nothing, and if it is for the resource for marks, it is not
answered with status 200. -/
theorem exchange_of_no_marking {draft : Draft} (h : s.marking? (.http draft) = none) :
    (s.exchange draft).2.store = s.store ∧ ¬ s.Succeeds (.http draft) := by
  cases hd : draft.request with
  | error f =>
      refine ⟨by simp only [exchange, hd], ?_⟩
      rintro ⟨request, atHome, content, hd', _⟩
      rw [hd] at hd'
      cases hd'
  | ok p =>
      obtain ⟨request, atHome⟩ := p
      have hx := exchange_of_request (s := s) hd
      have key : ((respond Store.register s.today (if atHome then s.login else {}) request).run
            s.store).2 = s.store ∧
          (request.resource? = some .mark → ((respond Store.register s.today
            (if atHome then s.login else {}) request).run s.store).1.status ≠ 200) := by
        cases ha : request.markArgs? (if atHome then s.login else {}) with
        | none => exact respond_of_no_markArgs (Store.register_reads id) ha s.store
        | some args =>
            have hm : s.store.marking? args = none := by
              simpa [marking?, Step.markArgs?, hd, ha] using h
            obtain ⟨f, hf⟩ := Store.outcome_of_no_marking hm
            rw [respond_of_markArgs ha, hf]
            exact ⟨rfl, fun _ => failureResponse_status f⟩
      rw [hx]
      refine ⟨key.1, ?_⟩
      rintro ⟨request', atHome', content, hd', hm, hr⟩
      rw [hd] at hd'
      cases hd'
      rw [show s.step (.http draft) = s.exchange draft from rfl, hx] at hr
      injection hr with hr
      injection hr with hr
      exact key.2 hm (by rw [hr])

/-- A step that makes no mark is none that succeeds, and all that it does to the store is what it does as
neither a use case nor a request. -/
theorem step_of_no_marking (h : s.marking? x = none) :
    (s.step x).2.store = (s.manage x).2.store ∧ ¬ s.Succeeds x := by
  cases x with
  | mark args =>
      have hm : s.store.marking? args = none := h
      obtain ⟨f, hf⟩ := Store.outcome_of_no_marking hm
      have hs := step_mark (s := s) args
      rw [hf] at hs
      rw [hs]
      refine ⟨rfl, ?_⟩
      rintro ⟨r, hr⟩
      rw [hs] at hr
      cases hr
  | http draft => exact exchange_of_no_marking h
  | enrol place members => exact ⟨rfl, id⟩
  | addStudent student => exact ⟨rfl, id⟩
  | put record => exact ⟨rfl, id⟩
  | breakStore => exact ⟨rfl, id⟩
  | records => exact ⟨rfl, id⟩
  | login login => exact ⟨rfl, id⟩
  | _ => exact ⟨step_useCase (fun _ e => by cases e) rfl, id⟩

theorem step_keeps {β : Type} (part : Store → β)
    (hmark : ∀ (st : Store) key present, part (st.mark key present).2 = part st) (x : Step) :
    part (s.step x).2.store = part (s.manage x).2.store := by
  cases h : s.marking? x with
  | none => rw [(step_of_no_marking h).1]
  | some m =>
      obtain ⟨args, ha, _⟩ := Option.bind_eq_some_iff.mp h
      rw [step_of_marking h]
      cases x with
      | mark args' => exact hmark _ _ _
      | http draft => exact hmark _ _ _
      | _ => cases ha

/-! ### Runs -/

theorem after_cons (rest : List Step) : s.after (x :: rest) = (s.step x).2.after rest := rfl

theorem after_append (front back : List Step) :
    s.after (front ++ back) = (s.after front).after back := by
  rw [after, List.foldl_append]
  rfl

theorem marks_append (front back : List Step) :
    s.marks (front ++ back) = s.marks front ++ (s.after front).marks back := by
  induction front generalizing s with
  | nil => rfl
  | cons x front ih => rw [List.cons_append, marks, marks, ih, List.append_assoc, after_cons]

/-- A property of a store and of the marks that led to it holds at the end of a run if it holds at its
start and every step of the run keeps it. -/
theorem after_induction (P : Store → List Marking → Prop) (steps : List Step) (marks : List Marking)
    (hstep : ∀ (s : Session) (x : Step) (marks : List Marking), x ∈ steps → P s.store marks →
      P (s.step x).2.store (marks ++ (s.marking? x).toList))
    (h : P s.store marks) : P (s.after steps).store (marks ++ s.marks steps) := by
  induction steps generalizing s marks with
  | nil => simpa [after, Session.marks] using h
  | cons x rest ih =>
      rw [after_cons, Session.marks, ← List.append_assoc]
      exact ih _ (fun s y marks hy => hstep s y marks (List.mem_cons_of_mem _ hy))
        (hstep s x marks List.mem_cons_self h)

theorem after_keeps {β : Type} (part : Store → β) {steps : List Step}
    (hmark : ∀ (st : Store) key present, part (st.mark key present).2 = part st)
    (h : ∀ (t : Session) (x : Step), x ∈ steps → part (t.manage x).2.store = part t.store) :
    part (s.after steps).store = part s.store := by
  induction steps generalizing s with
  | nil => rfl
  | cons x rest ih =>
      rw [after_cons, ih fun t y hy => h t y (List.mem_cons_of_mem _ hy), step_keeps part hmark,
        h s x List.mem_cons_self]

theorem mem_marks_iff {steps : List Step} {m : Marking} : m ∈ s.marks steps ↔
    ∃ front x back, steps = front ++ x :: back ∧ (s.after front).marking? x = some m := by
  constructor
  · -- a mark is the one of the first step, or one of the steps that follow
    intro h
    induction steps generalizing s with
    | nil => cases h
    | cons x rest ih =>
        rcases List.mem_append.mp h with h | h
        · exact ⟨[], x, rest, rfl, Option.mem_toList.mp h⟩
        · obtain ⟨front, y, back, rfl, hm⟩ := ih h
          exact ⟨x :: front, y, back, rfl, hm⟩
  · rintro ⟨front, x, back, rfl, h⟩
    rw [marks_append, marks, h]
    exact List.mem_append_right _ (List.mem_append_left _ (List.mem_singleton_self m))

/-- A mark of a run was made at some point of it, of a student with its number and its identifier, and
saw what the store knew of the identifier then. -/
theorem origin_of_mem_marks {steps : List Step} {m : Marking} (h : m ∈ s.marks steps) :
    ∃ front, front <+: steps ∧ m.seen = (s.after front).store.summaryOf? m.key.studentId ∧
      ∃ student ∈ (s.after front).store.students,
        student.number = m.number ∧ student.id = m.key.studentId := by
  obtain ⟨front, x, back, rfl, hx⟩ := mem_marks_iff.mp h
  obtain ⟨args, _, hm⟩ := Option.bind_eq_some_iff.mp hx
  obtain ⟨student, hs, hid⟩ := Store.findStudent_of_marking hm
  refine ⟨front, List.prefix_append _ _, Store.seen_of_marking hm, student, ?_, ?_, hid⟩
  · exact List.mem_of_find?_eq_some hs
  · simpa using List.find?_some hs

end Session
end SchoolRegister
