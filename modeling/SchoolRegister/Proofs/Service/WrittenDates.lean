import SchoolRegister.Proofs.Http.Access
import SchoolRegister.Proofs.Outcome
import SchoolRegister.Session

/-! # The dates in answers

Wherever an answer gives a date (`Value.Dated`), it gives the text of one, or the empty text where a report
has no period (`Value.DatesWritten`).  This is read off the documents that answers are made of; only the
period of a report needs a look at where it comes from (`yields_classReport`).  It holds of the use cases
over any register whose names are texts (`Step.yields_datesWritten`) and of the responses to any request
(`Http.datesWritten_respond`). -/

namespace SchoolRegister

open Service Report Http

/-! ### Values -/

namespace Value

/-- The names under which answers give dates. -/
def dateNames : List String := ["date", "week_start_date", "week_end_date", "start_date", "end_date"]

/-- A text stands in the value, at any depth, where answers give a date. -/
inductive Dated : Value → String → Prop
  | date {entries : List (String × Value)} {name t : String} :
      (name, .text t) ∈ entries → name ∈ dateNames → Dated (.dict entries) t
  | entry {entries : List (String × Value)} {name t : String} {v : Value} :
      (name, v) ∈ entries → Dated v t → Dated (.dict entries) t
  | item {items : List Value} {v : Value} {t : String} : v ∈ items → Dated v t → Dated (.list items) t

/-- The text is that of a date, or empty. -/
def IsDateText (t : String) : Prop := t = "" ∨ ∃ d : Date, t = d.text

/-- Wherever the value gives a date, it gives the text of one or the empty text. -/
def DatesWritten (v : Value) : Prop := ∀ t, v.Dated t → IsDateText t

variable {v : Value} {s : String}

theorem isDateText_text (d : Date) : IsDateText d.text := .inr ⟨d, rfl⟩

theorem isDateText_textOrEmpty (d : Option Date) : IsDateText (Date.textOrEmpty d) := by
  cases d with
  | none => exact .inl rfl
  | some d => exact isDateText_text d

@[simp] theorem datesWritten_null : null.DatesWritten := nofun
@[simp] theorem datesWritten_bool (b : Bool) : (bool b).DatesWritten := nofun
@[simp] theorem datesWritten_int (n : Int) : (int n).DatesWritten := nofun
@[simp] theorem datesWritten_float (x : Number.Binary64) : (float x).DatesWritten := nofun
@[simp] theorem datesWritten_text (s : String) : (text s).DatesWritten := nofun

@[simp] theorem datesWritten_list {items : List Value} :
    (list items).DatesWritten ↔ ∀ v ∈ items, v.DatesWritten := by
  constructor
  · exact fun h v hv t ht => h t (.item hv ht)
  · rintro h t (_ | _ | ⟨hv, ht⟩)
    exact h _ hv t ht

/-- What stands under a name is written as dates are, if the name is that of a date. -/
def EntryWritten (e : String × Value) : Prop :=
  e.2.DatesWritten ∧ (e.1 ∈ dateNames → ∀ t, e.2 = .text t → IsDateText t)

@[simp] theorem entryWritten_iff {name : String} : EntryWritten (name, v) ↔
    v.DatesWritten ∧ (name ∈ dateNames → ∀ t, v = .text t → IsDateText t) := Iff.rfl

@[simp] theorem datesWritten_dict {entries : List (String × Value)} :
    (dict entries).DatesWritten ↔ ∀ e ∈ entries, EntryWritten e := by
  constructor
  · refine fun h e he => ⟨fun t ht => h t (.entry he ht), fun hn t ht => h t (.date ?_ hn)⟩
    rw [← ht]
    exact he
  · rintro h t (⟨he, hn⟩ | ⟨he, ht⟩ | _)
    · exact (h _ he).2 hn t rfl
    · exact (h _ he).1 t ht

@[simp] theorem datesWritten_ofOption_map {α : Type} {o : Option α} {f : α → Value} :
    (ofOption (o.map f)).DatesWritten ↔ ∀ a ∈ o, (f a).DatesWritten := by
  cases o <;> simp [ofOption]

end Value

open Value

/-! ### Documents -/

theorem Summary.entryWritten (s : Summary String) : ∀ e ∈ s.entries, EntryWritten e := by
  simp [Summary.entries, dateNames, Name.value]

theorem Summary.datesWritten (s : Summary String) : s.document.DatesWritten :=
  datesWritten_dict.mpr s.entryWritten

theorem Record.datesWritten (r : Record String) : r.document.DatesWritten := by
  simp [Record.document, dateNames, isDateText_text, Name.value, Summary.datesWritten]

theorem ClassEntry.datesWritten (e : ClassEntry String) : e.document.DatesWritten := by
  rw [ClassEntry.document, datesWritten_dict, List.forall_mem_append, List.forall_mem_cons]
  refine ⟨⟨?_, e.student.entryWritten⟩, ?_⟩ <;> simp [dateNames, isDateText_text]

theorem HistoryEntry.datesWritten (e : HistoryEntry String) : e.document.DatesWritten := by
  rw [HistoryEntry.document, datesWritten_dict, List.forall_mem_append, List.forall_mem_cons]
  refine ⟨⟨?_, e.student.entryWritten⟩, ?_⟩ <;> simp [dateNames, isDateText_text, Name.value]

theorem Report.Day.datesWritten (d : Day String) : d.document.DatesWritten := by
  simp [Day.document, dateNames, isDateText_text, Summary.datesWritten]

theorem Report.Week.datesWritten (w : Week) : w.document.DatesWritten := by
  simp [Week.document, dateNames, isDateText_text]

theorem Report.Trend.datesWritten (t : Trend) : t.document.DatesWritten := by
  simp [Trend.document, dateNames]

theorem Report.Overall.datesWritten (o : Overall) : o.document.DatesWritten := by
  simp [Overall.document, dateNames]

theorem Report.ClassSummary.datesWritten (s : ClassSummary String) : s.document.DatesWritten := by
  simp [ClassSummary.document, StudentStats.document, dateNames, Summary.datesWritten]

theorem Report.Download.datesWritten (d : Download) : d.document.DatesWritten := by
  simp [Download.document, dateNames]

theorem Service.AttendanceReport.datesWritten {r : AttendanceReport String}
    (hs : IsDateText r.period.start) (hf : IsDateText r.period.finish) : r.document.DatesWritten := by
  simp [AttendanceReport.document, dateNames, hs, hf, Day.datesWritten, Week.datesWritten,
    Trend.datesWritten, Overall.datesWritten]

/-! ### What actions give -/

/-- Whatever the action gives has the property. -/
def Action.Yields {σ α : Type} (a : Action σ α) (P : α → Prop) : Prop :=
  ∀ s x s', a.outcome s = (.ok x, s') → P x

namespace Action.Yields

variable {σ α β : Type} {a : Action σ α} {P : α → Prop} {Q : β → Prop}

theorem any : a.Yields fun _ => True := fun _ _ _ _ => ⟨⟩

theorem pure {x : α} (h : P x) : (Pure.pure x : Action σ α).Yields P := by
  rintro s y s' e
  cases e
  exact h

theorem ofExcept {e : Except Failure α} (h : ∀ x, e = .ok x → P x) :
    (Action.ofExcept e : Action σ α).Yields P := by
  rintro s y s' he
  cases he
  exact h y rfl

theorem bind {k : α → Action σ β} (ha : a.Yields P) (hk : ∀ x, P x → (k x).Yields Q) :
    (a >>= k).Yields Q := by
  intro s y s' h
  rw [outcome_bind] at h
  rcases ho : a.outcome s with ⟨_ | x, s₁⟩
  · rw [ho] at h
    cases h
  · rw [ho] at h
    exact hk x (ha s x s₁ ho) s₁ y s' h

theorem map {f : α → β} (ha : a.Yields P) (h : ∀ x, P x → Q (f x)) : (f <$> a).Yields Q := by
  rw [← bind_pure_comp]
  exact ha.bind fun x hx => .pure (h x hx)

end Action.Yields

open SchoolRegister.Action

variable {σ : Type} {register : Register σ String}

/-- The period of a report consists of dates. -/
theorem yields_classReport (args : ReportArgs) : (classReport register args).Yields fun report =>
    IsDateText report.period.start ∧ IsDateText report.period.finish := by
  refine Yields.any.bind fun query _ => Yields.any.bind fun (days, total) _ => ?_
  refine Yields.ofExcept fun report h => ?_
  obtain ⟨weeks, _, h⟩ := bind_eq_ok.mp h
  obtain ⟨trends, _, h⟩ := bind_eq_ok.mp h
  obtain ⟨overall, _, h⟩ := bind_eq_ok.mp h
  cases h
  exact ⟨isDateText_textOrEmpty _, isDateText_textOrEmpty _⟩

/-! ### Answers -/

theorem Step.yields_datesWritten {x : Step} {today : Date} {a : Action σ (Answer String)}
    (h : x.useCase? register today = some a) : a.Yields fun answer => answer.document.DatesWritten := by
  cases x with
  | mark args =>
      cases h
      exact Yields.any.map fun r _ => r.datesWritten
  | classView args =>
      cases h
      refine Yields.any.map fun entries _ => ?_
      simp [Answer.document, ClassEntry.datesWritten]
  | history args =>
      cases h
      refine Yields.any.map fun entries _ => ?_
      simp [Answer.document, HistoryEntry.datesWritten]
  | daily args =>
      cases h
      refine Yields.any.map fun days _ => ?_
      simp [Answer.document, Day.datesWritten]
  | report args =>
      cases h
      exact (yields_classReport args).map fun r hr => AttendanceReport.datesWritten hr.1 hr.2
  | reportFile args =>
      cases h
      exact Yields.any.map fun file _ => file.datesWritten
  | summary className term year =>
      cases h
      exact Yields.any.map fun summary _ => summary.datesWritten
  | _ => cases h

namespace Http

theorem datesWritten_success {v : Value} (h : v.DatesWritten) : (success v).document.DatesWritten := by
  simp [success, Response.document, dateNames, h]

theorem datesWritten_refusal (status : Nat) (message : String) :
    (refusal status message).document.DatesWritten := by
  simp [refusal, Response.document, dateNames]

theorem datesWritten_empty (status : Nat) : (Response.mk status .empty).document.DatesWritten := by
  simp [Response.document, dateNames]

theorem datesWritten_head (response : Response) :
    ({ response with content := response.content.head } : Response).document.DatesWritten := by
  cases response with
  | mk status content => cases content <;> exact datesWritten_empty status

theorem datesWritten_failureResponse (f : Failure) : (failureResponse f).document.DatesWritten := by
  unfold failureResponse
  split <;> exact datesWritten_refusal _ _

theorem yields_serve (today : Date) (request : Request) (resource : Resource) :
    (serve register today request resource).Yields fun r => r.document.DatesWritten := by
  cases resource with
  | mark =>
      refine Yields.any.bind fun entries _ => Yields.any.bind fun r _ => .pure ?_
      exact datesWritten_success r.datesWritten
  | classView =>
      refine Yields.any.bind fun entries _ => .pure (datesWritten_success ?_)
      simp [ClassEntry.datesWritten]
  | student number =>
      refine Yields.any.bind fun entries _ => .pure (datesWritten_success ?_)
      simp [HistoryEntry.datesWritten]
  | report =>
      refine (yields_classReport _).bind fun r hr => .pure ?_
      exact datesWritten_success (AttendanceReport.datesWritten hr.1 hr.2)
  | reportFile =>
      refine Yields.any.bind fun file _ => .pure ?_
      simp [Response.document, dateNames]
  | summary =>
      refine Yields.any.bind fun summary _ => .pure ?_
      exact datesWritten_success summary.datesWritten

theorem datesWritten_serveLoggedIn (today : Date) (login : Login) (request : Request)
    (resource : Resource) (s : σ) :
    ((serveLoggedIn register today login request resource).run s).1.document.DatesWritten := by
  unfold serveLoggedIn
  split
  · exact datesWritten_refusal _ _
  · split
    · exact datesWritten_refusal _ _
    · rw [StateT.run]
      rcases h : (serve register today request resource).outcome s with ⟨f | response, s'⟩
      · exact datesWritten_failureResponse f
      · exact yields_serve today request resource s response s' h

/-- Every response gives dates as they are written. -/
theorem datesWritten_respond (today : Date) (login : Login) (request : Request) (s : σ) :
    ((respond register today login request).run s).1.document.DatesWritten := by
  cases hr : request.resource? with
  | some resource =>
      rw [respond_of_resource hr]
      unfold headOnly
      split
      · exact datesWritten_head _
      · exact datesWritten_serveLoggedIn today login request resource s
  | none =>
      obtain ⟨status, h⟩ := exists_respond_eq (N := String) today login hr
      rw [h]
      exact datesWritten_empty status

end Http

end SchoolRegister
