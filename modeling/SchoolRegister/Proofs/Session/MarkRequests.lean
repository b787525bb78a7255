import SchoolRegister.Proofs.Service.Marking
import SchoolRegister.Proofs.Session.Authorization
import SchoolRegister.Proofs.Session.Records

/-! # How requests to mark are answered

A request to mark by somebody who may mark, with an object in its body, is answered by what its arguments
denote (`Session.MarkStatus`): it is refused if they denote no mark, it fails to find a student who is not
known, and it marks any other one.  There is one way to make the service itself fail, an infinite number for
the term or the year after arguments that denote something (`Session.mark_status`). -/

namespace SchoolRegister

open Http Service

namespace Http

/-- The entries of a body are those of the object in it, and there are none if it counts as false. -/
theorem entries_of_value {body : Body} {v : Value} {entries : List (String × Value)}
    (hv : body.value = .ok v) (ho : v = .dict entries ∨ v.isTruthy = false ∧ entries = []) :
    body.entries = .ok entries := by
  unfold Body.entries
  rw [hv]
  rcases ho with rfl | ⟨hfalse, rfl⟩
  · rfl
  · cases v with
    | dict entries =>
        have hempty : entries = [] := by simpa [Value.isTruthy] using hfalse
        rw [hempty]
        rfl
    | _ =>
        simp only [bind, Except.bind, hfalse]
        rfl

end Http

namespace Store

variable {s : Store} {args : MarkArgs} {mark : Mark}

/-- Arguments that denote a mark of a student who is known are answered with a record. -/
theorem outcome_of_known (hv : args.validate = .ok mark)
    (hs : (s.findStudent mark.studentNumber).isSome = true) :
    ∃ r, ((markAttendance register args).outcome s).1 = .ok r := by
  obtain ⟨student, hs⟩ := Option.isSome_iff_exists.mp hs
  rw [outcome_of_marking (marking?_eq_some_iff.mpr ⟨mark, student, hv, hs, rfl⟩)]
  exact ⟨_, rfl⟩

theorem outcome_of_unknown (hv : args.validate = .ok mark)
    (hs : s.findStudent mark.studentNumber = none) :
    ((markAttendance register args).outcome s).1 = .error .unknownStudent := by
  have hf : (register.findStudent mark.studentNumber).outcome s = (.ok none, s) := by
    rw [← hs]
    rfl
  rw [markAttendance, Action.outcome_bind, Action.outcome_ofExcept, hv]
  show (((register.findStudent mark.studentNumber) >>= _).outcome s).1 = _
  rw [Action.outcome_bind, hf]
  rfl

theorem outcome_of_invalid {f : Failure} (hv : args.validate = .error f) :
    ((markAttendance register args).outcome s).1 = .error f := by
  rw [markAttendance, Action.outcome_bind, Action.outcome_ofExcept, hv]

end Store

namespace Session

/-- The status with which arguments of a mark are answered, and why. -/
inductive MarkStatus (store : Store) (args : MarkArgs) : Nat → Prop where
  | made {mark : Mark} : args.Denotes mark →
      (store.findStudent mark.studentNumber).isSome = true → MarkStatus store args 200
  | unknown {mark : Mark} : args.Denotes mark →
      store.findStudent mark.studentNumber = none → MarkStatus store args 404
  | refused : (¬ ∃ mark, args.Denotes mark) → ¬ args.MeetsInfinity → MarkStatus store args 400
  | internal : (¬ ∃ mark, args.Denotes mark) → args.MeetsInfinity → MarkStatus store args 500

/-- The response to what came of a mark. -/
def markResponse (outcome : Except Failure (Record String)) : Response :=
  match outcome with
  | .ok r => success r.document
  | .error f => failureResponse f

theorem markStatus_markResponse (store : Store) (args : MarkArgs) :
    MarkStatus store args (markResponse ((markAttendance Store.register args).outcome store).1).status := by
  rcases args.validate_cases with ⟨mark, hm, hv⟩ | ⟨hnone, hinf, hv⟩ | ⟨hnone, hfinite, f, hv, hf⟩
  · cases hs : store.findStudent mark.studentNumber with
    | some student =>
        have hknown : (store.findStudent mark.studentNumber).isSome = true := by rw [hs]; rfl
        obtain ⟨r, hr⟩ := Store.outcome_of_known hv hknown
        rw [hr]
        exact .made hm hknown
    | none =>
        rw [Store.outcome_of_unknown hv hs]
        exact .unknown hm hs
  · rw [Store.outcome_of_invalid hv]
    exact .internal hnone hinf
  · rw [Store.outcome_of_invalid hv, markResponse, failureResponse, hf]
    exact .refused hnone hfinite

variable {s : Session} {draft : Draft} {request : Request} {atHome : Bool} {v : Value}
  {entries : List (String × Value)}

/-- A request to mark, by somebody who is admitted, with an object in its body or with what counts as one
without entries, is answered with the status of its arguments. -/
theorem mark_status (hd : draft.request = .ok (request, atHome)) (hr : request.IsFor .mark)
    (hu : (s.loginAt atHome).userId.isSome = true)
    (hrole : (s.loginAt atHome).roleText ∈ ["admin", "hod", "teacher"])
    (hv : request.body.value = .ok v) (ho : v = .dict entries ∨ v.isTruthy = false ∧ entries = []) :
    ∃ response, (s.step (.http draft)).1 = .ok (.response response) ∧
      MarkStatus s.store (markArgs entries) response.status := by
  have hmay : (s.loginAt atHome).may Resource.mark.operation = true :=
    may_eq_true_iff.mpr ⟨hu, hrole⟩
  have hargs : request.markArgs? (s.loginAt atHome) = some (markArgs entries) :=
    markArgs?_eq_some_iff.mpr ⟨Request.resource?_eq_some_iff_isFor.mpr hr, hmay, entries,
      entries_of_value hv ho, rfl⟩
  have hx := congrArg Prod.fst (exchange_of_request (s := s) hd)
  have hresponse : ((respond Store.register s.today (s.loginAt atHome) request).run s.store).1 =
      markResponse ((markAttendance Store.register (markArgs entries)).outcome s.store).1 := by
    rw [respond_of_markArgs hargs]
    rcases (markAttendance Store.register (markArgs entries)).outcome s.store with ⟨r, s'⟩
    cases r <;> rfl
  refine ⟨_, hx, ?_⟩
  show MarkStatus _ _ ((respond Store.register s.today (s.loginAt atHome) request).run s.store).1.status
  rw [hresponse]
  exact markStatus_markResponse _ _

/-- A draft that marks the student of the small school, with a term as it stands in the document. -/
def markDraft (term : String) : Draft :=
  { method := "POST", address := "/api/attendance/mark",
    body := .text "application/json" ("\x7b\"student_number\": \"17\", \"class_name\": \"5B\", " ++
      "\"term_num\": " ++ term ++ ", \"year\": 2024, \"present\": \"yes\", " ++
      "\"date\": \"2024-01-02\"\x7d") }

def markRequest (term : String) : Request :=
  { method := "POST", path := "/api/attendance/mark", body := (markDraft term).body }

/-- The small school with somebody who may mark. -/
def smallTeacher : Session := small.after [.login ⟨some (.int 1), some (.text "teacher")⟩]

def isObject : Except Failure Value → Bool
  | .ok (.dict _) => true
  | _ => false

theorem exists_entries {e : Except Failure Value} (h : isObject e = true) :
    ∃ entries, e = .ok (.dict entries) := by
  unfold isObject at h
  split at h
  · exact ⟨_, rfl⟩
  · cases h

theorem mark_status_small : ∃ entries response,
    (markRequest "1.0").body.value = .ok (.dict entries) ∧
      (smallTeacher.step (.http (markDraft "1.0"))).1 = .ok (.response response) ∧
      MarkStatus smallTeacher.store (markArgs entries) response.status := by
  obtain ⟨entries, hv⟩ := exists_entries (e := (markRequest "1.0").body.value) (by decide +kernel)
  have hd : (markDraft "1.0").request = .ok (markRequest "1.0", true) := rfl
  have hr : (markRequest "1.0").IsFor .mark := ⟨nofun, by decide +kernel, by decide +kernel, rfl⟩
  obtain ⟨response, hresponse, hstatus⟩ :=
    mark_status (s := smallTeacher) hd hr rfl (by decide +kernel) hv (.inl rfl)
  exact ⟨entries, response, hv, hresponse, hstatus⟩

/-- An infinite number for the term, in an object that is read, is answered as an internal error. -/
theorem mark_of_infinity :
    (markDraft "Infinity").request = .ok (markRequest "Infinity", true) ∧
      (∃ entries, (markRequest "Infinity").body.value = .ok (.dict entries)) ∧
      (smallTeacher.loginAt true).roleText = "teacher" ∧
      smallTeacher.statusOf? (markDraft "Infinity") = some 500 := by
  refine ⟨rfl, exists_entries ?_, ?_, ?_⟩
  · decide +kernel
  · decide +kernel
  · decide +kernel

end Session
end SchoolRegister
