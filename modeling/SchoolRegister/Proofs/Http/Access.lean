import SchoolRegister.Proofs.Service.Conduct

/-! # What a request does to a register

A request reaches a resource or none (`Request.resource?`), and whoever made it may perform the
operation of the resource or not (`Login.may`).  Only a request for the resource for marks, by somebody
who may mark, with an object in its body, leads to a mark (`Request.markArgs?`): it is answered with the
record, or with the failure, of that mark (`respond_of_markArgs`).  Any other request changes nothing and
is no mark that succeeded (`respond_of_no_markArgs`). -/

namespace SchoolRegister.Http

open Service Text

/-- The resource that a request reaches, if it reaches one. -/
def Request.resource? (r : Request) : Option Resource :=
  match target r.path (capitalized r.method) with
  | .here (.found resource) => if r.isLasting then none else some resource
  | _ => none

/-- The person who is logged in may perform an operation. -/
def Login.may (login : Login) (operation : Operation) : Bool :=
  login.actor?.any fun actor => Permission.check (some actor) operation = .allowed

/-- The arguments with which a request marks: those in its body, if it reaches the resource for marks
and comes from somebody who may mark. -/
def Request.markArgs? (r : Request) (login : Login) : Option MarkArgs :=
  if r.resource? = some .mark ∧ login.may .markAttendance then
    r.body.entries.toOption.map markArgs
  else none

variable {σ N : Type} [Name N] {register : Register σ N} {today : Date} {login : Login}
  {request : Request}

theorem resource?_eq_some_iff {resource : Resource} : request.resource? = some resource ↔
    target request.path (capitalized request.method) = .here (.found resource) ∧
      request.isLasting = false := by
  unfold Request.resource?
  split
  · rename_i found ht
    rw [ht]
    cases request.isLasting <;> simp
  · rename_i ht
    simp only [reduceCtorEq, false_iff, not_and]
    exact fun e => absurd e (ht resource)

/-- A request that reaches no resource is answered with a status alone, without a look at the register. -/
theorem exists_respond_eq (today : Date) (login : Login) (h : request.resource? = none) :
    ∃ status, ∀ {σ : Type} (register : Register σ N),
      respond register today login request = pure ⟨status, .empty⟩ := by
  unfold Request.resource? at h
  unfold respond
  cases ht : target request.path (capitalized request.method) with
  | redirected => cases request.isLasting <;> exact ⟨_, fun _ => rfl⟩
  | here found =>
      cases found with
      | found resource =>
          cases hl : request.isLasting with
          | true => exact ⟨_, fun _ => rfl⟩
          | false => simp [ht, hl] at h
      | _ => cases request.isLasting <;> exact ⟨_, fun _ => rfl⟩

theorem respond_of_no_resource (h : request.resource? = none) (s : σ) :
    ((respond register today login request).run s).2 = s := by
  obtain ⟨status, hr⟩ := exists_respond_eq (N := N) today login h
  rw [hr]
  rfl

/-- A request that reaches a resource is answered by it, without the body if only the head was asked
for. -/
theorem respond_of_resource {resource : Resource} (h : request.resource? = some resource) (s : σ) :
    (respond register today login request).run s =
      (headOnly request.method ((serveLoggedIn register today login request resource).run s).1,
        ((serveLoggedIn register today login request resource).run s).2) := by
  obtain ⟨ht, hl⟩ := resource?_eq_some_iff.mp h
  simp only [respond, ht, hl]
  rfl

theorem accepts_of_matchAt {place : Place} {method : String} {resource : Resource}
    (h : matchAt place method = .found resource) : resource.accepts method = true := by
  cases place with
  | nothing => cases h
  | file =>
      simp only [matchAt] at h
      split at h
      · cases h
      · split at h <;> cases h
  | resource r =>
      simp only [matchAt] at h
      split at h
      · cases h
      · split at h
        · rename_i ha
          cases h
          exact ha
        · cases h

theorem accepts_of_target {path method : String} {resource : Resource}
    (h : target path method = .here (.found resource)) : resource.accepts method = true := by
  simp only [target] at h
  split at h
  · exact accepts_of_matchAt (Target.here.inj h)
  · split at h
    · cases h
    · exact accepts_of_matchAt (Target.here.inj h)

theorem headOnly_of_mark (h : request.resource? = some .mark) (response : Response) :
    headOnly request.method response = response := by
  have ha := accepts_of_target (resource?_eq_some_iff.mp h).1
  have hne : request.method ≠ "HEAD" := by
    intro e
    rw [e] at ha
    revert ha
    decide
  simp [headOnly, hne]

/-! ### Whoever is logged in -/

theorem serveLoggedIn_of_may {resource : Resource} (h : login.may resource.operation = true) (s : σ) :
    (serveLoggedIn register today login request resource).run s =
      match (serve register today request resource).outcome s with
      | (.ok response, s') => (response, s')
      | (.error f, s') => (failureResponse f, s') := by
  unfold Login.may at h
  cases ha : login.actor? with
  | none => simp [ha] at h
  | some actor =>
      have hc : Permission.check (some actor) resource.operation = .allowed := by
        simpa [ha] using h
      unfold serveLoggedIn
      simp only [ha, hc]
      rfl

theorem serveLoggedIn_of_not_may (register : Register σ N) (today : Date) (request : Request)
    {resource : Resource} (h : login.may resource.operation = false) (s : σ) :
    ∃ response, (serveLoggedIn register today login request resource).run s = (response, s) ∧
      response.status ≠ 200 := by
  unfold Login.may at h
  unfold serveLoggedIn
  cases ha : login.actor? with
  | none => exact ⟨_, rfl, by decide⟩
  | some actor =>
      cases hc : Permission.check (some actor) resource.operation with
      | allowed => simp [ha, hc] at h
      | denied reason => simp only [hc]; exact ⟨_, rfl, by simp [refusal]⟩

theorem failureResponse_status (f : Failure) : (failureResponse f).status ≠ 200 := by
  unfold failureResponse
  split <;> simp [refusal]

theorem headOnly_status (method : String) (response : Response) :
    (headOnly method response).status = response.status := by
  unfold headOnly
  split <;> rfl

/-! ### Marks by request -/

theorem markArgs?_eq_some_iff {args : MarkArgs} : request.markArgs? login = some args ↔
    request.resource? = some .mark ∧ login.may .markAttendance = true ∧
      ∃ entries, request.body.entries = .ok entries ∧ args = markArgs entries := by
  unfold Request.markArgs?
  split
  · rename_i h
    cases request.body.entries <;> simp [h, Except.toOption, eq_comm]
  · rename_i h
    simp only [reduceCtorEq, false_iff, not_and, not_exists]
    exact fun h1 h2 => absurd ⟨h1, h2⟩ h

theorem respond_of_markArgs {args : MarkArgs} (h : request.markArgs? login = some args) (s : σ) :
    (respond register today login request).run s =
      match (markAttendance register args).outcome s with
      | (.ok record, s') => (success record.document, s')
      | (.error f, s') => (failureResponse f, s') := by
  obtain ⟨hr, hl, entries, he, rfl⟩ := markArgs?_eq_some_iff.mp h
  rw [respond_of_resource hr, headOnly_of_mark hr, serveLoggedIn_of_may hl]
  simp only [serve, he, Action.outcome_bind, Action.outcome_ofExcept]
  rcases (markAttendance register (markArgs entries)).outcome s with ⟨r, s'⟩
  cases r <;> rfl

/-- What a resource answers to a request that leads to no mark: it changes nothing, and the resource for
marks fails. -/
theorem serve_of_no_markArgs (today : Date) (hreads : register.ReadsKeepTo (.reading σ))
    {resource : Resource}
    (hr : request.resource? = some resource) (hl : login.may resource.operation = true)
    (h : request.markArgs? login = none) (s : σ) :
    ((serve register today request resource).outcome s).2 = s ∧
      (resource = .mark →
        ∃ f, ((serve register today request resource).outcome s).1 = .error f) := by
  by_cases hm : resource = .mark
  · subst hm
    cases he : request.body.entries with
    | error f =>
        simp only [serve, he]
        exact ⟨rfl, fun _ => ⟨f, rfl⟩⟩
    | ok entries =>
        rw [markArgs?_eq_some_iff.mpr ⟨hr, hl, entries, he, rfl⟩] at h
        cases h
  · exact ⟨hreads.serve today request (fun e => absurd e hm) s, fun e => absurd e hm⟩

theorem respond_of_no_markArgs (hreads : register.ReadsKeepTo (.reading σ))
    (h : request.markArgs? login = none) (s : σ) :
    ((respond register today login request).run s).2 = s ∧
      (request.resource? = some .mark →
        ((respond register today login request).run s).1.status ≠ 200) := by
  cases hr : request.resource? with
  | none => exact ⟨respond_of_no_resource hr s, fun e => by cases e⟩
  | some resource =>
      rw [respond_of_resource hr, headOnly_status]
      cases hl : login.may resource.operation with
      | false =>
          obtain ⟨response, e, hs⟩ := serveLoggedIn_of_not_may register today request hl s
          rw [e]
          exact ⟨rfl, fun _ => hs⟩
      | true =>
          have hk := serve_of_no_markArgs today hreads hr hl h s
          rw [serveLoggedIn_of_may hl]
          rcases e : (serve register today request resource).outcome s with ⟨r, s'⟩
          rw [e] at hk
          cases r with
          | ok response =>
              refine ⟨hk.1, fun hm => ?_⟩
              obtain ⟨f, hf⟩ := hk.2 (Option.some.inj hm)
              cases hf
          | error f => exact ⟨hk.1, fun _ => failureResponse_status f⟩

end SchoolRegister.Http
