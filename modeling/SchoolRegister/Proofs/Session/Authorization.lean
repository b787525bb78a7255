import SchoolRegister.Proofs.Http.Reach
import SchoolRegister.Proofs.Permission
import SchoolRegister.Proofs.Session.History

/-! # Who gets an answer

A request for a resource is refused unless somebody is logged in and the text of the role is one of
those that are admitted to the resource (`Resource.admits`).  A refusal depends on the request and on the
login alone: it is the same whatever the store holds, and it changes nothing (`Session.Ignores`).  The
same holds of a request that is for no resource.  A request that changes the store is one that marks, by
somebody who is admitted there.

`Session.Guarded` says all this of a session, and `Session.guarded_after` that it holds wherever a run
has come to, the login being that of the last step that logged in. -/

namespace SchoolRegister

open Http Text

namespace Http

/-- The texts of the roles that are admitted to a resource. -/
def Resource.admits : Resource → List String
  | mark => ["admin", "hod", "teacher"]
  | classView => ["admin", "director", "auditor", "hod", "teacher", "reception"]
  | student _ =>
    ["admin", "director", "auditor", "hod", "teacher", "reception", "parent", "student"]
  | report | reportFile | summary => ["admin", "director", "auditor", "hod", "teacher"]

/-- The text of the role that the login left, trimmed and in lower case. -/
def Login.roleText (login : Login) : String := Permission.roleText (.ofOption login.role)

theorem Resource.map_name_permitted (r : Resource) : r.operation.permitted.map Role.name = r.admits := by
  cases r <;> rfl

variable {σ N : Type} [Name N] {register : Register σ N} {today : Date} {login : Login}
  {request : Request} {resource : Resource}

theorem may_eq_true_iff : login.may resource.operation = true ↔
    login.userId.isSome = true ∧ login.roleText ∈ resource.admits := by
  cases hu : login.userId with
  | none => simp [Login.may, Login.actor?, hu]
  | some id =>
      rw [← resource.map_name_permitted, Login.roleText, Login.may, Login.actor?, hu]
      simp [Permission.check_eq_allowed_iff]

theorem serveLoggedIn_of_nobody (h : login.userId = none) :
    serveLoggedIn register today login request resource =
      pure (refusal 401 "Please log in to continue") := by
  rw [serveLoggedIn, Login.actor?, h]
  rfl

theorem exists_serveLoggedIn_eq (hu : login.userId.isSome = true) (h : login.roleText ∉ resource.admits) :
    ∃ reason, ∀ {σ : Type} (register : Register σ N),
      serveLoggedIn register today login request resource = pure (refusal 403 reason) := by
  obtain ⟨id, hid⟩ := Option.isSome_iff_exists.mp hu
  have hmay : ¬ login.may resource.operation = true := fun e => h (may_eq_true_iff.mp e).2
  cases hc : Permission.check (some ⟨id, .ofOption login.role⟩) resource.operation with
  | allowed =>
      rw [Login.may, Login.actor?, hid] at hmay
      simp [hc] at hmay
  | denied reason =>
      refine ⟨reason, fun register => ?_⟩
      rw [serveLoggedIn, Login.actor?, hid]
      simp only [Option.map_some, hc]

/-- What a resource answers without a look at the register is answered so. -/
theorem respond_eq_of_serveLoggedIn_eq {response : Response} (hr : request.resource? = some resource)
    (h : serveLoggedIn register today login request resource = pure response) :
    respond register today login request = pure (headOnly request.method response) := by
  funext s
  show (respond register today login request).run s = _
  rw [respond_of_resource hr, h]
  rfl

end Http

namespace Session

/-- The login that a request meets: it is known only where people log in. -/
def loginAt (s : Session) (atHome : Bool) : Login := if atHome then s.login else {}

/-- The status of the response to a draft. -/
def statusOf? (s : Session) (draft : Draft) : Option Nat :=
  match (s.step (.http draft)).1 with
  | .ok (.response response) => some response.status
  | _ => none

/-- Whatever the store holds, a draft is answered with the same response and changes nothing. -/
def Ignores (s : Session) (draft : Draft) (response : Response) : Prop :=
  ∀ store, ({ s with store := store } : Session).step (.http draft) =
    (.ok (.response response), { s with store := store })

/-- What a session does with requests, and for whom. -/
structure Guarded (s : Session) : Prop where
  /-- Nobody is logged in. -/
  nobody : ∀ draft request atHome resource, draft.request = .ok (request, atHome) →
    request.IsFor resource → (s.loginAt atHome).userId = none →
    ∃ response, response.status = 401 ∧ s.Ignores draft response
  /-- Somebody is logged in who is not admitted. -/
  stranger : ∀ draft request atHome resource, draft.request = .ok (request, atHome) →
    request.IsFor resource → (s.loginAt atHome).userId.isSome = true →
    (s.loginAt atHome).roleText ∉ resource.admits →
    ∃ response, response.status = 403 ∧ s.Ignores draft response
  /-- The request is for no resource. -/
  elsewhere : ∀ draft request atHome, draft.request = .ok (request, atHome) →
    (∀ resource, ¬ request.IsFor resource) → ∃ response, s.Ignores draft response
  /-- The request changes the store. -/
  change : ∀ draft, (s.step (.http draft)).2.store ≠ s.store →
    ∃ request atHome content, draft.request = .ok (request, atHome) ∧ request.IsFor .mark ∧
      (s.step (.http draft)).1 = .ok (.response ⟨200, content⟩) ∧
        (s.loginAt atHome).userId.isSome = true ∧
          (s.loginAt atHome).roleText ∈ ["admin", "hod", "teacher"]

variable {s : Session} {draft : Draft} {request : Request} {atHome : Bool}

theorem ignores_of_respond_eq {response : Response} (hd : draft.request = .ok (request, atHome))
    (h : respond Store.register s.today (s.loginAt atHome) request = pure response) :
    s.Ignores draft response := by
  intro store
  show exchange _ draft = _
  rw [exchange_of_request hd]
  unfold loginAt at h
  simp only [h]
  rfl

theorem guarded (s : Session) : s.Guarded where
  nobody draft request atHome resource hd hr hu := by
    refine ⟨_, ?_, ignores_of_respond_eq hd
      (respond_eq_of_serveLoggedIn_eq (Request.resource?_eq_some_iff_isFor.mpr hr) (serveLoggedIn_of_nobody hu))⟩
    rw [headOnly_status]
    rfl
  stranger draft request atHome resource hd hr hu hrole := by
    obtain ⟨reason, h⟩ := exists_serveLoggedIn_eq (N := String) hu hrole
    refine ⟨_, ?_, ignores_of_respond_eq hd
      (respond_eq_of_serveLoggedIn_eq (Request.resource?_eq_some_iff_isFor.mpr hr) (h _))⟩
    rw [headOnly_status]
    rfl
  elsewhere draft request atHome hd hr := by
    have hnone : request.resource? = none :=
      Option.eq_none_iff_forall_ne_some.mpr fun resource h =>
        hr resource (Request.resource?_eq_some_iff_isFor.mp h)
    obtain ⟨status, h⟩ := exists_respond_eq (N := String) s.today (s.loginAt atHome) hnone
    exact ⟨⟨status, .empty⟩, ignores_of_respond_eq hd (h _)⟩
  change draft hne := by
    cases hm : s.marking? (.http draft) with
    | none => exact absurd (step_of_no_marking hm).1 hne
    | some m =>
        obtain ⟨args, ha, _⟩ := Option.bind_eq_some_iff.mp hm
        simp only [Step.markArgs?] at ha
        split at ha
        · rename_i request atHome hd
          obtain ⟨hr, hmay, _⟩ := markArgs?_eq_some_iff.mp ha
          have hadmitted : (s.loginAt atHome).userId.isSome = true ∧
              (s.loginAt atHome).roleText ∈ Resource.mark.admits := may_eq_true_iff.mp hmay
          exact ⟨request, atHome, _, hd, Request.resource?_eq_some_iff_isFor.mp hr,
            by rw [step_of_marking hm]; rfl, hadmitted.1, hadmitted.2⟩
        · cases ha

/-- The login after some steps: that of the last step that logged in. -/
def lastLogin (login : Login) : List Step → Login
  | [] => login
  | .login new :: rest => lastLogin new.carried rest
  | _ :: rest => lastLogin login rest

theorem login_after (steps : List Step) : (s.after steps).login = lastLogin s.login steps := by
  induction steps generalizing s with
  | nil => rfl
  | cons x rest ih =>
      rw [after_cons, ih]
      cases x with
      | http draft =>
          have hl : (s.exchange draft).2.login = s.login := by
            unfold exchange
            split <;> rfl
          exact congrArg (lastLogin · rest) hl
      | _ => rfl

/-- Wherever a run has come to, the session is guarded, and the login is that of the last step that logged
in. -/
theorem guarded_after (s : Session) (steps : List Step) :
    (s.after steps).login = lastLogin s.login steps ∧ (s.after steps).Guarded :=
  ⟨login_after steps, guarded _⟩

end Session
end SchoolRegister
