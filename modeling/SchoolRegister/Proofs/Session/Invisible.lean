import SchoolRegister.Proofs.Outcome
import SchoolRegister.Proofs.Session.Records

/-! # Reads and failures leave no trace

Some steps only read, by their kind (`Step.isRead`), and some fail in the session that they meet
(`Session.Fails`).  Neither changes anything (`Session.step_of_invisible`), so any number of them may be
left out of a run: the other steps answer the same, one by one, and the session ends up the same
(`Session.run_without`). -/

namespace SchoolRegister

open Http Text

/-- The members of a list but those at the places that are left out. -/
def without {α : Type} (out : Nat → Bool) : List α → List α
  | [] => []
  | a :: rest =>
    if out 0 then without (fun i => out (i + 1)) rest else a :: without (fun i => out (i + 1)) rest

/-- A step that reads by its kind: a use case other than a mark, a look at all records, or a request by
a method that reads. -/
def Step.isRead : Step → Bool
  | .classView _ | .history _ | .daily _ | .report _ | .reportFile _ | .summary .. | .records => true
  | .http draft => isReading (capitalized draft.method)
  | _ => false

namespace Session

/-- In a session, a step fails: it answers a failure, or a response with a status other than 200. -/
def Fails (s : Session) (x : Step) : Prop :=
  match (s.step x).1 with
  | .ok (.response r) => r.status ≠ 200
  | .ok _ => False
  | .error _ => True

/-- In a session, a step reads or fails. -/
def Invisible (s : Session) (x : Step) : Prop := x.isRead = true ∨ s.Fails x

variable {s : Session} {x : Step}

theorem method_of_request {draft : Draft} {request : Request} {atHome : Bool}
    (h : draft.request = .ok (request, atHome)) : request.method = draft.method := by
  obtain ⟨body, _, h⟩ := bind_eq_ok.mp h
  obtain ⟨parts, _, h⟩ := bind_eq_ok.mp h
  by_cases hq : (draft.query.isSome && !parts.query.isEmpty) = true
  · rw [if_pos hq] at h
    cases h
  rw [if_neg hq] at h
  obtain ⟨address, _, h⟩ := bind_eq_ok.mp h
  by_cases hb : (!body.isDescribed) = true
  · rw [if_pos hb] at h
    cases h
  rw [if_neg hb] at h
  obtain ⟨home, _, h⟩ := bind_eq_ok.mp h
  cases h
  rfl

theorem marking_of_isRead (h : x.isRead = true) : s.marking? x = none := by
  cases x with
  | mark args => cases h
  | http draft =>
      cases ha : Step.markArgs? (.http draft) s with
      | none => rw [marking?, ha]; rfl
      | some args =>
          simp only [Step.markArgs?] at ha
          split at ha
          · rename_i request atHome hd
            have hr := (resource?_eq_some_iff.mp (markArgs?_eq_some_iff.mp ha).1).1
            have hpost : capitalized request.method = "POST" := by
              simpa [Resource.accepts, Resource.verb] using accepts_of_target hr
            rw [method_of_request hd] at hpost
            rw [Step.isRead, hpost] at h
            exact absurd h (by decide)
          · cases ha
  | _ => rfl

theorem marking_of_fails (h : s.Fails x) : s.marking? x = none := by
  cases hm : s.marking? x with
  | none => rfl
  | some m =>
      unfold Fails at h
      rw [step_of_marking hm] at h
      obtain ⟨args, ha, _⟩ := Option.bind_eq_some_iff.mp hm
      cases x with
      | mark args' => exact h.elim
      | http draft => exact absurd rfl h
      | _ => cases ha

theorem step_of_invisible (h : s.Invisible x) : (s.step x).2 = s := by
  have hm : s.marking? x = none := h.elim marking_of_isRead marking_of_fails
  have hstore : (s.step x).2.store = (s.manage x).2.store := (step_of_no_marking hm).1
  -- but for its store, a use case or a request leaves a session as it is
  have keep : (s.step x).2 = { s with store := (s.step x).2.store } ∧ (s.manage x).2.store = s.store →
      (s.step x).2 = s := fun ⟨e, hs⟩ => by rw [e, hstore, hs]
  cases x with
  | http draft =>
      refine keep ⟨?_, rfl⟩
      show (s.exchange draft).2 = { s with store := (s.exchange draft).2.store }
      unfold exchange
      split <;> rfl
  | records => rfl
  | enrol | addStudent | put | breakStore | login => exact (h.elim (fun e => nomatch e) id).elim
  | _ => exact keep ⟨rfl, rfl⟩

theorem run_cons (rest : List Step) : s.run (x :: rest) =
    ((s.step x).1, (s.step x).2.store.records.length) :: (s.step x).2.run rest := rfl

/-- A run may be shortened by steps that read or fail where they stand: the other steps answer the same,
with the same number of records after each of them, and the session ends up the same. -/
theorem run_without {steps : List Step} {out : Nat → Bool}
    (h : ∀ i x, steps[i]? = some x → out i = true → (s.after (steps.take i)).Invisible x) :
    s.run (without out steps) = without out (s.run steps) ∧
      s.after (without out steps) = s.after steps := by
  induction steps generalizing s out with
  | nil => exact ⟨rfl, rfl⟩
  | cons x rest ih =>
      have hrest := @ih (s.step x).2 (fun i => out (i + 1)) fun i y hy hi => h (i + 1) y hy hi
      rw [without]
      cases hout : out 0 with
      | true =>
          have hx : (s.step x).2 = s := step_of_invisible (h 0 x rfl hout)
          rw [hx] at hrest
          rw [if_pos rfl, run_cons, after_cons, without, hout, if_pos rfl, hx]
          exact hrest
      | false =>
          rw [if_neg Bool.false_ne_true, run_cons, run_cons, after_cons, after_cons, without, hout,
            if_neg Bool.false_ne_true, hrest.1, hrest.2]
          exact ⟨rfl, rfl⟩

theorem run_without_small :
    let steps := [smallMark true "2024-01-02", .mark {}, .records, smallMark false "2024-01-02"]
    let out := fun i => i == 1 || i == 2
    small.run [smallMark true "2024-01-02", smallMark false "2024-01-02"] =
        without out (small.run steps) ∧
      small.after [smallMark true "2024-01-02", smallMark false "2024-01-02"] = small.after steps := by
  intro steps out
  refine (run_without fun i x hx hi => ?_ : small.run (without out steps) =
    without out (small.run steps) ∧ small.after (without out steps) = small.after steps)
  match i with
  | 1 => cases hx; exact .inr trivial
  | 2 => cases hx; exact .inl rfl
  | 0 | i + 3 => simp [out] at hi

end Session
end SchoolRegister
