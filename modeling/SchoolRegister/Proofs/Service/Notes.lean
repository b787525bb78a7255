import SchoolRegister.Proofs.Service.Correspondence

/-! # What a register returns

A register can be watched: `Register.noting` notes each `Reply` that it gives, in the order in which the
service asks for it, and changes nothing else (`Register.noting_linked`).  So the store in memory answers
a use case in the same way whether it is watched or not (`Session.step_eq_noting`), and
`Session.replies` is what it returns in the course of that. -/

namespace SchoolRegister

variable {σ N α : Type}

/-- What a register returns to one question. -/
inductive Reply (N : Type) where
  | student (found : Option (Student N))
  | enrolments (es : List (Enrolment N))
  | records (rs : List (Record N))
  | record (r : Record N)

/-- The action, with a note of what it returns. -/
def Action.noting (reply : α → Reply N) (a : Action σ α) : Action (σ × List (Reply N)) α :=
  Action.ofFunction fun s =>
    let (r, t) := a.outcome s.1
    (r, t, s.2 ++ (r.toOption.map reply).toList)

theorem Action.outcome_noting (reply : α → Reply N) (a : Action σ α) (s : σ × List (Reply N)) :
    (a.noting reply).outcome s = ((a.outcome s.1).1, (a.outcome s.1).2,
      s.2 ++ ((a.outcome s.1).1.toOption.map reply).toList) := rfl

/-- The register, with notes of all that it returns. -/
def Register.noting (r : Register σ N) : Register (σ × List (Reply N)) N where
  findStudent number := (r.findStudent number).noting .student
  enrolled place := (r.enrolled place).noting .enrolments
  mark key present := (r.mark key present).noting .record
  classRecords place span := (r.classRecords place span).noting .records
  studentRecords number term year span := (r.studentRecords number term year span).noting .records

/-- Without its notes an action is the same. -/
def Link.forgetting (σ N : Type) : Link (σ × List (Reply N)) σ where
  holds g a b := ∀ s, b.outcome s.1 = ((a.outcome s).1.map g, (a.outcome s).2.1)
  ofExcept _ _ _ := rfl
  bind := by
    intro α β γ δ g h a b k l hab hkl s
    rw [Action.outcome_bind, Action.outcome_bind, hab s]
    rcases a.outcome s with ⟨r, t⟩
    cases r with
    | error f => rfl
    | ok x => exact hkl x t

theorem Action.noting_forgetting (reply : α → Reply N) (a : Action σ α) {g : α → α}
    (hg : ∀ x, g x = x) : (Link.forgetting σ N).holds g (a.noting reply) a := by
  intro s
  rw [Action.outcome_noting]
  rcases a.outcome s.1 with ⟨r, t⟩
  cases r with
  | error f => rfl
  | ok x => exact congrArg (fun y => (Except.ok y, t)) (hg x).symm

/-- Notes change nothing. -/
theorem Register.noting_linked (r : Register σ N) :
    r.noting.Linked (Link.forgetting σ N) (fun n => n) r where
  findStudent _ := Action.noting_forgetting _ _ (by simp)
  enrolled _ := Action.noting_forgetting _ _ (by simp)
  mark _ _ := Action.noting_forgetting _ _ (by simp)
  classRecords _ _ := Action.noting_forgetting _ _ (by simp)
  studentRecords _ _ _ _ := Action.noting_forgetting _ _ (by simp)

/-- What the store returns to a use case, in the order in which it is asked. -/
def Session.replies (s : Session) (x : Step) : List (Reply String) :=
  (x.useCase? Store.register.noting s.today).elim [] fun a => (a.outcome (s.store, [])).2.2

/-- A use case over the store that is watched has the answer of the step. -/
theorem Session.step_eq_noting {s : Session} {x : Step}
    {a : Action (Store × List (Reply String)) (Answer String)}
    (ha : x.useCase? Store.register.noting s.today = some a) :
    (s.step x).1 = (a.outcome (s.store, [])).1 := by
  obtain ⟨b, hb⟩ := Step.exists_useCase? Store.register ha
  have hplain : b.outcome s.store = ((a.outcome (s.store, [])).1.map (Answer.map fun n => n), _) :=
    Store.register.noting_linked.useCase? Name.renames_self ha hb (s.store, [])
  simp only [step, hb, hplain, Answer.map_self]
  cases (a.outcome (s.store, [])).1 <;> rfl

end SchoolRegister
