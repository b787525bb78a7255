import SchoolRegister.Database.Server

/-! # Statements one after another

A server gives up at most one statement, and a place is told by how many more statements are executed before it
(`Server.GivesUpAfter`).  `executeAll` runs statements one after another: all of them are executed if none of
them is given up (`outcome_executeAll_of_forall`), and otherwise those before the one that is
(`outcome_executeAll_of_givesUp`). -/

namespace SchoolRegister

namespace Action

variable {σ α β : Type}

theorem ofExcept_pure (x : α) : (ofExcept (pure x) : Action σ α) = pure x := rfl

theorem ofExcept_bind (e : Except Failure α) (k : α → Except Failure β) :
    (ofExcept (e >>= k) : Action σ β) = ofExcept e >>= fun x => ofExcept (k x) := by
  cases e <;> rfl

end Action

namespace Database

/-- The statement as it is executed: its runs of blanks carry no meaning. -/
def Statement.collapsed (statement : Statement) : Statement :=
  { statement with sql := Text.collapseBlanks statement.sql }

def executeAll (statements : List Statement) : Action Server Unit :=
  statements.forM fun statement => execute statement.sql statement.parameters

namespace Server

/-- The server gives up the statement that follows on `n` more. -/
def GivesUpAfter (s : Server) (n : Nat) : Prop := s.failAt = some (s.executed.length + n)

/-- The server with some more statements executed. -/
def executing (s : Server) (statements : List Statement) : Server :=
  { s with executed := s.executed ++ statements }

variable {s : Server} {n : Nat} {done : List Statement}

/-- On a server that has executed nothing yet, places are counted from its start. -/
theorem givesUpAfter_iff_of_nil (h : s.executed = []) : s.GivesUpAfter n ↔ s.failAt = some n := by
  rw [GivesUpAfter, h, List.length_nil, Nat.zero_add]

theorem givesUpAfter_executing : (s.executing done).GivesUpAfter n ↔ s.GivesUpAfter (done.length + n) := by
  rw [GivesUpAfter, GivesUpAfter, executing, List.length_append, Nat.add_assoc]

theorem executing_nil (s : Server) : s.executing [] = s := by
  rw [executing, List.append_nil]

theorem executing_executing (s : Server) (a b : List Statement) :
    (s.executing a).executing b = s.executing (a ++ b) := by
  rw [executing, executing, executing, List.append_assoc]

theorem log_log (s : Server) (a b : List Event) : (s.log a).log b = s.log (a ++ b) := by
  simp only [log, List.append_assoc]

end Server

variable {s : Server} {n : Nat} {statements : List Statement}

@[simp] theorem outcome_note (e : Event) (s : Server) : (note e).outcome s = (.ok (), s.log [e]) := rfl

theorem outcome_execute (sql : String) (parameters : List Value) (s : Server) :
    (execute sql parameters).outcome s =
      if s.failAt = some s.executed.length then (.error .deadlock, s)
      else (.ok (), s.executing [Statement.collapsed ⟨sql, parameters⟩]) := rfl

theorem executeAll_nil : executeAll [] = (pure () : Action Server Unit) := rfl

theorem executeAll_cons (statement : Statement) (rest : List Statement) :
    executeAll (statement :: rest) =
      (do execute statement.sql statement.parameters; executeAll rest : Action Server Unit) := by
  simp only [executeAll, List.forM_eq_forM, List.forM_cons]

/-- Statements of which none is given up are all executed, in their order. -/
theorem outcome_executeAll_of_forall (h : ∀ n < statements.length, ¬ s.GivesUpAfter n) :
    (executeAll statements).outcome s = (.ok (), s.executing (statements.map Statement.collapsed)) := by
  induction statements generalizing s with
  | nil => rw [List.map_nil, Server.executing_nil]; rfl
  | cons statement rest ih =>
      have hfirst : ¬ s.failAt = some s.executed.length := h 0 (Nat.zero_lt_succ _)
      have hrest : ∀ n < rest.length, ¬ (s.executing [statement.collapsed]).GivesUpAfter n := by
        intro n hn hgives
        rw [Server.givesUpAfter_executing, List.length_singleton, Nat.add_comm] at hgives
        exact h (n + 1) (Nat.succ_lt_succ hn) hgives
      rw [executeAll_cons, Action.outcome_bind, outcome_execute, if_neg hfirst]
      show (executeAll rest).outcome (s.executing [statement.collapsed]) = _
      rw [ih hrest, Server.executing_executing]
      rfl

/-- Statements of which one is given up are executed up to that one. -/
theorem outcome_executeAll_of_givesUp (hn : n < statements.length) (h : s.GivesUpAfter n) :
    (executeAll statements).outcome s =
      (.error .deadlock, s.executing ((statements.take n).map Statement.collapsed)) := by
  induction statements generalizing s n with
  | nil => exact absurd hn (Nat.not_lt_zero n)
  | cons statement rest ih =>
      rw [executeAll_cons, Action.outcome_bind, outcome_execute]
      cases n with
      | zero =>
          have hfirst : s.failAt = some s.executed.length := h
          rw [if_pos hfirst, List.take_zero, List.map_nil, Server.executing_nil]
      | succ n =>
          have hfirst : ¬ s.failAt = some s.executed.length := by
            rw [h, Option.some.injEq]
            omega
          have hrest : (s.executing [statement.collapsed]).GivesUpAfter n := by
            rwa [Server.givesUpAfter_executing, List.length_singleton, Nat.add_comm]
          rw [if_neg hfirst]
          show (executeAll rest).outcome (s.executing [statement.collapsed]) = _
          rw [ih (Nat.lt_of_succ_lt_succ hn) hrest, Server.executing_executing]
          rfl

end Database
end SchoolRegister
