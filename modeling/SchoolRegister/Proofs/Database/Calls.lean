import SchoolRegister.Database.Query
import SchoolRegister.Proofs.Database.Execution
import SchoolRegister.Proofs.Outcome

/-! # What a call does

A `Call` is one of the five ways in which the tables are asked, with its arguments.  It runs its statements on a
connection of its own (`Call.statements`) and returns what it reads in the rows of the next result set
(`Call.reading`).

* What happens on the connection of a transaction is fixed by whether its body succeeds
  (`outcome_transaction`): it is committed, or it is rolled back, and in both cases cursor and connection are
  closed.
* `Call.Transacted` tells the outcome of a call for every server: where it is refused, which statements are
  executed if one is given up, and what comes of the rows.  `Call.run_transacted` proves it.
* A call fails exactly if its arguments are no statements, a statement is given up, the row of a record is missing
  after it was written, or a row cannot be decoded (`Call.isOk_run_iff`). -/

namespace SchoolRegister.Database

/-! ### Transactions -/

/-- What happens on the connection of a transaction that succeeds. -/
def committed : List Event := [.cursor true, .commit, .cursorClosed, .closed]

/-- What happens on the connection of a transaction that fails. -/
def rolledBack : List Event := [.cursor true, .cursorClosed, .rollback, .closed]

def transactionConnection (config : Config) : Connection := ⟨config, true, false⟩

def closing (succeeded : Bool) : List Event :=
  if succeeded then [.commit, .cursorClosed, .closed] else [.cursorClosed, .rollback, .closed]

namespace Server

/-- The server with one more connection, on which a cursor was opened. -/
def opened (s : Server) (config : Config) : Server :=
  { s with connections := s.connections ++ [transactionConnection config]
           events := s.events ++ [.cursor true] }

/-- The server after a transaction in which some statements were executed. -/
def transacted (s : Server) (config : Config) (statements : List Statement) (succeeded : Bool) : Server :=
  { s with connections := s.connections ++ [transactionConnection config]
           executed := s.executed ++ statements
           events := s.events ++ if succeeded then committed else rolledBack }

/-- The rows of the next result set; a missing one has none. -/
def nextRows (s : Server) : List Row := (s.results.headD none).getD []

/-- The server after the next result set was given. -/
def fetched (s : Server) : Server := { s with results := s.results.tail }

theorem log_closing_eq (s : Server) (config : Config) (statements : List Statement) (succeeded : Bool) :
    ((s.opened config).executing statements).log (closing succeeded) =
      s.transacted config statements succeeded := by
  simp only [opened, executing, log, closing, transacted, List.append_assoc]
  cases succeeded <;> rfl

end Server

variable {α : Type}

/-- A transaction has the outcome of its body on a new connection, and is then committed or rolled back. -/
theorem outcome_transaction (config : Config) (body : Action Server α) (s : Server) :
    (transaction config body).outcome s =
      ((body.outcome (s.opened config)).1, (body.outcome (s.opened config)).2.log
        (closing (body.outcome (s.opened config)).1.isOk)) := by
  have hopened : ({ s with connections := s.connections ++ [⟨config, true, false⟩] } : Server).log
      [.cursor true] = s.opened config := rfl
  rw [transaction, Action.outcome_bind]
  simp only [connect, Action.outcome_ofFunction, Action.outcome_tryFinally, Action.outcome_tryCatch,
    Action.outcome_bind, outcome_note, hopened]
  -- the cursor is closed by the inner and the connection by the outer of the two guards
  rcases body.outcome (s.opened config) with ⟨r, t⟩
  cases r with
  | ok a =>
      simp only [commit, outcome_note, Action.outcome_pure, Server.log_log]
      rfl
  | error f =>
      simp only [Action.outcome_throw, Server.log_log]
      rfl

theorem outcome_fetchAll (s : Server) : fetchAll.outcome s = (.ok s.nextRows, s.fetched) := by
  rw [fetchAll, Action.outcome_bind, fetch, Action.outcome_ofFunction]
  unfold Server.nextRows Server.fetched Server.nextResult
  rcases s with ⟨results, failAt, connections, executed, events⟩
  cases results <;> rfl

/-! ### Calls -/

/-- One of the ways in which the tables are asked, with its arguments. -/
inductive Call where
  | upsert (key : RowKey) (present : Value)
  | classRecords (className term year first last : Value)
  | studentRecords (number term year first last : Value)
  | findStudent (number : Value)
  | roster (className term year : Value)

/-- The first row, if there is one with cells. -/
def firstRow? (rows : List Row) : Option Row := rows.head?.filter fun r => !r.isEmpty

/-- The statements that list records of whoever or whatever a column names. -/
def recordsStatements (column order : String) (owner term year first last : Value) :
    Except Failure (List Statement) := do
  let term ← Argument.toInteger term
  let year ← Argument.toInteger year
  let conditions := [(column ++ "=%s", owner), ("a.term_num=%s", .int term), ("a.year=%s", .int year)]
    ++ rangeConditions "a.att_date" first last
  return [⟨recordSql ++ " WHERE " ++ " AND ".intercalate (conditions.map (·.1)) ++ " ORDER BY " ++ order,
    conditions.map (·.2)⟩]

namespace Call

/-- What a call returns. -/
abbrev Result : Call → Type
  | upsert .. => Record Value
  | classRecords .. => List (Record Value)
  | studentRecords .. => List (Record Value)
  | findStudent .. => Option (Student Value)
  | roster .. => List (Enrolment Value)

/-- Performs a call. -/
def run (config : Config) : (c : Call) → Action Server c.Result
  | upsert key present => Database.upsert config key present
  | classRecords className term year first last => Database.classRecords config className term year first last
  | studentRecords number term year first last => Database.studentRecords config number term year first last
  | findStudent number => Database.findStudent config number
  | roster className term year => Database.roster config className term year

/-- The arguments of the call are read before it connects, and not on the connection. -/
def readsArgumentsFirst : Call → Bool
  | classRecords .. | studentRecords .. => true
  | upsert .. | findStudent .. | roster .. => false

/-- The statements of a call, if its arguments make any. -/
def statements : Call → Except Failure (List Statement)
  | upsert key present => do
      let parameters ← key.parameters
      return [⟨upsertSql, parameters ++ [.int (if present.isTruthy then 1 else 0)]⟩,
        ⟨recordSql ++ " WHERE " ++ keyConditions, parameters⟩]
  | classRecords className term year first last =>
      recordsStatements "a.class_name" "a.att_date ASC, s.surname ASC" className term year first last
  | studentRecords number term year first last =>
      recordsStatements "s.student_number" "a.att_date DESC, a.class_name ASC" number term year first last
  | findStudent number => return [⟨studentSql, [number]⟩]
  | roster className term year => do
      let term ← Argument.toInteger term
      let year ← Argument.toInteger year
      return [⟨rosterSql, [className, .int term, .int year]⟩]

/-- What a call returns for the rows it is given. -/
def reading : (c : Call) → List Row → Except Failure c.Result
  | upsert key _, rows => (firstRow? rows).elim (.error (.rowMissing key.shown)) recordOf
  | classRecords .., rows => rows.mapM recordOf
  | studentRecords .., rows => rows.mapM recordOf
  | findStudent _, rows => (firstRow? rows).elim (.ok none) studentOf
  | roster .., rows => rows.mapM enrolmentOf

/-- What a call does on its connection. -/
def asking (c : Call) (statements : List Statement) : Action Server c.Result := do
  executeAll statements
  Action.ofExcept (c.reading (← fetchAll))

theorem asking_singleton (c : Call) (q : Statement) : c.asking [q] =
    (do execute q.sql q.parameters; Action.ofExcept (c.reading (← fetchAll)) : Action Server c.Result) := by
  rw [asking, executeAll_cons, executeAll_nil, bind_pure]

variable (config : Config)

/-- Records are listed in a transaction, but what they are listed by is read before. -/
theorem listBy_eq (column order : String) (owner term year first last : Value) :
    listBy config column order owner term year first last =
      Action.ofExcept (recordsStatements column order owner term year first last) >>= fun q =>
        transaction config (do executeAll q; Action.ofExcept ((← fetchAll).mapM recordOf)) := by
  simp only [listBy, recordsStatements, Action.ofExcept_bind, Action.ofExcept_pure, bind_assoc, pure_bind,
    listRecords, executeAll_cons, executeAll_nil]

theorem fetchOne_bind {α : Type} (k : Option Row → Action Server α) :
    fetchOne >>= k = fetchAll >>= fun rows => k (firstRow? rows) := by
  rw [fetchOne, bind_assoc]
  simp only [pure_bind, firstRow?]

theorem run_eq_of_first {c : Call} (h : c.readsArgumentsFirst = true) :
    c.run config = Action.ofExcept c.statements >>= fun q => transaction config (c.asking q) := by
  cases c with
  | classRecords className term year first last => exact listBy_eq config _ _ _ _ _ _ _
  | studentRecords number term year first last => exact listBy_eq config _ _ _ _ _ _ _
  | upsert | findStudent | roster => cases h

theorem run_eq_of_not_first {c : Call} (h : c.readsArgumentsFirst = false) :
    c.run config = transaction config (Action.ofExcept c.statements >>= c.asking) := by
  cases c with
  | classRecords | studentRecords => cases h
  | findStudent number =>
      simp only [run, Database.findStudent, fetchOne_bind, statements, Action.ofExcept_pure, pure_bind,
        asking_singleton, reading]
      refine congrArg _ (bind_congr fun _ => bind_congr fun rows => ?_)
      cases firstRow? rows <;> rfl
  | roster className term year =>
      simp only [run, Database.roster, statements, Action.ofExcept_bind, Action.ofExcept_pure, bind_assoc,
        pure_bind, asking_singleton, reading]
  | upsert key present =>
      simp only [run, Database.upsert, fetchOne_bind, statements, Action.ofExcept_bind, Action.ofExcept_pure,
        bind_assoc, pure_bind, asking, executeAll_cons, executeAll_nil, reading]
      refine congrArg _ (bind_congr fun _ => bind_congr fun _ => bind_congr fun _ => bind_congr fun rows => ?_)
      cases firstRow? rows <;> rfl

/-! ### The outcome of a call -/

/-- What the outcome of a call is on a server, whatever the result sets and whichever statement is given up. -/
structure Transacted (config : Config) (c : Call) (s : Server)
    (outcome : Except Failure c.Result × Server) : Prop where
  /-- A call that reads its arguments first fails before it connects if they make no statements. -/
  refused : ∀ f, c.readsArgumentsFirst = true → c.statements = .error f → outcome = (.error f, s)
  /-- Any other call connects first, and is rolled back if its arguments make no statements. -/
  unstated : ∀ f, c.readsArgumentsFirst = false → c.statements = .error f →
    outcome = (.error f, s.transacted config [] false)
  /-- If a statement is given up, those before it are executed, and the call fails and is rolled back. -/
  givenUp : ∀ q n, c.statements = .ok q → n < q.length → s.GivesUpAfter n →
    outcome = (.error .deadlock, s.transacted config ((q.take n).map Statement.collapsed) false)
  /-- If the rows cannot be read, all statements are executed, and the call fails and is rolled back. -/
  unread : ∀ q f, c.statements = .ok q → (∀ n < q.length, ¬ s.GivesUpAfter n) →
    c.reading s.nextRows = .error f →
      outcome = (.error f, (s.transacted config (q.map Statement.collapsed) false).fetched)
  /-- Otherwise the call returns what the rows say and is committed. -/
  returned : ∀ q x, c.statements = .ok q → (∀ n < q.length, ¬ s.GivesUpAfter n) →
    c.reading s.nextRows = .ok x →
      outcome = (.ok x, (s.transacted config (q.map Statement.collapsed) true).fetched)

variable {config} {c : Call} {s : Server} {q : List Statement} {n : Nat}

theorem outcome_transaction_error {α : Type} (f : Failure) :
    (transaction config (Action.ofExcept (.error f) : Action Server α)).outcome s =
      (.error f, s.transacted config [] false) := by
  rw [outcome_transaction, Action.outcome_ofExcept, ← Server.log_closing_eq, Server.executing_nil]
  rfl

theorem outcome_asking_of_givesUp (hn : n < q.length) (h : s.GivesUpAfter n) :
    (transaction config (c.asking q)).outcome s =
      (.error .deadlock, s.transacted config ((q.take n).map Statement.collapsed) false) := by
  have hrun := outcome_executeAll_of_givesUp (s := s.opened config) hn h
  have hasking : (c.asking q).outcome (s.opened config) =
      (.error .deadlock, (s.opened config).executing ((q.take n).map Statement.collapsed)) := by
    rw [asking, Action.outcome_bind, hrun]
  rw [outcome_transaction, hasking, ← Server.log_closing_eq]
  rfl

theorem outcome_asking_of_forall (h : ∀ n < q.length, ¬ s.GivesUpAfter n) :
    (transaction config (c.asking q)).outcome s = (c.reading s.nextRows,
      (s.transacted config (q.map Statement.collapsed) (c.reading s.nextRows).isOk).fetched) := by
  have hrun := outcome_executeAll_of_forall (s := s.opened config) h
  have hasking : (c.asking q).outcome (s.opened config) = (c.reading s.nextRows,
      ((s.opened config).executing (q.map Statement.collapsed)).fetched) := by
    rw [asking, Action.outcome_bind, hrun]
    simp only [Action.outcome_bind, outcome_fetchAll, Action.outcome_ofExcept]
    rfl
  rw [outcome_transaction, hasking, ← Server.log_closing_eq]
  rfl

/-- Performing a call has the outcome that is told of it. -/
theorem run_transacted (config : Config) (c : Call) (s : Server) :
    c.Transacted config s ((c.run config).outcome s) := by
  -- with statements, it does not matter where the arguments are read
  have hasked : ∀ q, c.statements = .ok q →
      (c.run config).outcome s = (transaction config (c.asking q)).outcome s := by
    intro q hq
    cases hfirst : c.readsArgumentsFirst with
    | true => rw [run_eq_of_first config hfirst, hq]; rfl
    | false => rw [run_eq_of_not_first config hfirst, hq]; rfl
  constructor
  · intro f hfirst hf
    rw [run_eq_of_first config hfirst, hf]
    rfl
  · intro f hfirst hf
    rw [run_eq_of_not_first config hfirst, hf]
    exact outcome_transaction_error f
  · intro q n hq hn hgives
    rw [hasked q hq, outcome_asking_of_givesUp hn hgives]
  · intro q f hq hnone hf
    rw [hasked q hq, outcome_asking_of_forall hnone, hf]
    rfl
  · intro q x hq hnone hx
    rw [hasked q hq, outcome_asking_of_forall hnone, hx]
    rfl

/-- The outcomes of a call one after another: its arguments make no statements, a statement is given up, or the rows
decide. -/
theorem Transacted.cases {outcome : Except Failure c.Result × Server} (h : c.Transacted config s outcome) :
    (∃ f, c.statements = .error f ∧
      (outcome = (.error f, s) ∨ outcome = (.error f, s.transacted config [] false))) ∨
    (∃ q n, c.statements = .ok q ∧ n < q.length ∧ s.GivesUpAfter n ∧
      outcome = (.error .deadlock, s.transacted config ((q.take n).map Statement.collapsed) false)) ∨
    ∃ q, c.statements = .ok q ∧ (∀ n < q.length, ¬ s.GivesUpAfter n) ∧
      outcome = (c.reading s.nextRows,
        (s.transacted config (q.map Statement.collapsed) (c.reading s.nextRows).isOk).fetched) := by
  cases hq : c.statements with
  | error f =>
      cases hfirst : c.readsArgumentsFirst with
      | true => exact .inl ⟨f, rfl, .inl (h.refused f hfirst hq)⟩
      | false => exact .inl ⟨f, rfl, .inr (h.unstated f hfirst hq)⟩
  | ok q =>
      by_cases hgives : ∃ n < q.length, s.GivesUpAfter n
      · obtain ⟨n, hn, hgives⟩ := hgives
        exact .inr (.inl ⟨q, n, rfl, hn, hgives, h.givenUp q n hq hn hgives⟩)
      · have hnone : ∀ n < q.length, ¬ s.GivesUpAfter n := fun n hn hs => hgives ⟨n, hn, hs⟩
        refine .inr (.inr ⟨q, rfl, hnone, ?_⟩)
        cases hr : c.reading s.nextRows with
        | error f => exact h.unread q f hq hnone hr
        | ok x => exact h.returned q x hq hnone hr

/-! ### When a call fails -/

/-- The rows that a call decodes of those it is given. -/
def rowsRead (c : Call) (rows : List Row) : List Row :=
  match c with
  | upsert .. | findStudent .. => (firstRow? rows).toList
  | classRecords .. | studentRecords .. | roster .. => rows

/-- The call can decode the row. -/
def decodes (c : Call) (row : Row) : Bool :=
  match c with
  | upsert .. | classRecords .. | studentRecords .. => (recordOf row).isOk
  | findStudent .. => (studentOf row).isOk
  | roster .. => (enrolmentOf row).isOk

/-- The reasons for which a call fails on a server. -/
inductive Fails (c : Call) (s : Server) : Prop where
  /-- The arguments make no statements. -/
  | arguments {f : Failure} (h : c.statements = .error f)
  /-- A statement is given up. -/
  | statement {q : List Statement} {n : Nat} (h : c.statements = .ok q) (hn : n < q.length)
      (hgives : s.GivesUpAfter n)
  /-- The row of a record is missing after it was written. -/
  | missing {key : RowKey} {present : Value} (h : c = .upsert key present)
      (hrow : firstRow? s.nextRows = none)
  /-- A row cannot be decoded. -/
  | undecodable {row : Row} (hrow : row ∈ c.rowsRead s.nextRows) (h : c.decodes row = false)

/-- Rows cannot be read if one is missing or one cannot be decoded. -/
theorem isOk_reading_iff {rows : List Row} : (c.reading rows).isOk = false ↔
    (∃ key present, c = .upsert key present ∧ firstRow? rows = none) ∨
      ∃ row ∈ c.rowsRead rows, c.decodes row = false := by
  cases c with
  | upsert key present =>
      simp only [reading, rowsRead, decodes]
      cases firstRow? rows <;> simp [Except.isOk, Except.toBool]
  | findStudent number =>
      simp only [reading, rowsRead, decodes]
      cases firstRow? rows <;> simp [Except.isOk, Except.toBool]
  | classRecords | studentRecords | roster =>
      simp only [reading, rowsRead, decodes, isOk_mapM, List.all_eq_false, Bool.not_eq_true, reduceCtorEq,
        false_and, exists_false, false_or]

/-- A call fails for one of the reasons, and for no other. -/
theorem isOk_run_iff (config : Config) (c : Call) (s : Server) :
    ((c.run config).outcome s).1.isOk = false ↔ c.Fails s := by
  rcases (run_transacted config c s).cases with
    ⟨f, hf, ho⟩ | ⟨q, n, hq, hn, hgives, ho⟩ | ⟨q, hq, hnone, ho⟩
  · refine ⟨fun _ => .arguments hf, fun _ => ?_⟩
    rcases ho with ho | ho <;> rw [ho] <;> rfl
  · refine ⟨fun _ => .statement hq hn hgives, fun _ => ?_⟩
    rw [ho]
    rfl
  · rw [ho, isOk_reading_iff]
    constructor
    · rintro (⟨key, present, hc, hrow⟩ | ⟨row, hrow, hd⟩)
      · exact .missing hc hrow
      · exact .undecodable hrow hd
    · rintro (hf | ⟨hq', hn, hs⟩ | ⟨hc, hrow⟩ | ⟨hrow, hd⟩)
      · rw [hf] at hq; cases hq
      · rw [hq'] at hq; cases hq; exact absurd hs (hnone _ hn)
      · exact .inl ⟨_, _, hc, hrow⟩
      · exact .inr ⟨_, hrow, hd⟩

end Call
end SchoolRegister.Database
