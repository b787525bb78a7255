import SchoolRegister.Proofs.Database.Calls
import SchoolRegister.Proofs.Service.Conduct
import SchoolRegister.Value.Naming

/-! # Transactions

The service asks its tables in transactions only.

* `Action.OneTransaction` says of an action that it is one transaction, or fails before it connects; every call is
  such (`Database.Call.run_oneTransaction`).
* `Conduct.transactions` allows one transaction after another, as long as they are committed.  Every use
  case over the database keeps to it, and one whose arguments are refused does nothing at all.

`calls_in_transactions` puts this together with what each call does on any server. -/

namespace SchoolRegister

open Service Database

/-! ### One transaction -/

/-- The action fails and does nothing, or it is one transaction: on one connection, committed if it succeeds and
rolled back if it fails. -/
def Action.OneTransaction {α : Type} (a : Action Server α) (config : Config) : Prop :=
  ∀ s r t, a.outcome s = (r, t) →
    (r.isOk = false ∧ t = s) ∨
      (t.connections = s.connections ++ [transactionConnection config] ∧
        t.events = s.events ++ if r.isOk then committed else rolledBack)

/-- Every call is one transaction, unless it is refused before it connects. -/
theorem Database.Call.run_oneTransaction (config : Config) (c : Call) :
    (c.run config).OneTransaction config := by
  intro s r t e
  have h := (c.run_transacted config s).cases
  rw [e] at h
  rcases h with ⟨f, -, ho | ho⟩ | ⟨q, n, -, -, -, ho⟩ | ⟨q, -, -, ho⟩ <;> cases ho
  · exact .inl ⟨rfl, rfl⟩
  · exact .inr ⟨rfl, rfl⟩
  · exact .inr ⟨rfl, rfl⟩
  · exact .inr ⟨rfl, rfl⟩

/-! ### One transaction after another -/

/-- What happens when some transactions are committed and perhaps another one is rolled back. -/
def Database.happened (n : Nat) (failed : Bool) : List Event :=
  (List.replicate n committed).flatten ++ if failed then rolledBack else []

/-- The conduct of whoever runs one transaction after another: each is committed but for the last one,
and that is rolled back only on the way to a failure. -/
def Conduct.transactions (config : Config) : Conduct Server where
  allows s ok t := ∃ n failed, (failed = true → ok = false) ∧
    t.connections = s.connections ++
      List.replicate (n + failed.toNat) (transactionConnection config) ∧
    t.events = s.events ++ happened n failed
  rest s ok := ⟨0, false, by simp, by simp, by simp [happened]⟩
  next := by
    rintro s t u ok ⟨n, failed, hf, hc, he⟩ ⟨m, failed', hf', hc', he'⟩
    have hn : failed = false := by
      cases failed with
      | true => exact absurd (hf rfl) (by simp)
      | false => rfl
    subst hn
    refine ⟨n + m, failed', hf', ?_, ?_⟩
    · rw [hc', hc, List.append_assoc, List.replicate_append_replicate]
      congr 2
      simp only [Bool.toNat_false]
      omega
    · rw [he', he]
      simp only [happened, Bool.false_eq_true, if_false, List.append_nil, List.append_assoc,
        ← List.replicate_append_replicate, List.flatten_append]

theorem Action.OneTransaction.keepsTo {α : Type} {a : Action Server α} {config : Config}
    (h : a.OneTransaction config) : a.KeepsTo (.transactions config) := by
  intro s
  rcases e : a.outcome s with ⟨r, t⟩
  rcases h s r t e with ⟨_, rfl⟩ | ⟨hc, he⟩
  · exact ⟨0, false, by simp, by simp, by simp [happened]⟩
  · cases r with
    | ok x => exact ⟨1, false, by simp, hc, by simpa [happened, Except.isOk, Except.toBool] using he⟩
    | error f =>
        exact ⟨0, true, fun _ => rfl, hc, by simpa [happened, Except.isOk, Except.toBool] using he⟩

/-! ### The use cases of the service -/

namespace Database

variable (config : Config)

theorem register_reads : (register config).ReadsKeepTo (.transactions config) where
  findStudent _ := (Call.run_oneTransaction config (.findStudent _)).keepsTo
  enrolled _ := (Call.run_oneTransaction config (.roster _ _ _)).keepsTo
  classRecords _ _ := (Call.run_oneTransaction config (.classRecords _ _ _ _ _)).keepsTo
  studentRecords _ _ _ _ := (Call.run_oneTransaction config (.studentRecords _ _ _ _ _)).keepsTo

theorem useCase_keepsTo {today : Date} {x : Step} {a : Action Server (Answer Value)}
    (ha : x.useCase? (register config) today = some a) : a.KeepsTo (.transactions config) := by
  apply Step.useCase_keepsTo today (register_reads config) _ ha
  intro args _
  apply (register_reads config).markAttendance
  exact fun key present => (Call.run_oneTransaction config (.upsert _ _)).keepsTo

/-- How the service talks to the database under a configuration. -/
structure CallsInTransactions (config : Config) : Prop where
  /-- What each call does on any server: whether it connects, what it executes, and how it ends. -/
  transacted : ∀ (c : Call) s, c.Transacted config s ((c.run config).outcome s)
  /-- A call fails exactly if its arguments make no statements, a statement is given up, the row is missing after
  a record was written, or a row cannot be decoded. -/
  fails : ∀ (c : Call) s, ((c.run config).outcome s).1.isOk = false ↔ c.Fails s
  /-- So each call fails before it connects, or is one transaction that is committed exactly if it succeeds. -/
  oneTransaction : ∀ c : Call, (c.run config).OneTransaction config
  /-- Each use case runs one transaction after another, of which only the last one can be rolled back, on
  the way to a failure. -/
  useCase : ∀ today x a, Step.useCase? (register config) today x = some a →
    a.KeepsTo (.transactions config)
  /-- A use case whose arguments are refused opens no connection. -/
  refused : ∀ today x a f, Step.useCase? (register config) today x = some a →
    x.refusal? today = some f → ∀ s, a.outcome s = (.error f, s)

/-- Whatever is asked of the database, with whatever arguments, result sets and failing statement, it is
asked in transactions, each committed if it succeeds and rolled back if it fails; and entries that
describe no database are not used for anything. -/
theorem calls_in_transactions : (∀ config, CallsInTransactions config) ∧
    ∀ entries f, Config.read entries = .error f → ∀ (α : Type) (use : Config → Action Server α) s,
      (withDatabase entries use).outcome s = (.error f, s) := by
  constructor
  · intro config
    exact {
      transacted := Call.run_transacted config
      fails := Call.isOk_run_iff config
      oneTransaction := Call.run_oneTransaction config
      useCase := fun _ _ _ ha => useCase_keepsTo config ha
      refused := fun today _ _ _ ha hf s => Step.outcome_of_refusal today hf ha s }
  · intro entries f h α use s
    rw [withDatabase, Action.outcome_bind, h]
    rfl

/-- A record that cannot be read again because the statement is given up, or because its row is missing; a roster
with a row that has no number, and one that is found; and records of a term that is no number. -/
theorem calls_in_transactions_small :
    let day : Date := ⟨2024, 1, 2, by decide⟩
    let key : RowKey := ⟨.int 7, .text "5B", .int 1, .int 2024, .date day⟩
    let write : Call := .upsert key (.bool true)
    let parameters : List Value := [.int 7, .text "5B", .int 1, .int 2024, .date day]
    let written : Statement := Statement.collapsed ⟨upsertSql, parameters ++ [.int 1]⟩
    let read : Statement := Statement.collapsed ⟨recordSql ++ " WHERE " ++ keyConditions, parameters⟩
    let roster : Call := .roster (.text "5B") (.int 1) (.text "2024")
    let listed : Statement := Statement.collapsed ⟨rosterSql, [.text "5B", .int 1, .int 2024]⟩
    let place : List (String × Value) :=
      [("enrol_id", .int 3), ("class_name", .text "5B"), ("term_num", .int 1), ("year", .int 2024)]
    let unnumbered : List (String × Value) := [("enrol_id", .text "x")]
    let connections : List Connection := [⟨{}, true, false⟩]
    (write.run {}).outcome { failAt := some 1 } =
        (.error .deadlock, { failAt := some 1, connections, executed := [written], events := rolledBack }) ∧
      (write.run {}).outcome { results := [some []] } = (.error (.rowMissing key.shown),
        { connections, executed := [written, read], events := rolledBack }) ∧
      (roster.run {}).outcome { results := [some [.named place, .named unnumbered]] } =
        (.error .badValue, { connections, executed := [listed], events := rolledBack }) ∧
      (roster.run {}).outcome { results := [some [.named place]] } =
        (.ok [⟨3, .text "5B", 1, 2024, none⟩], { connections, executed := [listed], events := committed }) ∧
      ((Call.classRecords (.text "5B") (.text "x") (.int 2024) .null .null).run {}).outcome {} =
        (.error .badValue, {}) ∧
      (withDatabase [("port", .text "x")] fun config => write.run config).outcome {} = (.error .badValue, {}) := by
  intro day key write parameters written read roster listed place unnumbered connections
  obtain ⟨hcalls, hentries⟩ := calls_in_transactions
  have hcall := (hcalls {}).transacted
  refine ⟨?_, ?_, ?_, ?_, ?_, hentries _ _ rfl _ _ _⟩
  · exact (hcall write _).givenUp _ 1 rfl (by decide) rfl
  · exact (hcall write _).unread _ _ rfl (fun _ _ h => nomatch h) rfl
  · exact (hcall roster _).unread _ _ rfl (fun _ _ h => nomatch h) rfl
  · exact (hcall roster _).returned _ _ rfl (fun _ _ h => nomatch h) rfl
  · exact (hcall _ _).refused _ rfl rfl

end Database
end SchoolRegister
