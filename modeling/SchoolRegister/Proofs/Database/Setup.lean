import SchoolRegister.Database.Setup
import SchoolRegister.Proofs.Database.Execution

/-! # A script is committed as a whole or not at all

A database is set up in two conversations: one that creates it, and one that runs a script in it.  A `Visit`
tells how a conversation went, and `Server.visited` what some of them leave on record.

* A conversation of statements that are run one after another is committed exactly if none of them is given up
  (`outcome_conversation_of_forall`, `outcome_conversation_of_givesUp`).
* `AppliedWholly` says what comes of a script for each place at which a statement may be given up;
  `applySchema_appliedWholly` proves it, for every configuration, file and server. -/

namespace SchoolRegister.Database

/-! ### Conversations on record -/

/-- How a conversation went: the connection it was on, the statements that were executed in it, and whether it
was committed before the connection was closed. -/
structure Visit where
  connection : Connection
  statements : List Statement
  committed : Bool

def Visit.events (v : Visit) : List Event :=
  .cursor false :: if v.committed then [.commit, .closed] else [.closed]

/-- The server after some conversations. -/
def Server.visited (s : Server) (visits : List Visit) : Server :=
  { s with connections := s.connections ++ visits.map (·.connection)
           executed := s.executed ++ visits.flatMap (·.statements)
           events := s.events ++ visits.flatMap Visit.events }

/-- The server with one more connection, on which a cursor was opened and which is not closed. -/
def Server.entered (s : Server) (connection : Connection) : Server :=
  { s with connections := s.connections ++ [connection], events := s.events ++ [.cursor false] }

/-- A statement as it is executed. -/
def sent (sql : List Char) : Statement := ⟨Text.collapseBlanks (String.ofList sql), []⟩

variable {s : Server} {n : Nat} {done : List Statement} {sqls : List (List Char)}

namespace Server

theorem givesUpAfter_visited_singleton {v : Visit} :
    (s.visited [v]).GivesUpAfter n ↔ s.GivesUpAfter (v.statements.length + n) := by
  rw [GivesUpAfter, GivesUpAfter, visited, List.flatMap_singleton, List.length_append, Nat.add_assoc]

theorem visited_visited (s : Server) (a b : List Visit) : (s.visited a).visited b = s.visited (a ++ b) := by
  simp only [visited, List.map_append, List.flatMap_append, List.append_assoc]

end Server

/-! ### Scripts -/

def scripted (sql : List Char) : Statement := ⟨String.ofList sql, []⟩

theorem map_collapsed_scripted (sqls : List (List Char)) :
    (sqls.map scripted).map Statement.collapsed = sqls.map sent :=
  List.map_map

theorem runAll_eq (sqls : List (List Char)) :
    runAll sqls = (do executeAll (sqls.map scripted); commit : Action Server Unit) := by
  rw [runAll, executeAll, List.forM_eq_forM, List.forM_eq_forM, List.forM_map]
  rfl

/-! ### Conversations -/

/-- A conversation has the outcome of its body on a new connection, which is then closed. -/
theorem outcome_conversation {α : Type} (connection : Connection) (body : Action Server α) (s : Server) :
    (conversation connection body).outcome s =
      ((body.outcome (s.entered connection)).1, (body.outcome (s.entered connection)).2.log [.closed]) := by
  have hentered : ({ s with connections := s.connections ++ [connection] } : Server).log [.cursor false] =
      s.entered connection := rfl
  rw [conversation, Action.outcome_bind]
  simp only [connect, Action.outcome_ofFunction, Action.outcome_tryFinally, Action.outcome_bind, outcome_note,
    hentered]

variable {connection : Connection}

theorem outcome_conversation_of_forall (h : ∀ n < sqls.length, ¬ s.GivesUpAfter n) :
    (conversation connection (runAll sqls)).outcome s =
      (.ok (), s.visited [⟨connection, sqls.map sent, true⟩]) := by
  have hrun : (executeAll (sqls.map scripted)).outcome (s.entered connection) =
      (.ok (), (s.entered connection).executing (sqls.map sent)) := by
    rw [← map_collapsed_scripted]
    exact outcome_executeAll_of_forall (by rwa [List.length_map])
  rw [outcome_conversation, runAll_eq, Action.outcome_bind, hrun]
  simp [Server.visited, Visit.events, Server.executing, Server.entered, Server.log, commit]

/-- A conversation of statements of which one is given up is not committed. -/
theorem outcome_conversation_of_givesUp (hn : n < sqls.length) (h : s.GivesUpAfter n) :
    (conversation connection (runAll sqls)).outcome s =
      (.error .deadlock, s.visited [⟨connection, (sqls.take n).map sent, false⟩]) := by
  have hrun : (executeAll (sqls.map scripted)).outcome (s.entered connection) =
      (.error .deadlock, (s.entered connection).executing ((sqls.take n).map sent)) := by
    rw [← map_collapsed_scripted, List.map_take]
    exact outcome_executeAll_of_givesUp (by rwa [List.length_map]) h
  rw [outcome_conversation, runAll_eq, Action.outcome_bind, hrun]
  simp [Server.visited, Visit.events, Server.executing, Server.entered, Server.log]

/-! ### Setting up -/

variable {config : Config} {file : List UInt8}

/-- The conversation in which the database is created; it is with the server alone. -/
def creation (config : Config) : Visit where
  connection := { config := config, withDatabase := false, usePure := true }
  statements := [sent (creationSql config.database).toList]
  committed := true

/-- A conversation with the database itself. -/
def visitToDatabase (config : Config) (sqls : List (List Char)) (committed : Bool) : Visit where
  connection := { config := config, withDatabase := true, usePure := true }
  statements := sqls.map sent
  committed := committed

/-- The database is created by a script of one statement. -/
theorem ensureDatabase_eq (config : Config) : ensureDatabase config =
    conversation ⟨config, false, true⟩ (runAll [(creationSql config.database).toList]) := by
  rw [ensureDatabase, runAll, List.forM_eq_forM, List.forM_cons, List.forM_nil, String.ofList_toList]
  simp

theorem outcome_ensureDatabase_of_not (h : ¬ s.GivesUpAfter 0) :
    (ensureDatabase config).outcome s = (.ok (), s.visited [creation config]) := by
  rw [ensureDatabase_eq]
  refine outcome_conversation_of_forall fun n hn => ?_
  obtain rfl : n = 0 := by simpa using hn
  exact h

theorem outcome_ensureDatabase_of_givesUp (h : s.GivesUpAfter 0) : (ensureDatabase config).outcome s =
    (.error .deadlock, s.visited [{ creation config with statements := [], committed := false }]) := by
  rw [ensureDatabase_eq]
  exact outcome_conversation_of_givesUp Nat.zero_lt_one h

/-- What comes of the script in a file, wherever a statement is given up. -/
structure AppliedWholly (config : Config) (file : List UInt8) (s : Server)
    (outcome : Except Failure Unit × Server) : Prop where
  /-- If none of its statements is given up, nor the one that creates the database, the whole script is executed;
  both conversations are committed. -/
  whole : ∀ script, textOfFile file = .ok script →
    (∀ n ≤ (scriptStatements script).length, ¬ s.GivesUpAfter n) →
      outcome = (.ok (), s.visited [creation config, visitToDatabase config (scriptStatements script) true])
  /-- If one of its statements is given up, those before it are executed and not committed. -/
  broken : ∀ script n, textOfFile file = .ok script → n < (scriptStatements script).length →
    s.GivesUpAfter (n + 1) → outcome = (.error .deadlock,
      s.visited [creation config, visitToDatabase config ((scriptStatements script).take n) false])
  /-- If the database cannot be created, there is no other conversation. -/
  uncreated : s.GivesUpAfter 0 → outcome = (.error .deadlock,
    s.visited [{ creation config with statements := [], committed := false }])
  /-- If the file is no text, the database is created and there is no other conversation. -/
  unreadable : ∀ f, textOfFile file = .error f → ¬ s.GivesUpAfter 0 →
    outcome = (.error .undecodable, s.visited [creation config])

theorem textOfFile_error {f : Failure} (h : textOfFile file = .error f) : f = .undecodable := by
  unfold textOfFile at h
  cases hd : Text.decodeUtf8 Text.refuseBytes file with
  | none => rw [hd] at h; cases h; rfl
  | some cs => rw [hd] at h; cases h

theorem outcome_applySchema_of_not (h : ¬ s.GivesUpAfter 0) : (applySchema config file).outcome s =
    (do let script ← Action.ofExcept (textOfFile file)
        conversation ⟨config, true, true⟩ (runAll (scriptStatements script)) : Action Server Unit).outcome
      (s.visited [creation config]) := by
  rw [applySchema, Action.outcome_bind, outcome_ensureDatabase_of_not h]

theorem givesUpAfter_visited_creation : (s.visited [creation config]).GivesUpAfter n ↔ s.GivesUpAfter (n + 1) := by
  rw [Server.givesUpAfter_visited_singleton, creation, List.length_singleton, Nat.add_comm]

/-- A script is committed as a whole or not at all: whichever statement is given up, what is executed before it
in the database is not committed, every connection that was opened is closed, and the failure is handed on. -/
theorem applySchema_appliedWholly {entries : List (String × Value)} (h : Config.read entries = .ok config)
    (file : List UInt8) (s : Server) :
    AppliedWholly config file s ((withDatabase entries fun c => applySchema c file).outcome s) := by
  have hconfig : (withDatabase entries fun c => applySchema c file).outcome s =
      (applySchema config file).outcome s := by
    rw [withDatabase, h]
    rfl
  rw [hconfig]
  constructor
  · intro script hscript hnone
    rw [outcome_applySchema_of_not (hnone 0 (Nat.zero_le _)), hscript, Action.outcome_bind, Action.outcome_ofExcept]
    have hrest : ∀ n < (scriptStatements script).length, ¬ (s.visited [creation config]).GivesUpAfter n :=
      fun n hn hgives => hnone (n + 1) hn (givesUpAfter_visited_creation.mp hgives)
    simp only [outcome_conversation_of_forall hrest, Server.visited_visited]
    rfl
  · intro script n hscript hn hgives
    have hfirst : ¬ s.GivesUpAfter 0 := by
      unfold Server.GivesUpAfter at hgives ⊢
      rw [hgives, Option.some.injEq]
      omega
    rw [outcome_applySchema_of_not hfirst, hscript, Action.outcome_bind, Action.outcome_ofExcept]
    simp only [outcome_conversation_of_givesUp hn (givesUpAfter_visited_creation.mpr hgives),
      Server.visited_visited]
    rfl
  · intro hgives
    rw [applySchema, Action.outcome_bind, outcome_ensureDatabase_of_givesUp hgives]
  · intro f hf hnot
    rw [outcome_applySchema_of_not hnot, hf, textOfFile_error hf]
    rfl

/-- The second of three statements is given up. -/
theorem applySchema_appliedWholly_broken :
    let entries : List (String × Value) := [("database", .text "school_db_test"), ("port", .text "3307")]
    let config : Config := { port := 3307, database := "school_db_test" }
    let script := "-- tables\r\nCREATE TABLE a (x INT);\r\nINSERT ';';SELECT 1".toList
    let s : Server := { failAt := some 2 }
    Config.read entries = .ok config ∧
      (withDatabase entries fun c => applySchema c (Text.encodeUtf8 script)).outcome s = (.error .deadlock,
        s.visited [creation config, visitToDatabase config ["CREATE TABLE a (x INT)".toList] false]) := by
  intro entries config script s
  have hconfig : Config.read entries = .ok config := rfl
  have hdecoded : Text.decodeUtf8 Text.refuseBytes (Text.encodeUtf8 script) = some script := by decide +kernel
  have hscript : textOfFile (Text.encodeUtf8 script) = .ok (withLineFeeds script) := by
    rw [textOfFile, hdecoded]
    rfl
  have hstatements : scriptStatements (withLineFeeds script) =
      ["CREATE TABLE a (x INT)".toList, "INSERT ';'".toList, "SELECT 1".toList] := by
    decide +kernel
  have hbroken := (applySchema_appliedWholly hconfig (Text.encodeUtf8 script) s).broken _ 1 hscript
  rw [hstatements] at hbroken
  exact ⟨hconfig, hbroken (by decide) ((Server.givesUpAfter_iff_of_nil rfl).mpr rfl)⟩

end SchoolRegister.Database
