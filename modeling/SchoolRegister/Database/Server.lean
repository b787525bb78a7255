import SchoolRegister.Database.Config
import SchoolRegister.School.Register
import SchoolRegister.Text.Blank

/-! # The database server

A `Server` is known by what it will answer and by what has happened to it: the result sets that it
still has to give, the place at which it gives a statement up, the connections that were opened, the
statements that were executed, and the events on the connections.  Every conversation with it is an
`Action`, so what happened before a failure stays on record.

* `transaction` opens a connection, runs a body on it and commits if the body succeeds; if the body
  fails it rolls back.  In both cases cursor and connection are closed.
* `conversation` opens a connection without these guarantees: it closes it and nothing else.
* `withDatabase` reads where the database is before it is used. -/

namespace SchoolRegister.Database

/-- A row of a result: its cells under the names of their columns, or in their order alone. -/
inductive Row where
  | named (cells : List (String × Value))
  | ordered (cells : List Value)

def Row.isEmpty : Row → Bool
  | named cells => cells.isEmpty
  | ordered cells => cells.isEmpty

/-- A statement with the values of its placeholders. -/
structure Statement where
  sql : String
  parameters : List Value := []

/-- What happens on a connection. -/
inductive Event where
  | cursor (named : Bool)
  | commit
  | rollback
  | cursorClosed
  | closed
  deriving DecidableEq, Repr

def Event.name : Event → String
  | cursor named => if named then "cursor(dictionary)" else "cursor()"
  | commit => "commit"
  | rollback => "rollback"
  | cursorClosed => "cursor.close"
  | closed => "close"

/-- A database server: what it will answer and what has happened to it. -/
structure Server where
  /-- The result sets still to be given; one of them may be no list of rows at all. -/
  results : List (Option (List Row)) := []
  /-- The number of statements after which the next one is given up. -/
  failAt : Option Nat := none
  connections : List Connection := []
  executed : List Statement := []
  events : List Event := []

namespace Server

def log (s : Server) (events : List Event) : Server := { s with events := s.events ++ events }

/-- The next result set, without rows if none is left, and the server after it was given. -/
def nextResult (s : Server) : Option (List Row) × Server :=
  match s.results with
  | [] => (some [], s)
  | rows :: rest => (rows, { s with results := rest })

end Server

/-- Executes a statement; its runs of blanks carry no meaning. -/
def execute (sql : String) (parameters : List Value := []) : Action Server Unit :=
  Action.ofFunction fun s =>
    if s.failAt = some s.executed.length then (.error .deadlock, s)
    else (.ok (), { s with executed := s.executed ++ [⟨Text.collapseBlanks sql, parameters⟩] })

def fetch : Action Server (Option (List Row)) :=
  Action.ofFunction fun s =>
    let (rows, s) := s.nextResult
    (.ok rows, s)

def fetchAll : Action Server (List Row) := do
  return (← fetch).getD []

/-- The first row of the next result set; one without cells is none. -/
def fetchOne : Action Server (Option Row) := do
  return (← fetchAll).head?.filter fun r => !r.isEmpty

/-! ### Connections -/

def connect (connection : Connection) : Action Server Unit :=
  Action.ofFunction fun s => (.ok (), { s with connections := s.connections ++ [connection] })

def note (e : Event) : Action Server Unit := Action.ofFunction fun s => (.ok (), s.log [e])

def commit : Action Server Unit := note .commit

/-- Runs a body on a connection of its own, and commits exactly if it succeeds: a failure of the body
or of the commit is followed by a rollback, and cursor and connection are closed in any case. -/
def transaction {α : Type} (config : Config) (body : Action Server α) : Action Server α := do
  connect ⟨config, true, false⟩
  let guarded : Action Server α := do
    note (.cursor true)
    tryFinally (do let a ← body; commit; return a) (note .cursorClosed)
  tryFinally (tryCatch guarded fun f => do note .rollback; throw f) (note .closed)

/-- Runs a body on a connection that is closed afterwards. -/
def conversation {α : Type} (connection : Connection) (body : Action Server α) : Action Server α := do
  connect connection
  tryFinally (do note (.cursor false); body) (note .closed)

/-- Uses the database that the entries of a dictionary describe. -/
def withDatabase {α : Type} (entries : List (String × Value)) (use : Config → Action Server α) :
    Action Server α := do
  use (← Action.ofExcept (Config.read entries))

end SchoolRegister.Database
