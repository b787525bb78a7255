import SchoolRegister.Argument

/-! # Access to the database

A `Config` says where the database is and who asks; `Config.read` takes it from the entries of a
dictionary, each with a default of its own.  A `Connection` is what a client asks the server for.
Clients share the configuration that was given first (`connectAll`), unless they bring a fresh one
of their own. -/

namespace SchoolRegister.Database

/-- Where the database is and who asks. -/
structure Config where
  host : String := "localhost"
  port : Int := 3306
  user : String := "root"
  password : String := ""
  database : String := "school_db"
  deriving DecidableEq, Repr

namespace Config

/-- The text of an entry, or a default if there is none. -/
def textOf (entries : List (String × Value)) (key default : String) : String :=
  (Value.lookup? entries key).elim default Value.plain

/-- The configuration in the entries of a dictionary. -/
def read (entries : List (String × Value)) : Except Failure Config := do
  let default : Config := {}
  let port ← match Value.lookup? entries "port" with
    | some v => Argument.toInteger v
    | none => pure default.port
  return { host := textOf entries "host" default.host, port := port,
           user := textOf entries "user" default.user,
           password := textOf entries "password" default.password,
           database := textOf entries "database" default.database }

/-- The entries by which a client gets access. -/
def access (c : Config) : List (String × Value) :=
  [("host", .text c.host), ("port", .int c.port), ("user", .text c.user),
    ("password", .text c.password)]

def document (c : Config) : Value := .dict (c.access ++ [("database", .text c.database)])

end Config

/-- A connection that a client asks for: whether it is to the configured database or to the server
alone, and whether the client wants no native code. -/
structure Connection where
  config : Config
  withDatabase : Bool := true
  usePure : Bool := false
  deriving DecidableEq, Repr

def Connection.document (c : Connection) : Value :=
  .dict (c.config.access ++ (if c.usePure then [("use_pure", .bool true)] else [])
    ++ if c.withDatabase then [("database", .text c.config.database)] else [])

/-! ### The shared configuration -/

/-- A request for a connection: with a configuration of one's own, or with the shared one, to which
one's own is a proposal.  The options say what connection it is to be. -/
structure Attempt where
  own : List (String × Value) := []
  fresh : Bool := false
  options : List (String × Value) := []

def optionNames : List String := ["with_database", "use_pure"]

/-- The connection of an attempt under a configuration; there are no other options than two. -/
def Attempt.connection (a : Attempt) (config : Config) : Except Failure Connection :=
  if a.options.all fun e => optionNames.contains e.1 then
    .ok { config := config
          withDatabase := (Value.lookup? a.options "with_database").all Value.isTruthy
          usePure := (Value.lookup? a.options "use_pure").any Value.isTruthy }
  else .error .badType

/-- The connections that some requests open one after another, given the shared configuration. -/
def connectAll (shared : Option Config) : List Attempt → Except Failure (List Connection)
  | [] => .ok []
  | a :: rest => do
    let own ← Config.read a.own
    let used := if a.fresh then own else shared.getD own
    let connection ← a.connection used
    let later ← connectAll (if a.fresh then shared else some used) rest
    return connection :: later

end SchoolRegister.Database
