import SchoolRegister.Database.Setup
import SchoolRegister.Http.Route
import SchoolRegister.LogLevel
import SchoolRegister.Settings

/-! # Starting the service

The service starts from the settings of a profile, which is named or left to the environment.  A name
is that of a module, and the modules that it lies in are loaded before it.  Other modules that are
installed beside the settings may be named too, but they hold none; some of them start the service
themselves when they are loaded.  If the settings say so, the schema is applied to the database first.
`Application.setUpDatabase` applies it without starting anything. -/

namespace SchoolRegister

open Database

/-- The modules that are installed beside the settings, and those among them that start the service
when they are loaded. -/
structure Installation where
  modules : List String
  starting : List String := []

/-- A service that has been started. -/
structure Application where
  secretKey : String
  debug : Bool
  testing : Bool

namespace Application

/-- The settings of a profile, the level of the log having been set. -/
def configure (p : Profile) (env : Environment) : Except Failure Settings := do
  let settings ← Settings.load p env
  let _ ← LogLevel.ofValue (.text settings.logLevel)
  return settings

/-- Applies the schema and lists the tables. -/
def prepareDatabase (config : Config) : Action Server Unit := do
  applySchema config (Text.encodeUtf8 schema.toList)
  let _ ← listTables config

/-- Starts the service under a profile. -/
def start (p : Profile) (env : Environment) : Action Server Application := do
  let settings ← Action.ofExcept (configure p env)
  if settings.setUp then prepareDatabase settings.database
  return ⟨settings.secretKey, settings.debug, settings.testing⟩

/-- The names of the modules that a module lies in, the outermost first, and its own. -/
def enclosing (name : String) : List String :=
  let parts := (Text.separated '.' name.toList).map String.ofList
  (List.range parts.length).map fun i => ".".intercalate (parts.take (i + 1))

/-- Loads a module, the ones that it lies in being loaded already: the settings of a profile are read,
and a module that starts the service does so. -/
def load (installation : Installation) (env : Environment) (name : String) :
    Action Server Unit := do
  match Profile.ofSettingsName? name with
  | some p => let _ ← Action.ofExcept (Settings.load p env)
  | none =>
    if installation.starting.contains name then
      let _ ← start (Profile.ofEnvironment env) env
    else if !installation.modules.contains name then throw .unknownSettings

/-- Starts the service with the settings that a module holds.  A module that is no profile lacks a
secret key, and a name that starts with a point depends on a module that is not given. -/
def startNamed (installation : Installation) (name : String) (env : Environment) :
    Action Server Application := do
  if name.startsWith "." then throw .badType
  (enclosing name).forM (load installation env)
  match Profile.ofSettingsName? name with
  | some p => start p env
  | none => throw .missingMember

/-- Starts the service with named settings, or with those that the environment chooses. -/
def create (installation : Installation) (named : Value) (env : Environment) :
    Action Server Application :=
  if named.isTruthy then
    match named.text?, named with
    | some name, _ => startNamed installation name env
    | none, .bytes _ => throw .badType
    | none, _ => throw .missingMember
  else start (Profile.ofEnvironment env) env

def setUpDatabase (env : Environment) : Action Server Unit := do
  let settings ← Action.ofExcept (configure (Profile.ofEnvironment env) env)
  prepareDatabase settings.database

def ruleDocument (r : Http.Rule) : Value :=
  .list [.text r.path, .text r.endpoint, .list (r.methods.map .text)]

/-- A service as an answer, with the rules by which it is reached. -/
def document (a : Application) : Value :=
  .dict [("secret_key", .text a.secretKey), ("debug", .bool a.debug), ("testing", .bool a.testing),
    ("routes", .list (Http.rules.map ruleDocument))]

end Application
end SchoolRegister
