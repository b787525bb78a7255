import SchoolRegister.Database.Config

/-! # Settings

The service is run under one of three profiles, which the variable `APP_ENV` chooses.  A profile has
defaults of its own; other variables replace them, but under the testing profile neither the secret
key nor the level of the log. -/

namespace SchoolRegister

open Database

/-- The variables that are set, with their values. -/
abbrev Environment := List (String × String)

/-- The value of a variable, or a default if it is not set. -/
def Environment.get (env : Environment) (name default : String) : String :=
  (env.lookup name).getD default

/-- What the service is run for. -/
inductive Profile where
  | development
  | production
  | testing
  deriving DecidableEq, Repr

namespace Profile

def all : List Profile := [development, production, testing]

def settingsName : Profile → String
  | development => "config.development"
  | production => "config.production"
  | testing => "config.testing"

def ofSettingsName? (s : String) : Option Profile := all.find? fun p => p.settingsName == s

/-- The profile that a word in lower case stands for; any other word stands for development. -/
def ofWord : String → Profile
  | "prod" | "production" => production
  | "test" | "testing" => testing
  | _ => development

/-- The profile that the environment chooses. -/
def ofEnvironment (env : Environment) : Profile :=
  ofWord (Argument.lowered (env.get "APP_ENV" "development"))

/-- The secret key where the environment gives none. -/
def defaultSecretKey : Profile → String
  | development => "dev-secret-key"
  | production => "please-set-SECRET_KEY"
  | testing => "test-secret"

/-- The level of the log where the environment gives none. -/
def defaultLogLevel : Profile → String
  | development => "DEBUG"
  | production => "INFO"
  | testing => "WARNING"

/-- The name of the database where the environment gives none. -/
def defaultDatabase : Profile → String
  | testing => "school_db_test"
  | _ => "school_db"

/-- Whether the database is set up at the start, as a number, where the environment does not say. -/
def defaultSetUp : Profile → String
  | development => "1"
  | _ => "0"

end Profile

/-- All that is configured. -/
structure Settings where
  profile : Profile
  secretKey : String
  database : Config
  logLevel : String
  /-- The database is set up when the service starts. -/
  setUp : Bool

namespace Settings

/-- The service may tell more about itself than it should in production. -/
def debug (s : Settings) : Bool := s.profile = .development

/-- The service is run for tests. -/
def testing (s : Settings) : Bool := s.profile = .testing

/-- A variable that the testing profile ignores. -/
def unlessTesting (p : Profile) (env : Environment) (name default : String) : String :=
  if p = .testing then default else env.get name default

/-- The settings of a profile in an environment. -/
def load (p : Profile) (env : Environment) : Except Failure Settings := do
  let port ← Argument.toInteger (.text (env.get "DB_PORT" "3306"))
  let setUp ← Argument.toInteger (.text (env.get "AUTO_INIT_DB" p.defaultSetUp))
  return {
    profile := p
    secretKey := unlessTesting p env "SECRET_KEY" p.defaultSecretKey
    database := {
      host := env.get "DB_HOST" "localhost", port := port, user := env.get "DB_USER" "root",
      password := env.get "DB_PASSWORD" "", database := env.get "DB_NAME" p.defaultDatabase }
    logLevel := unlessTesting p env "LOG_LEVEL" p.defaultLogLevel
    setUp := setUp != 0 }

def document (s : Settings) : Value :=
  .dict ([("module", .text s.profile.settingsName), ("SECRET_KEY", .text s.secretKey),
    ("DB_CONFIG", s.database.document), ("DEBUG", .bool s.debug), ("LOG_LEVEL", .text s.logLevel),
    ("AUTO_INIT_DB", .bool s.setUp)] ++ if s.testing then [("TESTING", .bool true)] else [])

end Settings
end SchoolRegister
