import SchoolRegister.Database.Schema
import SchoolRegister.Database.Server
import SchoolRegister.Sql.Lines
import SchoolRegister.Sql.Script
import SchoolRegister.Text.Utf8

/-! # Setting up a database

`ensureDatabase` creates the configured database if it is missing, `applySchema` also runs a script in
it, and `listTables` tells which tables there are.  The script is committed as a whole or not at all. -/

namespace SchoolRegister.Database

def creationSql (database : String) : String :=
  "CREATE DATABASE IF NOT EXISTS `" ++ database
    ++ "` CHARACTER SET utf8mb4 COLLATE utf8mb4_unicode_ci;"

/-- Creates the configured database if it is missing. -/
def ensureDatabase (config : Config) : Action Server Unit :=
  conversation ⟨config, false, true⟩ do
    execute (creationSql config.database)
    commit

/-! ### Scripts -/

/-- The text with a line feed at the end of each line, however the lines ended before. -/
def withLineFeeds : List Char → List Char
  | [] => []
  | '\r' :: '\n' :: rest => '\n' :: withLineFeeds rest
  | '\r' :: rest => '\n' :: withLineFeeds rest
  | c :: rest => c :: withLineFeeds rest

def textOfFile (file : List UInt8) : Except Failure (List Char) :=
  (Text.decodeUtf8 Text.refuseBytes file).elim (.error .undecodable) (.ok ∘ withLineFeeds)

/-- The statements of a script that do not choose a database. -/
def scriptStatements (script : List Char) : List (List Char) :=
  Sql.statements (Sql.withoutComments (Sql.withoutDatabase script))

/-- Runs statements one after another and commits if all of them succeed. -/
def runAll (statements : List (List Char)) : Action Server Unit := do
  statements.forM fun s => execute (String.ofList s)
  commit

/-- Creates the database if it is missing and runs the script of a file in it. -/
def applySchema (config : Config) (file : List UInt8) : Action Server Unit := do
  ensureDatabase config
  let script ← Action.ofExcept (textOfFile file)
  conversation ⟨config, true, true⟩ (runAll (scriptStatements script))

/-! ### Tables -/

def Row.firstCell : Row → Except Failure Value
  | .ordered (v :: _) => .ok v
  | .ordered [] => .error .missingCell
  | .named _ => .error .missingKey

def listTables (config : Config) : Action Server (List Value) :=
  conversation ⟨config, true, true⟩ do
    execute "SHOW TABLES"
    match ← fetch with
    | none => throw .badType
    | some rows => Action.ofExcept (rows.mapM Row.firstCell)

end SchoolRegister.Database
