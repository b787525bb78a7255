import SchoolRegister.Failure
import SchoolRegister.Text.Basic
import SchoolRegister.Value.Shown

/-! # Levels of the log

The log is kept from a level up.  A value names a level by a word in any case; a word that names none
stands for the level of information. -/

namespace SchoolRegister

/-- How much is logged. -/
inductive LogLevel where
  | notSet
  | debug
  | info
  | warning
  | error
  | critical
  deriving DecidableEq, Repr

namespace LogLevel

def name : LogLevel → String
  | notSet => "NOTSET"
  | debug => "DEBUG"
  | info => "INFO"
  | warning => "WARNING"
  | error => "ERROR"
  | critical => "CRITICAL"

def words : List (String × LogLevel) :=
  [("NOTSET", notSet), ("DEBUG", debug), ("INFO", info), ("WARN", warning), ("WARNING", warning),
    ("ERROR", error), ("CRITICAL", critical), ("FATAL", critical)]

/-- The words that name other parts of the log than levels: the form of its lines, which is a text,
and the table of their styles, which is of another type than a level. -/
def otherWords : List (String × Failure) :=
  [("BASIC_FORMAT", .badValue), ("_STYLES", .badType)]

/-- The level that a value names. -/
def ofValue (v : Value) : Except Failure LogLevel :=
  let word := Text.capitalized v.plain
  match otherWords.lookup word with
  | some f => .error f
  | none => .ok ((words.lookup word).getD info)

end LogLevel
end SchoolRegister
