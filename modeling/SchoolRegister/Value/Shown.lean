import SchoolRegister.Calendar.Date
import SchoolRegister.Text.Quoted
import SchoolRegister.Value.Basic

/-! # Values in messages

`Value.shown` is how a message quotes a value that it complains about, and `Value.plain` how a value
reads where a text is wanted: a text stands for itself there, a date is written in digits, and the
rest is shown as in a message. -/

namespace SchoolRegister

open Number Text

namespace Role

def capitalName (r : Role) : String := String.ofList (r.name.toList.map Char.toUpper)

/-- The role with its type. -/
def qualifiedName (r : Role) : String := "Role." ++ r.capitalName

end Role

def Date.shown (d : Date) : String :=
  s!"datetime.date({d.year}, {d.month}, {d.day})"

/-- A date with a time as messages show it, up to its last number; seconds are left out when there
are none. -/
def Moment.shownNumbers (m : Moment) : String :=
  let seconds := if m.second = 0 then "" else s!", {m.second}"
  s!"datetime.datetime({m.date.year}, {m.date.month}, {m.date.day}, {m.hour}, {m.minute}" ++ seconds

/-- A date with a time as messages show it. -/
def Moment.shown (m : Moment) : String := m.shownNumbers ++ ")"

/-- A date with a time of universal time as messages show it. -/
def Moment.shownUniversal (m : Moment) : String :=
  m.shownNumbers ++ ", tzinfo=datetime.timezone.utc)"

namespace Value

def boolText (b : Bool) : String := if b then "True" else "False"

mutual
/-- A value as messages show it. -/
def shown : Value → String
  | null => "None"
  | bool b => boolText b
  | int n => integerText n
  | float x => x.text
  | text s => quoted s
  | list items => "[" ++ ", ".intercalate (shownItems items) ++ "]"
  | dict entries => "\x7b" ++ ", ".intercalate (shownEntries entries) ++ "\x7d"
  | date d => d.shown
  | moment m => m.shown
  | instant m => m.shownUniversal
  | bytes bs => quotedBytes bs
  | role r => "<" ++ r.qualifiedName ++ ": " ++ quoted r.name ++ ">"

/-- The members of a list as messages show them. -/
def shownItems : List Value → List String
  | [] => []
  | v :: rest => v.shown :: shownItems rest

/-- The entries of a dictionary as messages show them. -/
def shownEntries : List (String × Value) → List String
  | [] => []
  | (key, v) :: rest => (quoted key ++ ": " ++ v.shown) :: shownEntries rest
end

/-- A value where a text is wanted. -/
def plain : Value → String
  | text s => s
  | date d => d.paddedText
  | moment m => m.date.paddedText ++ " " ++ m.clockText
  | instant m => m.date.paddedText ++ " " ++ m.clockText ++ "+00:00"
  | role r => r.qualifiedName
  | v => v.shown

def typeName : Value → String
  | null => "NoneType"
  | bool _ => "bool"
  | int _ => "int"
  | float _ => "float"
  | text _ => "str"
  | list _ => "list"
  | dict _ => "dict"
  | date _ => "datetime.date"
  | moment _ | instant _ => "datetime.datetime"
  | bytes _ => "bytes"
  | role _ => "Role"

end Value
end SchoolRegister
