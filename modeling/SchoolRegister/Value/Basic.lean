import SchoolRegister.Calendar.Date
import SchoolRegister.Number.Binary64
import SchoolRegister.Role

/-! # Values

A `Value` is what a caller may hand to the service in any argument, what a column of a database row
may hold, and what the service answers: null, a flag, a whole number, a double, a text, a list, a
dictionary with text keys in a fixed order, a date, a date with a time, a date with a time of
universal time, bytes, or a role. -/

namespace SchoolRegister

open Number

/-- An argument, a cell of a row, or a part of an answer. -/
inductive Value where
  | null
  | bool (b : Bool)
  | int (n : Int)
  | float (x : Binary64)
  | text (s : String)
  | list (items : List Value)
  | dict (entries : List (String × Value))
  | date (d : Date)
  | moment (m : Moment)
  | instant (m : Moment)
  | bytes (bs : List UInt8)
  | role (r : Role)
  deriving Inhabited

namespace Value

/-- A value that counts as true where a flag is wanted: anything but null, false, zero and what is
empty. -/
def isTruthy : Value → Bool
  | null => false
  | bool b => b
  | int n => n != 0
  | float x => !x.isZero
  | text s => !s.isEmpty
  | list items => !items.isEmpty
  | dict entries => !entries.isEmpty
  | bytes bs => !bs.isEmpty
  | date _ | moment _ | instant _ | role _ => true

/-- The text of a text value; a role counts as the text of its name. -/
def text? : Value → Option String
  | text s => some s
  | role r => some r.name
  | _ => none

/-- The value, unless it is null. -/
def nonNull? : Value → Option Value
  | null => none
  | v => some v

/-- The value of an optional one, null for none. -/
def ofOption : Option Value → Value
  | some v => v
  | none => null

/-- The entry of a dictionary under a key. -/
def lookup? (entries : List (String × Value)) (key : String) : Option Value :=
  (entries.find? fun e => e.1 == key).map (·.2)

/-- The value of an entry, null for a missing one. -/
def getOrNull (entries : List (String × Value)) (key : String) : Value :=
  (lookup? entries key).getD null

end Value
end SchoolRegister
