import SchoolRegister.Value.Shown
import SchoolRegister.Calendar.Week

/-! # Transmitted values

A value leaves the service's memory in two ways.  As a JSON document it holds what the format knows:
a role travels as its name, and a value with a date or with bytes in it cannot be sent
(`Value.asDocument?`).  What a login leaves for later requests travels with them (`Value.carried`): the
entries of dictionaries come back sorted by key, a role as its name, a date as a text in the form of
the date header of a message, and a date with a time as one of universal time, the year of which is
read as that of such a header. -/

namespace SchoolRegister

open Number

/-- The short names of the days, from Monday. -/
def weekdayNames : List String := ["Mon", "Tue", "Wed", "Thu", "Fri", "Sat", "Sun"]

/-- The short names of the months. -/
def monthNames : List String :=
  ["Jan", "Feb", "Mar", "Apr", "May", "Jun", "Jul", "Aug", "Sep", "Oct", "Nov", "Dec"]

/-- A date with a time of universal time, as a message header writes it. -/
def Moment.headerText (m : Moment) : String :=
  let d := m.date
  weekdayNames.getD d.weekday "" ++ ", " ++ String.ofList (paddedDigits 2 d.day) ++ " "
    ++ monthNames.getD (d.month - 1) "" ++ " " ++ String.ofList (paddedDigits 4 d.year) ++ " "
    ++ m.clockText ++ " GMT"

/-- The year that a message header means: below 100 it is one from 1969 to 2068. -/
def headerYear (year : Nat) : Nat :=
  if year < 69 then year + 2000 else if year < 100 then year + 1900 else year

/-- The date with a time that is read from the header which was written for one. -/
def Moment.throughHeader (m : Moment) : Moment :=
  { m with date := (Date.ofYmd? (headerYear m.date.year) m.date.month m.date.day).getD m.date }

namespace Value

mutual
/-- The value as a JSON document, if it can be sent as one. -/
def asDocument? : Value → Option Value
  | date _ | moment _ | instant _ | bytes _ => none
  | role r => some (text r.name)
  | list items => (itemsAsDocument? items).map list
  | dict entries => (entriesAsDocument? entries).map dict
  | v => some v

/-- The members of a list as parts of a document. -/
def itemsAsDocument? : List Value → Option (List Value)
  | [] => some []
  | v :: rest => v.asDocument?.bind fun w => (itemsAsDocument? rest).map (w :: ·)

/-- The entries of a dictionary as parts of a document. -/
def entriesAsDocument? : List (String × Value) → Option (List (String × Value))
  | [] => some []
  | (key, v) :: rest =>
    v.asDocument?.bind fun w => (entriesAsDocument? rest).map ((key, w) :: ·)
end

mutual
/-- The value as later requests find it. -/
def carried : Value → Value
  | date d => text (Moment.headerText ⟨d, 0, 0, 0⟩)
  | moment m | instant m => instant m.throughHeader
  | role r => text r.name
  | list items => list (carriedItems items)
  | dict entries => dict ((carriedEntries entries).mergeSort fun a b => !Text.precedes b.1 a.1)
  | v => v

/-- The members of a list as later requests find them. -/
def carriedItems : List Value → List Value
  | [] => []
  | v :: rest => v.carried :: carriedItems rest

/-- The entries of a dictionary as later requests find them, not yet sorted. -/
def carriedEntries : List (String × Value) → List (String × Value)
  | [] => []
  | (key, v) :: rest => (key, v.carried) :: carriedEntries rest
end

end Value
end SchoolRegister
