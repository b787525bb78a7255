/-! # Failures

Every way in which a request to the service can fail is one constructor of `Failure`.  The first
groups are the school's own rules: an argument that is not acceptable, something that does not
exist, a person who may not do what was asked for.  The rest are failures of the store and of the
conversion of foreign values.  `Failure.message` is the text that comes with a failure;
`Failure.domain?` tells the groups apart for whoever reports them. -/

namespace SchoolRegister

/-- A reason why a request fails. -/
inductive Failure where
  /-- A text argument is missing or blank. -/
  | required (field : String)
  /-- An argument is not a positive whole number. -/
  | notPositiveInteger (field : String)
  /-- An argument is neither a true nor a false flag. -/
  | notFlag (field : String)
  /-- A text denotes no date; `shown` is how messages show it. -/
  | unreadableDate (field shown : String)
  /-- An argument is of a type that denotes no date. -/
  | notDate (field shown : String)
  /-- A range of dates ends before it starts. -/
  | startAfterEnd
  /-- No student has the number. -/
  | unknownStudent
  /-- The class has no roster for the term. -/
  | noRoster
  /-- The actor may not perform the operation. -/
  | unauthorized (reason : String)
  /-- The attendance store does not answer. -/
  | storeDown
  /-- The database gave a statement up. -/
  | deadlock
  /-- The row of a record is missing right after it was written. -/
  | rowMissing (key : String)
  /-- A date lies beyond the calendar. -/
  | beyondCalendar
  /-- An infinite number stands where a whole number is wanted. -/
  | infiniteInteger
  /-- A whole number does not fit into a machine word where it has to. -/
  | oversizedInteger
  /-- A decimal result needs too many digits, or is not a number. -/
  | invalidDecimal
  /-- A decimal result is too large. -/
  | oversizedDecimal
  /-- A value of a good type does not denote what is wanted. -/
  | badValue
  /-- A value of another type is wanted. -/
  | badType
  /-- A column holds no date but a value of the type with this name. -/
  | notDateColumn (typeName : String)
  /-- A column is missing from a row, or an entry from a dictionary. -/
  | missingKey
  /-- A value lacks an operation that is asked of it. -/
  | missingMember
  /-- A row has no first cell. -/
  | missingCell
  /-- Bytes are no text in the expected encoding. -/
  | undecodable
  /-- A text has no bytes in the encoding wanted. -/
  | unencodable
  /-- No settings have the name. -/
  | unknownSettings
  /-- The host of an address has no name that could be looked up. -/
  | badHost
  deriving DecidableEq, Repr

namespace Failure

/-- The text that comes with a failure, empty for one that is told by its kind alone. -/
def message : Failure → String
  | required field => s!"{field} is required"
  | notPositiveInteger field => s!"{field} must be a positive integer"
  | notFlag field => s!"{field} must be true or false"
  | unreadableDate field shown => s!"Invalid {field}: {shown} (expected YYYY-MM-DD)"
  | notDate field shown => s!"Invalid {field}: {shown}"
  | startAfterEnd => "start_date must not be after end_date"
  | unknownStudent => "Student not found"
  | noRoster => "No students found for the specified class and term"
  | unauthorized reason => reason
  | storeDown => "store down"
  | deadlock => "deadlock"
  | rowMissing key => s!"Attendance row missing after upsert: {key}"
  | notDateColumn typeName => s!"Unsupported MySQL DATE value type: <class '{typeName}'>"
  | _ => ""

/-- The three groups of failures that are rules of the school. -/
inductive Domain where
  | validation
  | notFound
  | authorization
  deriving DecidableEq, Repr

/-- The group of a failure, if it is a rule of the school. -/
def domain? : Failure → Option Domain
  | required _ | notPositiveInteger _ | notFlag _ | unreadableDate .. | notDate .. | startAfterEnd =>
    some .validation
  | unknownStudent | noRoster => some .notFound
  | unauthorized _ => some .authorization
  | _ => none

end Failure
end SchoolRegister
