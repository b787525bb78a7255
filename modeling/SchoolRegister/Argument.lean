import SchoolRegister.Failure
import SchoolRegister.Value.Naming
import SchoolRegister.Value.Shown
import SchoolRegister.Calendar.Reading
import SchoolRegister.Text.Integer

/-! # Arguments

Arguments reach the service as values of any type; each function here turns one of them into what
the domain needs, or fails with the name of the field.  Texts are trimmed, whole numbers and flags
may come as text, and dates as dates, as dates with a time, or as text. -/

namespace SchoolRegister.Argument

open Text Calendar

/-- A text that is not blank, trimmed. -/
def requireText (v : Value) (field : String) : Except Failure String :=
  match v.text? with
  | some s => if isBlankText s then .error (.required field) else .ok (trim s)
  | none => .error (.required field)

/-- The whole number that a value denotes: a number truncated towards zero, a flag as 0 or 1, a
text or bytes in digits. -/
def toInteger : Value → Except Failure Int
  | .int n => .ok n
  | .bool b => .ok (if b then 1 else 0)
  | .float (.infinite _) => .error .infiniteInteger
  | .float x => x.truncate?.elim (.error .badValue) .ok
  | .text s => (integer? s).elim (.error .badValue) .ok
  | .role r => (integer? r.name).elim (.error .badValue) .ok
  | .bytes bs => (plainInteger? (bs.map fun b => Char.ofNat b.toNat)).elim (.error .badValue) .ok
  | .null | .list _ | .dict _ | .date _ | .moment _ | .instant _ => .error .badType

/-- A double with a fractional part, which no whole number equals. -/
def hasFraction : Value → Bool
  | .float x => !x.isWhole
  | _ => false

/-- A positive whole number.  A flag is none, and neither is a number with a fractional part; an
infinite number is not refused but fails on its own. -/
def requirePositive (v : Value) (field : String) : Except Failure Int :=
  match v with
  | .bool _ => .error (.notPositiveInteger field)
  | v =>
    match toInteger v with
    | .error .infiniteInteger => .error .infiniteInteger
    | .error _ => .error (.notPositiveInteger field)
    | .ok n =>
      if hasFraction v ∨ n ≤ 0 then .error (.notPositiveInteger field) else .ok n

def trueWords : List String := ["1", "true", "yes", "on"]

def falseWords : List String := ["0", "false", "no", "off"]

/-- The text with its ASCII letters in lower case.  No other letter has a lower-case form inside
the words that are looked up in this way. -/
def lowered (s : String) : String := String.ofList (s.toList.map Char.toLower)

/-- The flag that a word stands for. -/
def flagOfWord? (s : String) : Option Bool :=
  let word := lowered (trim s)
  if trueWords.contains word then some true
  else if falseWords.contains word then some false
  else none

/-- A flag, or a word for one. -/
def requireFlag (v : Value) (field : String) : Except Failure Bool :=
  match v with
  | .bool b => .ok b
  | v => ((v.text?.bind flagOfWord?).elim (.error (.notFlag field)) .ok)

/-! ### Dates -/

/-- The date that a text denotes, blanks around it allowed; `v` is the argument as it came. -/
def dateOfText (v : Value) (s : String) (field : String) : Except Failure Date :=
  (readDate? (trimChars s.toList)).elim (.error (.unreadableDate field v.shown)) .ok

/-- The date that a text argument denotes.  A missing one is a text that denotes none, and a value
that cannot be trimmed fails on its own. -/
def parseDate (v : Value) (field : String) : Except Failure Date :=
  match v.text? with
  | some s => dateOfText v s field
  | none =>
    if !v.isTruthy then dateOfText v "" field
    else match v with
      | .bytes _ => .error .badType
      | _ => .error .missingMember

def toDate (v : Value) (field : String) : Except Failure Date :=
  match v with
  | .moment m | .instant m => .ok m.date
  | .date d => .ok d
  | v =>
    match v.text? with
    | some s => dateOfText v s field
    | none => .error (.notDate field v.shown)

/-- The argument is not given: null or a blank text. -/
def isMissing (v : Value) : Bool :=
  match v with
  | .null => true
  | v => v.text?.elim false isBlankText

/-- The date that an argument denotes, if it is given. -/
def toOptionalDate (v : Value) (field : String) : Except Failure (Option Date) :=
  if isMissing v then .ok none else (toDate v field).map some

/-- A range between two values does not end before it starts; a bound that counts as false is not
given. -/
def checkBounds (start finish : Value) : Except Failure Unit :=
  if start.isTruthy && finish.isTruthy then
    match finish.before? start with
    | none => .error .badType
    | some true => .error .startAfterEnd
    | some false => .ok ()
  else .ok ()

/-- A range of dates does not end before it starts. -/
def checkRange : Option Date → Option Date → Except Failure Unit
  | some s, some e => if e < s then .error .startAfterEnd else .ok ()
  | _, _ => .ok ()

end SchoolRegister.Argument
