import SchoolRegister.Text.Blank
import SchoolRegister.Text.Digit

/-! # Whole numbers as text

A whole number is written as an optional sign and decimal digits, with single underscores allowed
between two digits and white space around it.  Digits may come from any script.  Only the six
white characters of the ASCII range and the blanks beyond it count as white space here: the
information separators do not.  A number of more than `digitLimit` digits is refused. -/

namespace SchoolRegister.Text

def digitLimit : Nat := 4300

/-- White space of the ASCII range around a number. -/
def isAsciiWhite (c : Char) : Bool :=
  decide (9 ≤ c.toNat ∧ c.toNat ≤ 13) || c == ' '

/-- The ASCII character that stands for a character in a number: beyond the ASCII range a digit
stands for its value and a blank for a space, and nothing else is allowed. -/
def plainNumeric? (c : Char) : Option Char :=
  if c.toNat < 127 then some c
  else if isBlank c then some ' '
  else (digitValue? c).map digitChar

/-- Digits with single underscores between them. -/
def groupedDigits? : List Char → Option (List Nat)
  | [] => none
  | c :: rest =>
    match asciiDigit? c, rest with
    | none, _ => none
    | some d, [] => some [d]
    | some d, '_' :: more => (groupedDigits? more).map (d :: ·)
    | some d, more => (groupedDigits? more).map (d :: ·)

/-- A row of digits within the limit, as a number. -/
def boundedDigits? (s : List Char) : Option Nat :=
  match groupedDigits? s with
  | some ds => if ds.length ≤ digitLimit then some (ofDigits ds) else none
  | none => none

/-- A number after its white space and before its end: a sign and digits. -/
def signedDigits? : List Char → Option Int
  | '-' :: ds => (boundedDigits? ds).map fun n => -(n : Int)
  | '+' :: ds => (boundedDigits? ds).map Int.ofNat
  | ds => (boundedDigits? ds).map Int.ofNat

/-- The whole number that a text of ASCII characters denotes, white space around it allowed. -/
def plainInteger? (s : List Char) : Option Int :=
  signedDigits? ((s.dropWhile isAsciiWhite).reverse.dropWhile isAsciiWhite).reverse

def integer? (s : String) : Option Int := (s.toList.mapM plainNumeric?).bind plainInteger?

end SchoolRegister.Text
