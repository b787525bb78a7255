import SchoolRegister.Number.Quantity
import SchoolRegister.Text.Blank
import SchoolRegister.Text.Digit

/-! # Reading quantities

`Quantity.ofText?` reads a quantity from a text: an optional sign and then digits with at most one
point and perhaps an exponent, or a word for an infinity or for what is not a number, the latter
perhaps with digits after it.  Blanks around the text and underscores anywhere do not count, and a
digit may come from any script. -/

namespace SchoolRegister.Number

open Text

/-- The ASCII character that stands for a character of a quantity, if there is one. -/
def plainCharacter? (c : Char) : Option Char :=
  if 0 < c.toNat ∧ c.toNat < 128 then some c
  else if isBlank c then some ' '
  else (digitValue? c).map digitChar

/-- The value of a digit, zero for anything else. -/
def digitOrZero (c : Char) : Nat := (asciiDigit? c).getD 0

/-- An ASCII digit. -/
def isDigit (c : Char) : Bool := (asciiDigit? c).isSome

/-- A text after its sign: whether it was negative, and the rest. -/
def signed : List Char → Bool × List Char
  | '-' :: rest => (true, rest)
  | '+' :: rest => (false, rest)
  | s => (false, s)

/-- The exponent that follows the digits of a number; none stands for zero. -/
def exponentPart? : List Char → Option Int
  | [] => some 0
  | c :: rest =>
    let (negative, digits) := signed rest
    if (c == 'e' || c == 'E') && !digits.isEmpty && digits.all isDigit then
      let n : Int := ofDigits (digits.map digitOrZero)
      some (if negative then -n else n)
    else none

/-- The digits of a number without its point, and the power of ten of the last of them. -/
def digitsAndExponent? (s : List Char) : Option (List Nat × Int) :=
  let whole := s.takeWhile isDigit
  let rest := s.dropWhile isDigit
  let (fraction, rest) := match rest with
    | '.' :: rest => (rest.takeWhile isDigit, rest.dropWhile isDigit)
    | rest => ([], rest)
  if whole.isEmpty && fraction.isEmpty then none
  else (exponentPart? rest).map fun e => ((whole ++ fraction).map digitOrZero, e - fraction.length)

namespace Quantity

/-- The largest power of ten that the first digit of a number may have. -/
def lastFirstPlace : Int := 999999999999999999

/-- The smallest power of ten that the last digit of a number may have. -/
def firstLastPlace : Int := -1999999999999999997

/-- The quantity with some digits, the last of which has a given power of ten. -/
def ofPlaces? (negative : Bool) (digits : List Nat) (e : Int) : Option Quantity :=
  let digits := digits.dropWhile (· == 0)
  let first : Int := e + digits.length - if digits.isEmpty then 0 else 1
  if lastFirstPlace < first || e < firstLastPlace then none
  else if digits.isEmpty then some (.finite ⟨negative, 0, 0⟩)
  else some (.finite ⟨negative, ofDigits digits, e⟩)

/-- The word for what is not a number, with digits after it or without. -/
def isNanWord (s : List Char) : Bool := ['n', 'a', 'n'].isPrefixOf s && (s.drop 3).all isDigit

/-- The quantity that a text denotes. -/
def ofText? (s : String) : Option Quantity := do
  let plain ← ((trimChars s.toList).filter (· != '_')).mapM plainCharacter?
  let (negative, rest) := signed plain
  let word := rest.map Char.toLower
  if word == "inf".toList || word == "infinity".toList then return .infinite negative
  if isNanWord word then return .nan
  let (digits, e) ← digitsAndExponent? rest
  ofPlaces? negative digits e

end Quantity
end SchoolRegister.Number
