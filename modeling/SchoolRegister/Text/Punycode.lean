import SchoolRegister.Text.Digit

/-! # Punycode

A label in any script is written with ASCII characters alone: first its ASCII characters and a hyphen,
if it has any, and then, for the others in the order of their codes, how far it is from one to the
next.  A distance counts the places at which a character could have been put in; it is written as a
number whose digits, least significant first, end with the first one below a threshold, and the
thresholds move with the distances (`nextBias`). -/

namespace SchoolRegister.Text.Punycode

def base : Nat := 36

/-- The code of the first character that is not written as it is. -/
def firstCode : Nat := 0x80

/-- The bias of the first distance. -/
def firstBias : Nat := 72

/-- A digit: a small letter, or a decimal digit for those from 26 on. -/
def digit (n : Nat) : Char := if n < 26 then Char.ofNat ('a'.toNat + n) else digitChar (n - 26)

def digitValue? (c : Char) : Option Nat :=
  if 'a' ≤ c ∧ c ≤ 'z' then some (c.toNat - 'a'.toNat)
  else if 'A' ≤ c ∧ c ≤ 'Z' then some (c.toNat - 'A'.toNat)
  else (asciiDigit? c).map (· + 26)

/-- The digit at a place ends a number if it is below this. -/
def threshold (bias place : Nat) : Nat := min 26 (max 1 (base * (place + 1) - bias))

theorem threshold_pos (bias place : Nat) : 0 < threshold bias place := by
  simp only [threshold]; omega

/-- A distance divided until it is small, and the part of the bias that the divisions give. -/
def diminished (distance bias : Nat) : Nat × Nat :=
  if 455 < distance then diminished (distance / 35) (bias + base) else (distance, bias)
termination_by distance
decreasing_by omega

/-- The bias after a distance, when there are `count` characters. -/
def nextBias (distance : Nat) (isFirst : Bool) (count : Nat) : Nat :=
  let d := if isFirst then distance / 700 else distance / 2
  let (d, bias) := diminished (d + d / count) 0
  bias + base * d / (d + 38)

/-! ### Writing -/

/-- The digits of a number from a place on. -/
def number (bias place n : Nat) : List Char :=
  let t := threshold bias place
  if _h : n < t then [digit n]
  else digit (t + (n - t) % (base - t)) :: number bias (place + 1) ((n - t) / (base - t))
termination_by n
decreasing_by
  have hp := threshold_pos bias place
  have hle : (n - threshold bias place) / (base - threshold bias place)
      ≤ n - threshold bias place := Nat.div_le_self _ _
  omega

/-- The distances to the places of one character among those with no higher code, and how many
places have been passed since the last one. -/
def distancesTo (code : Nat) : List Nat → Nat → List Nat × Nat
  | [], passed => ([], passed)
  | n :: rest, passed =>
    if n = code then
      let (ds, left) := distancesTo code rest 0
      (passed :: ds, left)
    else distancesTo code rest (if n < code then passed + 1 else passed)

/-- The distances from one character to the next, for characters in the order of their codes. -/
def distances (s : List Nat) : List Nat → Nat → Nat → List Nat
  | [], _, _ => []
  | code :: rest, first, passed =>
    let places := (s.filter (· < code)).length + 1
    let (ds, passed) := distancesTo code s (passed + places * (code - first))
    ds ++ distances s rest (code + 1) (passed + 1)

/-- The codes from which on characters are not written as they are, each once and in order. -/
def highCodes (s : List Nat) : List Nat :=
  ((s.filter (firstCode ≤ ·)).mergeSort (· ≤ ·)).eraseReps

/-- Distances as text, after `count` characters. -/
def numbers : List Nat → Nat → Bool → Nat → List Char
  | [], _, _, _ => []
  | d :: rest, bias, isFirst, count =>
    number bias 0 d ++ numbers rest (nextBias d isFirst (count + 1)) false (count + 1)

def encode (s : List Nat) : List Char :=
  let plain := (s.filter (· < firstCode)).map Char.ofNat
  plain ++ (if plain.isEmpty then [] else ['-'])
    ++ numbers (distances s (highCodes s) firstCode 0) firstBias true plain.length

/-! ### Reading -/

/-- The number at the start of a text, and what follows it. -/
def number? (bias place weight : Nat) : List Char → Option (Nat × List Char)
  | [] => none
  | c :: rest =>
    (digitValue? c).bind fun d =>
      let t := threshold bias place
      if d < t then some (d * weight, rest)
      else (number? bias (place + 1) (weight * (base - t)) rest).map fun (n, r) =>
        (d * weight + n, r)

/-- Puts characters into a label, one for each distance in a text; `place` is where the next one could
go first. -/
def insertAll? (done : List Nat) (code place bias : Nat) (isFirst : Bool) (s : List Char) :
    Nat → Option (List Nat)
  | 0 => some done
  | fuel + 1 =>
    if s.isEmpty then some done
    else (number? bias 0 1 s).bind fun (d, rest) =>
      let places := done.length + 1
      let code := code + (place + d) / places
      let place := (place + d) % places
      if 0x10ffff < code then none
      else insertAll? (done.take place ++ code :: done.drop place) code (place + 1)
        (nextBias d isFirst places) false rest fuel

def decode? (s : List Char) : Option (List Nat) :=
  let back := s.reverse
  let plain := ((back.dropWhile (· ≠ '-')).drop 1).reverse
  let rest := (back.takeWhile (· ≠ '-')).reverse
  insertAll? (plain.map Char.toNat) firstCode 0 firstBias true rest rest.length

end SchoolRegister.Text.Punycode
