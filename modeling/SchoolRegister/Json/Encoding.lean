import SchoolRegister.Json.Reading
import SchoolRegister.Text.Utf8

/-! # The encoding of a JSON document

A document that is sent as text starts, perhaps, with a byte order mark, which is skipped.  The
first character of a document is always an ASCII one, so null bytes near the start tell an encoding
in units of 16 or of 32 bits, and the order of the bytes in a unit. -/

namespace SchoolRegister.Json

open Text

/-- The size of a unit in bytes, and whether its most significant byte comes first. -/
structure Units where
  size : Nat
  bigEndian : Bool

/-- The units that the first four bytes tell, none for UTF-8. -/
def unitsOf? : List UInt8 → Option Units
  | [0, _] => some ⟨2, true⟩
  | [_, 0] => some ⟨2, false⟩
  | 0 :: b :: _ :: _ :: _ => some ⟨if b == 0 then 4 else 2, true⟩
  | _ :: 0 :: c :: d :: _ => some ⟨if c == 0 && d == 0 then 4 else 2, false⟩
  | _ => none

def unitValue (bigEndian : Bool) (bs : List UInt8) : Nat :=
  (if bigEndian then bs else bs.reverse).foldl (fun n b => n * 256 + b.toNat) 0

/-- The numbers in the units of some bytes; there must be no part of a unit left. -/
def unitValues? (u : Units) (bs : List UInt8) : Option (List Nat) :=
  if u.size = 0 ∨ bs.length % u.size ≠ 0 then none
  else some ((List.range (bs.length / u.size)).map fun i =>
    unitValue u.bigEndian ((bs.drop (i * u.size)).take u.size))

/-- Characters in units of 16 bits, two of them for a surrogate pair. -/
def joinPairs : List Nat → List Char
  | n :: m :: rest =>
    if isHighSurrogate n && isLowSurrogate m then
      pairedChar n m :: joinPairs rest
    else charOfCode n :: joinPairs (m :: rest)
  | [n] => [charOfCode n]
  | [] => []

/-- The text of a document in units of 16 or 32 bits. -/
def decodeUnits? (u : Units) (bs : List UInt8) : Option (List Char) :=
  (unitValues? u bs).bind fun ns =>
    if u.size = 2 then some (joinPairs ns)
    else if ns.all (· < 0x110000) then some (ns.map charOfCode)
    else none

/-- The value of a document that was sent as text. -/
def readDocument (s : String) : Except Problem Value :=
  match s.toList with
  | '\ufeff' :: rest => read rest
  | cs =>
    match unitsOf? (encodeUtf8 cs) with
    | none => read cs
    | some u => (decodeUnits? u (encodeUtf8 cs)).elim (.error .malformed) read

end SchoolRegister.Json
