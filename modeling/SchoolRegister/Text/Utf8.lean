import SchoolRegister.Text.Quoted

/-! # Text as bytes

`decodeUtf8 mend` reads bytes as UTF-8.  Bytes that form no character are handed to `mend`, which
refuses them (`refuseBytes`) or gives characters in their place (`replaceBytes`, `escapeBytes`): the
bytes handed over are the longest start of a sequence that could have become a character, or a single
byte that starts none. -/

namespace SchoolRegister.Text

def isContinuation (b : UInt8) : Bool := 0x80 ≤ b && b < 0xc0

/-- What the first byte of a sequence says: how many bytes follow, the bits that it contributes, and
the bounds within which the second byte must lie. -/
structure LeadByte where
  following : Nat
  bits : Nat
  low : UInt8 := 0x80
  high : UInt8 := 0xbf

/-- The meaning of a first byte.  The bounds of the second byte rule out needlessly long forms,
halves of surrogate pairs and codes beyond the last character. -/
def leadByte? (b : UInt8) : Option LeadByte :=
  if b < 0x80 then some ⟨0, b.toNat, 0x80, 0xbf⟩
  else if 0xc2 ≤ b && b < 0xe0 then some ⟨1, b.toNat - 0xc0, 0x80, 0xbf⟩
  else if b == 0xe0 then some ⟨2, 0, 0xa0, 0xbf⟩
  else if b == 0xed then some ⟨2, 0xd, 0x80, 0x9f⟩
  else if 0xe1 ≤ b && b < 0xf0 then some ⟨2, b.toNat - 0xe0, 0x80, 0xbf⟩
  else if b == 0xf0 then some ⟨3, 0, 0x90, 0xbf⟩
  else if b == 0xf4 then some ⟨3, 4, 0x80, 0x8f⟩
  else if 0xf1 ≤ b && b < 0xf4 then some ⟨3, b.toNat - 0xf0, 0x80, 0xbf⟩
  else none

/-- The bytes at the start that continue a sequence of a given length. -/
def continuation (lead : LeadByte) (bs : List UInt8) : List UInt8 :=
  match bs.take lead.following with
  | [] => []
  | b :: rest =>
    if lead.low ≤ b && b ≤ lead.high then b :: rest.takeWhile isContinuation else []

/-- The first character of some bytes and the number of further bytes that it takes, or how many
further bytes belong to a broken sequence. -/
def firstChar (b : UInt8) (rest : List UInt8) : Except Nat (Char × Nat) :=
  match leadByte? b with
  | none => .error 0
  | some lead =>
    let more := continuation lead rest
    if more.length = lead.following then
      .ok (Char.ofNat (more.foldl (fun n c => n * 64 + (c.toNat - 0x80)) lead.bits), more.length)
    else .error more.length

/-- A broken sequence makes the whole text unreadable. -/
def refuseBytes (_ : List UInt8) : Option (List Char) := none

/-- The replacement character in place of a broken sequence. -/
def replaceBytes (_ : List UInt8) : Option (List Char) := some ['\ufffd']

/-- The bytes of a broken sequence as the escapes of an address. -/
def escapeBytes (bs : List UInt8) : Option (List Char) :=
  some (bs.flatMap fun b => '%' :: (hexDigits 2 b.toNat).map Char.toUpper)

/-- The text that bytes encode, broken sequences mended. -/
def decodeUtf8 (mend : List UInt8 → Option (List Char)) : List UInt8 → Option (List Char)
  | [] => some []
  | b :: rest =>
    match firstChar b rest with
    | .ok (c, used) => (decodeUtf8 mend (rest.drop used)).map (c :: ·)
    | .error used =>
      (mend (b :: rest.take used)).bind fun cs =>
        (decodeUtf8 mend (rest.drop used)).map (cs ++ ·)
termination_by bs => bs.length
decreasing_by all_goals simp +arith

/-- The bytes that encode a text. -/
def encodeUtf8 (s : List Char) : List UInt8 := s.flatMap String.utf8EncodeChar

end SchoolRegister.Text
