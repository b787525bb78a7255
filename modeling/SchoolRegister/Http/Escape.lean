import SchoolRegister.Text.Basic
import SchoolRegister.Text.Digit
import SchoolRegister.Text.Utf8

/-! # Escapes of an address

In an address a percent sign and two hexadecimal digits stand for a byte; the bytes of an address
encode its text.  A percent sign without two digits after it stands for itself. -/

namespace SchoolRegister.Http

open Text

/-- The bytes of a text, its escapes resolved. -/
def unescapedBytes : List Char → List UInt8
  | '%' :: a :: b :: rest =>
    match hexValue? a, hexValue? b with
    | some x, some y => UInt8.ofNat (x * 16 + y) :: unescapedBytes rest
    | _, _ => String.utf8EncodeChar '%' ++ unescapedBytes (a :: b :: rest)
  | c :: rest => String.utf8EncodeChar c ++ unescapedBytes rest
  | [] => []

/-- A text with escapes in place of the characters that may not stand for themselves. -/
def escaped (isSafe : Char → Bool) (s : List Char) : List Char :=
  s.flatMap fun c =>
    if isSafe c then [c]
    else (String.utf8EncodeChar c).flatMap fun b => '%' :: (hexDigits 2 b.toNat).map Char.toUpper

/-- A part of a path, its escapes resolved; bytes that encode no character give the replacement
character. -/
def pathText (s : List Char) : List Char := (decodeUtf8 replaceBytes (unescapedBytes s)).getD []

/-- A name or a value of a query, its escapes resolved and a plus sign taken for a space; bytes that
encode no character stay escaped. -/
def queryText (s : List Char) : String :=
  let spaced := s.map fun c => if c == '+' then ' ' else c
  String.ofList ((decodeUtf8 escapeBytes (unescapedBytes spaced)).getD [])

/-- The names and values of a query; a part without a value has an empty one, and empty parts do not
count. -/
def queryFields (query : List Char) : List (String × String) :=
  ((separated '&' query).filter (· ≠ [])).map fun part =>
    (queryText (part.takeWhile (· ≠ '=')), queryText ((part.dropWhile (· ≠ '=')).drop 1))

end SchoolRegister.Http
