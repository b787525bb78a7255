import SchoolRegister.Text.Printable
import SchoolRegister.Text.Surrogate

/-! # Quoted text

A text that appears in a message is put in quotes: single ones, unless it holds a single quote and
no double quote.  The quote and the backslash are preceded by a backslash, tab, line feed and
carriage return are written by their letters, and every other character that is not printable by
its code in hexadecimal digits: two after `\x`, four after `\u`, eight after `\U`. -/

namespace SchoolRegister.Text

/-- The lower-case hexadecimal digits of a number, padded with zeros to a width. -/
def hexDigits (width n : Nat) : List Char :=
  let ds := Nat.toDigits 16 n
  List.replicate (width - ds.length) '0' ++ ds

def codeEscape (n : Nat) : List Char :=
  if n < 0x100 then '\\' :: 'x' :: hexDigits 2 n
  else if n < 0x10000 then '\\' :: 'u' :: hexDigits 4 n
  else '\\' :: 'U' :: hexDigits 8 n

def quoteMark (s : List Char) : Char :=
  if s.contains '\'' && !s.contains '"' then '"' else '\''

/-- A character inside quotation marks; `shown` says which ones stand for themselves. -/
def quotedChar (mark : Char) (shown : Char → Bool) (c : Char) : List Char :=
  if c == '\\' || c == mark then ['\\', c]
  else if c == '\t' then ['\\', 't']
  else if c == '\n' then ['\\', 'n']
  else if c == '\r' then ['\\', 'r']
  else if shown c then [c]
  else codeEscape (codeOfChar c)

/-- A text in quotation marks. -/
def quotedChars (shown : Char → Bool) (s : List Char) : List Char :=
  let mark := quoteMark s
  mark :: s.flatMap (quotedChar mark shown) ++ [mark]

/-- A text as messages show it. -/
def quoted (s : String) : String := String.ofList (quotedChars isPrintable s.toList)

/-- Bytes as messages show them: quoted like a text of one character for each byte, of which only
the printable ASCII ones stand for themselves. -/
def quotedBytes (bs : List UInt8) : String :=
  String.ofList ('b' :: quotedChars (fun c => decide (c.toNat < 127) && isPrintable c)
    (bs.map fun b => Char.ofNat b.toNat))

end SchoolRegister.Text
