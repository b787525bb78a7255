import SchoolRegister.Failure
import SchoolRegister.Http.Escape
import SchoolRegister.Http.HostName

/-! # Authorities

The authority of an address is `person:password@host:port`, of which all but the host may be missing.
A host in brackets is a number of the sixth version of the Internet protocol, or of a later one
(`isBracketable`).  `Authority.normal` writes an authority with ASCII characters alone;
`isPlainHost` tells whether the outcome is the name or the number of a host and at most a port. -/

namespace SchoolRegister.Http

open Text

/-- An authority as it is written; the host is without its brackets, and small letters stand for
capital ones in it. -/
structure Authority where
  person : List Char
  password : List Char
  host : List Char
  port : List Char
  deriving DecidableEq, Repr

/-- What stands before the first place of a character, and what stands behind it. -/
def cutAt (c : Char) (s : List Char) : List Char × List Char :=
  (s.takeWhile (· ≠ c), (s.dropWhile (· ≠ c)).drop 1)

namespace Authority

/-- The person with the password, and the host with the port. -/
def halves (s : List Char) : List Char × List Char :=
  let back := s.reverse
  (((back.dropWhile (· ≠ '@')).drop 1).reverse, (back.takeWhile (· ≠ '@')).reverse)

/-- The host with small letters, save behind a percent sign. -/
def lowered (host : List Char) : List Char :=
  (host.takeWhile (· ≠ '%')).map Char.toLower ++ host.dropWhile (· ≠ '%')

/-- The host with small letters, and the port. -/
def hostAndPort (s : List Char) : List Char × List Char :=
  if s.contains '[' then
    let (host, rest) := cutAt ']' (cutAt '[' s).2
    (lowered host, (cutAt ':' rest).2)
  else
    let (host, port) := cutAt ':' s
    (lowered host, port)

def ofText (s : List Char) : Authority :=
  let (who, place) := halves s
  let (person, password) := cutAt ':' who
  let (host, port) := hostAndPort place
  ⟨person, password, host, port⟩

/-! ### Numbers of hosts -/

/-- A part of a number of the fourth version: at most three digits, without needless zeros, up to
255. -/
def isByte (s : List Char) : Bool :=
  !s.isEmpty && s.length ≤ 3 && s.all (fun c => (asciiDigit? c).isSome)
    && (s.length == 1 || s.head? != some '0') && ofDigits (s.filterMap asciiDigit?) ≤ 255

def isFourthVersion (s : List Char) : Bool :=
  let parts := separated '.' s
  parts.length == 4 && parts.all isByte

def isHexGroup (s : List Char) : Bool :=
  !s.isEmpty && s.length ≤ 4 && s.all fun c => (hexValue? c).isSome

/-- The parts of a number of the sixth version; the last one may be a number of the fourth, which
stands for two. -/
def groups? (s : List Char) : Option (List (List Char)) :=
  let parts := separated ':' s
  match parts.getLast? with
  | some last =>
    if last.contains '.' then
      if isFourthVersion last then some (parts.dropLast ++ [['0'], ['0']]) else none
    else some parts
  | none => none

/-- The groups of a number of the sixth version: eight of them, or fewer where an empty one inside
stands for the rest; the first and the last one may be empty beside that one. -/
def areGroups (groups : List (List Char)) : Bool :=
  let inner := (groups.drop 1).dropLast
  match inner.countP List.isEmpty with
  | 0 => groups.length == 8 && groups.all isHexGroup
  | 1 =>
    let before := groups.takeWhile (!·.isEmpty)
    let skip := if before.isEmpty then 1 else before.length
    let before := groups.take skip
    let after := groups.drop (skip + 1)
    let before := if before == [[]] then [] else before
    let after := if after == [[]] then [] else after
    before.all isHexGroup && after.all isHexGroup && before.length + after.length < 8
  | _ => false

/-- A number of the sixth version of the Internet protocol, perhaps with the name of a zone. -/
def isSixthVersion (s : List Char) : Bool :=
  let number := s.takeWhile (· ≠ '%')
  let zone := s.drop number.length
  2 ≤ number.count ':' && (zone.isEmpty || (2 ≤ zone.length && zone.count '%' == 1))
    && (groups? number).any areGroups

/-- A number of a later version: `v`, the version, a full stop and the number. -/
def isLaterVersion (s : List Char) : Bool :=
  let version := (s.drop 1).takeWhile fun c => (hexValue? c).isSome
  let rest := s.drop (1 + version.length)
  !version.isEmpty && rest.head? == some '.' && 2 ≤ rest.length

/-- What may stand in brackets. -/
def isBracketable (s : List Char) : Bool :=
  if s.head? == some 'v' then isLaterVersion s else isSixthVersion s

/-- Brackets, if there are any, enclose the host and nothing else. -/
def hasGoodBrackets (s : List Char) : Bool :=
  if s.contains '[' && s.contains ']' then
    let place := (halves s).2
    if place.contains '[' then
      let (host, rest) := cutAt ']' (place.drop 1)
      place.head? == some '[' && (rest.isEmpty || rest.head? == some ':') && isBracketable host
    else isBracketable (cutAt ':' place).1
  else !s.contains '[' && !s.contains ']'

/-! ### Normal authorities -/

/-- Characters that other ways of writing make out of a mark of an address. -/
def hiddenMarks : List Char := [
  '\u2047', '\u2048', '\u2049', '\u2100', '\u2101', '\u2105', '\u2106', '\u2a74', '\ufe13',
  '\ufe16', '\ufe55', '\ufe56', '\ufe5f', '\ufe6b', '\uff03', '\uff0f', '\uff1a', '\uff1f',
  '\uff20']

/-- No character hides a mark of an address. -/
def isOpen (s : List Char) : Bool := s.all fun c => !hiddenMarks.contains c

def lastPort : Nat := 65535

/-- The number of the port; zero, if there is none. -/
def portNumber? (a : Authority) : Option Nat :=
  if a.port.all fun c => (asciiDigit? c).isSome then
    (some (ofDigits (a.port.filterMap asciiDigit?))).filter (· ≤ lastPort)
  else none

/-- A character that may stand in a name or a password as it is. -/
def isPersonChar (c : Char) : Bool := c.isAlphanum || "_.-~%!$&'()*+,;=".contains c

/-- The person and the password before a host. -/
def personText (a : Authority) : List Char :=
  if a.person.isEmpty then []
  else
    let password := if a.password.isEmpty then [] else ':' :: escaped isPersonChar a.password
    escaped isPersonChar a.person ++ password ++ ['@']

/-- The authority with ASCII characters alone, a port of zero being left out. -/
def normal (a : Authority) : Except Failure (List Char) := do
  let host ← if a.host.isEmpty then .ok [] else (asciiName? a.host).elim (.error .badHost) .ok
  let host := if host.contains ':' then '[' :: host ++ [']'] else host
  match a.portNumber? with
  | none => throw .badValue
  | some n => return a.personText ++ host ++ if n = 0 then [] else ':' :: (Nat.toDigits 10 n)

/-- A character of the name of a host. -/
def isNameChar (c : Char) : Bool :=
  ('a' ≤ c && c ≤ 'z') || (asciiDigit? c).isSome || c == '.' || c == '-'

def isNumberChar (c : Char) : Bool := (hexValue? c).isSome || c == '.' || c == ':'

/-- A name of a host, or a number in brackets, and perhaps a port. -/
def isPlainHost (s : List Char) : Bool :=
  let isPort (s : List Char) : Bool :=
    s.isEmpty || (s.head? == some ':' && 2 ≤ s.length
      && (s.drop 1).all fun c => (asciiDigit? c).isSome)
  match s with
  | '[' :: inside =>
    let (number, rest) := cutAt ']' inside
    let digits := number.takeWhile fun c => (hexValue? c).isSome
    let behind := number.drop digits.length
    inside.contains ']' && behind.head? == some ':' && 2 ≤ behind.length
      && behind.all isNumberChar && isPort rest
  | s =>
    let name := s.takeWhile isNameChar
    !name.isEmpty && isPort (s.drop name.length)

end Authority
end SchoolRegister.Http
