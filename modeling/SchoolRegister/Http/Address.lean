import SchoolRegister.Http.Authority

/-! # Addresses

A request is addressed by `scheme://authority/path?query#fragment`, of which all but the path may be
missing; blanks and controls at the start do not count, nor do tabs and ends of lines anywhere.  What
follows the authority is read as an address again, and what follows in that once more, so that further
slashes at their starts may name other authorities; none of these is gone to (`Parts.address`). -/

namespace SchoolRegister.Http

open Text

/-- The parts of an address as it is written; a missing part is empty. -/
structure Parts where
  scheme : List Char
  authority : List Char
  path : List Char
  query : List Char
  deriving DecidableEq, Repr

/-- Where a request goes: the scheme, the host with its port, the path with its escapes, and the
query. -/
structure Address where
  scheme : List Char
  host : List Char
  path : List Char
  query : List Char
  deriving DecidableEq, Repr

namespace Parts

/-- A tab or the end of a line. -/
def isIgnored (c : Char) : Bool := c == '\t' || c == '\n' || c == '\r'

def isSchemeChar (c : Char) : Bool := c.isAlphanum || c == '+' || c == '-' || c == '.'

/-- A scheme starts with a letter. -/
def isScheme (s : List Char) : Bool := s.head?.any Char.isAlpha && s.all isSchemeChar

/-- The scheme with small letters, and what follows it. -/
def schemeAndRest (s : List Char) : List Char × List Char :=
  let scheme := s.takeWhile (· ≠ ':')
  if scheme.length < s.length && isScheme scheme then
    (scheme.map Char.toLower, s.drop (scheme.length + 1))
  else ([], s)

/-- The authority at the start of an address without scheme, and what follows it. -/
def authorityAndRest : List Char → List Char × List Char
  | '/' :: '/' :: rest =>
    let isInside (c : Char) : Bool := c != '/' && c != '?' && c != '#'
    (rest.takeWhile isInside, rest.dropWhile isInside)
  | s => ([], s)

/-- The parts of an address; an authority with brackets in a wrong place or around anything but a
number, or with a hidden mark, is refused. -/
def ofText (s : List Char) : Except Failure Parts :=
  let (scheme, rest) := schemeAndRest ((s.dropWhile (· ≤ ' ')).filter (!isIgnored ·))
  let (authority, rest) := authorityAndRest rest
  let (path, query) := cutAt '?' (rest.takeWhile (· ≠ '#'))
  if Authority.hasGoodBrackets authority && Authority.isOpen authority then
    .ok ⟨scheme, authority, path, query⟩
  else .error .badValue

/-- The path of an address that is read once more, with ASCII characters in its authority. -/
def normalPath (path : List Char) : Except Failure (List Char) := do
  let parts ← ofText path
  let authority ← (Authority.ofText parts.authority).normal
  let behindScheme :=
    if authority.isEmpty then parts.path else '/' :: '/' :: authority ++ parts.path
  return if parts.scheme.isEmpty then behindScheme else parts.scheme ++ ':' :: behindScheme

def usualScheme : List Char := "http".toList

def home : List Char := "localhost".toList

/-- Where a request goes that is addressed in these parts. -/
def address (parts : Parts) : Except Failure Address := do
  let inner ← ofText (parts.path ++ if parts.query.isEmpty then [] else '?' :: parts.query)
  let path ← normalPath inner.path
  let authority := if parts.authority.isEmpty then home else parts.authority
  let host ← (Authority.ofText authority).normal
  if !Authority.hasGoodBrackets host then throw .badValue
  return {
    scheme := if parts.scheme.isEmpty then usualScheme else parts.scheme
    host := host, path := path, query := inner.query }

end Parts

namespace Address

/-- A scheme that asks for a lasting connection. -/
def isLasting (a : Address) : Bool := a.scheme == "ws".toList || a.scheme == "wss".toList

/-- The port that a scheme means where none is named, with its colon. -/
def usualPort (scheme : List Char) : List Char :=
  if scheme == "http".toList || scheme == "ws".toList then ":80".toList
  else if scheme == "https".toList || scheme == "wss".toList then ":443".toList
  else []

/-- The host without the port that the scheme means anyway. -/
def shortHost (a : Address) : List Char :=
  let port := usualPort a.scheme
  if port.isSuffixOf a.host then a.host.take (a.host.length - port.length) else a.host

/-- The address leads to the service where people log in: the service is not known by another plain
host. -/
def isHome (a : Address) : Except Failure Bool := do
  if !Authority.isPlainHost a.shortHost then return true
  let name ← (plainName? (Authority.ofText a.shortHost).host).elim (.error .badHost) .ok
  if !Authority.isOpen name then throw .badValue
  return name == Parts.home

end Address
end SchoolRegister.Http
