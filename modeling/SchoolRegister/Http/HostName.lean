import SchoolRegister.Text.Basic
import SchoolRegister.Text.Direction
import SchoolRegister.Text.Normal.Composition
import SchoolRegister.Text.Punycode

/-! # Names of hosts

The name of a host is a row of labels between full stops.  `asciiName?` writes a name with ASCII
characters alone, label by label: a label in another script is brought into its normal form, checked,
and written in Punycode behind the mark `xn--`.  `isReadable` says that the labels which bear the mark
have been written that way. -/

namespace SchoolRegister.Http

open Text

def labelLimit : Nat := 63

/-- The mark of a label that is written in Punycode. -/
def labelMark : List Char := ['x', 'n', '-', '-']

def isStop (c : Char) : Bool := c == '.' || c == '\u3002' || c == '\uff0e' || c == '\uff61'

/-- The runs of characters that no label may hold: blanks, controls, private and unassigned ones, and
those that change how others are shown. -/
def refusedRanges : List (Nat × Nat) := [
  (0x80, 0xa0), (0x340, 0x341), (0x6dd, 0x6dd), (0x70f, 0x70f), (0x1680, 0x1680), (0x180e, 0x180e),
  (0x2000, 0x200f), (0x2028, 0x202f), (0x205f, 0x2063), (0x206a, 0x206f), (0x2ff0, 0x2ffb),
  (0x3000, 0x3000), (0xd800, 0xf8ff), (0xfdd0, 0xfdef), (0xfeff, 0xfeff), (0xfff9, 0xffff),
  (0x1d173, 0x1d17a), (0x1fffe, 0x1ffff), (0x2fffe, 0x2ffff), (0x3fffe, 0x3ffff),
  (0x4fffe, 0x4ffff), (0x5fffe, 0x5ffff), (0x6fffe, 0x6ffff), (0x7fffe, 0x7ffff),
  (0x8fffe, 0x8ffff), (0x9fffe, 0x9ffff), (0xafffe, 0xaffff), (0xbfffe, 0xbffff),
  (0xcfffe, 0xcffff), (0xdfffe, 0xdffff), (0xe0001, 0xe0001), (0xe0020, 0xe007f),
  (0xefffe, 0x10ffff)]

/-- Letters of both directions do not meet, and where there are ones that are written from the right
to the left, the first and the last character are such letters. -/
def isOneWay (s : List Nat) : Bool :=
  !s.any isLeftward || (!s.any isRightward && s.head?.any isLeftward && s.getLast?.any isLeftward)

/-- The normal form of a label, if it may be one. -/
def prepared? (s : List Nat) : Option (List Nat) :=
  let normal := Normal.normalForm (s.filter fun n => !inRanges Normal.silentRanges n)
  if !normal.any (inRanges refusedRanges) && isOneWay normal then some normal else none

/-- A label that is neither empty nor too long. -/
def fitting? (s : List Char) : Option (List Char) :=
  if s.isEmpty || labelLimit < s.length then none else some s

/-- A label with ASCII characters alone. -/
def asciiLabel? (label : List Nat) : Option (List Char) :=
  let written (s : List Nat) : List Char := s.map Char.ofNat
  if label.all (· < 128) then fitting? (written label)
  else (prepared? label).bind fun s =>
    if s.all (· < 128) then fitting? (written s)
    else if labelMark.isPrefixOf (s.map Char.ofNat) then none
    else fitting? (labelMark ++ Punycode.encode s)

/-- The labels of a name; an empty one at the end, behind a full stop, does not count. -/
def labelsOf (name : List Char) : List (List Char) × Bool :=
  let labels := separated '.' (name.map fun c => if isStop c then '.' else c)
  if labels.getLast? == some [] then (labels.dropLast, true) else (labels, false)

/-- A name with ASCII characters alone. -/
def asciiName? (name : List Char) : Option (List Char) :=
  let (labels, isEnded) := labelsOf name
  (labels.mapM fun label => asciiLabel? (label.map Char.toNat)).map fun labels =>
    ['.'].intercalate labels ++ if isEnded then ['.'] else []

/-- The label that an ASCII label stands for, if the latter has been written for one. -/
def plainLabel? (label : List Char) : Option (List Char) :=
  if labelMark.isPrefixOf label then
    ((Punycode.decode? (label.drop labelMark.length)).filter fun s => asciiLabel? s == some label).map
      fun s => s.map Char.ofNat
  else some label

/-- The name that an ASCII name stands for, if all of its labels have been written for some. -/
def plainName? (name : List Char) : Option (List Char) :=
  ((separated '.' name).mapM plainLabel?).map ['.'].intercalate

end SchoolRegister.Http
