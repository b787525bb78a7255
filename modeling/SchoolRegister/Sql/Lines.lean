import SchoolRegister.Text.Blank
import SchoolRegister.Text.Word

/-! # Lines that a script is relieved of

Before a script is split into statements, two kinds of lines are taken out of it: those that choose a
database, because the configuration does that, and comments.  Blanks before such a line go with it,
even across line ends, but the end of the line itself stays.

* `Sql.withoutDatabase` takes out lines that start with `CREATE DATABASE` or with `USE`, as whole
  words in any case, if a semicolon ends the line.
* `Sql.withoutComments` takes out lines that start with two hyphens. -/

namespace SchoolRegister.Sql

open Text

/-! ### Taking parts out at line starts -/

/-- The last of the characters of `s` that come before its end `tail`. -/
def lastBefore (s tail : List Char) : Option Char := (s.take (s.length - tail.length)).getLast?

/-- The text without the parts that a rule finds at the starts of lines; the rule gives what follows
such a part.  `lineStart` says whether the text itself starts a line. -/
def removeAtLineStarts (rule : List Char → Option (List Char)) (lineStart : Bool) :
    List Char → List Char
  | [] => []
  | c :: rest =>
    match if lineStart then rule (c :: rest) else none with
    | some tail =>
      if _h : tail.length < (c :: rest).length then
        removeAtLineStarts rule (lastBefore (c :: rest) tail == some '\n') tail
      else c :: rest
    | none => c :: removeAtLineStarts rule (c == '\n') rest
termination_by s => s.length
decreasing_by
  · exact _h
  · exact Nat.lt_succ_self rest.length

/-! ### Lines that choose a database -/

/-- The character is a form of a capital letter: the letter itself, the small one or, for `S`, the
long one. -/
def isLetter (capital c : Char) : Bool := c.toUpper == capital || (capital == 'S' && c == 'ſ')

/-- What follows a word at the start of a text, in any case. -/
def afterWord? : List Char → List Char → Option (List Char)
  | [], s => some s
  | w :: ws, c :: rest => if isLetter w c then afterWord? ws rest else none
  | _ :: _, [] => none

/-- No word goes on at the start of the text. -/
def endsWord (s : List Char) : Bool := s.head?.all fun c => !isWordChar c

/-- What follows the blanks at the start of a text, if there are any. -/
def afterBlanks? (s : List Char) : Option (List Char) :=
  if s.head?.any isBlank then some (s.dropWhile isBlank) else none

/-- What is left of a text after blanks up to the end of a line: they may run on over the ends of
several lines, of which the last one stays, or up to the end of the text. -/
def afterLineBlanks? (s : List Char) : Option (List Char) :=
  let blanks := s.takeWhile isBlank
  let rest := s.dropWhile isBlank
  if rest.isEmpty then some []
  else if blanks.contains '\n' then
    some ('\n' :: (blanks.reverse.takeWhile (· != '\n')).reverse ++ rest)
  else none

/-- What follows the first semicolon of the line that only blanks separate from the end of a line. -/
def afterSemicolon? : List Char → Option (List Char)
  | [] => none
  | c :: rest =>
    if c = '\n' then none
    else if c = ';' then (afterLineBlanks? rest).or (afterSemicolon? rest)
    else afterSemicolon? rest

def afterCreateDatabase? (s : List Char) : Option (List Char) := do
  let rest ← afterWord? "CREATE".toList (s.dropWhile isBlank)
  let rest ← afterBlanks? rest
  let rest ← afterWord? "DATABASE".toList rest
  if endsWord rest then afterSemicolon? rest else none

def afterUse? (s : List Char) : Option (List Char) := do
  let rest ← afterWord? "USE".toList (s.dropWhile isBlank)
  if endsWord rest then afterSemicolon? rest else none

/-- The script without lines that choose a database. -/
def withoutDatabase (script : List Char) : List Char :=
  removeAtLineStarts afterUse? true (removeAtLineStarts afterCreateDatabase? true script)

/-! ### Comments -/

/-- What follows a comment line: the end of the line. -/
def afterComment? (s : List Char) : Option (List Char) :=
  match s.dropWhile isBlank with
  | '-' :: '-' :: rest => some (rest.dropWhile (· != '\n'))
  | _ => none

/-- The script without comment lines. -/
def withoutComments (script : List Char) : List Char := removeAtLineStarts afterComment? true script

end SchoolRegister.Sql
