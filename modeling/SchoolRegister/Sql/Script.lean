import SchoolRegister.Text.Blank

/-! # Statements of a script

A script is a list of statements with semicolons between them.  A semicolon inside quotation marks
or after a backslash separates nothing.  `Script.statements` gives the statements without the blanks
around them, empty ones left out. -/

namespace SchoolRegister.Sql

open Text

/-- What a position of a script is enclosed by. -/
inductive Enclosure where
  | nothing
  | single
  | double
  deriving DecidableEq, Repr

/-- What is known when a script has been read up to a position: what encloses it, and whether the
character there is escaped by a backslash. -/
structure Scan where
  inside : Enclosure := .nothing
  escaped : Bool := false
  deriving DecidableEq, Repr

namespace Scan

/-- What is known after a character. -/
def next (s : Scan) (c : Char) : Scan :=
  if s.escaped then { s with escaped := false }
  else if c = '\\' then { s with escaped := true }
  else
    match s.inside, c with
    | .nothing, '\'' => { s with inside := .single }
    | .single, '\'' => { s with inside := .nothing }
    | .nothing, '"' => { s with inside := .double }
    | .double, '"' => { s with inside := .nothing }
    | _, _ => s

/-- The character separates two statements. -/
def separates (s : Scan) (c : Char) : Bool :=
  !s.escaped && s.inside = .nothing && c = ';'

/-- What is known after a text. -/
def after (s : Scan) (cs : List Char) : Scan := cs.foldl next s

end Scan

/-- The parts of a script between its separators. -/
def pieces (s : Scan) : List Char → List (List Char)
  | [] => [[]]
  | c :: rest =>
    if s.separates c then [] :: pieces s rest
    else match pieces (s.next c) rest with
      | [] => [[c]]
      | part :: parts => (c :: part) :: parts

def statements (script : List Char) : List (List Char) :=
  ((pieces {} script).map trimChars).filter (· ≠ [])

end SchoolRegister.Sql
