import SchoolRegister.Text.Basic
import SchoolRegister.Text.Digit

/-! # Tables of what stands for characters

A table tells which characters stand for others.  It is written in words of hexadecimal codes:
`a=b` says that `b` stands for `a`, `a-c=b` and `a/c=b` that this goes on for all characters, or for
every second one, up to `c`, each being moved by the same distance, and `a=b.d` that several
characters stand for one.  A plus sign in place of the equality sign says that `a` is made of them. -/

namespace SchoolRegister.Text.Normal

/-- A word of a table: the characters from `first` to `last` in steps, what stands for the first one,
and whether it is made of that. -/
structure Entry where
  first : Nat
  last : Nat
  step : Nat
  targets : List Nat
  isMade : Bool
  deriving DecidableEq, Repr

namespace Entry

/-- The number that hexadecimal digits denote. -/
def code (ds : List Char) : Nat := ds.foldl (fun n d => 16 * n + (hexValue? d).getD 0) 0

/-- The digits at the start of a text as a number, and the rest. -/
def leadingCode (s : List Char) : Nat × List Char :=
  let isDigit (c : Char) := (hexValue? c).isSome
  (code (s.takeWhile isDigit), s.dropWhile isDigit)

/-- The entry that a word denotes. -/
def ofWord (word : List Char) : Entry :=
  let (first, rest) := leadingCode word
  let (last, step, rest) := match rest with
    | '-' :: rest => let (n, rest) := leadingCode rest; (n, 1, rest)
    | '/' :: rest => let (n, rest) := leadingCode rest; (n, 2, rest)
    | rest => (first, 1, rest)
  ⟨first, last, step, (separated '.' (rest.drop 1)).map code, rest.head? == some '+'⟩

/-- The entry is about a character. -/
def concerns (e : Entry) (n : Nat) : Bool :=
  e.first ≤ n && n ≤ e.last && (n - e.first) % e.step == 0

/-- What stands for a character that the entry is about. -/
def replacement (e : Entry) (n : Nat) : List Nat := e.targets.map (· + (n - e.first))

end Entry

/-- The entries of a table. -/
def entries (lines : List String) : List Entry :=
  lines.flatMap fun line => (separated ' ' line.toList).map Entry.ofWord

/-- What stands for a character: itself, if the table does not say. -/
def replaced (table : List Entry) (n : Nat) : List Nat :=
  (table.find? (·.concerns n)).elim [n] (·.replacement n)

end SchoolRegister.Text.Normal
