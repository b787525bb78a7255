import SchoolRegister.Value.Basic
import SchoolRegister.Text.Integer
import SchoolRegister.Text.Surrogate

/-! # Reading JSON

`Json.read` turns the text of a JSON document into a value.  Beyond the grammar of the format it
accepts the words `NaN`, `Infinity` and `-Infinity` as numbers.  A number with a fraction or an
exponent is a double, any other one a whole number of at most `Text.digitLimit` digits.  Of two
entries of an object with one key the later counts, in the place of the earlier.  Of two
escapes that name the halves of a surrogate pair the pair is made; a half alone stays one.  Lists and
objects may lie in one another up to `Json.depthLimit` deep. -/

namespace SchoolRegister.Json

open Number Text

/-- Why a text is no JSON document that can be read. -/
inductive Problem where
  | malformed
  | tooDeep
  deriving DecidableEq, Repr

/-- How deep lists and objects may lie in one another. -/
def depthLimit : Nat := 975

/-- A space, a tab, or the end of a line. -/
def isSpace (c : Char) : Bool := c == ' ' || c == '\t' || c == '\n' || c == '\r'

def skipSpace (s : List Char) : List Char := s.dropWhile isSpace

/-! ### Texts -/

/-- The number that four hexadecimal digits denote. -/
def hexFour? (a b c d : Char) : Option Nat := do
  return (((← hexValue? a) * 16 + (← hexValue? b)) * 16 + (← hexValue? c)) * 16 + (← hexValue? d)

/-- The character that a short escape stands for. -/
def shortEscape? : Char → Option Char
  | '"' => some '"'
  | '\\' => some '\\'
  | '/' => some '/'
  | 'b' => some '\x08'
  | 'f' => some '\x0c'
  | 'n' => some '\n'
  | 'r' => some '\r'
  | 't' => some '\t'
  | _ => none

/-- The characters of a text up to its closing quotation mark, and what follows it. -/
def textBody? : List Char → Option (List Char × List Char)
  | '"' :: rest => some ([], rest)
  | '\\' :: 'u' :: a :: b :: c :: d :: '\\' :: 'u' :: e :: f :: g :: h :: rest =>
    match hexFour? a b c d, hexFour? e f g h with
    | some n, some m =>
      if isHighSurrogate n && isLowSurrogate m then
        (textBody? rest).map fun (s, r) => (pairedChar n m :: s, r)
      else
        (textBody? ('\\' :: 'u' :: e :: f :: g :: h :: rest)).map fun (s, r) => (charOfCode n :: s, r)
    | some _, none => none
    | none, _ => none
  | '\\' :: 'u' :: a :: b :: c :: d :: rest =>
    (hexFour? a b c d).bind fun n => (textBody? rest).map fun (s, r) => (charOfCode n :: s, r)
  | '\\' :: c :: rest =>
    (shortEscape? c).bind fun e => (textBody? rest).map fun (s, r) => (e :: s, r)
  | c :: rest => if c.toNat < 32 then none else (textBody? rest).map fun (s, r) => (c :: s, r)
  | [] => none

/-! ### Numbers -/

/-- The digits at the start, and what follows them. -/
def digitRun (s : List Char) : List Nat × List Char :=
  let p := fun c => (asciiDigit? c).isSome
  ((s.takeWhile p).filterMap asciiDigit?, s.dropWhile p)

/-- A point and at least one digit. -/
def fractionPart? : List Char → Option (List Nat × List Char)
  | '.' :: rest =>
    let (ds, rest) := digitRun rest
    if ds.isEmpty then none else some (ds, rest)
  | _ => none

/-- The letter of the exponent, an optional sign and at least one digit. -/
def exponentPart? (s : List Char) : Option (Int × List Char) :=
  match s with
  | c :: rest =>
    if c == 'e' || c == 'E' then
      let (negative, rest) := match rest with
        | '-' :: rest => (true, rest)
        | '+' :: rest => (false, rest)
        | rest => (false, rest)
      let (ds, rest) := digitRun rest
      if ds.isEmpty then none
      else some (if negative then -(ofDigits ds : Int) else ofDigits ds, rest)
    else none
  | [] => none

/-- The whole part of a number: a zero, or digits that do not start with one. -/
def wholePart? : List Char → Option (List Nat × List Char)
  | '0' :: rest => some ([0], rest)
  | s =>
    let (ds, rest) := digitRun s
    if ds.isEmpty then none else some (ds, rest)

/-- An unsigned number. -/
def magnitude? (negative : Bool) (s : List Char) : Option (Value × List Char) := do
  let (whole, rest) ← wholePart? s
  let fraction := fractionPart? rest
  let rest := (fraction.map (·.2)).getD rest
  let exponent := exponentPart? rest
  let rest := (exponent.map (·.2)).getD rest
  if fraction.isNone && exponent.isNone then
    if whole.length ≤ digitLimit then
      let n : Int := ofDigits whole
      some (.int (if negative then -n else n), rest)
    else none
  else
    let ds := (fraction.map (·.1)).getD []
    let e := (exponent.map (·.1)).getD 0
    let x : Decimal := ⟨negative, ofDigits (whole ++ ds), e - ds.length⟩
    some (.float (.ofDecimal x), rest)

/-! ### Values -/

/-- A word of the format, and what follows it. -/
def word? (s : List Char) : Option (Value × List Char) :=
  let after (w : String) (v : Value) : Option (Value × List Char) :=
    if w.toList.isPrefixOf s then some (v, s.drop w.length) else none
  (after "null" .null).or <| (after "true" (.bool true)).or <| (after "false" (.bool false)).or <|
    (after "NaN" (.float .nan)).or <| (after "Infinity" (.float (.infinite false))).or <|
      after "-Infinity" (.float (.infinite true))

/-- The entries with one more, which takes the place of an entry with the same key. -/
def setEntry (entries : List (String × Value)) (key : String) (v : Value) : List (String × Value) :=
  if entries.any fun e => e.1 == key then
    entries.map fun e => if e.1 == key then (key, v) else e
  else entries ++ [(key, v)]

mutual
/-- The value at the start of a text, and what follows it.  The last argument bounds the number of
steps; `depth` is how many lists and objects are still allowed inside. -/
def value (depth : Nat) (s : List Char) : Nat → Except Problem (Value × List Char)
  | 0 => .error .malformed
  | fuel + 1 =>
    match s with
    | '"' :: rest =>
      (textBody? rest).elim (.error .malformed) fun (t, r) => .ok (.text (String.ofList t), r)
    | '[' :: rest =>
      if depth = 0 then .error .tooDeep
      else match skipSpace rest with
        | ']' :: rest => .ok (.list [], rest)
        | rest => (items (depth - 1) rest fuel).map fun (vs, r) => (.list vs, r)
    | '\x7b' :: rest =>
      if depth = 0 then .error .tooDeep
      else match skipSpace rest with
        | '\x7d' :: rest => .ok (.dict [], rest)
        | rest => (members (depth - 1) [] rest fuel).map fun (es, r) => (.dict es, r)
    | '-' :: rest =>
      ((magnitude? true rest).or (word? s)).elim (.error .malformed) .ok
    | s => ((magnitude? false s).or (word? s)).elim (.error .malformed) .ok

/-- The members of a list up to its end. -/
def items (depth : Nat) (s : List Char) : Nat → Except Problem (List Value × List Char)
  | 0 => .error .malformed
  | fuel + 1 => do
    let (v, rest) ← value depth s fuel
    match skipSpace rest with
    | ']' :: rest => .ok ([v], rest)
    | ',' :: rest =>
      let (vs, rest) ← items depth (skipSpace rest) fuel
      .ok (v :: vs, rest)
    | _ => .error .malformed

/-- The entries of an object up to its end, after those already read. -/
def members (depth : Nat) (read : List (String × Value)) (s : List Char) :
    Nat → Except Problem (List (String × Value) × List Char)
  | 0 => .error .malformed
  | fuel + 1 =>
    match s with
    | '"' :: rest =>
      match textBody? rest with
      | none => .error .malformed
      | some (key, rest) =>
        match skipSpace rest with
        | ':' :: rest => do
          let (v, rest) ← value depth (skipSpace rest) fuel
          let read := setEntry read (String.ofList key) v
          match skipSpace rest with
          | '\x7d' :: rest => .ok (read, rest)
          | ',' :: rest => members depth read (skipSpace rest) fuel
          | _ => .error .malformed
        | _ => .error .malformed
    | _ => .error .malformed
end

def read (s : List Char) : Except Problem Value := do
  let (v, rest) ← value depthLimit (skipSpace s) (2 * s.length + 2)
  if (skipSpace rest).isEmpty then .ok v else .error .malformed

end SchoolRegister.Json
