import SchoolRegister.Text.Surrogate
import SchoolRegister.Value.Shown

/-! # Names and the order of values

The register asks four things of the type of names: how a name reads inside a text, how it is answered,
when two names are equal, and which of two comes first.  The class `Name` has them.  In memory names are
texts; a column of a database may hold anything where a name is expected, so any value serves as a
name.

Texts compare as texts, numbers and flags as numbers, dates, times and bytes among themselves, and
lists by their first different members.  `Value.same` tells which values count as equal and
`Value.before?` which one comes first; the latter is undefined for values of different kinds and for
two different dictionaries.  Not-a-number differs from every value, itself included, and neither
comes before a number nor after it. -/

namespace SchoolRegister

open Number

namespace Value

/-! ### The order of values -/

def compareBytes : List UInt8 → List UInt8 → Ordering
  | [], [] => .eq
  | [], _ :: _ => .lt
  | _ :: _, [] => .gt
  | a :: as, b :: bs => (compare a.toNat b.toNat).then (compareBytes as bs)

def compareMoments (a b : Moment) : Ordering :=
  (compare a.date.ordinal b.date.ordinal).then
    ((compare a.hour b.hour).then ((compare a.minute b.minute).then (compare a.second b.second)))

/-- The number that a value stands for in comparisons: a whole number, or else a double. -/
def number? : Value → Option (Int ⊕ Binary64)
  | bool b => some (.inl (if b then 1 else 0))
  | int n => some (.inl n)
  | float x => some (.inr x)
  | _ => none

/-- The order of a double and a whole number, which need not be a double itself. -/
def compareToInt (x : Binary64) (n : Int) : Option Ordering :=
  match x with
  | .nan => none
  | .infinite negative => some (if negative then .lt else .gt)
  | .finite negative m e =>
    let (num, den) := Binary64.fraction m e
    some (compare (if negative then -(num : Int) else num) (n * den))

/-- The order of two numbers, of which there is none if one is not a number. -/
def compareNumbers : Int ⊕ Binary64 → Int ⊕ Binary64 → Option Ordering
  | .inl a, .inl b => some (compare a b)
  | .inl a, .inr y => (compareToInt y a).map Ordering.swap
  | .inr x, .inl b => compareToInt x b
  | .inr x, .inr y => x.compare? y

mutual
/-- Two values count as equal. -/
def same : Value → Value → Bool
  | null, null => true
  | list as, list bs => sameItems as bs
  | dict as, dict bs => as.length == bs.length && sameEntries as bs
  | date a, date b => decide (a = b)
  | moment a, moment b => decide (a = b)
  | instant a, instant b => decide (a = b)
  | bytes a, bytes b => a == b
  | a, b =>
    match a.text?, b.text?, a.number?, b.number? with
    | some s, some t, _, _ => s == t
    | _, _, some m, some n => compareNumbers m n == some .eq
    | _, _, _, _ => false

/-- Two lists have equal members. -/
def sameItems : List Value → List Value → Bool
  | [], [] => true
  | a :: as, b :: bs => same a b && sameItems as bs
  | _, _ => false

/-- The second of two dictionaries has all entries of the first, in whatever order. -/
def sameEntries : List (String × Value) → List (String × Value) → Bool
  | [], _ => true
  | (key, a) :: rest, bs =>
    match lookup? bs key with
    | some b => same a b && sameEntries rest bs
    | none => false
end

mutual
/-- The first of two values comes before the second, if they can be compared. -/
def before? : Value → Value → Option Bool
  | list as, list bs => beforeItems? as bs
  | date a, date b => some (decide (a < b))
  | moment a, moment b => some (compareMoments a b == .lt)
  | instant a, instant b => some (compareMoments a b == .lt)
  | bytes a, bytes b => some (compareBytes a b == .lt)
  | a, b =>
    match a.text?, b.text?, a.number?, b.number? with
    | some s, some t, _, _ => some (Text.precedes s t)
    | _, _, some m, some n => some (compareNumbers m n == some .lt)
    | _, _, _, _ => none

/-- The first of two lists comes before the second: by their first different members, or else by
their lengths. -/
def beforeItems? : List Value → List Value → Option Bool
  | _, [] => some false
  | [], _ :: _ => some true
  | a :: as, b :: bs => if same a b then beforeItems? as bs else before? a b
end

end Value

/-! ### Names -/

/-- What the register needs to know of the type of names. -/
class Name (N : Type) where
  /-- How a name reads inside a text. -/
  text : N → String
  /-- A name as a part of an answer. -/
  value : N → Value
  /-- Two names are equal. -/
  same : N → N → Bool
  /-- The first of two names comes before the second, if they can be compared. -/
  before? : N → N → Option Bool

instance : Name String where
  text s := s
  value := .text
  same s t := s == t
  before? s t := some (Text.precedes s t)

instance : Name Value where
  text := Value.plain
  value v := v
  same := Value.same
  before? := Value.before?

end SchoolRegister
