import SchoolRegister.Number.Decimal

/-! # Double-precision numbers

A double is a sign with a magnitude `significand · 2 ^ exponent`, or infinite, or not a number.
`Binary64.nearest` rounds a quotient to the nearest double, a half going to the even significand;
`Binary64.shortestMagnitude` is the decimal number with the fewest digits that is rounded back to
the same magnitude, and of those the nearest one.  All arithmetic is exact, on natural numbers. -/

namespace SchoolRegister.Number

/-- A double-precision number. -/
inductive Binary64 where
  | finite (negative : Bool) (significand : Nat) (exponent : Int)
  | infinite (negative : Bool)
  | nan
  deriving DecidableEq, Repr

namespace Binary64

/-- The number of binary digits of a significand. -/
def precision : Nat := 53

/-- The exponent of the smallest unit. -/
def minExponent : Int := -1074

/-- The exponent of the largest unit. -/
def maxExponent : Int := 971

/-- The double nearest to `± n / d`. -/
def nearest (negative : Bool) (n d : Nat) : Binary64 :=
  if n = 0 then .finite negative 0 minExponent
  else
    let e := max (magnitude 2 n d - precision) minExponent
    let (n', d') := scaled 2 n d e
    let q := roundDiv .toEven n' d'
    let (m, e) :=
      if q = Nat.pow 2 precision then (Nat.pow 2 (precision - 1), e + 1) else (q, e)
    if maxExponent < e then .infinite negative else .finite negative m e

/-- The largest power of ten, either way, that needs to be looked at: beyond it every decimal with
a first digit other than zero is rounded to zero or to infinity. -/
def decimalReach : Int := 400

def ofDecimal (x : Decimal) : Binary64 :=
  if x.coefficient = 0 then .finite x.negative 0 minExponent
  else
    let top := x.exponent + digitCount 10 x.coefficient
    if decimalReach < top then .infinite x.negative
    else if top < -decimalReach then .finite x.negative 0 minExponent
    else
      let (n, d) := x.magnitudeFraction
      nearest x.negative n d

def ofInt (n : Int) : Binary64 := nearest (decide (n < 0)) n.natAbs 1

def zero : Binary64 := .finite false 0 minExponent

def fraction (m : Nat) (e : Int) : Nat × Nat := scaled 2 m 1 (-e)

/-! ### Whole numbers -/

/-- The whole part of a finite double, towards zero. -/
def truncate? : Binary64 → Option Int
  | .finite negative m e =>
    let (n, d) := fraction m e
    some (if negative then -((n / d : Nat) : Int) else (n / d : Nat))
  | _ => none

def isWhole : Binary64 → Bool
  | .finite _ m e => let (n, d) := fraction m e; n % d == 0
  | _ => false

/-- The double zero, of either sign. -/
def isZero : Binary64 → Bool
  | .finite _ m _ => m == 0
  | _ => false

/-- The order of two doubles; `none` when one of them is not a number. -/
def compare? : Binary64 → Binary64 → Option Ordering
  | .nan, _ => none
  | _, .nan => none
  | .infinite s, .infinite t => some (compare (!s) (!t))
  | .infinite s, .finite .. => some (if s then .lt else .gt)
  | .finite .., .infinite t => some (if t then .gt else .lt)
  | .finite s m e, .finite t k f =>
    let (n, d) := fraction m e
    let (n', d') := fraction k f
    some (compare ((if s then -(n : Int) else n) * d') ((if t then -(n' : Int) else n') * d))

/-! ### The shortest decimal -/

/-- The point `c · 10 ^ g` of a decimal grid is rounded to the double `m · 2 ^ e`. -/
def readsBack (m : Nat) (e : Int) (c : Nat) (g : Int) : Bool :=
  let (n, d) := scaled 10 c 1 (-g)
  nearest false n d == .finite false m e

/-- The point of the decimal grid of unit `10 ^ g` that is rounded to `m · 2 ^ e`: of the two
neighbours of that magnitude the one that qualifies, and of two the nearer. -/
def gridPoint? (m : Nat) (e g : Int) : Option Nat :=
  let (n, d) := fraction m e
  let (n', d') := scaled 10 n d g
  let below := n' / d'
  match readsBack m e below g, readsBack m e (below + 1) g with
  | true, true => some (roundDiv .toEven n' d')
  | true, false => some below
  | false, true => some (below + 1)
  | false, false => none

/-- The most decimal digits that a double needs. -/
def maxDigits : Nat := 17

/-- The first grid, from `digits` significant digits up, that holds a point which is rounded to
`m · 2 ^ e`; `k` is the decimal order of magnitude. -/
def shortestFrom (m : Nat) (e k : Int) (digits : Nat) : Nat → Nat × Int
  | 0 => (0, 0)
  | fuel + 1 =>
    match gridPoint? m e (k - digits) with
    | some c => if c = Nat.pow 10 digits then (1, k) else (c, k - digits)
    | none => shortestFrom m e k (digits + 1) fuel

/-- The coefficient and the exponent of the shortest decimal of `m · 2 ^ e`. -/
def shortestMagnitude (m : Nat) (e : Int) : Nat × Int :=
  if m = 0 then (0, 0)
  else
    let (n, d) := fraction m e
    shortestFrom m e (magnitude 10 n d) 1 maxDigits

end Binary64
end SchoolRegister.Number
