import SchoolRegister.Number.Rounding
import SchoolRegister.Number.Magnitude

/-! # Decimal numbers

A decimal number is a sign, a coefficient and a power of ten; zero keeps its sign.  Sums, products
and quotients are the exact result rounded to `workingDigits` significant digits, a half going to
the even neighbour (`Decimal.rounded`, `Decimal.nearest`).  The power of ten may be of any size: no
operation writes out more digits than its operands have and the result keeps.
`Decimal.toHundredths?` rounds to two places, a half going away from zero, and fails when the result
needs more digits than the working precision has. -/

namespace SchoolRegister.Number

def workingDigits : Nat := 28

/-- The largest order of magnitude that a result of arithmetic may have. -/
def highestOrder : Int := 1000000

/-- The number `± coefficient · 10 ^ exponent`. -/
structure Decimal where
  negative : Bool
  coefficient : Nat
  exponent : Int
  deriving DecidableEq, Repr

namespace Decimal

def ofInt (n : Int) : Decimal := ⟨decide (n < 0), n.natAbs, 0⟩

def magnitudeFraction (x : Decimal) : Nat × Nat := scaled 10 x.coefficient 1 (-x.exponent)

/-- The order of magnitude `k`: a number other than zero is below `10 ^ k` and not below
`10 ^ (k - 1)`. -/
def order (x : Decimal) : Int := x.exponent + digitCount 10 x.coefficient

/-- The number is too large for a result of arithmetic. -/
def isTooLarge (x : Decimal) : Bool := x.coefficient != 0 && highestOrder < x.order

def neg (x : Decimal) : Decimal := { x with negative := !x.negative }

/-- The number rounded to the working precision. -/
def rounded (x : Decimal) : Decimal :=
  let extra := digitCount 10 x.coefficient - workingDigits
  if extra = 0 then x
  else ⟨x.negative, roundDiv .toEven x.coefficient (Nat.pow 10 extra), x.exponent + extra⟩

/-- The decimal number with the working precision that is nearest to `± n / d`. -/
def nearest (negative : Bool) (n d : Nat) : Decimal :=
  if n = 0 then ⟨negative, 0, 0⟩
  else
    let e := magnitude 10 n d - workingDigits
    let (n', d') := scaled 10 n d e
    ⟨negative, roundDiv .toEven n' d', e⟩

/-! ### Differences -/

/-- The coefficient, with its sign, that the number has at a smaller exponent. -/
def signedAt (x : Decimal) (e : Int) : Int :=
  let c : Int := (x.coefficient * Nat.pow 10 (x.exponent - e).toNat : Nat)
  if x.negative then -c else c

/-- Below this power of ten a summand does no more than pull the number to one side: it lies beyond
both the digits of the number and those that are kept. -/
def faintPlace (x : Decimal) : Int := min x.exponent (x.order - workingDigits) - 2

/-- The number as a summand of another one: if it is too faint for that one, the power of ten below
which summands are faint stands for it. -/
def beside (x y : Decimal) : Decimal :=
  if x.order ≤ y.faintPlace then ⟨x.negative, 1, y.faintPlace⟩ else x

/-- The difference, rounded to the working precision. -/
def sub (x y : Decimal) : Decimal :=
  if x.coefficient = 0 then y.neg.rounded
  else if y.coefficient = 0 then x.rounded
  else
    let x' := x.beside y
    let y' := y.beside x
    let e := min x'.exponent y'.exponent
    let c := x'.signedAt e - y'.signedAt e
    rounded ⟨decide (c < 0), c.natAbs, e⟩

def isPositive (x : Decimal) : Bool := x.coefficient != 0 && !x.negative

def exceeds (x : Decimal) (bound : Int) : Bool := (x.sub (ofInt bound)).isPositive

def fallsBelow (x : Decimal) (bound : Int) : Bool := ((ofInt bound).sub x).isPositive

/-! ### Percentages -/

/-- The number with two decimal places, a half rounded away from zero. -/
def toHundredths? (x : Decimal) : Option Decimal :=
  if x.coefficient = 0 || x.order < -2 then some ⟨x.negative, 0, -2⟩
  else if workingDigits < x.order + 2 then none
  else
    let (n, d) := x.magnitudeFraction
    let c := roundDiv .up (100 * n) d
    if digitCount 10 c ≤ workingDigits then some ⟨x.negative, c, -2⟩ else none

/-- The product with 100, rounded to the working precision. -/
def hundredfold (x : Decimal) : Decimal := rounded { x with coefficient := 100 * x.coefficient }

/-- The quotient by a number other than zero, rounded to the working precision. -/
def quotient (x y : Decimal) : Decimal :=
  let q := nearest (x.negative != y.negative) x.coefficient y.coefficient
  { q with exponent := q.exponent + (x.exponent - y.exponent) }

/-- The percentage that a whole number `part` is of another one, `whole`: the product with 100 and the
quotient are each rounded to the working precision. -/
def percentage (part whole : Int) : Decimal := (ofInt part).hundredfold.quotient (ofInt whole)

end Decimal
end SchoolRegister.Number
