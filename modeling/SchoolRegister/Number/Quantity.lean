import SchoolRegister.Number.Binary64

/-! # Quantities

A quantity is a number taken for decimal arithmetic: a decimal number, an infinity, or not a
number.  A double enters with its shortest decimal, or with all of its digits. -/

namespace SchoolRegister.Number

/-- A number for decimal arithmetic. -/
inductive Quantity where
  | finite (x : Decimal)
  | infinite (negative : Bool)
  | nan
  deriving DecidableEq, Repr

namespace Quantity

/-- A double with its shortest decimal. -/
def ofDouble : Binary64 → Quantity
  | .finite negative m e =>
    let (c, g) := Binary64.shortestMagnitude m e
    .finite ⟨negative, c, g⟩
  | .infinite negative => .infinite negative
  | .nan => .nan

/-- A double with all of its digits. -/
def exactly : Binary64 → Quantity
  | .finite negative m e =>
    .finite ⟨negative, m * Nat.pow 2 e.toNat * Nat.pow 5 (-e).toNat, min e 0⟩
  | .infinite negative => .infinite negative
  | .nan => .nan

def ofInt (n : Int) : Quantity := .finite (Decimal.ofInt n)

/-- The difference; infinities of one sign have none. -/
def sub? : Quantity → Quantity → Option Quantity
  | .nan, _ => some .nan
  | _, .nan => some .nan
  | .infinite s, .infinite t => if s = t then none else some (.infinite s)
  | .infinite s, .finite _ => some (.infinite s)
  | .finite _, .infinite t => some (.infinite (!t))
  | .finite x, .finite y => some (.finite (x.sub y))

def hundredfold : Quantity → Quantity
  | .finite x => .finite x.hundredfold
  | q => q

/-- The quotient by a quantity other than zero; infinities have none. -/
def quotient? : Quantity → Quantity → Option Quantity
  | .nan, _ => some .nan
  | _, .nan => some .nan
  | .infinite _, .infinite _ => none
  | .infinite s, .finite y => some (.infinite (s != y.negative))
  | .finite x, .infinite t => some (.finite ⟨x.negative != t, 0, 0⟩)
  | .finite x, .finite y => some (.finite (x.quotient y))

def isTooLarge : Quantity → Bool
  | .finite x => x.isTooLarge
  | _ => false

/-- The double nearest to the quantity with two decimal places. -/
def rounded? : Quantity → Option Binary64
  | .finite x => x.toHundredths?.map Binary64.ofDecimal
  | .infinite _ => none
  | .nan => some .nan

end Quantity
end SchoolRegister.Number
