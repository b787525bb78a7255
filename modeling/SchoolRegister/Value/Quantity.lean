import SchoolRegister.Failure
import SchoolRegister.Number.Reading
import SchoolRegister.Value.Naming

/-! # Values as quantities

`Value.quantity?` is the quantity that a number or a text denotes, a double having its shortest
decimal.  `Value.exactQuantity` takes a double with all of its digits, and besides texts also lists of
three members: the sign, zero or one; the list of the digits; and the power of ten of the last digit,
or a letter that makes the whole an infinity or no number. -/

namespace SchoolRegister.Value

open Number

/-- The quantity that a value denotes; only numbers and their texts denote one. -/
def quantity? : Value → Option Quantity
  | .int n => some (.ofInt n)
  | .float x => some (.ofDouble x)
  | .text s => Quantity.ofText? s
  | _ => none

/-- The numbers that a machine word holds. -/
def isMachineWord (n : Int) : Bool := -9223372036854775808 ≤ n && n ≤ 9223372036854775807

/-- A flag or a whole number that a machine word holds. -/
def machineInteger : Value → Except Failure Int
  | .bool b => .ok (if b then 1 else 0)
  | .int n => if isMachineWord n then .ok n else .error .oversizedInteger
  | _ => .error .badValue

/-- A machine integer below a bound, not negative. -/
def naturalBelow (bound : Nat) (v : Value) : Except Failure Nat := do
  let n ← v.machineInteger
  if 0 ≤ n && n < bound then return n.toNat else throw .badValue

/-- What the last of the three members of a list says: the power of ten of the last digit, an
infinity, or no number, of which the second kind is not accepted by arithmetic. -/
inductive Scale where
  | places (e : Int)
  | infinite
  | nan (accepted : Bool)

/-- The scale that a value denotes. -/
def scale (v : Value) : Except Failure Scale :=
  match v.text? with
  | some "F" => .ok .infinite
  | some "n" => .ok (.nan true)
  | some "N" => .ok (.nan false)
  | some _ => .error .badValue
  | none => .places <$> v.machineInteger

/-- The quantity with a sign, some digits and a scale. -/
def quantityOfParts (sign digits last : Value) : Except Failure Quantity := do
  let negative ← (· == 1) <$> sign.naturalBelow 2
  let scale ← last.scale
  let digits ← match digits with
    | .list ds => ds.mapM (naturalBelow 10)
    | _ => throw .badValue
  match scale with
  | .infinite => return .infinite negative
  | .nan true => return .nan
  | .nan false => throw .invalidDecimal
  | .places e => (Quantity.ofPlaces? negative digits e).elim (throw .invalidDecimal) pure

/-- The quantity that a value denotes with all of its digits. -/
def exactQuantity (v : Value) : Except Failure Quantity :=
  match v.number?, v.text? with
  | some (.inl n), _ => .ok (.ofInt n)
  | some (.inr x), _ => .ok (.exactly x)
  | none, some s => (Quantity.ofText? s).elim (.error .invalidDecimal) .ok
  | none, none =>
    match v with
    | .list [sign, digits, last] => quantityOfParts sign digits last
    | .list _ => .error .badValue
    | _ => .error .badType

end SchoolRegister.Value
