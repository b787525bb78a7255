import SchoolRegister.Value.Quantity

/-! # Attendance rates and their movement

The attendance rate is the percentage that the actual attendance is of the possible one, with two
decimal places, a half rounded away from zero; it is zero when nothing was possible.  From one week
to the next it improves if it grows by more than two percentage points, declines if it falls by more
than two, and is stable otherwise. -/

namespace SchoolRegister.Report

open Number

/-- The double nearest to a quantity with two decimal places. -/
def roundedRate (q : Quantity) : Except Failure Binary64 :=
  q.rounded?.elim (.error .invalidDecimal) .ok

/-- The percentage that `actual` is of `possible`. -/
def attendanceRate (actual possible : Int) : Except Failure Binary64 :=
  if possible ≤ 0 then .ok Binary64.zero
  else roundedRate (.finite (Decimal.percentage actual possible))

/-- The result of arithmetic, unless it is too large. -/
def withinReach (q : Quantity) : Except Failure Quantity :=
  if q.isTooLarge then .error .oversizedDecimal else .ok q

/-- The percentage that a value is of another one, which must be a number. -/
def rateOf (actual possible : Value) : Except Failure Binary64 :=
  match actual.number?, possible.number? with
  | some (.inl a), some (.inl p) => attendanceRate a p
  | _, none => .error .badType
  | _, some p =>
    if (Value.compareNumbers p (.inl 0)).any (· != .gt) then .ok Binary64.zero
    else do
      let part ← withinReach (← actual.exactQuantity).hundredfold
      let whole ← possible.exactQuantity
      roundedRate (← withinReach (← (part.quotient? whole).elim (.error .invalidDecimal) .ok))

/-- How the attendance rate moves from one week to the next. -/
inductive TrendLabel where
  | improving
  | declining
  | stable
  deriving DecidableEq, Repr

def TrendLabel.name : TrendLabel → String
  | .improving => "improving"
  | .declining => "declining"
  | .stable => "stable"

/-- A movement by more than this many percentage points is not stable. -/
def trendThreshold : Int := 2

/-- The movement from one rate to another. -/
def classifyTrend (previous current : Quantity) : Except Failure TrendLabel :=
  match current.sub? previous with
  | none => .error .invalidDecimal
  | some .nan => .error .invalidDecimal
  | some (.infinite negative) => .ok (if negative then .declining else .improving)
  | some (.finite diff) =>
    if diff.isTooLarge then .error .oversizedDecimal
    else .ok (if diff.exceeds trendThreshold then .improving
      else if diff.fallsBelow (-trendThreshold) then .declining
      else .stable)

end SchoolRegister.Report
