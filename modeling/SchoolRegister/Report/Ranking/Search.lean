/-! # Searching a list in order

Members that have a property stand at the start of a list, and those that lack it behind them.
`boundary?` finds the place in between by halving, and `leading?` first looks at members ever further
from the start.  The members looked at depend on nothing but the answers; when the members with the
property do not all come first, the place found is some place between one that has it and one that
lacks it.  A search fails when the property cannot be decided. -/

namespace SchoolRegister.Report.Ranking

variable {α : Type}

/-- The end of a list from which it is handled. -/
inductive Side where
  | front
  | back
  deriving DecidableEq, Repr

/-- The list as it appears from a side. -/
def Side.seen (side : Side) (l : List α) : List α :=
  match side with
  | .front => l
  | .back => l.reverse

/-- The place in the middle of two places; of two such places, the one that is nearer to the end of
the whole list. -/
def Side.middle (side : Side) (low high : Nat) : Nat :=
  match side with
  | .front => low + (high - low) / 2
  | .back => high - 1 - (high - low) / 2

theorem Side.le_middle (side : Side) {low high : Nat} (h : low < high) :
    low ≤ side.middle low high := by
  cases side <;> simp only [Side.middle] <;> omega

theorem Side.middle_lt (side : Side) {low high : Nat} (h : low < high) :
    side.middle low high < high := by
  cases side <;> simp only [Side.middle] <;> omega

/-- The place between two places where the members with a property end. -/
def boundary? (side : Side) (p? : α → Option Bool) (l : List α) (low high : Nat) : Option Nat :=
  if _h : low < high then
    match l[side.middle low high]? with
    | none => some low
    | some x =>
      match p? x with
      | none => none
      | some true => boundary? side p? l (side.middle low high + 1) high
      | some false => boundary? side p? l low (side.middle low high)
  else some low
termination_by high - low
decreasing_by
  · have := side.le_middle _h; omega
  · have := side.middle_lt _h; omega

/-- Looks at members ever further from the start until one lacks a property: the place of the last
one that has it, and of the one that lacks it or the end. -/
def stride? (p? : α → Option Bool) (l : List α) (last next : Nat) : Option (Nat × Nat) :=
  if h : next < l.length then
    match p? l[next] with
    | none => none
    | some true => stride? p? l next (2 * next + 1)
    | some false => some (last, next)
  else some (last, l.length)
termination_by l.length - next
decreasing_by omega

/-- The number of members with a property at the start of a list that is seen from a side. -/
def leading? (side : Side) (p? : α → Option Bool) (l : List α) : Option Nat := do
  match l with
  | [] => return 0
  | x :: _ =>
    if !(← p? x) then return 0
    let (last, next) ← stride? p? l 0 1
    boundary? side p? l (last + 1) next

end SchoolRegister.Report.Ranking
