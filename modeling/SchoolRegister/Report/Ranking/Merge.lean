import SchoolRegister.Report.Ranking.Search

/-! # Merging two runs

Two runs in order, `a` before `b`, become one; of two members of which neither comes first, the one of
`a` does.  What cannot change its place is left alone: the start of `a` and the end of `b`.  The rest is
merged from the side where the shorter run lies, that run being kept aside.  Members are taken one at a
time until one run is ahead `patience` times in a row; from then on the members of either run that come
next are searched for and taken together, for as long as that pays.  The patience sinks while it pays
and rises when it does not, and is handed on to the next merge. -/

namespace SchoolRegister.Report.Ranking

variable {α : Type}

/-- A merge under way: what is taken so far, the last one first, and what remains of the run that is
kept aside and of the other one. -/
structure Merge (α : Type) where
  taken : List α := []
  kept : List α
  other : List α

namespace Merge

/-- Nothing is left to be compared: the other run is used up, or one member at most is kept aside. -/
def isOver (m : Merge α) : Bool := m.other.isEmpty || m.kept.length ≤ 1

/-- The members in order when nothing is left to be compared. -/
def result (m : Merge α) : List α := m.taken.reverse ++ m.other ++ m.kept

/-- Takes some members that are kept aside. -/
def takeKept (m : Merge α) (n : Nat) : Merge α :=
  { m with taken := (m.kept.take n).reverse ++ m.taken, kept := m.kept.drop n }

/-- Takes some members of the other run. -/
def takeOther (m : Merge α) (n : Nat) : Merge α :=
  { m with taken := (m.other.take n).reverse ++ m.taken, other := m.other.drop n }

/-- Takes members one at a time until the merge is over or one run is ahead often enough in a row;
`otherFirst?` tells whether a member of the other run goes before one that is kept aside. -/
def alternate? (otherFirst? : α → α → Option Bool) (patience : Nat) (m : Merge α)
    (keptStreak otherStreak : Nat) : Nat → Option (Merge α)
  | 0 => some m
  | fuel + 1 =>
    match m.other, m.kept with
    | o :: _, k :: _ =>
      (otherFirst? o k).bind fun ahead =>
        let m' := if ahead then m.takeOther 1 else m.takeKept 1
        let kept := if ahead then 0 else keptStreak + 1
        let other := if ahead then otherStreak + 1 else 0
        if m'.isOver || patience ≤ max kept other then some m'
        else alternate? otherFirst? patience m' kept other fuel
    | _, _ => some m

/-- Takes the members kept aside that go before the next one of the other run, and then that one; tells
how many there were. -/
def strideKept? (side : Side) (otherFirst? : α → α → Option Bool) (m : Merge α) :
    Option (Nat × Merge α) :=
  match m.other with
  | [] => some (0, m)
  | o :: _ => do
    let n ← leading? side (fun k => (otherFirst? o k).map (!·)) m.kept
    let m := m.takeKept n
    return (n, if m.isOver then m else m.takeOther 1)

/-- Takes the members of the other run that go before the next one kept aside, and then that one; tells
how many there were. -/
def strideOther? (side : Side) (otherFirst? : α → α → Option Bool) (m : Merge α) :
    Option (Nat × Merge α) :=
  match m.kept with
  | [] => some (0, m)
  | k :: _ => do
    let n ← leading? side (fun o => otherFirst? o k) m.other
    let m := m.takeOther n
    return (n, if m.isOver then m else m.takeKept 1)

/-- The strides of the two runs: that of `a` comes first, whichever run is kept aside. -/
def strides (side : Side) (otherFirst? : α → α → Option Bool) :
    (Merge α → Option (Nat × Merge α)) × (Merge α → Option (Nat × Merge α)) :=
  match side with
  | .front => (strideKept? side otherFirst?, strideOther? side otherFirst?)
  | .back => (strideOther? side otherFirst?, strideKept? side otherFirst?)

/-- The patience at first, and the number of members from which on a stride pays. -/
def worthwhile : Nat := 7

/-- Takes members in strides for as long as that pays or until the merge is over; tells the patience
afterwards. -/
def stride? (side : Side) (otherFirst? : α → α → Option Bool) (patience : Nat) (m : Merge α) :
    Nat → Option (Nat × Merge α)
  | 0 => some (patience, m)
  | fuel + 1 => do
    let patience := if 1 < patience then patience - 1 else patience
    let (first, second) := strides side otherFirst?
    let (n, m) ← first m
    if m.isOver then return (patience, m)
    let (n', m) ← second m
    if m.isOver then return (patience, m)
    if worthwhile ≤ max n n' then stride? side otherFirst? patience m fuel
    else return (patience + 1, m)

/-- Merges to the end; tells the patience afterwards. -/
def finish? (side : Side) (otherFirst? : α → α → Option Bool) (patience : Nat) (m : Merge α) :
    Nat → Option (Nat × Merge α)
  | 0 => some (patience, m)
  | fuel + 1 => do
    if m.isOver then return (patience, m)
    let m ← alternate? otherFirst? patience m 0 0 (m.kept.length + m.other.length)
    if m.isOver then return (patience, m)
    let (patience, m) ←
      stride? side otherFirst? (patience + 1) m (m.kept.length + m.other.length)
    finish? side otherFirst? patience m fuel

end Merge

/-- Merges two runs from the side where the shorter one lies. -/
def mergeRest? (before? : α → α → Option Bool) (patience : Nat) (a b : List α) :
    Option (Nat × List α) := do
  let side := if a.length ≤ b.length then Side.front else .back
  let (kept, other) := if a.length ≤ b.length then (a, b) else (b, a)
  let otherFirst? := fun o k => if a.length ≤ b.length then before? o k else before? k o
  let start := Merge.takeOther { kept := side.seen kept, other := side.seen other } 1
  let (patience, m) ← start.finish? side otherFirst? patience (a.length + b.length)
  return (patience, side.seen m.result)

/-- Merges two runs; tells the patience afterwards. -/
def merge? (before? : α → α → Option Bool) (patience : Nat) (a b : List α) :
    Option (Nat × List α) :=
  match b with
  | [] => some (patience, a)
  | x :: _ => do
    let skipped ← leading? .front (fun y => (before? x y).map (!·)) a
    match (a.drop skipped).getLast? with
    | none => return (patience, a ++ b)
    | some last =>
      let left ← leading? .back (fun y => (before? y last).map (!·)) b.reverse
      let concerned := b.length - left
      if concerned = 0 then return (patience, a ++ b)
      let (patience, merged) ← mergeRest? before? patience (a.drop skipped) (b.take concerned)
      return (patience, a.take skipped ++ merged ++ b.drop concerned)

end SchoolRegister.Report.Ranking
