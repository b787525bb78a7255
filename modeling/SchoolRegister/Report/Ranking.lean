import SchoolRegister.Report.Ranking.Merge

/-! # Ranking

`ranked? before? l` puts the members of a list in order, given which of two comes before the other; it
fails when it has to compare two members that cannot be compared.  If of any two members one comes
before the other, the result is the list in that order.  If some pair is left open, the order of the
list matters as well: the list is cut into runs (`nextRun?`), a falling one turned round and a short one
extended by insertion, and neighbouring runs are merged in an order that depends on where they lie
(`boundaryDepth`). -/

namespace SchoolRegister.Report

namespace Ranking

variable {α : Type}

/-- Of two members, one comes before the other. -/
def isDecidedPair (before? : α → α → Option Bool) (a b : α) : Bool :=
  match before? a b, before? b a with
  | some x, some y => x || y
  | _, _ => false

/-- Of any two members, one comes before the other. -/
def isDecided (before? : α → α → Option Bool) : List α → Bool
  | [] => true
  | a :: rest => rest.all (isDecidedPair before? a) && isDecided before? rest

/-! ### Runs -/

/-- How many members from the start each come before their predecessor, or each do not. -/
def runLength? (before? : α → α → Option Bool) (falling : Bool) (previous : α) :
    List α → Option Nat
  | [] => some 0
  | a :: rest => do
    if (← before? a previous) == falling then
      return (← runLength? before? falling a rest) + 1
    else return 0

/-- The run at the start of a list, in rising order, and the rest. -/
def firstRun? (before? : α → α → Option Bool) : List α → Option (List α × List α)
  | a :: b :: rest => do
    let falling ← before? b a
    let n ← runLength? before? falling b rest
    let run := a :: b :: rest.take n
    return (if falling then run.reverse else run, rest.drop n)
  | l => some (l, [])

/-- The list with one more member at its place. -/
def insertRanked? (before? : α → α → Option Bool) (l : List α) (x : α) : Option (List α) :=
  (boundary? .front (fun y => (before? x y).map (!·)) l 0 l.length).map fun place =>
    l.take place ++ x :: l.drop place

/-- The run at the start of a list and the rest; a run that is too short takes in further members. -/
def nextRun? (before? : α → α → Option Bool) (shortest : Nat) (l : List α) :
    Option (List α × List α) := do
  let (run, rest) ← firstRun? before? l
  let missing := shortest - run.length
  return (← (rest.take missing).foldlM (insertRanked? before?) run, rest.drop missing)

/-- The length of a list below which it is handled as one run. -/
def longRun : Nat := 64

/-- The shortest run in a list of some length: its first six binary digits, rounded up. -/
def shortestRun (length : Nat) : Nat :=
  if length < longRun then length
  else
    let k := Nat.log2 length - 5
    (length + Nat.pow 2 k - 1) / Nat.pow 2 k

/-! ### The order of merges -/

/-- A run: where it starts in the list, its members, and the depth of the boundary behind it. -/
structure Run (α : Type) where
  start : Nat
  members : List α
  depth : Nat := 0

/-- How often the list has to be halved until the middles of two neighbouring runs, given in half
members, lie in different parts. -/
def boundaryDepth (length a b : Nat) : Nat → Nat
  | 0 => 0
  | fuel + 1 =>
    if length ≤ a then boundaryDepth length (2 * (a - length)) (2 * (b - length)) fuel + 1
    else if length ≤ b then 1
    else boundaryDepth length (2 * a) (2 * b) fuel + 1

/-- The runs that wait to be merged, the last one first, and the patience of the next merge. -/
structure Pending (α : Type) where
  runs : List (Run α) := []
  patience : Nat := Merge.worthwhile

/-- Two neighbouring runs as one. -/
def joined? (before? : α → α → Option Bool) (patience : Nat) (a b : Run α) :
    Option (Nat × Run α) :=
  (merge? before? patience a.members b.members).map fun (patience, members) =>
    (patience, { a with members := members })

/-- Merges the last two runs as long as the boundary between them is deeper than the one behind
them. -/
def settle? (before? : α → α → Option Bool) (depth : Nat) (patience : Nat) (last : Run α) :
    List (Run α) → Option (Pending α)
  | [] => some ⟨[{ last with depth := depth }], patience⟩
  | a :: earlier =>
    if depth < a.depth then do
      let (patience, run) ← joined? before? patience a last
      settle? before? depth patience run earlier
    else some ⟨{ last with depth := depth } :: a :: earlier, patience⟩

/-- The waiting runs with one more. -/
def Pending.push? (before? : α → α → Option Bool) (length : Nat) (p : Pending α)
    (members : List α) : Option (Pending α) :=
  match p.runs with
  | [] => some { p with runs := [⟨0, members, 0⟩] }
  | last :: earlier => do
    let middle := 2 * last.start + last.members.length
    let depth := boundaryDepth length middle
      (middle + last.members.length + members.length) (length + 1)
    let settled ← settle? before? depth p.patience last earlier
    return { settled with
      runs := ⟨last.start + last.members.length, members, 0⟩ :: settled.runs }

/-- Merges all waiting runs: the last two, unless the one before them is shorter than the last. -/
def mergeAll? (before? : α → α → Option Bool) (patience : Nat) : List (Run α) → Option (List α)
  | [] => some []
  | [a] => some a.members
  | [b, a] => do return (← joined? before? patience a b).2.members
  | c :: b :: a :: earlier => do
    if a.members.length < c.members.length then
      let (patience, ab) ← joined? before? patience a b
      mergeAll? before? patience (c :: ab :: earlier)
    else
      let (patience, bc) ← joined? before? patience b c
      mergeAll? before? patience (bc :: a :: earlier)
termination_by runs => runs.length

/-- Cuts a list into runs, which wait to be merged. -/
def collect? (before? : α → α → Option Bool) (length : Nat) (p : Pending α) (l : List α) :
    Nat → Option (Pending α)
  | 0 => some p
  | fuel + 1 =>
    if l.isEmpty then some p
    else do
      let (run, rest) ← nextRun? before? (shortestRun length) l
      collect? before? length (← p.push? before? length run) rest fuel

def merged? (before? : α → α → Option Bool) (l : List α) : Option (List α) := do
  let p ← collect? before? l.length {} l l.length
  mergeAll? before? p.patience p.runs

end Ranking

/-- The members of a list in order. -/
def ranked? {α : Type} (before? : α → α → Option Bool) (l : List α) : Option (List α) :=
  if Ranking.isDecided before? l then some (l.mergeSort fun a b => before? b a != some true)
  else Ranking.merged? before? l

end SchoolRegister.Report
