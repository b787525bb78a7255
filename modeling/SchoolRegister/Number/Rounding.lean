/-! # Rounding a quotient to a whole number

`roundDiv tie n d` is a whole number nearest to `n / d`; `tie` says what becomes of a quotient
that lies half way between two.  The result is within half a unit of the quotient
(`two_mul_roundDiv_le`, `le_two_mul_roundDiv`). -/

namespace SchoolRegister.Number

/-- Where a half goes: to the larger magnitude, or to the even neighbour. -/
inductive Tie where
  | up
  | toEven
  deriving DecidableEq, Repr

/-- The whole number nearest to `n / d`. -/
def roundDiv (tie : Tie) (n d : Nat) : Nat :=
  let q := n / d
  let r := n % d
  if 2 * r < d then q
  else if d < 2 * r then q + 1
  else match tie with
    | .up => q + 1
    | .toEven => q + q % 2

theorem roundDiv_eq_or (tie : Tie) (n d : Nat) :
    roundDiv tie n d = n / d ∨ roundDiv tie n d = n / d + 1 := by
  unfold roundDiv
  cases tie <;> dsimp only <;> split <;> (try split) <;> omega

theorem two_mul_roundDiv_le (tie : Tie) (n : Nat) {d : Nat} (hd : 0 < d) :
    2 * (roundDiv tie n d * d) ≤ 2 * n + d := by
  have hm : d * (n / d) + n % d = n := Nat.div_add_mod n d
  have hlt : n % d < d := Nat.mod_lt n hd
  have key : ∀ q, roundDiv tie n d = q → q = n / d ∨ (q = n / d + 1 ∧ d ≤ 2 * (n % d)) := by
    intro q hq
    unfold roundDiv at hq
    cases tie <;> dsimp only at hq <;> split at hq <;> (try split at hq) <;> omega
  rcases key _ rfl with h | ⟨h, hr⟩ <;> rw [h]
  · rw [Nat.mul_comm (n / d) d]; omega
  · rw [Nat.add_mul, Nat.mul_comm (n / d) d]; omega

theorem le_two_mul_roundDiv (tie : Tie) (n : Nat) {d : Nat} (hd : 0 < d) :
    2 * n ≤ 2 * (roundDiv tie n d * d) + d := by
  have hm : d * (n / d) + n % d = n := Nat.div_add_mod n d
  have hlt : n % d < d := Nat.mod_lt n hd
  have key : ∀ q, roundDiv tie n d = q → (q = n / d ∧ 2 * (n % d) ≤ d) ∨ q = n / d + 1 := by
    intro q hq
    unfold roundDiv at hq
    cases tie <;> dsimp only at hq <;> split at hq <;> (try split at hq) <;> omega
  rcases key _ rfl with ⟨h, hr⟩ | h <;> rw [h]
  · rw [Nat.mul_comm (n / d) d]; omega
  · rw [Nat.add_mul, Nat.mul_comm (n / d) d]; omega

end SchoolRegister.Number
