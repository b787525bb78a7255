/-! # The order of magnitude of a quotient

`magnitude b n d` is the exponent `k` with `b ^ (k - 1) ≤ n / d < b ^ k`, for a positive
quotient.  `scaled b n d e` is the quotient divided by `b ^ e`, again as a fraction of natural
numbers, whichever sign `e` has. -/

namespace SchoolRegister.Number

/-- How many digits a number has in base `b`, zero having none. -/
def digitCount (b n : Nat) : Nat :=
  if h : 1 < b ∧ 0 < n then digitCount b (n / b) + 1 else 0
termination_by n
decreasing_by exact Nat.div_lt_self h.2 h.1

/-- The fraction `(n / d) / b ^ e`. -/
def scaled (b n d : Nat) (e : Int) : Nat × Nat :=
  (n * Nat.pow b (-e).toNat, d * Nat.pow b e.toNat)

/-- The exponent `k` with `b ^ (k - 1) ≤ n / d < b ^ k`. -/
def magnitude (b n d : Nat) : Int :=
  let k : Int := (digitCount b n : Int) - digitCount b d
  let (n', d') := scaled b n d k
  if n' < d' then k else k + 1

theorem digitCount_zero (b : Nat) : digitCount b 0 = 0 := by
  rw [digitCount]; simp

theorem digitCount_pos {b n : Nat} (hb : 1 < b) (hn : 0 < n) :
    digitCount b n = digitCount b (n / b) + 1 := by
  rw [digitCount]; simp [hb, hn]

theorem lt_pow_digitCount {b : Nat} (hb : 1 < b) (n : Nat) : n < Nat.pow b (digitCount b n) := by
  induction n using Nat.strongRecOn with
  | ind n ih =>
    rcases Nat.eq_zero_or_pos n with rfl | hn
    · simp [digitCount_zero]
    · rw [digitCount_pos hb hn]
      exact (Nat.div_lt_iff_lt_mul (Nat.lt_of_succ_lt hb)).mp (ih _ (Nat.div_lt_self hn hb))

theorem pow_le_of_digitCount {b n : Nat} (hb : 1 < b) (hn : 0 < n) :
    Nat.pow b (digitCount b n - 1) ≤ n := by
  induction n using Nat.strongRecOn with
  | ind n ih =>
    rw [digitCount_pos hb hn, Nat.add_sub_cancel]
    rcases Nat.eq_zero_or_pos (n / b) with h0 | h0
    · rw [h0, digitCount_zero]; exact hn
    · have h := ih _ (Nat.div_lt_self hn hb) h0
      have hs : digitCount b (n / b) = digitCount b (n / b) - 1 + 1 := by
        rw [digitCount_pos hb h0]; rfl
      rw [hs]
      exact (Nat.le_div_iff_mul_le (Nat.lt_of_succ_lt hb)).mp h

end SchoolRegister.Number
