/-! # Distinct members

`distinct` keeps the first occurrence of every member of a list: the result has the same members
(`mem_distinct`), each once (`nodup_distinct`).  A list may be put in another order (`distinct_perm`), it may
lose members (`distinct_filter`) and grow at its end (`distinct_concat`). -/

namespace SchoolRegister

variable {α : Type} [DecidableEq α]

/-- The members of a list in the order of their first occurrences. -/
def distinct : List α → List α
  | [] => []
  | a :: rest => a :: (distinct rest).filter (· ≠ a)

@[simp] theorem mem_distinct {a : α} {l : List α} : a ∈ distinct l ↔ a ∈ l := by
  induction l with
  | nil => simp [distinct]
  | cons b rest ih =>
    by_cases h : a = b <;> simp [distinct, ih, h]

theorem nodup_distinct (l : List α) : (distinct l).Nodup := by
  induction l with
  | nil => simp [distinct]
  | cons b rest ih =>
    rw [distinct, List.nodup_cons]
    exact ⟨by simp, ih.filter _⟩

/-- The order of a list matters only for the order of its distinct members. -/
theorem distinct_perm {l l' : List α} (h : l.Perm l') : (distinct l).Perm (distinct l') := by
  rw [List.perm_ext_iff_of_nodup (nodup_distinct l) (nodup_distinct l')]
  intro a
  rw [mem_distinct, mem_distinct, h.mem_iff]

theorem distinct_filter (p : α → Bool) (l : List α) : distinct (l.filter p) = (distinct l).filter p := by
  induction l with
  | nil => rfl
  | cons b rest ih =>
    have hcomm : ((distinct rest).filter (· ≠ b)).filter p = ((distinct rest).filter p).filter (· ≠ b) := by
      rw [List.filter_filter, List.filter_filter]
      simp only [Bool.and_comm]
    by_cases hb : p b = true
    · rw [List.filter_cons_of_pos hb, distinct, distinct, ih, List.filter_cons_of_pos hb, hcomm]
    · have hne : ∀ a ∈ (distinct rest).filter p, decide (a ≠ b) = true := by
        intro a ha
        rw [decide_eq_true_iff]
        rintro rfl
        exact hb (List.mem_filter.mp ha).2
      rw [List.filter_cons_of_neg hb, distinct, ih, List.filter_cons_of_neg hb, hcomm,
        List.filter_eq_self.mpr hne]

theorem distinct_concat (l : List α) (a : α) :
    distinct (l ++ [a]) = if a ∈ l then distinct l else distinct l ++ [a] := by
  induction l with
  | nil => rfl
  | cons b rest ih =>
    rw [List.cons_append, distinct, ih, distinct]
    by_cases hr : a ∈ rest
    · simp [hr]
    · rw [if_neg hr]
      by_cases hb : a = b <;> simp [hr, hb]

end SchoolRegister
