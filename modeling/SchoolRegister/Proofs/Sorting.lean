import Mathlib.Data.List.Basic
import Mathlib.Order.Lattice

/-! # Sorted lists

Sorting by a rank puts the members of a list in the order of their ranks (`pairwise_mergeSort_of_rank`).
If no two members have the same rank, the sorted list does not depend on the order in which they were
given (`mergeSort_eq_of_perm`).  Sorting is stable: the first member comes before all others that do not rank
before it (`exists_mergeSort_cons`), so what is selected may be selected before or after sorting
(`filter_mergeSort`). -/

namespace SchoolRegister

variable {α β : Type} [LinearOrder β] {le : α → α → Bool} {rank : α → β} {l l' : List α}

theorem pairwise_mergeSort_of_rank (hle : ∀ a b, le a b = true ↔ rank a ≤ rank b) (l : List α) :
    (l.mergeSort le).Pairwise fun a b => rank a ≤ rank b := by
  refine (List.pairwise_mergeSort ?_ ?_ l).imp fun {a b} hab => (hle a b).mp hab
  · intro a b c hab hbc
    exact (hle a c).mpr (le_trans ((hle a b).mp hab) ((hle b c).mp hbc))
  · intro a b
    rw [Bool.or_eq_true, hle, hle]
    exact le_total _ _

theorem mergeSort_eq_of_perm (hle : ∀ a b, le a b = true ↔ rank a ≤ rank b) (h : l.Perm l')
    (hrank : ∀ a ∈ l, ∀ b ∈ l, rank a = rank b → a = b) : l.mergeSort le = l'.mergeSort le := by
  apply List.Perm.eq_of_pairwise _ (pairwise_mergeSort_of_rank hle l) (pairwise_mergeSort_of_rank hle l')
  · exact (List.mergeSort_perm _ _).trans (h.trans (List.mergeSort_perm _ _).symm)
  · intro a b ha hb hab hba
    rw [List.mem_mergeSort] at ha hb
    exact hrank a ha b (h.mem_iff.mpr hb) (le_antisymm hab hba)

/-- The first member of a list comes behind those that rank before it and before all others. -/
theorem exists_mergeSort_cons (hle : ∀ a b, le a b = true ↔ rank a ≤ rank b) (a : α) (l : List α) :
    ∃ before after, (a :: l).mergeSort le = before ++ a :: after ∧ l.mergeSort le = before ++ after ∧
      (∀ b ∈ before, le a b = false) ∧ ∀ b ∈ after, le a b = true := by
  have htrans : ∀ a b c, le a b = true → le b c = true → le a c = true := by
    intro a b c hab hbc
    exact (hle a c).mpr (le_trans ((hle a b).mp hab) ((hle b c).mp hbc))
  have htotal : ∀ a b, (le a b || le b a) = true := by
    intro a b
    rw [Bool.or_eq_true, hle, hle]
    exact le_total _ _
  obtain ⟨before, after, hcons, hl, hbefore⟩ := List.mergeSort_cons htrans htotal a l
  refine ⟨before, after, hcons, hl, ?_, ?_⟩
  · simpa using hbefore
  · have hsorted := List.pairwise_mergeSort htrans htotal (a :: l)
    rw [hcons, List.pairwise_append, List.pairwise_cons] at hsorted
    exact hsorted.2.1.1

theorem mergeSort_cons_eq_filter (hle : ∀ a b, le a b = true ↔ rank a ≤ rank b) (a : α) (l : List α) :
    (a :: l).mergeSort le = (l.mergeSort le).filter (!le a ·) ++ a :: (l.mergeSort le).filter (le a ·) := by
  obtain ⟨before, after, hcons, hl, hbefore, hafter⟩ := exists_mergeSort_cons hle a l
  have hleft : (before ++ after).filter (!le a ·) = before := by
    rw [List.filter_append, List.filter_eq_self.mpr, List.filter_eq_nil_iff.mpr, List.append_nil]
    · simpa using hafter
    · simpa using hbefore
  have hright : (before ++ after).filter (le a ·) = after := by
    rw [List.filter_append, List.filter_eq_nil_iff.mpr, List.filter_eq_self.mpr hafter, List.nil_append]
    simpa using hbefore
  rw [hcons, hl, hleft, hright]

/-- What is selected of a list may be selected before or after sorting. -/
theorem filter_mergeSort (hle : ∀ a b, le a b = true ↔ rank a ≤ rank b) (p : α → Bool) (l : List α) :
    (l.mergeSort le).filter p = (l.filter p).mergeSort le := by
  induction l with
  | nil => simp
  | cons a rest ih =>
      by_cases hp : p a = true
      · have hcomm : ∀ q : α → Bool, ((rest.mergeSort le).filter q).filter p =
            ((rest.filter p).mergeSort le).filter q := by
          intro q
          rw [← ih, List.filter_filter, List.filter_filter]
          simp only [Bool.and_comm]
        rw [List.filter_cons_of_pos hp, mergeSort_cons_eq_filter hle, mergeSort_cons_eq_filter hle,
          List.filter_append, List.filter_cons_of_pos hp, hcomm, hcomm]
      · obtain ⟨before, after, hcons, hl, _, _⟩ := exists_mergeSort_cons hle a rest
        rw [List.filter_cons_of_neg hp, ← ih, hcons, hl, List.filter_append, List.filter_append,
          List.filter_cons_of_neg hp]

/-- If what is selected comes before all else, the rest may be put behind it again. -/
theorem filter_append_filter_not {r : α → α → Prop} {p : α → Bool} (h : l.Pairwise r)
    (hp : ∀ a b, r a b → p b = true → p a = true) : l.filter p ++ l.filter (!p ·) = l := by
  induction l with
  | nil => rfl
  | cons a rest ih =>
      obtain ⟨ha, hrest⟩ := List.pairwise_cons.mp h
      cases hpa : p a with
      | true => simp [hpa, ih hrest]
      | false =>
          have hnone : ∀ b ∈ rest, p b = false := by
            intro b hb
            rw [Bool.eq_false_iff]
            intro hpb
            rw [hp a b (ha b hb) hpb] at hpa
            cases hpa
          have hnil : rest.filter p = [] := by simpa using hnone
          have hself : rest.filter (!p ·) = rest := by simpa using hnone
          simp [hpa, hnil, hself]

theorem eq_of_perm_of_forall_eq (h : l.Perm l') (he : ∀ a ∈ l, ∀ b ∈ l, a = b) : l = l' := by
  have unordered : ∀ l : List α, l.Pairwise fun _ _ => True :=
    fun l => List.pairwise_of_forall fun _ _ => trivial
  apply List.Perm.eq_of_pairwise _ (unordered l) (unordered l') h
  intro a b ha hb _ _
  exact he a ha b (h.mem_iff.mpr hb)

end SchoolRegister
