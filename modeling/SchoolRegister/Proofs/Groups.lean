import Mathlib.Algebra.BigOperators.Group.List.Basic
import Mathlib.Algebra.GroupWithZero.Nat
import SchoolRegister.School.Grouping

/-! # Groups of a list

A list is grouped by the keys of its members.  If every key is among some distinct ones, the groups of
these are the list again but for its order (`flatMap_groups_perm`), so nothing is lost and nothing is
counted twice: what is added up or counted group by group is what is added up or counted at once
(`sum_groups`, `countP_groups`). -/

namespace SchoolRegister

variable {α κ : Type} [DecidableEq κ] {key : α → κ} {ks : List κ} {l : List α}

/-- The groups of a list are its members. -/
theorem flatMap_groups_perm (hn : ks.Nodup) (h : ∀ a ∈ l, key a ∈ ks) :
    (ks.flatMap fun k => l.filter fun a => key a = k).Perm l := by
  induction ks generalizing l with
  | nil =>
      have hl : l = [] := List.eq_nil_iff_forall_not_mem.mpr fun a ha => List.not_mem_nil (h a ha)
      rw [hl, List.flatMap_nil]
  | cons k rest ih =>
      obtain ⟨hk, hrest⟩ := List.nodup_cons.mp hn
      have hother : ∀ a ∈ l.filter (fun a => !decide (key a = k)), key a ∈ rest := by
        intro a ha
        obtain ⟨ha, hne⟩ := List.mem_filter.mp ha
        refine (List.mem_cons.mp (h a ha)).resolve_left fun e => ?_
        simp [e] at hne
      -- the groups of the other keys lie in what the first group leaves
      have hgroups : (rest.flatMap fun k' => l.filter fun a => key a = k') =
          rest.flatMap fun k' => (l.filter fun a => !decide (key a = k)).filter fun a => key a = k' := by
        refine List.flatMap_congr fun k' hk' => ?_
        rw [List.filter_filter]
        refine List.filter_congr fun a _ => ?_
        have hne : k' ≠ k := fun e => hk (e ▸ hk')
        by_cases e : key a = k' <;> simp [e, hne]
      rw [List.flatMap_cons, hgroups]
      exact ((ih hrest hother).append_left _).trans (List.filter_append_perm _ l)

theorem sum_groups {M : Type} [AddCommMonoid M] (hn : ks.Nodup) (h : ∀ a ∈ l, key a ∈ ks)
    (f : α → M) :
    (ks.map fun k => ((l.filter fun a => key a = k).map f).sum).sum = (l.map f).sum := by
  have hflat : ∀ ks : List κ, (ks.map fun k => ((l.filter fun a => key a = k).map f).sum).sum =
      ((ks.flatMap fun k => l.filter fun a => key a = k).map f).sum := by
    intro ks
    induction ks with
    | nil => rfl
    | cons k rest ih =>
        rw [List.map_cons, List.sum_cons, ih, List.flatMap_cons, List.map_append, List.sum_append]
  rw [hflat]
  exact ((flatMap_groups_perm hn h).map f).sum_eq

theorem countP_groups (hn : ks.Nodup) (h : ∀ a ∈ l, key a ∈ ks) (p : α → Bool) :
    (ks.map fun k => (l.filter fun a => key a = k).countP p).sum = l.countP p := by
  rw [← (flatMap_groups_perm hn h).countP_eq p, List.countP_flatMap]
  rfl

end SchoolRegister
