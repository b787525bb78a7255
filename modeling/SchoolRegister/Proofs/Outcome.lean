import Mathlib.Data.List.Forall2
import SchoolRegister.Failure

/-! # Outcomes that are alike

Two outcomes are `Alike` if both fail in the same way or their results are related.  What is computed in
steps is alike if every step is (`Alike.bind`), and so is what is computed of each member of a list
(`Alike.mapM`).  The order of the members matters only for the order of the results, as long as there is
one way to fail (`Alike.mapM_perm`). -/

namespace SchoolRegister

variable {α β γ δ : Type}

/-- Both outcomes are the same failure, or they are results that are related. -/
def Alike (R : α → β → Prop) : Except Failure α → Except Failure β → Prop
  | .ok a, .ok b => R a b
  | .error f, .error g => f = g
  | _, _ => False

/-- What is computed of each member after a change may be changed afterwards instead. -/
theorem mapM_map_eq {f : β → Except Failure δ} {f' : α → Except Failure γ} {g : α → β} {h : γ → δ}
    (hf : ∀ a, f (g a) = (f' a).map h) (l : List α) :
    (l.map g).mapM f = (l.mapM f').map fun cs => cs.map h := by
  induction l with
  | nil => rfl
  | cons a rest ih =>
      rw [List.map_cons, List.mapM_cons, List.mapM_cons, ih, hf]
      cases f' a with
      | error e => rfl
      | ok c => cases rest.mapM f' <;> rfl

theorem bind_eq_ok {x : Except Failure α} {f : α → Except Failure γ} {c : γ} :
    (x >>= f) = .ok c ↔ ∃ a, x = .ok a ∧ f a = .ok c := by
  cases x with
  | error e =>
      constructor
      · intro h
        cases h
      · rintro ⟨a, h, _⟩
        cases h
  | ok a =>
      constructor
      · intro h
        exact ⟨a, rfl, h⟩
      · rintro ⟨b, e, h⟩
        cases e
        exact h

theorem bind_eq_error {x : Except Failure α} {k : α → Except Failure γ} {f : Failure} :
    (x >>= k) = .error f ↔ x = .error f ∨ ∃ a, x = .ok a ∧ k a = .error f := by
  cases x with
  | error g => simp [bind, Except.bind]
  | ok a => simp [bind, Except.bind]

theorem map_eq_ok {x : Except Failure α} {f : α → γ} {c : γ} :
    x.map f = .ok c ↔ ∃ a, x = .ok a ∧ f a = c := by
  cases x <;> simp [Except.map]

/-! ### Lists of results -/

/-- What is read off the results of a list of computations, if each result tells it of its member. -/
theorem map_eq_of_mapM {f : α → Except Failure γ} {g : γ → δ} {h : α → δ} {l : List α} {cs : List γ}
    (hf : ∀ a ∈ l, ∀ c, f a = .ok c → g c = h a) (hm : l.mapM f = .ok cs) : cs.map g = l.map h := by
  induction l generalizing cs with
  | nil => cases hm; rfl
  | cons a rest ih =>
      rw [List.mapM_cons] at hm
      obtain ⟨c, hc, hm⟩ := bind_eq_ok.mp hm
      obtain ⟨ds, hr, hm⟩ := bind_eq_ok.mp hm
      cases hm
      rw [List.map_cons, List.map_cons, hf a List.mem_cons_self c hc,
        ih (fun b hb => hf b (List.mem_cons_of_mem a hb)) hr]

/-- What is read off the results that are found, if one is found for each member. -/
theorem map_filterMap_of_mapM {f : α → Except Failure (Option γ)} {g : γ → δ} {h : α → δ} {l : List α}
    {found : List (Option γ)} (hf : ∀ a ∈ l, ∀ o, f a = .ok o → o.map g = some (h a))
    (hm : l.mapM f = .ok found) : (found.filterMap id).map g = l.map h := by
  have hall : found.map (Option.map g) = (l.map h).map some := by
    rw [List.map_map]
    exact map_eq_of_mapM hf hm
  calc (found.filterMap id).map g
      = (found.map (Option.map g)).filterMap id := by
        rw [List.map_filterMap, List.filterMap_map]
        rfl
    _ = l.map h := by
        rw [hall, List.filterMap_map]
        exact List.filterMap_some

/-- What is computed of each member of a list is what the members of another one tell. -/
theorem mapM_eq_map {f : α → Except Failure γ} {g : β → γ} {l : List α} {bs : List β}
    (h : List.Forall₂ (fun b a => f a = .ok (g b)) bs l) : l.mapM f = .ok (bs.map g) := by
  induction h with
  | nil => rfl
  | cons hba _ ih =>
      rw [List.mapM_cons, hba, ih]
      rfl

theorem mapM_congr {f f' : α → Except Failure γ} {l : List α} (h : ∀ a ∈ l, f a = f' a) :
    l.mapM f = l.mapM f' := by
  induction l with
  | nil => rfl
  | cons a rest ih =>
      rw [List.mapM_cons, List.mapM_cons, h a List.mem_cons_self, ih fun b hb => h b (List.mem_cons_of_mem a hb)]

theorem mapM_filter_eq {f : α → Except Failure γ} {g : γ → α} {p : α → Bool} {l : List α} {cs : List γ}
    (hf : ∀ a ∈ l, ∀ c, f a = .ok c → g c = a) (hm : l.mapM f = .ok cs) :
    (l.filter p).mapM f = .ok (cs.filter fun c => p (g c)) := by
  induction l generalizing cs with
  | nil => cases hm; rfl
  | cons a rest ih =>
      rw [List.mapM_cons] at hm
      obtain ⟨c, hc, hm⟩ := bind_eq_ok.mp hm
      obtain ⟨ds, hr, hm⟩ := bind_eq_ok.mp hm
      cases hm
      have hrest := ih (fun b hb => hf b (List.mem_cons_of_mem a hb)) hr
      have hg := hf a List.mem_cons_self c hc
      cases hp : p a with
      | true =>
          rw [List.filter_cons_of_pos hp, List.filter_cons_of_pos (by rw [hg, hp]), List.mapM_cons, hc, hrest]
          rfl
      | false => rw [List.filter_cons_of_neg (by simp [hp]), List.filter_cons_of_neg (by simp [hg, hp]), hrest]

theorem exists_mapM {f : α → Except Failure γ} {l : List α} (h : ∀ a ∈ l, ∃ c, f a = .ok c) :
    ∃ cs, l.mapM f = .ok cs := by
  induction l with
  | nil => exact ⟨[], rfl⟩
  | cons a rest ih =>
      obtain ⟨c, hc⟩ := h a List.mem_cons_self
      obtain ⟨cs, hcs⟩ := ih fun b hb => h b (List.mem_cons_of_mem a hb)
      exact ⟨c :: cs, by rw [List.mapM_cons, hc, hcs]; rfl⟩

theorem isOk_mapM {f : α → Except Failure γ} (l : List α) : (l.mapM f).isOk = l.all fun a => (f a).isOk := by
  induction l with
  | nil => rfl
  | cons a rest ih =>
      rw [List.mapM_cons, List.all_cons, ← ih]
      cases f a with
      | error e => rfl
      | ok c => cases rest.mapM f <;> rfl

theorem exists_of_mem_mapM {f : α → Except Failure γ} {l : List α} {cs : List γ} {c : γ}
    (hm : l.mapM f = .ok cs) (hc : c ∈ cs) : ∃ a ∈ l, f a = .ok c := by
  induction l generalizing cs with
  | nil => cases hm; exact absurd hc List.not_mem_nil
  | cons a rest ih =>
      rw [List.mapM_cons] at hm
      obtain ⟨b, hb, hm⟩ := bind_eq_ok.mp hm
      obtain ⟨bs, hr, hm⟩ := bind_eq_ok.mp hm
      cases hm
      rcases List.mem_cons.mp hc with rfl | hc
      · exact ⟨a, List.mem_cons_self, hb⟩
      · obtain ⟨a', ha, h⟩ := ih hr hc
        exact ⟨a', List.mem_cons_of_mem a ha, h⟩

/-- A list of computations with one way to fail fails if one of them does. -/
theorem mapM_eq_error {f : α → Except Failure γ} {g : Failure} {l : List α}
    (hf : ∀ a ∈ l, ∀ e, f a = .error e → e = g) (h : ∃ a ∈ l, f a = .error g) :
    l.mapM f = .error g := by
  induction l with
  | nil => exact absurd h fun ⟨_, ha, _⟩ => List.not_mem_nil ha
  | cons a rest ih =>
      rw [List.mapM_cons]
      cases hfa : f a with
      | error e =>
          rw [hf a List.mem_cons_self e hfa]
          rfl
      | ok c =>
          obtain ⟨b, hb, hfb⟩ := h
          rcases List.mem_cons.mp hb with rfl | hb
          · rw [hfa] at hfb
            cases hfb
          · rw [ih (fun b hb => hf b (List.mem_cons_of_mem a hb)) ⟨b, hb, hfb⟩]
            rfl

namespace Alike

variable {R : α → β → Prop} {S : γ → δ → Prop} {x : Except Failure α} {y : Except Failure β}

theorem refl {R : α → α → Prop} (h : ∀ a, R a a) (x : Except Failure α) : Alike R x x := by
  cases x with
  | error f => exact rfl
  | ok a => exact h a

theorem eq {x y : Except Failure α} (h : Alike Eq x y) : x = y := by
  cases x <;> cases y <;> first | exact congrArg _ h | exact h.elim

theorem and_left {P : α → Prop} (h : Alike R x y) (hP : ∀ a, x = .ok a → P a) :
    Alike (fun a b => P a ∧ R a b) x y := by
  cases x <;> cases y <;> first | exact ⟨hP _ rfl, h⟩ | exact h

theorem trans {R : α → α → Prop} (hR : ∀ {a b c}, R a b → R b c → R a c) {x y z : Except Failure α}
    (hxy : Alike R x y) (hyz : Alike R y z) : Alike R x z := by
  cases x <;> cases y <;> cases z <;> first
    | exact hR hxy hyz | exact Eq.trans hxy hyz | exact hxy.elim | exact hyz.elim

theorem bind {f : α → Except Failure γ} {g : β → Except Failure δ} (h : Alike R x y)
    (hfg : ∀ a b, R a b → Alike S (f a) (g b)) : Alike S (x >>= f) (y >>= g) := by
  cases x <;> cases y <;> first | exact hfg _ _ h | exact h | exact h.elim

theorem map {f : α → γ} {g : β → δ} (h : Alike R x y) (hfg : ∀ a b, R a b → S (f a) (g b)) :
    Alike S (x.map f) (y.map g) := by
  cases x <;> cases y <;> first | exact hfg _ _ h | exact h

/-! ### Lists -/

theorem mapM {f : α → Except Failure γ} {g : β → Except Failure δ} {l : List α} {l' : List β}
    (h : List.Forall₂ R l l') (hfg : ∀ a b, R a b → Alike S (f a) (g b)) :
    Alike (List.Forall₂ S) (l.mapM f) (l'.mapM g) := by
  induction h with
  | nil => exact .nil
  | cons hab _ ih =>
      rw [List.mapM_cons, List.mapM_cons]
      exact (hfg _ _ hab).bind fun c d hcd => ih.bind fun cs ds hcs => .cons hcd hcs

/-- What is computed of each member of a list does not depend on the order of the members but for the
order of the results, if there is only one way to fail. -/
theorem mapM_perm {f : α → Except Failure γ} {g : Failure} (hf : ∀ a e, f a = .error e → e = g)
    {l l' : List α} (h : l.Perm l') : Alike List.Perm (l.mapM f) (l'.mapM f) := by
  induction h with
  | nil => exact .nil
  | cons a _ ih =>
      rw [List.mapM_cons, List.mapM_cons]
      refine (refl (fun _ => rfl) (f a)).bind fun b c e => ih.bind fun bs cs hbs => ?_
      subst e
      exact hbs.cons b
  | swap a b l =>
      -- whichever of the two comes first, its failure is the only one there is
      simp only [List.mapM_cons]
      cases ha : f a with
      | error e =>
          cases hb : f b with
          | error e' => exact (hf b e' hb).trans (hf a e ha).symm
          | ok c => exact rfl
      | ok c =>
          cases hb : f b with
          | error e => exact rfl
          | ok d =>
              cases l.mapM f with
              | error e => exact rfl
              | ok cs => exact .swap c d cs
  | trans _ _ ih ih' => exact ih.trans .trans ih'

end Alike
end SchoolRegister
