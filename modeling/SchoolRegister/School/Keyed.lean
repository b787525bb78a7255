/-! # Lists with keys

A list whose members have different keys is a table from keys to members in the order in which the
keys came.  `putUnder` gives a key a new member: in the place of the old one, or at the end.  It keeps
the keys different (`nodup_putUnder`) and all members under other keys (`mem_putUnder`). -/

namespace SchoolRegister

variable {α κ : Type} [DecidableEq κ] (key : α → κ)

/-- The list with `x` in place of the member that has the same key, or at the end if there is none. -/
def putUnder (l : List α) (x : α) : List α :=
  if key x ∈ l.map key then l.map fun y => if key y = key x then x else y else l ++ [x]

variable {key}

theorem putUnder_of_mem {l : List α} {x : α} (h : key x ∈ l.map key) :
    putUnder key l x = l.map fun y => if key y = key x then x else y := if_pos h

theorem putUnder_of_not_mem {l : List α} {x : α} (h : key x ∉ l.map key) :
    putUnder key l x = l ++ [x] := if_neg h

theorem map_key_putUnder (l : List α) (x : α) :
    (putUnder key l x).map key =
      if key x ∈ l.map key then l.map key else l.map key ++ [key x] := by
  unfold putUnder
  split
  · rw [List.map_map]
    apply List.map_congr_left
    intro y _
    by_cases e : key y = key x <;> simp [e]
  · rw [List.map_append, List.map_singleton]

theorem length_putUnder (l : List α) (x : α) : (putUnder key l x).length =
    if key x ∈ l.map key then l.length else l.length + 1 := by
  unfold putUnder
  split
  · rw [List.length_map]
  · rw [List.length_append, List.length_singleton]

theorem nodup_putUnder {l : List α} (h : (l.map key).Nodup) (x : α) :
    ((putUnder key l x).map key).Nodup := by
  rw [map_key_putUnder]
  split
  · exact h
  · rename_i hx
    rw [List.nodup_append]
    refine ⟨h, by simp, ?_⟩
    intro a ha b hb e
    rw [List.mem_singleton] at hb
    exact hx (hb ▸ e ▸ ha)

theorem mem_putUnder {l : List α} {x y : α} :
    y ∈ putUnder key l x ↔ y = x ∨ (y ∈ l ∧ key y ≠ key x) := by
  unfold putUnder
  split
  · rename_i hx
    rw [List.mem_map]
    constructor
    · rintro ⟨z, hz, rfl⟩
      by_cases e : key z = key x
      · exact .inl (if_pos e)
      · rw [if_neg e]
        exact .inr ⟨hz, e⟩
    · rintro (rfl | ⟨hy, e⟩)
      · obtain ⟨z, hz, e⟩ := List.mem_map.mp hx
        exact ⟨z, hz, if_pos e⟩
      · exact ⟨y, hy, if_neg e⟩
  · rename_i hx
    rw [List.mem_append, List.mem_singleton]
    constructor
    · rintro (hy | rfl)
      · exact .inr ⟨hy, fun e => hx (e ▸ List.mem_map_of_mem hy)⟩
      · exact .inl rfl
    · rintro (rfl | ⟨hy, _⟩)
      · exact .inr rfl
      · exact .inl hy

/-- In a list whose members have different keys, a member is found under its key and no other is. -/
theorem find?_key_eq_some_iff {l : List α} (h : (l.map key).Nodup) {k : κ} {x : α} :
    (l.find? fun y => key y = k) = some x ↔ x ∈ l ∧ key x = k := by
  constructor
  · intro e
    exact ⟨List.mem_of_find?_eq_some e, by simpa using List.find?_some e⟩
  · rintro ⟨hx, rfl⟩
    induction l with
    | nil => cases hx
    | cons z l ih =>
        rw [List.map_cons, List.nodup_cons] at h
        rcases List.mem_cons.mp hx with rfl | hx
        · simp
        · have hne : key z ≠ key x := fun e => h.1 (e ▸ List.mem_map_of_mem hx)
          simp [hne, ih h.2 hx]

theorem find?_key_eq_none_iff {l : List α} {k : κ} :
    (l.find? fun y => key y = k) = none ↔ k ∉ l.map key := by
  simp [List.find?_eq_none]

theorem eq_of_key_eq {l : List α} (h : (l.map key).Nodup) {x y : α} (hx : x ∈ l) (hy : y ∈ l)
    (e : key x = key y) : x = y := by
  have hf := (find?_key_eq_some_iff h).mpr ⟨hx, e⟩
  rw [(find?_key_eq_some_iff h).mpr ⟨hy, rfl⟩] at hf
  exact (Option.some.inj hf).symm

theorem filter_key_eq {l : List α} (h : (l.map key).Nodup) {x : α} (hx : x ∈ l) :
    (l.filter fun y => key y = key x) = [x] := by
  induction l with
  | nil => cases hx
  | cons z l ih =>
      rw [List.map_cons, List.nodup_cons] at h
      rcases List.mem_cons.mp hx with rfl | hx
      · rw [List.filter_cons_of_pos (by simp), List.filter_eq_nil_iff.mpr]
        exact fun y hy e => h.1 (of_decide_eq_true e ▸ List.mem_map_of_mem hy)
      · have hne : key z ≠ key x := fun e => h.1 (e ▸ List.mem_map_of_mem hx)
        rw [List.filter_cons_of_neg (by simpa using hne), ih h.2 hx]

end SchoolRegister
