import SchoolRegister.Sql.Script

/-! # Quotations and escapes

`Balanced` is a grammar of texts that end outside quotations and not right after a backslash: such a text is
made of plain characters, of characters after a backslash, and of quotations, which hold anything but their
own mark and may hold that after a backslash (`Quotable`).  The scan of a script ends where it started
exactly on these texts (`balanced_iff`), so whether a text is balanced can be computed, and a semicolon
separates two statements exactly if the text before it is balanced (`separates_iff`). -/

namespace SchoolRegister.Sql

/-- What may stand between two quotation marks: anything but such a mark or a backslash, and any character
after a backslash. -/
inductive Quotable (mark : Char) : List Char → Prop
  | nil : Quotable mark []
  | plain {c : Char} {u : List Char} : c ≠ '\\' → c ≠ mark → Quotable mark u → Quotable mark (c :: u)
  | escaped {c : Char} {u : List Char} : Quotable mark u → Quotable mark ('\\' :: c :: u)

/-- Every quotation in the text is closed, and its last backslash stands before a character. -/
inductive Balanced : List Char → Prop
  | nil : Balanced []
  | plain {c : Char} {u : List Char} : c ≠ '\\' → c ≠ '\'' → c ≠ '"' → Balanced u → Balanced (c :: u)
  | escaped {c : Char} {u : List Char} : Balanced u → Balanced ('\\' :: c :: u)
  | quoted {mark : Char} {v u : List Char} : mark = '\'' ∨ mark = '"' → Quotable mark v → Balanced u →
      Balanced (mark :: v ++ mark :: u)

/-- What a quotation mark encloses the characters after it by. -/
inductive Opens : Char → Enclosure → Prop
  | single : Opens '\'' .single
  | double : Opens '"' .double

variable {s : Scan} {c mark : Char} {e : Enclosure} {u v : List Char}

/-! ### Steps of the scan -/

theorem after_cons (s : Scan) (c : Char) (u : List Char) : s.after (c :: u) = (s.next c).after u := rfl

theorem after_append (s : Scan) (u v : List Char) : s.after (u ++ v) = (s.after u).after v :=
  List.foldl_append

theorem next_of_escaped (h : s.escaped = true) (c : Char) : s.next c = { s with escaped := false } := by
  simp [Scan.next, h]

theorem next_backslash (e : Enclosure) : Scan.next ⟨e, false⟩ '\\' = ⟨e, true⟩ := rfl

theorem after_escaped (e : Enclosure) (c : Char) (u : List Char) :
    Scan.after ⟨e, false⟩ ('\\' :: c :: u) = Scan.after ⟨e, false⟩ u := by
  rw [after_cons, after_cons, next_backslash, next_of_escaped rfl]

theorem next_of_plain (hb : c ≠ '\\') (hs : c ≠ '\'') (hd : c ≠ '"') : Scan.next {} c = {} := by
  simp [Scan.next, hb, hs, hd]

namespace Opens

variable (h : Opens mark e)
include h

theorem next_outside : Scan.next {} mark = ⟨e, false⟩ := by
  cases h <;> rfl

theorem next_mark : Scan.next ⟨e, false⟩ mark = {} := by
  cases h <;> rfl

theorem next_inside (hb : c ≠ '\\') (hm : c ≠ mark) : Scan.next ⟨e, false⟩ c = ⟨e, false⟩ := by
  cases h <;> simp [Scan.next, hb, hm]

theorem ne_outside : (⟨e, false⟩ : Scan) ≠ {} := by
  cases h <;> decide

end Opens

theorem exists_opens (h : mark = '\'' ∨ mark = '"') : ∃ e, Opens mark e := by
  rcases h with rfl | rfl
  · exact ⟨_, .single⟩
  · exact ⟨_, .double⟩

/-! ### The grammar and the scan -/

theorem after_quotable (h : Opens mark e) (hv : Quotable mark v) : Scan.after ⟨e, false⟩ v = ⟨e, false⟩ := by
  induction hv with
  | nil => rfl
  | plain hb hm _ ih => rw [after_cons, h.next_inside hb hm, ih]
  | escaped _ ih => rw [after_escaped, ih]

theorem after_of_balanced (h : Balanced u) : Scan.after {} u = {} := by
  induction h with
  | nil => rfl
  | plain hb hs hd _ ih => rw [after_cons, next_of_plain hb hs hd, ih]
  | escaped _ ih => exact (after_escaped .nothing _ _).trans ih
  | quoted hm hv _ ih =>
      obtain ⟨e, he⟩ := exists_opens hm
      rw [List.cons_append, after_cons, he.next_outside, after_append, after_quotable he hv, after_cons,
        he.next_mark, ih]

/-- A text that is scanned from inside a quotation to the outside closes the quotation first. -/
theorem exists_quotation (h : Opens mark e) (u : List Char) (hu : Scan.after ⟨e, false⟩ u = {}) :
    ∃ v rest, u = v ++ mark :: rest ∧ Quotable mark v ∧ Scan.after {} rest = {} := by
  match u with
  | [] => exact absurd hu h.ne_outside
  | c :: rest =>
      by_cases hb : c = '\\'
      · subst hb
        cases rest with
        | nil => cases hu
        | cons d rest =>
            rw [after_escaped] at hu
            obtain ⟨v, tail, rfl, hv, ht⟩ := exists_quotation h rest hu
            exact ⟨'\\' :: d :: v, tail, rfl, hv.escaped, ht⟩
      · by_cases hm : c = mark
        · subst hm
          rw [after_cons, h.next_mark] at hu
          exact ⟨[], rest, rfl, .nil, hu⟩
        · rw [after_cons, h.next_inside hb hm] at hu
          obtain ⟨v, tail, rfl, hv, ht⟩ := exists_quotation h rest hu
          exact ⟨c :: v, tail, rfl, .plain hb hm hv, ht⟩
termination_by u.length

theorem balanced_of_after (u : List Char) (hu : Scan.after {} u = {}) : Balanced u := by
  match u with
  | [] => exact .nil
  | c :: rest =>
      by_cases hb : c = '\\'
      · subst hb
        cases rest with
        | nil => cases hu
        | cons d rest =>
            rw [after_escaped .nothing] at hu
            exact .escaped (balanced_of_after rest hu)
      · by_cases hm : c = '\'' ∨ c = '"'
        · obtain ⟨e, he⟩ := exists_opens hm
          rw [after_cons, he.next_outside] at hu
          obtain ⟨v, tail, rfl, hv, ht⟩ := exists_quotation he rest hu
          exact .quoted hm hv (balanced_of_after tail ht)
        · rw [not_or] at hm
          rw [after_cons, next_of_plain hb hm.1 hm.2] at hu
          exact .plain hb hm.1 hm.2 (balanced_of_after rest hu)
termination_by u.length

/-- The balanced texts are those after which a scan is where it started. -/
theorem balanced_iff : Balanced u ↔ Scan.after {} u = {} := ⟨after_of_balanced, balanced_of_after u⟩

instance : DecidablePred Balanced := fun _ => decidable_of_iff _ balanced_iff.symm

/-- A semicolon separates two statements if the text before it is balanced, and nothing else does. -/
theorem separates_iff : (Scan.after {} u).separates c = true ↔ Balanced u ∧ c = ';' := by
  rw [balanced_iff]
  unfold Scan.separates
  rcases Scan.after {} u with ⟨inside, escaped⟩
  cases escaped <;> simp

end SchoolRegister.Sql
