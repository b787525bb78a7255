import Mathlib.Data.List.TakeWhile
import SchoolRegister.Proofs.Text.Trimming
import SchoolRegister.Sql.Lines

/-! # What is taken out at line starts

A rule says for a text whether a part is to be taken out at its start, and what follows that part.  All that
is used of the rules is that blanks at the start make no difference to them and that they take something out
(`LineRule`).  Then blanks at the start of a text make no difference to what is left of it, apart from
blanks at its start (`SameStart`, `LineRule.sameStart_remove`); a line on which the rule finds nothing stays
(`remove_line`), and of a line that it takes out nothing but blanks stays (`LineRule.remove_cut`). -/

namespace SchoolRegister.Sql

open Text

/-! ### Blanks at the start -/

/-- Two texts are the same but for blanks at their starts. -/
def SameStart (s t : List Char) : Prop := s.dropWhile isBlank = t.dropWhile isBlank

variable {s t w x e : List Char}

theorem SameStart.refl (s : List Char) : SameStart s s := rfl

theorem SameStart.symm (h : SameStart s t) : SameStart t s := Eq.symm h

theorem SameStart.trans (h : SameStart s t) (h' : SameStart t x) : SameStart s x := Eq.trans h h'

theorem sameStart_append (hw : w.all isBlank = true) (t : List Char) : SameStart (w ++ t) t :=
  dropWhile_append_of_blank hw t

theorem sameStart_newline (t : List Char) : SameStart ('\n' :: t) t :=
  sameStart_append (w := ['\n']) (by decide) t

theorem exists_blank_append (s : List Char) :
    ∃ w, w.all isBlank = true ∧ s = w ++ s.dropWhile isBlank :=
  ⟨s.takeWhile isBlank, List.all_eq_true.mpr fun _ h => List.mem_takeWhile_imp h,
    List.takeWhile_append_dropWhile.symm⟩

theorem dropWhile_append_of_not_blank (hs : s.all isBlank = false) (t : List Char) :
    (s ++ t).dropWhile isBlank = s.dropWhile isBlank ++ t := by
  have hne : s.dropWhile isBlank ≠ [] := by
    rw [Ne, dropWhile_eq_nil_iff_all, hs]
    exact Bool.false_ne_true
  rw [List.dropWhile_append, if_neg (by simpa using hne)]

/-! ### Removal -/

variable {rule : List Char → Option (List Char)} {lineStart : Bool} {c : Char} {tail : List Char}

/-- Blanks at the start make no difference to a rule, and what it finds is not nothing. -/
structure LineRule (rule : List Char → Option (List Char)) : Prop where
  skips : ∀ w t, w.all isBlank = true → rule (w ++ t) = rule t
  shrinks : ∀ t tail, rule t = some tail → tail.length < t.length

theorem remove_nil : removeAtLineStarts rule lineStart [] = [] := by
  rw [removeAtLineStarts]

theorem remove_cons_of_inside :
    removeAtLineStarts rule false (c :: t) = c :: removeAtLineStarts rule (c == '\n') t := by
  rw [removeAtLineStarts]
  rfl

theorem remove_cons_of_none (h : rule (c :: t) = none) :
    removeAtLineStarts rule lineStart (c :: t) = c :: removeAtLineStarts rule (c == '\n') t := by
  rw [removeAtLineStarts]
  cases lineStart <;> simp [h]

theorem remove_of_some (h : rule s = some tail) (hlen : tail.length < s.length) :
    removeAtLineStarts rule true s = removeAtLineStarts rule (lastBefore s tail == some '\n') tail := by
  cases s with
  | nil => simp at hlen
  | cons c rest =>
      rw [removeAtLineStarts]
      simp only [if_true, h]
      rw [dif_pos hlen]

theorem beq_newline_of_not_mem (h : '\n' ∉ c :: t) : (c == '\n') = false := by
  rw [beq_eq_false_iff_ne]
  rintro rfl
  exact h List.mem_cons_self

theorem remove_inside (hs : '\n' ∉ s) :
    removeAtLineStarts rule false (s ++ '\n' :: t) = s ++ '\n' :: removeAtLineStarts rule true t := by
  induction s with
  | nil => exact remove_cons_of_inside
  | cons c rest ih =>
      rw [List.cons_append, remove_cons_of_inside, beq_newline_of_not_mem hs,
        ih fun h => hs (List.mem_cons_of_mem c h)]
      rfl

theorem remove_inside_last (hs : '\n' ∉ s) : removeAtLineStarts rule false s = s := by
  induction s with
  | nil => exact remove_nil
  | cons c rest ih =>
      rw [remove_cons_of_inside, beq_newline_of_not_mem hs, ih fun h => hs (List.mem_cons_of_mem c h)]

theorem remove_line (hs : '\n' ∉ s) (h : rule (s ++ '\n' :: t) = none) :
    removeAtLineStarts rule true (s ++ '\n' :: t) = s ++ '\n' :: removeAtLineStarts rule true t := by
  cases s with
  | nil => exact remove_cons_of_none h
  | cons c rest =>
      rw [List.cons_append] at h ⊢
      rw [remove_cons_of_none h, beq_newline_of_not_mem hs,
        remove_inside fun h => hs (List.mem_cons_of_mem c h)]
      rfl

theorem remove_last (hs : '\n' ∉ s) (h : rule s = none) : removeAtLineStarts rule true s = s := by
  cases s with
  | nil => exact remove_nil
  | cons c rest =>
      rw [remove_cons_of_none h, beq_newline_of_not_mem hs,
        remove_inside_last fun h => hs (List.mem_cons_of_mem c h)]

namespace LineRule

theorem remove_blank_of_none (hr : LineRule rule) (hw : w.all isBlank = true) (h : rule t = none) :
    removeAtLineStarts rule lineStart (w ++ t) = w ++ removeAtLineStarts rule true t := by
  induction w generalizing lineStart with
  | nil =>
      cases t with
      | nil => rw [List.nil_append, List.nil_append, remove_nil, remove_nil]
      | cons c rest => rw [List.nil_append, List.nil_append, remove_cons_of_none h, remove_cons_of_none h]
  | cons c rest ih =>
      obtain ⟨hc, hrest⟩ := Bool.and_eq_true_iff.mp hw
      have hnone : rule (c :: (rest ++ t)) = none := (hr.skips (c :: rest) t hw).trans h
      rw [List.cons_append, remove_cons_of_none hnone, ih hrest]
      rfl

theorem remove_blank_of_some (hr : LineRule rule) (hw : w.all isBlank = true) (h : rule t = some tail) :
    removeAtLineStarts rule true (w ++ t) = removeAtLineStarts rule true t := by
  have hlen := hr.shrinks t tail h
  have hlast : lastBefore (w ++ t) tail = lastBefore t tail := by
    obtain ⟨d, hd⟩ : ∃ d, (t.take (t.length - tail.length)).getLast? = some d := by
      rw [← Option.isSome_iff_exists, List.getLast?_isSome, ← List.length_pos_iff, List.length_take]
      omega
    have hsub : (w ++ t).length - tail.length = w.length + (t.length - tail.length) := by
      rw [List.length_append]
      omega
    rw [lastBefore, lastBefore, hsub, List.take_length_add_append, List.getLast?_append, hd]
    rfl
  have hlen' : tail.length < (w ++ t).length := by
    rw [List.length_append]
    omega
  rw [remove_of_some ((hr.skips w t hw).trans h) hlen', remove_of_some h hlen, hlast]

/-- Blanks at the start of a text make no difference to what is left, apart from blanks at its start. -/
theorem sameStart_remove_append (hr : LineRule rule) (hw : w.all isBlank = true) (t : List Char) :
    SameStart (removeAtLineStarts rule true (w ++ t)) (removeAtLineStarts rule true t) := by
  cases h : rule t with
  | none =>
      rw [hr.remove_blank_of_none hw h]
      exact sameStart_append hw _
  | some tail =>
      rw [hr.remove_blank_of_some hw h]
      exact .refl _

theorem sameStart_remove (hr : LineRule rule) (h : SameStart s t) :
    SameStart (removeAtLineStarts rule true s) (removeAtLineStarts rule true t) := by
  have hdropped : ∀ l, SameStart (removeAtLineStarts rule true l)
      (removeAtLineStarts rule true (l.dropWhile isBlank)) := by
    intro l
    obtain ⟨w, hw, hl⟩ := exists_blank_append l
    exact (congrArg (fun l => SameStart (removeAtLineStarts rule true l) _) hl).mpr
      (hr.sameStart_remove_append hw _)
  exact (hdropped s).trans (h ▸ (hdropped t).symm)

/-- If the rule takes out a line up to its end, nothing but blanks stays of it. -/
theorem remove_cut (hr : LineRule rule) (h : rule s = some tail)
    (hstart : tail = [] ∨ ∃ rest, tail = '\n' :: rest) :
    SameStart (removeAtLineStarts rule true s) (removeAtLineStarts rule true tail) := by
  rw [remove_of_some h (hr.shrinks s tail h)]
  cases lastBefore s tail == some '\n' with
  | true => exact .refl _
  | false =>
      rcases hstart with rfl | ⟨rest, rfl⟩
      · rw [remove_nil, remove_nil]
        exact .refl _
      · rw [remove_cons_of_inside]
        exact (sameStart_newline _).trans (hr.sameStart_remove (sameStart_newline rest).symm)

end LineRule

/-! ### Lines -/

/-- The text of some lines, each with its end. -/
def textOf (lines : List (List Char)) : List Char := lines.flatMap fun l => l ++ ['\n']

theorem textOf_cons (l : List Char) (lines : List (List Char)) :
    textOf (l :: lines) = l ++ '\n' :: textOf lines := by
  simp [textOf]

theorem textOf_cons_append (l : List Char) (lines : List (List Char)) (t : List Char) :
    textOf (l :: lines) ++ t = l ++ '\n' :: (textOf lines ++ t) := by
  simp [textOf]

/-- A line may end here: the text does, or it goes on with the end of a line. -/
def EndsLine (e : List Char) : Prop := e = [] ∨ ∃ t, e = '\n' :: t

theorem endsLine_newline (t : List Char) : EndsLine ('\n' :: t) := .inr ⟨t, rfl⟩

/-- The rule finds nothing on the line, whatever follows it, unless the line is blank. -/
def Misses (rule : List Char → Option (List Char)) (line : List Char) : Prop :=
  line.all isBlank = false → ∀ e, EndsLine e → rule (line ++ e) = none

/-- The last of some lines is not blank. -/
def EndsInText (lines : List (List Char)) : Prop :=
  ∀ l, lines.getLast? = some l → l.all isBlank = false

variable {l : List Char} {lines : List (List Char)}

theorem EndsInText.of_cons (h : EndsInText (l :: lines)) : EndsInText lines := by
  intro l' hl'
  refine h l' ?_
  rw [List.getLast?_cons, hl']
  rfl

/-- Before lines that end in a line that is not blank, a blank line is followed by another one. -/
theorem EndsInText.ne_nil_of_blank (h : EndsInText (l :: lines)) (hl : l.all isBlank = true) :
    lines ≠ [] := by
  rintro rfl
  have := h l rfl
  rw [hl] at this
  cases this

theorem blank_newline (hl : l.all isBlank = true) : (l ++ ['\n']).all isBlank = true := by
  rw [List.all_append, hl]
  decide

namespace LineRule

theorem skips_line (hr : LineRule rule) (hl : l.all isBlank = true) (t : List Char) :
    rule (l ++ '\n' :: t) = rule t := by
  have h := hr.skips (l ++ ['\n']) t (blank_newline hl)
  rwa [List.append_assoc] at h

/-- A rule that misses some lines finds nothing at their start, if one of them is not blank or if it finds
nothing after them. -/
theorem eq_none_of_misses (hr : LineRule rule) (hm : ∀ l ∈ lines, Misses rule l)
    (ht : (EndsInText lines ∧ lines ≠ []) ∨ rule t = none) : rule (textOf lines ++ t) = none := by
  induction lines with
  | nil => exact ht.resolve_left fun h => h.2 rfl
  | cons l rest ih =>
      rw [textOf_cons_append]
      by_cases hl : l.all isBlank = true
      · rw [hr.skips_line hl]
        exact ih (fun l' hl' => hm l' (List.mem_cons_of_mem l hl'))
          (ht.imp_left fun h => ⟨h.1.of_cons, h.1.ne_nil_of_blank hl⟩)
      · exact hm l List.mem_cons_self (by simpa using hl) _ (endsLine_newline _)

/-- Lines that a rule misses stay. -/
theorem remove_textOf (hr : LineRule rule) (hm : ∀ l ∈ lines, '\n' ∉ l ∧ Misses rule l)
    (ht : EndsInText lines ∨ rule t = none) : removeAtLineStarts rule true (textOf lines ++ t) =
      textOf lines ++ removeAtLineStarts rule true t := by
  induction lines with
  | nil => rfl
  | cons l rest ih =>
      have hnone := hr.eq_none_of_misses (fun l' hl' => (hm l' hl').2)
        (ht.imp_left fun h => ⟨h, List.cons_ne_nil l rest⟩)
      rw [textOf_cons_append] at hnone ⊢
      rw [remove_line (hm l List.mem_cons_self).1 hnone,
        ih (fun l' hl' => hm l' (List.mem_cons_of_mem l hl')) (ht.imp_left fun h => h.of_cons),
        textOf_cons_append]

theorem eq_none_of_blank (hr : LineRule rule) (hl : l.all isBlank = true) : rule l = none := by
  have hnil := hr.skips l [] hl
  rw [List.append_nil] at hnil
  cases h : rule [] with
  | none => rw [hnil, h]
  | some tail => exact absurd (hr.shrinks [] tail h) (Nat.not_lt_zero _)

theorem remove_of_misses (hr : LineRule rule) (hm : ∀ l ∈ lines, '\n' ∉ l ∧ Misses rule l) (hl : '\n' ∉ l)
    (hml : Misses rule l) : removeAtLineStarts rule true (textOf lines ++ l) = textOf lines ++ l := by
  have hnone : rule l = none := by
    cases hb : l.all isBlank with
    | true => exact hr.eq_none_of_blank hb
    | false =>
        have := hml hb [] (.inl rfl)
        rwa [List.append_nil] at this
  rw [hr.remove_textOf hm (.inr hnone), remove_last hl hnone]

theorem exists_remove_line (hr : LineRule rule) (hm : rule (l ++ e) = none) (hl : '\n' ∉ l)
    (he : EndsLine e) : ∃ e', EndsLine e' ∧ removeAtLineStarts rule true (l ++ e) = l ++ e' ∧
      SameStart e' (removeAtLineStarts rule true e) := by
  rcases he with rfl | ⟨t, rfl⟩
  · rw [List.append_nil] at hm
    refine ⟨[], .inl rfl, ?_, ?_⟩
    · rw [List.append_nil, remove_last hl hm]
    · rw [remove_nil]
      exact .refl _
  · refine ⟨'\n' :: removeAtLineStarts rule true t, endsLine_newline _, remove_line hl hm, ?_⟩
    exact (sameStart_newline _).trans (hr.sameStart_remove (sameStart_newline t).symm)

end LineRule

/-! ### Comments -/

theorem length_dropWhile_le (p : Char → Bool) (s : List Char) : (s.dropWhile p).length ≤ s.length :=
  (List.dropWhile_sublist p).length_le

theorem lineRule_afterComment : LineRule afterComment? where
  skips w t hw := by rw [afterComment?, afterComment?, dropWhile_append_of_blank hw]
  shrinks t tail h := by
    have hle := length_dropWhile_le isBlank t
    unfold afterComment? at h
    split at h
    · rename_i rest hd
      cases h
      have := length_dropWhile_le (· != '\n') rest
      rw [hd, List.length_cons, List.length_cons] at hle
      omega
    · cases h

theorem dropWhile_ne_newline (hs : '\n' ∉ s) (he : EndsLine e) : (s ++ e).dropWhile (· != '\n') = e := by
  have hall : ∀ c ∈ s, (c != '\n') = true := by
    intro c hc
    rw [bne_iff_ne]
    rintro rfl
    exact hs hc
  rw [List.dropWhile_append_of_pos hall]
  rcases he with rfl | ⟨t, rfl⟩ <;> rfl

/-- The line is a comment. -/
def isComment (line : List Char) : Bool := (afterComment? line).isSome

theorem afterComment?_append (hs : '\n' ∉ s) (hb : s.all isBlank = false) (he : EndsLine e) :
    afterComment? (s ++ e) = if isComment s then some e else none := by
  have hmem : '\n' ∉ s.dropWhile isBlank := fun h => hs ((List.dropWhile_sublist _).subset h)
  have hne : s.dropWhile isBlank ≠ [] := by
    rw [Ne, dropWhile_eq_nil_iff_all, hb]
    exact Bool.false_ne_true
  unfold isComment afterComment?
  rw [dropWhile_append_of_not_blank hb]
  generalize s.dropWhile isBlank = d at hmem hne
  rcases d with _ | ⟨c, _ | ⟨c', rest⟩⟩
  · exact absurd rfl hne
  · rcases he with rfl | ⟨t, rfl⟩ <;> simp
  · by_cases hc : c = '-' ∧ c' = '-'
    · obtain ⟨rfl, rfl⟩ := hc
      have hrest : '\n' ∉ rest := fun h => hmem (List.mem_cons_of_mem _ (List.mem_cons_of_mem _ h))
      simpa using dropWhile_ne_newline hrest he
    · have hother : ∀ l rest' : List Char, c :: c' :: l ≠ '-' :: '-' :: rest' := by
        intro l rest' h
        exact hc ⟨(List.cons.inj h).1, (List.cons.inj (List.cons.inj h).2).1⟩
      split
      · rename_i h
        exact absurd h (hother _ _)
      · split
        · rename_i h
          exact absurd h (hother _ _)
        · rfl

theorem misses_afterComment? (hs : '\n' ∉ s) (h : isComment s = false) : Misses afterComment? s := by
  intro hb e he
  rw [afterComment?_append hs hb he, h]
  rfl

theorem not_blank_of_isComment (h : isComment s = true) : s.all isBlank = false := by
  rw [Bool.eq_false_iff]
  intro hb
  rw [isComment, lineRule_afterComment.eq_none_of_blank hb] at h
  cases h

theorem withoutComments_line (hs : '\n' ∉ s) (hb : s.all isBlank = false) (t : List Char) :
    withoutComments (s ++ '\n' :: t) = (if isComment s then [] else s) ++ '\n' :: withoutComments t := by
  have h := afterComment?_append hs hb (endsLine_newline t)
  split at h
  · rename_i hc
    have hlast : (lastBefore (s ++ '\n' :: t) ('\n' :: t) == some '\n') = false := by
      have hlen : (s ++ '\n' :: t).length - ('\n' :: t).length = s.length := by
        rw [List.length_append]
        omega
      rw [lastBefore, hlen, List.take_left, beq_eq_false_iff_ne]
      exact fun h => hs (List.mem_of_getLast? h)
    rw [if_pos hc, withoutComments, remove_of_some h (lineRule_afterComment.shrinks _ _ h), hlast,
      remove_cons_of_inside]
    rfl
  · rename_i hc
    rw [if_neg hc, withoutComments, remove_line hs h]
    rfl

/-- Whether a text starts with a comment is told by its first line that is not blank. -/
theorem isComment_textOf (hn : ∀ l ∈ lines, '\n' ∉ l) (he : EndsInText lines) (hne : lines ≠ [])
    (t : List Char) : isComment (textOf lines ++ t) = isComment (textOf lines) := by
  induction lines with
  | nil => exact absurd rfl hne
  | cons l rest ih =>
      have hl := hn l List.mem_cons_self
      rw [textOf_cons_append, textOf_cons, isComment, isComment]
      cases hb : l.all isBlank with
      | true =>
          rw [lineRule_afterComment.skips_line hb, lineRule_afterComment.skips_line hb]
          exact ih (fun l' hl' => hn l' (List.mem_cons_of_mem l hl')) he.of_cons (he.ne_nil_of_blank hb)
      | false =>
          rw [afterComment?_append hl hb (endsLine_newline _), afterComment?_append hl hb (endsLine_newline _)]
          cases isComment l <;> rfl

theorem withoutComments_blank (hw : w.all isBlank = true) (t : List Char) : withoutComments (w ++ t) =
    (if isComment t then [] else w) ++ withoutComments t := by
  rw [isComment, withoutComments, withoutComments]
  cases h : afterComment? t with
  | none => exact lineRule_afterComment.remove_blank_of_none hw h
  | some tail => exact lineRule_afterComment.remove_blank_of_some hw h

theorem withoutComments_blank_line (hl : l.all isBlank = true) (t : List Char) :
    withoutComments (l ++ '\n' :: t) =
      (if isComment t then [] else l ++ ['\n']) ++ withoutComments t := by
  have h := withoutComments_blank (blank_newline hl) t
  rwa [List.append_assoc] at h

/-- Comments are taken out of lines that end in text and of what follows them. -/
theorem withoutComments_textOf (hn : ∀ l ∈ lines, '\n' ∉ l) (he : EndsInText lines) (t : List Char) :
    withoutComments (textOf lines ++ t) = withoutComments (textOf lines) ++ withoutComments t := by
  induction lines with
  | nil =>
      show withoutComments t = withoutComments [] ++ withoutComments t
      rw [show withoutComments [] = [] from remove_nil]
      rfl
  | cons l rest ih =>
      have hl := hn l List.mem_cons_self
      have hrest : ∀ l' ∈ rest, '\n' ∉ l' := fun l' hl' => hn l' (List.mem_cons_of_mem l hl')
      rw [textOf_cons_append, textOf_cons]
      cases hb : l.all isBlank with
      | false =>
          rw [withoutComments_line hl hb, withoutComments_line hl hb, ih hrest he.of_cons]
          simp
      | true =>
          rw [withoutComments_blank_line hb, withoutComments_blank_line hb,
            isComment_textOf hrest he.of_cons (he.ne_nil_of_blank hb), ih hrest he.of_cons,
            List.append_assoc]

end SchoolRegister.Sql
