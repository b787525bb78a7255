import Mathlib.Data.List.Basic
import SchoolRegister.Proofs.Text.Trimming
import SchoolRegister.Sql.Script

/-! # Statements of texts that are put together

A text is whole if its last statement is closed (`isWhole`).  The statements of a text that follows a whole
one are its own (`statements_append`); in particular, blanks at the start of a text make no difference
(`statements_append_of_blank`). -/

namespace SchoolRegister.Sql

open Text

/-- The parts of two texts that are put together: the last one of the first goes on with the first one of
the second. -/
def glue : List (List Char) → List (List Char) → List (List Char)
  | [], qs => qs
  | [p], [] => [p]
  | [p], q :: qs => (p ++ q) :: qs
  | p :: p' :: ps, qs => p :: glue (p' :: ps) qs

theorem glue_concat (ps : List (List Char)) (p q : List Char) (qs : List (List Char)) :
    glue (ps ++ [p]) (q :: qs) = ps ++ (p ++ q) :: qs := by
  induction ps with
  | nil => rfl
  | cons p' ps ih =>
      cases ps with
      | nil => rfl
      | cons p'' ps => exact congrArg (p' :: ·) ih

theorem glue_cons (c : Char) (p : List Char) (ps qs : List (List Char)) :
    glue ((c :: p) :: ps) qs = (match glue (p :: ps) qs with
      | [] => [[c]]
      | r :: rs => (c :: r) :: rs) := by
  cases ps <;> cases qs <;> rfl

variable {s : Scan} {u v w : List Char}

theorem pieces_ne_nil (s : Scan) (u : List Char) : pieces s u ≠ [] := by
  cases u with
  | nil => exact List.cons_ne_nil _ _
  | cons c rest =>
      rw [pieces]
      split
      · exact List.cons_ne_nil _ _
      · split <;> exact List.cons_ne_nil _ _

theorem next_of_separates {c : Char} (h : s.separates c = true) : s.next c = s := by
  simp only [Scan.separates, Bool.and_eq_true, Bool.not_eq_true', decide_eq_true_eq] at h
  obtain ⟨⟨hescaped, hinside⟩, rfl⟩ := h
  simp [Scan.next, hescaped, hinside]

/-- The parts of two texts that are put together. -/
theorem pieces_append : pieces s (u ++ v) = glue (pieces s u) (pieces (s.after u) v) := by
  induction u generalizing s with
  | nil =>
      obtain ⟨q, qs, hq⟩ := List.exists_cons_of_ne_nil (pieces_ne_nil s v)
      show pieces s v = glue [[]] (pieces s v)
      rw [hq]
      rfl
  | cons c rest ih =>
      have hafter : s.after (c :: rest) = (s.next c).after rest := rfl
      obtain ⟨p, ps, hp⟩ := List.exists_cons_of_ne_nil (pieces_ne_nil (s.next c) rest)
      by_cases hs : s.separates c = true
      · rw [next_of_separates hs] at hafter hp
        rw [List.cons_append, pieces, pieces, if_pos hs, if_pos hs, ih, hafter, hp]
        rfl
      · rw [List.cons_append, pieces, pieces, if_neg hs, if_neg hs, ih, hafter, hp]
        exact (glue_cons c p ps _).symm

/-! ### Whole texts -/

/-- The last statement of the text is closed: nothing but blanks comes after it. -/
def isWhole (u : List Char) : Bool :=
  Scan.after {} u = {} && (pieces {} u).getLast?.all fun w => w.all isBlank

/-- The statements of a text that follows a whole one are its own. -/
theorem statements_append (h : isWhole u = true) :
    statements (u ++ v) = statements u ++ statements v := by
  rw [isWhole, Bool.and_eq_true, decide_eq_true_eq] at h
  obtain ⟨hscan, hlast⟩ := h
  obtain ⟨ps, w, hp⟩ := (List.eq_nil_or_concat' _).resolve_left (pieces_ne_nil {} u)
  obtain ⟨q, qs, hq⟩ := List.exists_cons_of_ne_nil (pieces_ne_nil {} v)
  have hw : w.all isBlank = true := by simpa [hp] using hlast
  rw [statements, statements, statements, pieces_append, hscan, hp, hq, glue_concat]
  simp only [List.map_append, List.map_cons, List.map_nil, List.filter_append,
    trimChars_append_of_blank hw, trimChars_eq_nil_iff.mpr hw]
  simp

theorem pieces_of_blank (hw : w.all isBlank = true) : Scan.after {} w = {} ∧ pieces {} w = [w] := by
  induction w with
  | nil => exact ⟨rfl, rfl⟩
  | cons c rest ih =>
      obtain ⟨hc, hrest⟩ := Bool.and_eq_true_iff.mp hw
      obtain ⟨hafter, hpieces⟩ := ih hrest
      have hne : ∀ d, isBlank d = false → c ≠ d := by
        rintro d hd rfl
        rw [hc] at hd
        cases hd
      have hnext : Scan.next {} c = {} := by
        simp [Scan.next, hne '\\' (by decide), hne '\'' (by decide), hne '"' (by decide)]
      have hseparates : Scan.separates {} c = false := by simp [Scan.separates, hne ';' (by decide)]
      refine ⟨?_, ?_⟩
      · show Scan.after (Scan.next {} c) rest = {}
        rw [hnext, hafter]
      · rw [pieces, hseparates, hnext, hpieces]
        rfl

theorem isWhole_of_blank (hw : w.all isBlank = true) : isWhole w = true := by
  obtain ⟨hafter, hpieces⟩ := pieces_of_blank hw
  simpa [isWhole, hafter, hpieces] using hw

theorem statements_of_blank (hw : w.all isBlank = true) : statements w = [] := by
  simp [statements, (pieces_of_blank hw).2, trimChars_eq_nil_iff.mpr hw]

theorem statements_append_of_blank (hw : w.all isBlank = true) (u : List Char) :
    statements (w ++ u) = statements u := by
  rw [statements_append (isWhole_of_blank hw), statements_of_blank hw, List.nil_append]

end SchoolRegister.Sql
