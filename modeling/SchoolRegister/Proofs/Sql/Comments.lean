import SchoolRegister.Proofs.Sql.Lines
import SchoolRegister.Proofs.Sql.Quotation
import SchoolRegister.Proofs.Sql.Script
import SchoolRegister.Proofs.Text.Trimming

/-! # Comment lines are inert

A comment line that is put into a script at the start of a line, with any blanks before it, changes the text
that is split into statements by blanks only, and at a place where a line starts (`AtLineStart`): blanks before
the comment go with it or stay, and the end of its line stays.  Outside quotation, blanks that are put in at
such a place leave the words of every piece of the script as they are (`map_words_pieces_insert`), and of its
statements the words are all that counts once runs of blanks are collapsed (`map_collapsed_statements`). -/

namespace SchoolRegister.Sql

open Text

/-- A line starts behind the text. -/
def AtLineStart (u : List Char) : Prop := u = [] ∨ ∃ v, u = v ++ ['\n']

/-- The statement with a single space in place of every run of blanks. -/
def collapsed (u : List Char) : String := collapseBlanks (String.ofList u)

variable {lines : List (List Char)} {s : Scan} {a b u v w : List Char}

/-! ### The lines of a text -/

theorem textOf_append (lines lines' : List (List Char)) :
    textOf (lines ++ lines') = textOf lines ++ textOf lines' :=
  List.flatMap_append

/-- A text is some lines and what follows the last end of a line. -/
theorem exists_textOf_append (u : List Char) :
    ∃ lines last, (∀ l ∈ lines, '\n' ∉ l) ∧ '\n' ∉ last ∧ u = textOf lines ++ last := by
  induction u with
  | nil => exact ⟨[], [], by simp, by simp, rfl⟩
  | cons c rest ih =>
      obtain ⟨lines, last, hlines, hlast, rfl⟩ := ih
      by_cases hc : c = '\n'
      · subst hc
        refine ⟨[] :: lines, last, ?_, hlast, rfl⟩
        simpa using hlines
      · cases lines with
        | nil => exact ⟨[], c :: last, by simp, by simpa [Ne.symm hc] using hlast, rfl⟩
        | cons l ls =>
            refine ⟨(c :: l) :: ls, last, ?_, hlast, by simp [textOf_cons]⟩
            simpa [Ne.symm hc] using hlines

theorem AtLineStart.exists_textOf (h : AtLineStart u) : ∃ lines, (∀ l ∈ lines, '\n' ∉ l) ∧ u = textOf lines := by
  rcases h with rfl | ⟨v, rfl⟩
  · exact ⟨[], by simp, rfl⟩
  · obtain ⟨lines, last, hlines, hlast, rfl⟩ := exists_textOf_append v
    refine ⟨lines ++ [last], ?_, by simp [textOf]⟩
    intro l hl
    rcases List.mem_append.mp hl with hl | hl
    · exact hlines l hl
    · rwa [List.mem_singleton.mp hl]

theorem exists_endsInText (hn : ∀ l ∈ lines, '\n' ∉ l) : ∃ lines' w, (∀ l ∈ lines', '\n' ∉ l) ∧
    EndsInText lines' ∧ w.all isBlank = true ∧ textOf lines = textOf lines' ++ w := by
  induction lines using List.reverseRecOn with
  | nil => exact ⟨[], [], by simp, by simp [EndsInText], rfl, rfl⟩
  | append_singleton init l ih =>
      cases hb : l.all isBlank with
      | false => exact ⟨init ++ [l], [], hn, by simpa [EndsInText] using hb, rfl, by rw [List.append_nil]⟩
      | true =>
          obtain ⟨lines', w, hn', he, hw, ht⟩ := ih fun l' hl' => hn l' (List.mem_append_left _ hl')
          refine ⟨lines', w ++ (l ++ ['\n']), hn', he, ?_, ?_⟩
          · rw [List.all_append, hw, blank_newline hb]
            rfl
          · rw [textOf_append, ht, textOf_cons, List.append_assoc]
            rfl

/-! ### What is left of the lines before a comment -/

theorem AtLineStart.line_append (h : AtLineStart u) (x : List Char) : AtLineStart (x ++ '\n' :: u) := by
  rcases h with rfl | ⟨v, rfl⟩
  · exact .inr ⟨x, rfl⟩
  · exact .inr ⟨x ++ '\n' :: v, by simp⟩

/-- Comments are taken out of lines so that a line starts behind what is left. -/
theorem atLineStart_withoutComments (hn : ∀ l ∈ lines, '\n' ∉ l) :
    AtLineStart (withoutComments (textOf lines)) := by
  induction lines with
  | nil => exact .inl remove_nil
  | cons l rest ih =>
      have hrest := ih fun l' hl' => hn l' (List.mem_cons_of_mem l hl')
      rw [textOf_cons]
      cases hb : l.all isBlank with
      | false =>
          rw [withoutComments_line (hn l List.mem_cons_self) hb]
          apply hrest.line_append
      | true =>
          rw [withoutComments_blank_line hb]
          split
          · exact hrest
          · rw [List.append_assoc]
            apply hrest.line_append

theorem withoutComments_nil : withoutComments [] = [] := remove_nil

/-- Before a text, what is left of some lines is the same whatever the text starts with, but for blanks: they
go if the text starts with a comment. -/
theorem exists_withoutComments_append (ha : AtLineStart a) : ∃ kept w, AtLineStart kept ∧ w.all isBlank = true ∧
    ∀ t, withoutComments (a ++ t) = kept ++ (if isComment t then [] else w) ++ withoutComments t := by
  obtain ⟨lines, hn, rfl⟩ := ha.exists_textOf
  obtain ⟨lines', w, hn', he, hw, ht⟩ := exists_endsInText hn
  refine ⟨withoutComments (textOf lines'), w, atLineStart_withoutComments hn', hw, fun t => ?_⟩
  rw [ht, List.append_assoc, withoutComments_textOf hn' he, withoutComments_blank hw, List.append_assoc]

theorem isComment_hyphens (hw : w.all isBlank = true) (c : List Char) : isComment (w ++ '-' :: '-' :: c) = true := by
  have hb : isBlank '-' = false := by decide
  rw [isComment, lineRule_afterComment.skips w _ hw]
  simp [afterComment?, hb]

theorem withoutComments_comment {c : List Char} (hw : w.all isBlank = true) (hc : '\n' ∉ c) (b : List Char) :
    withoutComments (w ++ '-' :: '-' :: (c ++ '\n' :: b)) = '\n' :: withoutComments b := by
  have hb : isBlank '-' = false := by decide
  have hhyphens : ∀ t, isComment ('-' :: '-' :: t) = true := isComment_hyphens (w := []) rfl
  have hline := withoutComments_line (s := '-' :: '-' :: c) (by simpa using hc) (by simp [hb]) b
  rw [if_pos (hhyphens c)] at hline
  rw [withoutComments_blank hw, if_pos (hhyphens _)]
  exact hline

/-! ### Blanks at the start of a line -/

theorem inside_next_of_blank {c : Char} (hc : isBlank c = true) (s : Scan) : (s.next c).inside = s.inside := by
  have hne : ∀ d, isBlank d = false → c ≠ d := by
    rintro d hd rfl
    rw [hc] at hd
    cases hd
  rcases s with ⟨inside, escaped⟩
  cases escaped <;> simp [Scan.next, hne '\\' (by decide), hne '\'' (by decide), hne '"' (by decide)]

theorem inside_after_of_blank (hw : w.all isBlank = true) (s : Scan) : (s.after w).inside = s.inside := by
  induction w generalizing s with
  | nil => rfl
  | cons c rest ih =>
      obtain ⟨hc, hrest⟩ := Bool.and_eq_true_iff.mp hw
      rw [after_cons, ih hrest, inside_next_of_blank hc]

theorem escaped_after_newline (s : Scan) : (s.next '\n').escaped = false := by
  rcases s with ⟨inside, escaped⟩
  cases escaped <;> simp [Scan.next]

/-- If blanks after lines end outside quotation, the lines do. -/
theorem after_of_atLineStart (hu : AtLineStart u) (hw : w.all isBlank = true) (h : Scan.after {} (u ++ w) = {}) :
    Scan.after {} u = {} := by
  rcases hu with rfl | ⟨v, rfl⟩
  · rfl
  · have hinside : (Scan.after {} (v ++ ['\n'])).inside = .nothing := by
      rw [← inside_after_of_blank hw, ← after_append, h]
    have hescaped : (Scan.after {} (v ++ ['\n'])).escaped = false := by
      rw [after_append]
      apply escaped_after_newline
    generalize Scan.after {} (v ++ ['\n']) = t at hinside hescaped
    rcases t with ⟨inside, escaped⟩
    simp_all

/-- The last piece of some lines is empty or ends with the end of a line. -/
theorem exists_pieces_of_atLineStart (hu : AtLineStart u) : ∃ ps p, pieces {} u = ps ++ [p] ∧ AtLineStart p := by
  rcases hu with rfl | ⟨v, rfl⟩
  · exact ⟨[], [], rfl, .inl rfl⟩
  · obtain ⟨ps, p, hp⟩ := (List.eq_nil_or_concat' _).resolve_left (pieces_ne_nil {} v)
    have hnewline : pieces (Scan.after {} v) ['\n'] = [['\n']] := by
      simp [pieces, Scan.separates]
    refine ⟨ps, p ++ ['\n'], ?_, .inr ⟨p, rfl⟩⟩
    rw [pieces_append, hnewline, hp, glue_concat]

theorem AtLineStart.words_append (h : AtLineStart u) (v : List Char) : words (u ++ v) = words u ++ words v := by
  apply Text.words_append
  rcases h with rfl | ⟨v, rfl⟩
  · exact .inl rfl
  · exact .inr ⟨v, '\n', by decide, rfl⟩

/-- Blanks that are put in at the start of a line, outside quotation, leave the words of all pieces. -/
theorem map_words_pieces_insert (hu : AtLineStart u) (h : Scan.after {} u = {}) (hw : w.all isBlank = true)
    (v : List Char) : (pieces {} (u ++ w ++ v)).map words = (pieces {} (u ++ v)).map words := by
  obtain ⟨ps, p, hp, hline⟩ := exists_pieces_of_atLineStart hu
  obtain ⟨q, qs, hq⟩ := List.exists_cons_of_ne_nil (pieces_ne_nil {} v)
  have hblank : pieces {} (w ++ v) = (w ++ q) :: qs := by
    rw [pieces_append, (pieces_of_blank hw).1, (pieces_of_blank hw).2, hq]
    rfl
  -- the pieces differ in one place, where the last one of `u` goes on
  have hwords : words (p ++ (w ++ q)) = words (p ++ q) := by
    rw [hline.words_append, hline.words_append, words_append_of_blank hw]
  rw [List.append_assoc, pieces_append (u := u), pieces_append (u := u), h, hblank, hp, hq, glue_concat,
    glue_concat]
  simp [hwords]

/-! ### Statements by their words -/

theorem collapsed_trimChars (u : List Char) :
    collapsed (trimChars u) = String.ofList ([' '].intercalate (words u)) := by
  rw [collapsed, collapseBlanks_eq, words_trimChars]

/-- Collapsed statements are told by the words of the pieces. -/
theorem map_collapsed_statements (script : List Char) : (statements script).map collapsed =
    (((pieces {} script).map words).filter (· ≠ [])).map fun ws => String.ofList ([' '].intercalate ws) := by
  rw [statements]
  induction pieces {} script with
  | nil => rfl
  | cons p ps ih =>
      have hempty : trimChars p = [] ↔ words p = [] := trimChars_eq_nil_iff.trans words_eq_nil_iff.symm
      by_cases hp : words p = []
      · simpa [hp, hempty.mpr hp] using ih
      · simpa [hp, mt hempty.mp hp, collapsed_trimChars] using ih

theorem map_collapsed_statements_insert (hu : AtLineStart u) (h : Scan.after {} u = {})
    (hw : w.all isBlank = true) (v : List Char) :
    (statements (u ++ w ++ v)).map collapsed = (statements (u ++ v)).map collapsed := by
  rw [map_collapsed_statements, map_collapsed_statements, map_words_pieces_insert hu h hw]

/-- A comment line at the start of a line, with blanks before it, makes no difference to the statements of a
script but in their blanks, if the text before it ends outside quotation. -/
theorem collapsed_statements_insert_comment {c : List Char} (ha : AtLineStart a)
    (hscan : Scan.after {} (withoutComments a) = {}) (hw : w.all isBlank = true) (hc : '\n' ∉ c) (b : List Char) :
    (statements (withoutComments (a ++ w ++ '-' :: '-' :: c ++ '\n' :: b))).map collapsed =
      (statements (withoutComments (a ++ b))).map collapsed := by
  obtain ⟨kept, v, hkept, hv, happend⟩ := exists_withoutComments_append ha
  have hkeptAll : withoutComments a = kept ++ v := by
    have hself := happend []
    rwa [List.append_nil, withoutComments_nil, List.append_nil] at hself
  have hafter : Scan.after {} kept = {} := by
    rw [hkeptAll] at hscan
    exact after_of_atLineStart hkept hv hscan
  have hcomment : withoutComments (a ++ w ++ '-' :: '-' :: c ++ '\n' :: b) =
      kept ++ ['\n'] ++ withoutComments b := by
    have hassoc : a ++ w ++ '-' :: '-' :: c ++ '\n' :: b = a ++ (w ++ '-' :: '-' :: (c ++ '\n' :: b)) := by
      simp
    rw [hassoc, happend, if_pos (isComment_hyphens hw _), withoutComments_comment hw hc]
    simp
  have hplain : ∃ x, x.all isBlank = true ∧ withoutComments (a ++ b) = kept ++ x ++ withoutComments b := by
    refine ⟨_, ?_, happend b⟩
    split
    · rfl
    · exact hv
  obtain ⟨x, hx, hplain⟩ := hplain
  rw [hcomment, hplain, map_collapsed_statements_insert hkept hafter (by decide),
    map_collapsed_statements_insert hkept hafter hx]

/-- Marks, semicolons and backslashes in the comment make no difference. -/
theorem collapsed_statements_insert_comment_with_marks :
    let before := "CREATE TABLE a (b INT\n\n".toList
    let comment := " it's; \"b\\".toList
    let after := "  -- don't;\n);\nINSERT 'x;y';\n".toList
    (∃ v, before = v ++ ['\n']) ∧ Scan.after {} (withoutComments before) = {} ∧ '\n' ∉ comment ∧
      (statements (withoutComments (before ++ " \t\n ".toList ++ '-' :: '-' :: comment ++ '\n' :: after))).map
        collapsed = (statements (withoutComments (before ++ after))).map collapsed := by
  intro before comment after
  have hline : ∃ v, before = v ++ ['\n'] := ⟨"CREATE TABLE a (b INT\n".toList, by decide⟩
  have hscan : Scan.after {} (withoutComments before) = {} := by
    have hline : withoutComments before = "CREATE TABLE a (b INT".toList ++ '\n' :: withoutComments ['\n'] :=
      withoutComments_line (s := "CREATE TABLE a (b INT".toList) (by decide) (by decide) ['\n']
    have hblank : withoutComments ['\n'] = ['\n'] ++ withoutComments [] :=
      withoutComments_blank_line (l := []) rfl []
    rw [hline, hblank, withoutComments_nil]
    decide
  have hcomment : '\n' ∉ comment := by decide
  exact ⟨hline, hscan, hcomment, collapsed_statements_insert_comment (.inr hline) hscan (by decide) hcomment after⟩

end SchoolRegister.Sql
