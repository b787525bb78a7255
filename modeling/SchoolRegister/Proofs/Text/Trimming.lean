import Mathlib.Data.List.DropRight
import SchoolRegister.Text.Blank

/-! # Trimmed and collapsed texts

A text is trimmed if no blank stands at either of its ends.  Trimming takes blanks off both ends
(`exists_trimChars`) and leaves a trimmed text (`trimmed_trimChars`); a trimmed text stays as it is, whatever
blanks are put around it (`trimChars_around`).

The words of a text are what its blanks separate.  They are all that is left of a text when its runs of blanks
are collapsed (`collapseBlanks_eq`), so trimming makes no difference to them (`words_trimChars`), and neither
does the number of blanks at a place where there is one (`words_append`). -/

namespace SchoolRegister.Text

/-- No blank stands at the start or at the end of the text. -/
def Trimmed (u : List Char) : Prop :=
  (∀ c, u.head? = some c → isBlank c = false) ∧ ∀ c, u.getLast? = some c → isBlank c = false

instance : DecidablePred Trimmed := fun u =>
  decidable_of_iff ((u.head?.all fun c => !isBlank c) = true ∧ (u.getLast?.all fun c => !isBlank c) = true) <| by
    cases hs : u.head? <;> cases he : u.getLast? <;> simp [Trimmed, hs, he]

variable {u w w' : List Char}

theorem dropWhile_append_of_blank (hw : w.all isBlank = true) (u : List Char) :
    (w ++ u).dropWhile isBlank = u.dropWhile isBlank :=
  List.dropWhile_append_of_pos (List.all_eq_true.mp hw)

theorem trimChars_append_of_blank (hw : w.all isBlank = true) (u : List Char) : trimChars (w ++ u) = trimChars u := by
  rw [trimChars, trimChars, dropWhile_append_of_blank hw]

theorem trimEnd_append_of_blank (hw : w.all isBlank = true) (u : List Char) : trimEnd (u ++ w) = trimEnd u := by
  have hall : ∀ c ∈ w.reverse, isBlank c = true := by simpa using hw
  rw [trimEnd, trimEnd, List.reverse_append, List.dropWhile_append_of_pos hall]

theorem trimEnd_of_getLast (h : ∀ c, u.getLast? = some c → isBlank c = false) : trimEnd u = u := by
  rw [trimEnd]
  cases hr : u.reverse with
  | nil => simpa using hr.symm
  | cons c rest =>
      have hlast : u.getLast? = some c := by rw [← List.head?_reverse, hr, List.head?_cons]
      rw [List.dropWhile_cons_of_neg (by simp [h c hlast]), ← hr, List.reverse_reverse]

theorem dropWhile_of_head (h : ∀ c, u.head? = some c → isBlank c = false) : u.dropWhile isBlank = u := by
  cases u with
  | nil => rfl
  | cons c rest => exact List.dropWhile_cons_of_neg (by simp [h c rfl])

theorem trimChars_of_trimmed (h : Trimmed u) : trimChars u = u := by
  rw [trimChars, dropWhile_of_head h.1, trimEnd_of_getLast h.2]

theorem trimmed_append {first last : List Char} (hfirst : first ≠ []) (hf : ∀ c ∈ first, isBlank c = false)
    (middle : List Char) (hlast : last ≠ []) (hl : ∀ c ∈ last, isBlank c = false) :
    Trimmed (first ++ middle ++ last) := by
  constructor
  · intro c hc
    rw [List.append_assoc, List.head?_append_of_ne_nil _ hfirst] at hc
    exact hf c (List.mem_of_head? hc)
  · intro c hc
    rw [List.getLast?_append_of_ne_nil _ hlast] at hc
    exact hl c (List.mem_of_getLast? hc)

theorem exists_trimEnd (u : List Char) : ∃ w, w.all isBlank = true ∧ u = trimEnd u ++ w := by
  refine ⟨(u.reverse.takeWhile isBlank).reverse, ?_, ?_⟩
  · simp only [List.all_reverse, List.all_eq_true]
    intro c hc
    exact List.mem_takeWhile_imp hc
  · rw [trimEnd, ← List.reverse_append, List.takeWhile_append_dropWhile, List.reverse_reverse]

/-- A text is what trimming leaves of it, with blanks around it. -/
theorem exists_trimChars (u : List Char) :
    ∃ w w', w.all isBlank = true ∧ w'.all isBlank = true ∧ u = w ++ trimChars u ++ w' := by
  obtain ⟨w', hw', he⟩ := exists_trimEnd (u.dropWhile isBlank)
  refine ⟨u.takeWhile isBlank, w', ?_, hw', ?_⟩
  · rw [List.all_eq_true]
    intro c hc
    exact List.mem_takeWhile_imp hc
  · rw [List.append_assoc, trimChars, ← he, List.takeWhile_append_dropWhile]

theorem trimmed_trimChars (u : List Char) : Trimmed (trimChars u) := by
  constructor
  · intro c hc
    obtain ⟨w, _, he⟩ := exists_trimEnd (u.dropWhile isBlank)
    -- the first character that is left is the first one that is not blank
    have hhead : (u.dropWhile isBlank).head? = some c := by
      rw [he, List.head?_append, ← trimChars, hc, Option.some_or]
    have := List.head?_dropWhile_not isBlank u
    rw [hhead] at this
    exact this
  · intro c hc
    have hne : trimChars u ≠ [] := fun e => by rw [e] at hc; cases hc
    have := getLast_trimChars hne
    rw [List.getLast?_eq_some_getLast hne, Option.some.injEq] at hc
    rwa [hc] at this

theorem trimChars_around (hw : w.all isBlank = true) (hw' : w'.all isBlank = true) (u : List Char) :
    trimChars (w ++ u ++ w') = trimChars u := by
  rw [List.append_assoc, trimChars_append_of_blank hw, trimChars, trimChars, List.dropWhile_append]
  split
  · rename_i h
    rw [List.isEmpty_iff.mp h, dropWhile_eq_nil_iff_all.mpr hw']
  · exact trimEnd_append_of_blank hw' _

theorem filter_trimChars (u : List Char) :
    (trimChars u).filter (!isBlank ·) = u.filter (!isBlank ·) := by
  have hnone : ∀ w : List Char, w.all isBlank = true → w.filter (!isBlank ·) = [] := by
    intro w hw
    rw [List.filter_eq_nil_iff]
    intro c hc
    simp [List.all_eq_true.mp hw c hc]
  obtain ⟨w, w', hw, hw', he⟩ := exists_trimChars u
  conv_rhs => rw [he]
  rw [List.filter_append, List.filter_append, hnone w hw, hnone w' hw', List.nil_append, List.append_nil]

/-! ### Words -/

/-- The parts of a text that its blanks separate. -/
def words (u : List Char) : List (List Char) := (blankSeparated u).filter (· ≠ [])

theorem collapseBlanks_eq (u : List Char) :
    collapseBlanks (String.ofList u) = String.ofList ([' '].intercalate (words u)) := by
  rw [collapseBlanks, String.toList_ofList, words]

theorem blankSeparated_ne_nil (u : List Char) : blankSeparated u ≠ [] := by
  cases u with
  | nil => exact List.cons_ne_nil _ _
  | cons c rest =>
      rw [blankSeparated]
      split
      · exact List.cons_ne_nil _ _
      · split <;> exact List.cons_ne_nil _ _

theorem blankSeparated_append_cons {c : Char} (hc : isBlank c = true) (u v : List Char) :
    blankSeparated (u ++ c :: v) = blankSeparated u ++ blankSeparated v := by
  induction u with
  | nil => simp [blankSeparated, hc]
  | cons d rest ih =>
      obtain ⟨p, ps, hp⟩ := List.exists_cons_of_ne_nil (blankSeparated_ne_nil rest)
      rw [List.cons_append, blankSeparated, blankSeparated, ih, hp]
      cases isBlank d <;> simp

theorem words_append_cons {c : Char} (hc : isBlank c = true) (u v : List Char) :
    words (u ++ c :: v) = words u ++ words v := by
  rw [words, blankSeparated_append_cons hc, List.filter_append, words, words]

theorem words_nil : words [] = [] := by decide

/-- The words of a text that ends with a blank are not continued by what follows. -/
theorem words_append (h : u = [] ∨ ∃ v c, isBlank c = true ∧ u = v ++ [c]) (v : List Char) :
    words (u ++ v) = words u ++ words v := by
  rcases h with rfl | ⟨u, c, hc, rfl⟩
  · rw [words_nil, List.nil_append, List.nil_append]
  · rw [← List.append_cons, words_append_cons hc, words_append_cons hc, words_nil, List.append_nil]

theorem words_of_blank (hw : w.all isBlank = true) : words w = [] := by
  induction w with
  | nil => exact words_nil
  | cons c rest ih =>
      obtain ⟨hc, hrest⟩ := Bool.and_eq_true_iff.mp hw
      have h := words_append_cons hc [] rest
      rwa [List.nil_append, words_nil, ih hrest] at h

theorem words_append_of_blank (hw : w.all isBlank = true) (u : List Char) : words (w ++ u) = words u := by
  rcases List.eq_nil_or_concat' w with rfl | ⟨v, c, rfl⟩
  · rfl
  · have hc : isBlank c = true := List.all_eq_true.mp hw c (by simp)
    rw [words_append (.inr ⟨v, c, hc, rfl⟩), words_of_blank hw, List.nil_append]

theorem words_of_append_blank (hw : w.all isBlank = true) (u : List Char) : words (u ++ w) = words u := by
  cases w with
  | nil => rw [List.append_nil]
  | cons c rest =>
      obtain ⟨hc, hrest⟩ := Bool.and_eq_true_iff.mp hw
      rw [words_append_cons hc, words_of_blank hrest, List.append_nil]

theorem words_trimChars (u : List Char) : words (trimChars u) = words u := by
  obtain ⟨w, w', hw, hw', he⟩ := exists_trimChars u
  conv_rhs => rw [he, words_of_append_blank hw', words_append_of_blank hw]

theorem words_eq_nil_iff : words u = [] ↔ u.all isBlank = true := by
  refine ⟨fun h => ?_, words_of_blank⟩
  induction u with
  | nil => rfl
  | cons c rest ih =>
      rw [List.all_cons, Bool.and_eq_true]
      by_cases hc : isBlank c = true
      · have hrest := words_append_cons hc [] rest
        rw [List.nil_append, h, words_nil, List.nil_append] at hrest
        exact ⟨hc, ih hrest.symm⟩
      · obtain ⟨p, ps, hp⟩ := List.exists_cons_of_ne_nil (blankSeparated_ne_nil rest)
        rw [words, blankSeparated, if_neg hc, hp] at h
        simp at h

end SchoolRegister.Text
