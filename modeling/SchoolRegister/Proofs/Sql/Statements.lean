import SchoolRegister.Proofs.Sql.Quotation
import SchoolRegister.Proofs.Sql.Script
import SchoolRegister.Proofs.Text.Trimming

/-! # Splitting undoes joining

A place of a text is a separator if it holds a semicolon and the text before it is balanced (`IsSeparator`);
a statement is a trimmed, balanced text without separators (`IsStatement`).  Statements that are joined by
semicolons, with blanks around these or not and with one more at the end or not (`Joined`), are what the
script is split into.  Conversely every part of any script is trimmed and split into itself alone, and all
that a script loses are its separators and blanks.  Both directions are in `statements_undo_joining`.

On the way, `Scan.undivided` says that a scan meets no separator in a text: such a text is one piece
(`pieces_of_undivided`), and every piece of a script is such a text (`undivided_of_mem_pieces`). -/

namespace SchoolRegister.Sql

open Text

/-- The place of the text holds a semicolon outside quotations and not after a backslash. -/
def IsSeparator (text : List Char) (i : Nat) : Prop := text[i]? = some ';' ∧ Balanced (text.take i)

instance (text : List Char) (i : Nat) : Decidable (IsSeparator text i) :=
  inferInstanceAs (Decidable (_ ∧ _))

/-- The text without its separators. -/
def withoutSeparators (text : List Char) : List Char :=
  (text.zipIdx.filter fun p => !decide (IsSeparator text p.2)).map (·.1)

/-- A text that may be one of the statements of a script. -/
structure IsStatement (u : List Char) : Prop where
  nonempty : u ≠ []
  trimmed : Trimmed u
  balanced : Balanced u
  undivided : ∀ i, ¬ IsSeparator u i

/-- What may follow the last statement of a script: blanks, and perhaps a semicolon among them. -/
inductive IsEnd : List Char → Prop
  | open {w : List Char} : w.all isBlank = true → IsEnd w
  | closed {w v : List Char} : w.all isBlank = true → v.all isBlank = true → IsEnd (w ++ ';' :: v)

/-- The script consists of the parts, joined by semicolons with any blanks around them. -/
inductive Joined : List (List Char) → List Char → Prop
  | nil {e : List Char} : IsEnd e → Joined [] e
  | last {w part e : List Char} : w.all isBlank = true → IsEnd e → Joined [part] (w ++ part ++ e)
  | cons {w v part next script : List Char} {parts : List (List Char)} :
      w.all isBlank = true → v.all isBlank = true → Joined (next :: parts) script →
      Joined (part :: next :: parts) (w ++ part ++ v ++ ';' :: script)

variable {s : Scan} {p u v w w' e : List Char} {c : Char}

/-! ### Texts without separators -/

/-- The scan meets no separator in the text. -/
def Scan.undivided (s : Scan) : List Char → Bool
  | [] => true
  | c :: rest => !s.separates c && (s.next c).undivided rest

theorem undivided_append : s.undivided (u ++ v) = (s.undivided u && (s.after u).undivided v) := by
  induction u generalizing s with
  | nil => rfl
  | cons c rest ih => rw [List.cons_append, Scan.undivided, Scan.undivided, ih, after_cons, Bool.and_assoc]

theorem pieces_of_undivided (h : s.undivided u = true) : pieces s u = [u] := by
  induction u generalizing s with
  | nil => rfl
  | cons c rest ih =>
      rw [Scan.undivided, Bool.and_eq_true, Bool.not_eq_true'] at h
      rw [pieces, h.1, ih h.2]
      rfl

/-- What precedes the first separator is undivided, and so is what lies between two of them. -/
theorem undivided_of_pieces {ps : List (List Char)} (h : pieces s u = p :: ps) :
    s.undivided p = true ∧ ∀ q ∈ ps, Scan.undivided {} q = true := by
  induction u generalizing s p ps with
  | nil =>
      cases h
      exact ⟨rfl, nofun⟩
  | cons c rest ih =>
      rw [pieces] at h
      split at h
      · rename_i hs
        obtain ⟨q, qs, hq⟩ := List.exists_cons_of_ne_nil (pieces_ne_nil s rest)
        obtain ⟨hfirst, hothers⟩ := ih hq
        cases h
        -- a separator is met only where the scan of a script starts
        obtain rfl : s = {} := by
          simp only [Scan.separates, Bool.and_eq_true, Bool.not_eq_true', decide_eq_true_eq] at hs
          rcases s with ⟨inside, escaped⟩
          simp_all
        refine ⟨rfl, fun r hr => ?_⟩
        rw [hq] at hr
        rcases List.mem_cons.mp hr with rfl | hr
        · exact hfirst
        · exact hothers r hr
      · rename_i hs
        obtain ⟨q, qs, hq⟩ := List.exists_cons_of_ne_nil (pieces_ne_nil (s.next c) rest)
        obtain ⟨hfirst, hothers⟩ := ih hq
        rw [hq] at h
        cases h
        exact ⟨by rw [Scan.undivided, hfirst]; simpa using hs, hothers⟩

theorem undivided_of_mem_pieces (h : p ∈ pieces {} u) : Scan.undivided {} p = true := by
  obtain ⟨q, qs, hq⟩ := List.exists_cons_of_ne_nil (pieces_ne_nil {} u)
  obtain ⟨hfirst, hothers⟩ := undivided_of_pieces hq
  rw [hq] at h
  rcases List.mem_cons.mp h with rfl | h
  · exact hfirst
  · exact hothers p h

theorem undivided_of_blank (hw : w.all isBlank = true) : Scan.undivided {} w = true :=
  undivided_of_mem_pieces (u := w) (by rw [(pieces_of_blank hw).2]; exact List.mem_singleton_self w)

theorem undivided_trimChars (h : Scan.undivided {} u = true) : Scan.undivided {} (trimChars u) = true := by
  obtain ⟨w, w', hw, _, he⟩ := exists_trimChars u
  rw [he, List.append_assoc, undivided_append, (pieces_of_blank hw).1, undivided_append] at h
  simp only [Bool.and_eq_true] at h
  exact h.2.1

/-! ### Separators by their places -/

theorem isSeparator_append_iff : IsSeparator (p ++ c :: u) p.length ↔
    (Scan.after {} p).separates c = true := by
  rw [separates_iff, IsSeparator, List.getElem?_append_right (Nat.le_refl _), Nat.sub_self,
    List.take_left' rfl, List.getElem?_cons_zero, Option.some.injEq]
  exact And.comm

/-- A scan from behind a text meets no separator if no later place holds one. -/
theorem undivided_iff : (Scan.after {} p).undivided u = true ↔
    ∀ i, p.length ≤ i → ¬ IsSeparator (p ++ u) i := by
  induction u generalizing p with
  | nil =>
      refine ⟨fun _ i hi h => ?_, fun _ => rfl⟩
      rw [List.append_nil] at h
      have hlt := (List.getElem?_eq_some_iff.mp h.1).1
      omega
  | cons c rest ih =>
      have hnext : (Scan.after {} p).next c = Scan.after {} (p ++ [c]) := by
        rw [after_append]
        rfl
      have happend : p ++ [c] ++ rest = p ++ c :: rest := by simp
      rw [Scan.undivided, Bool.and_eq_true, Bool.not_eq_true', ← Bool.not_eq_true, ← isSeparator_append_iff,
        hnext, ih, happend, List.length_append, List.length_singleton]
      constructor
      · rintro ⟨hfirst, hlater⟩ i hi
        rcases Nat.eq_or_lt_of_le hi with rfl | hlt
        · exact hfirst
        · exact hlater i hlt
      · intro h
        exact ⟨h _ (Nat.le_refl _), fun i hi => h i (Nat.le_of_succ_le hi)⟩

theorem undivided_iff_forall : Scan.undivided {} u = true ↔ ∀ i, ¬ IsSeparator u i := by
  have h := undivided_iff (p := []) (u := u)
  rw [List.nil_append] at h
  exact h.trans ⟨fun hi i => hi i (Nat.zero_le i), fun hi i _ => hi i⟩

instance : DecidablePred IsStatement := fun u =>
  decidable_of_iff (u ≠ [] ∧ Trimmed u ∧ Balanced u ∧ Scan.undivided {} u = true) <| by
    rw [undivided_iff_forall]
    exact ⟨fun ⟨hne, ht, hb, hi⟩ => ⟨hne, ht, hb, hi⟩, fun h => ⟨h.nonempty, h.trimmed, h.balanced, h.undivided⟩⟩

theorem flatten_pieces (p u : List Char) : (pieces (Scan.after {} p) u).flatten =
    ((u.zipIdx p.length).filter fun q => !decide (IsSeparator (p ++ u) q.2)).map (·.1) := by
  induction u generalizing p with
  | nil => rfl
  | cons c rest ih =>
      have hnext : (Scan.after {} p).next c = Scan.after {} (p ++ [c]) := by
        rw [after_append]
        rfl
      have hrest := ih (p ++ [c])
      rw [List.length_append, List.length_singleton, List.append_assoc, List.singleton_append] at hrest
      rw [List.zipIdx_cons, pieces]
      by_cases hs : (Scan.after {} p).separates c = true
      · have hsep : IsSeparator (p ++ c :: rest) p.length := isSeparator_append_iff.mpr hs
        rw [if_pos hs, List.filter_cons_of_neg (by simp [hsep]), List.flatten_cons, List.nil_append, ← hrest,
          ← hnext, next_of_separates hs]
      · have hsep : ¬ IsSeparator (p ++ c :: rest) p.length := mt isSeparator_append_iff.mp hs
        obtain ⟨q, qs, hq⟩ := List.exists_cons_of_ne_nil (pieces_ne_nil ((Scan.after {} p).next c) rest)
        rw [if_neg hs, List.filter_cons_of_pos (by simp [hsep]), List.map_cons, ← hrest, ← hnext, hq]
        rfl

/-! ### Statements that are joined -/

namespace IsStatement

variable (h : IsStatement u)
include h

theorem around (hw : w.all isBlank = true) (hw' : w'.all isBlank = true) :
    pieces {} (w ++ u ++ w') = [w ++ u ++ w'] ∧ Scan.after {} (w ++ u ++ w') = {} := by
  have hafter : Scan.after {} (w ++ u) = {} := by
    rw [after_append, (pieces_of_blank hw).1, balanced_iff.mp h.balanced]
  constructor
  · apply pieces_of_undivided
    rw [undivided_append, undivided_append, hafter, (pieces_of_blank hw).1, undivided_of_blank hw,
      undivided_of_blank hw', undivided_iff_forall.mpr h.undivided]
    rfl
  · rw [after_append, hafter, (pieces_of_blank hw').1]

theorem statements_around (hw : w.all isBlank = true) (hw' : w'.all isBlank = true) :
    statements (w ++ u ++ w') = [u] := by
  rw [statements, (h.around hw hw').1, List.map_singleton, trimChars_around hw hw', trimChars_of_trimmed h.trimmed]
  simp [h.nonempty]

theorem statements_closed (hw : w.all isBlank = true) (hw' : w'.all isBlank = true) (v : List Char) :
    statements (w ++ u ++ w' ++ ';' :: v) = u :: statements v := by
  obtain ⟨hpieces, hafter⟩ := h.around hw hw'
  -- what is closed is two pieces, of which the second one is empty
  have hclosed : pieces {} (w ++ u ++ w' ++ [';']) = [w ++ u ++ w', []] := by
    rw [pieces_append, hpieces, hafter]
    simp [pieces, Scan.separates, glue]
  have hwhole : isWhole (w ++ u ++ w' ++ [';']) = true := by
    rw [isWhole, hclosed, after_append, hafter]
    rfl
  have hstatements : statements (w ++ u ++ w' ++ [';']) = [u] := by
    have hone := h.statements_around hw hw'
    have hempty : trimChars [] = [] := rfl
    rw [statements, hpieces, List.map_singleton, trimChars_around hw hw'] at hone
    rw [statements, hclosed, List.map_cons, List.map_singleton, trimChars_around hw hw', hempty, ← hone]
    simp [List.filter_cons]
  rw [List.append_cons, statements_append hwhole, hstatements]
  rfl

end IsStatement

theorem statements_of_isEnd (h : IsEnd e) : statements e = [] := by
  cases h with
  | «open» hw => exact statements_of_blank hw
  | @closed w w' hw hw' =>
      have hpieces : pieces {} (w ++ ';' :: w') = [w, w'] := by
        rw [pieces_append, (pieces_of_blank hw).1, (pieces_of_blank hw).2, pieces]
        simp [Scan.separates, (pieces_of_blank hw').2, glue]
      simp [statements, hpieces, trimChars_eq_nil_iff.mpr hw, trimChars_eq_nil_iff.mpr hw']

theorem statements_last (hu : IsStatement u) (hw : w.all isBlank = true) (he : IsEnd e) :
    statements (w ++ u ++ e) = [u] := by
  cases he with
  | «open» hw' => exact hu.statements_around hw hw'
  | closed hw' hw'' => rw [← List.append_assoc, hu.statements_closed hw hw', statements_of_blank hw'']

/-- Statements that are joined are the statements of the script. -/
theorem statements_of_joined {parts : List (List Char)} {script : List Char} (h : Joined parts script)
    (hparts : ∀ u ∈ parts, IsStatement u) : statements script = parts := by
  induction h with
  | nil he => exact statements_of_isEnd he
  | last hw he => exact statements_last (hparts _ List.mem_cons_self) hw he
  | cons hw hw' _ ih =>
      rw [(hparts _ List.mem_cons_self).statements_closed hw hw', ih]
      intro v hv
      exact hparts v (List.mem_cons_of_mem _ hv)

/-! ### The parts of any script -/

theorem statements_of_mem {script : List Char} (h : u ∈ statements script) :
    u ≠ [] ∧ Trimmed u ∧ statements u = [u] := by
  obtain ⟨hmem, hne⟩ := List.mem_filter.mp h
  obtain ⟨q, hq, rfl⟩ := List.mem_map.mp hmem
  have hne : trimChars q ≠ [] := by simpa using hne
  have htrimmed := trimmed_trimChars q
  refine ⟨hne, htrimmed, ?_⟩
  rw [statements, pieces_of_undivided (undivided_trimChars (undivided_of_mem_pieces hq)),
    List.map_singleton, trimChars_of_trimmed htrimmed]
  simp [hne]

/-- What is not blank in a script is in its statements, but for the separators. -/
theorem filter_flatten_statements (script : List Char) :
    (statements script).flatten.filter (!isBlank ·) = (withoutSeparators script).filter (!isBlank ·) := by
  have hpieces : (pieces {} script).flatten = withoutSeparators script := flatten_pieces [] script
  have htrim : ∀ ps : List (List Char),
      (ps.map trimChars).flatten.filter (!isBlank ·) = ps.flatten.filter (!isBlank ·) := by
    intro ps
    induction ps with
    | nil => rfl
    | cons q qs ih =>
        rw [List.map_cons, List.flatten_cons, List.flatten_cons, List.filter_append, List.filter_append,
          filter_trimChars, ih]
  rw [statements, List.flatten_filter_ne_nil, htrim, hpieces]

/-- Statements that are joined by semicolons are found again; and of any script, each part stands for itself,
and nothing is lost but separators and blanks. -/
theorem statements_undo_joining :
    (∀ parts script, Joined parts script → (∀ u ∈ parts, IsStatement u) → statements script = parts) ∧
    ∀ script, (∀ u ∈ statements script, u ≠ [] ∧ Trimmed u ∧ statements u = [u]) ∧
      (statements script).flatten.filter (!isBlank ·) = (withoutSeparators script).filter (!isBlank ·) :=
  ⟨fun _ _ => statements_of_joined, fun script => ⟨fun _ => statements_of_mem, filter_flatten_statements script⟩⟩

/-- Semicolons in quotation and after a backslash stay in their statements. -/
theorem statements_undo_joining_quoted :
    let parts := ["INSERT 'a;b'".toList, "x\\;y".toList, "\"it's\"".toList]
    let script := "INSERT 'a;b' ;\n x\\;y;\"it's\" ; ".toList
    Joined parts script ∧ (∀ u ∈ parts, IsStatement u) ∧ statements script = parts := by
  intro parts script
  have hjoined : Joined parts script := by
    apply Joined.cons (w := []) (v := [' ']) (by decide) (by decide)
    apply Joined.cons (w := "\n ".toList) (v := []) (by decide) (by decide)
    apply Joined.last (w := []) (by decide)
    apply IsEnd.closed (w := [' ']) (v := [' ']) <;> decide
  have hparts : ∀ u ∈ parts, IsStatement u := by decide
  exact ⟨hjoined, hparts, statements_undo_joining.1 parts script hjoined hparts⟩

end SchoolRegister.Sql
