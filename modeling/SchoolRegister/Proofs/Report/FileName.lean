import SchoolRegister.Proofs.Calendar.Written
import SchoolRegister.Report.Export

/-! # The name of the file of a report

The name of a file consists of fixed texts and of five parts: what is left of the name of the class, the numbers of
the term and of the year, and the two ends of the period (`NameParts`).  `Slugged` says what is left of a text,
without saying how it is computed: safe characters stay, and an underscore stands for each run of others; it
determines the slug (`slugged_iff`).  So there is only one shape for the name of a file whatever the class is
called (`names_csvName`), and nothing in such a name has a meaning for the header that it stands in
(`NameParts.Names.mem_text`). -/

namespace SchoolRegister.Report

open Number Service

/-! ### Safe characters -/

/-- A letter or a digit of the ASCII range, an underscore or a hyphen. -/
def NameChar (c : Char) : Prop :=
  ('A' ≤ c ∧ c ≤ 'Z') ∨ ('a' ≤ c ∧ c ≤ 'z') ∨ ('0' ≤ c ∧ c ≤ '9') ∨ c = '_' ∨ c = '-'

variable {s t run rest : List Char} {c : Char}

theorem range_iff (first last : Char) : (decide (c.val ≥ first.val) && decide (c.val ≤ last.val)) = true ↔
    first ≤ c ∧ c ≤ last := by
  rw [Bool.and_eq_true, decide_eq_true_iff, decide_eq_true_iff]
  rfl

theorem isSafe_iff : isSafe c = true ↔ NameChar c := by
  have hupper : c.isUpper = true ↔ 'A' ≤ c ∧ c ≤ 'Z' := decide_eq_true_iff
  have hlower : c.isLower = true ↔ 'a' ≤ c ∧ c ≤ 'z' := range_iff 'a' 'z'
  have hdigit : c.isDigit = true ↔ '0' ≤ c ∧ c ≤ '9' := range_iff '0' '9'
  have hsafe : isSafe c = ((((c.isUpper || c.isLower) || c.isDigit) || c == '_') || c == '-') := rfl
  rw [hsafe]
  simp only [Bool.or_eq_true, hupper, hlower, hdigit, beq_iff_eq, NameChar, or_assoc]

theorem nameChar_of_all (h : s.all isSafe = true) : ∀ c ∈ s, NameChar c :=
  fun c hc => isSafe_iff.mp (List.all_eq_true.mp h c hc)

theorem nameChar_of_isDigit (h : c.isDigit = true) : NameChar c :=
  .inr (.inr (.inl ((range_iff '0' '9').mp h)))

/-! ### Slugs -/

/-- What is left of a text: each safe character is kept, and an underscore stands for each run of unsafe
characters that is as long as can be. -/
inductive Slugged : List Char → List Char → Prop
  | nil : Slugged [] []
  | safe {c : Char} {s t : List Char} : NameChar c → Slugged s t → Slugged (c :: s) (c :: t)
  | run {run s t : List Char} : run ≠ [] → (∀ c ∈ run, ¬ NameChar c) → (∀ c ∈ s.head?, NameChar c) →
      Slugged s t → Slugged (run ++ s) ('_' :: t)

theorem slugFrom_safe (h : NameChar c) (inRun : Bool) : slugFrom inRun (c :: s) = c :: slugFrom false s := by
  rw [slugFrom, if_pos (isSafe_iff.mpr h)]

theorem slugFrom_other (h : ¬ NameChar c) : slugFrom false (c :: s) = '_' :: slugFrom true s ∧
    slugFrom true (c :: s) = slugFrom true s := by
  have hc : ¬ isSafe c = true := mt isSafe_iff.mp h
  rw [slugFrom, slugFrom, if_neg hc, if_neg hc]
  exact ⟨rfl, rfl⟩

/-- Once an underscore stands for it, the rest of a run leaves nothing. -/
theorem slugFrom_run (h : ∀ c ∈ run, ¬ NameChar c) : slugFrom true (run ++ s) = slugFrom true s := by
  induction run with
  | nil => rfl
  | cons c run ih =>
      rw [List.cons_append, (slugFrom_other (h c List.mem_cons_self)).2]
      exact ih fun d hd => h d (List.mem_cons_of_mem c hd)

/-- After a run, it makes no difference that there was one. -/
theorem slugFrom_of_head (h : ∀ c ∈ s.head?, NameChar c) : slugFrom true s = slugFrom false s := by
  cases s with
  | nil => rfl
  | cons c s => rw [slugFrom_safe (h c rfl), slugFrom_safe (h c rfl)]

/-- The slug at the start of a text or after a safe character, and in a run, which ends somewhere. -/
theorem slugged_slugFrom (s : List Char) : Slugged s (slugFrom false s) ∧
    ∃ run rest, s = run ++ rest ∧ (∀ c ∈ run, ¬ NameChar c) ∧ (∀ c ∈ rest.head?, NameChar c) ∧
      Slugged rest (slugFrom true s) := by
  induction s with
  | nil => exact ⟨.nil, [], [], rfl, nofun, nofun, .nil⟩
  | cons c s ih =>
      obtain ⟨hstart, run, rest, rfl, hrun, hrest, hslug⟩ := ih
      by_cases hc : NameChar c
      · rw [slugFrom_safe hc, slugFrom_safe hc]
        exact ⟨.safe hc hstart, [], c :: (run ++ rest), rfl, nofun, by simpa using hc, .safe hc hstart⟩
      · rw [(slugFrom_other hc).1, (slugFrom_other hc).2]
        have hall : ∀ d ∈ c :: run, ¬ NameChar d := List.forall_mem_cons.mpr ⟨hc, hrun⟩
        exact ⟨.run (List.cons_ne_nil c run) hall hrest hslug, c :: run, rest, rfl, hall, hrest, hslug⟩

theorem slugged_iff : Slugged s t ↔ t = slug s := by
  constructor
  · intro h
    unfold slug
    induction h with
    | nil => rfl
    | safe hc _ ih => rw [slugFrom_safe hc, ih]
    | @run run s t hne hrun hs _ ih =>
        cases run with
        | nil => exact absurd rfl hne
        | cons c run =>
            rw [List.forall_mem_cons] at hrun
            rw [List.cons_append, (slugFrom_other hrun.1).1, slugFrom_run hrun.2, slugFrom_of_head hs, ih]
  · rintro rfl
    exact (slugged_slugFrom s).1

theorem Slugged.nameChar (h : Slugged s t) : ∀ c ∈ t, NameChar c := by
  induction h with
  | nil => nofun
  | safe hc _ ih => exact List.forall_mem_cons.mpr ⟨hc, ih⟩
  | run _ _ _ _ ih => exact List.forall_mem_cons.mpr ⟨isSafe_iff.mp rfl, ih⟩

theorem Slugged.ne_nil (h : Slugged s t) (hs : s ≠ []) : t ≠ [] := by
  cases h with
  | nil => exact hs
  | safe => exact List.cons_ne_nil _ _
  | run => exact List.cons_ne_nil _ _

/-! ### Numbers and periods -/

/-- Digits of the ASCII range, one at least. -/
def IsNumeral (s : List Char) : Prop := s ≠ [] ∧ ∀ c ∈ s, c.isDigit = true

/-- One end of a period: the digits of a date, or a word that there is none. -/
def IsPeriodPart (s : List Char) : Prop := IsNumeral s ∨ s = "all".toList

theorem IsNumeral.nameChar (h : IsNumeral s) : ∀ c ∈ s, NameChar c := fun c hc => nameChar_of_isDigit (h.2 c hc)

theorem IsPeriodPart.nameChar (h : IsPeriodPart s) : ∀ c ∈ s, NameChar c := by
  rcases h with h | rfl
  · exact h.nameChar
  · exact nameChar_of_all (by decide)

theorem isNumeral_digitsOf (n : Nat) : IsNumeral (digitsOf n) :=
  ⟨Nat.toDigits_ne_nil, fun _ h => isDigit_of_mem_digitsOf h⟩

theorem isNumeral_integerText {n : Int} (h : 0 < n) : IsNumeral (integerText n).toList := by
  rw [integerText, String.toList_ofList, if_neg (by omega)]
  exact isNumeral_digitsOf _

theorem isNumeral_filter_text (d : Date) : IsNumeral (d.text.toList.filter (· != '-')) := by
  have hyear : (digitsOf d.year).filter (· != '-') = digitsOf d.year :=
    List.filter_eq_self.mpr fun c hc => Date.ne_hyphen_of_isDigit ((isNumeral_digitsOf _).2 c hc)
  rw [Date.toList_text, List.filter_append, hyear]
  refine ⟨List.append_ne_nil_of_left_ne_nil (isNumeral_digitsOf _).1 _, fun c hc => ?_⟩
  rcases List.mem_append.mp hc with hc | hc
  · exact (isNumeral_digitsOf _).2 c hc
  · obtain ⟨hc, hne⟩ := List.mem_filter.mp hc
    exact (Date.mem_monthDayChars hc).resolve_right (by simpa using hne)

theorem isPeriodPart_textOrEmpty (bound : Option Date) : IsPeriodPart (periodPart (Date.textOrEmpty bound)) := by
  cases bound with
  | none => exact .inr rfl
  | some d =>
      have hnumeral := isNumeral_filter_text d
      left
      rw [periodPart, Date.textOrEmpty]
      simp only [List.isEmpty_iff, if_neg hnumeral.1]
      exact hnumeral

/-! ### Names -/

/-- The parts of a name that are not the same in all of them. -/
structure NameParts where
  slug : List Char
  term : List Char
  year : List Char
  start : List Char
  finish : List Char

namespace NameParts

/-- The name that is made of the parts. -/
def text (p : NameParts) : List Char :=
  "attendance_".toList ++ p.slug ++ "_T".toList ++ p.term ++ '_' :: p.year ++ '_' :: p.start ++ '_' :: p.finish
    ++ ".csv".toList

/-- The parts name a class, a term and a period. -/
structure Names (p : NameParts) (className : String) : Prop where
  slugged : Slugged className.toList p.slug
  slug_ne_nil : p.slug ≠ []
  safe : ∀ c ∈ p.slug, NameChar c
  term : IsNumeral p.term
  year : IsNumeral p.year
  start : IsPeriodPart p.start
  finish : IsPeriodPart p.finish

variable {p : NameParts} {className : String}

theorem Names.mem_text (h : p.Names className) (hc : c ∈ p.text) : NameChar c ∨ c = '.' := by
  have hfirst : ∀ c ∈ "attendance_".toList, NameChar c := nameChar_of_all (by decide)
  have hterm : ∀ c ∈ "_T".toList, NameChar c := nameChar_of_all (by decide)
  have hlast : ".csv".toList.all (fun c => isSafe c || c == '.') = true := by decide
  have hunderscore : NameChar '_' := isSafe_iff.mp rfl
  unfold text at hc
  simp only [List.mem_append, List.mem_cons] at hc
  rcases hc with (((((((hc | hc) | hc) | hc) | rfl | hc) | rfl | hc) | rfl | hc) | hc)
  · exact .inl (hfirst c hc)
  · exact .inl (h.safe c hc)
  · exact .inl (hterm c hc)
  · exact .inl (h.term.nameChar c hc)
  · exact .inl hunderscore
  · exact .inl (h.year.nameChar c hc)
  · exact .inl hunderscore
  · exact .inl (h.start.nameChar c hc)
  · exact .inl hunderscore
  · exact .inl (h.finish.nameChar c hc)
  · have hc' := List.all_eq_true.mp hlast c hc
    rwa [Bool.or_eq_true, isSafe_iff, beq_iff_eq] at hc'

end NameParts

theorem names_csvName {place : ClassTerm} (span : Span) (days : List (Day String)) (hclass : place.className ≠ "")
    (hterm : 0 < place.term) (hyear : 0 < place.year) :
    ∃ p : NameParts, p.Names place.className ∧ csvName place (periodOf span days) = String.ofList p.text := by
  have hslug : Slugged place.className.toList (slug place.className.toList) := slugged_iff.mpr rfl
  refine ⟨⟨_, (integerText place.term).toList, (integerText place.year).toList, _, _⟩, ?_, rfl⟩
  exact
    { slugged := hslug
      slug_ne_nil := hslug.ne_nil (mt String.toList_eq_nil_iff.mp hclass)
      safe := hslug.nameChar
      term := isNumeral_integerText hterm
      year := isNumeral_integerText hyear
      start := isPeriodPart_textOrEmpty _
      finish := isPeriodPart_textOrEmpty _ }

end SchoolRegister.Report
