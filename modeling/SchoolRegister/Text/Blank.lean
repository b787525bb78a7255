import SchoolRegister.Text.Basic

/-! # Blank characters and trimming

Blank are the characters with the White Space property and the four information separators
`U+001C` to `U+001F`.  `trimChars` takes the blanks off both ends of a text: the result does
not end with one (`getLast_trimChars`) nor start with one, it is empty exactly for a text of blanks
(`trimChars_eq_nil_iff`), and a start without blanks stays as it is (`trimChars_append`).
`collapseBlanks` also shortens the runs of blanks inside to one space. -/

namespace SchoolRegister.Text

def blankRanges : List (Nat × Nat) := [
  (0x9, 0xd), (0x1c, 0x20), (0x85, 0x85), (0xa0, 0xa0), (0x1680, 0x1680), (0x2000, 0x200a),
  (0x2028, 0x2029), (0x202f, 0x202f), (0x205f, 0x205f), (0x3000, 0x3000)]

/-- A character that trimming removes. -/
def isBlank (c : Char) : Bool := inRanges blankRanges c.toNat

/-- The text without the blanks at its end. -/
def trimEnd (s : List Char) : List Char := (s.reverse.dropWhile isBlank).reverse

/-- The text without the blanks at its two ends. -/
def trimChars (s : List Char) : List Char := trimEnd (s.dropWhile isBlank)

/-- The text without the blanks at its two ends. -/
def trim (s : String) : String := String.ofList (trimChars s.toList)

/-- A text of blanks only, the empty text included. -/
def isBlankText (s : String) : Bool := s.toList.all isBlank

/-! ### Words -/

/-- The parts of a text between its single blanks, empty ones included. -/
def blankSeparated : List Char → List (List Char)
  | [] => [[]]
  | c :: rest =>
    if isBlank c then [] :: blankSeparated rest
    else match blankSeparated rest with
      | [] => [[c]]
      | word :: words => (c :: word) :: words

/-- The text with one space in place of every longest run of blanks and none at its ends. -/
def collapseBlanks (s : String) : String :=
  String.ofList ([' '].intercalate ((blankSeparated s.toList).filter (· ≠ [])))

/-! ### What trimming leaves -/

theorem dropWhile_eq_nil_iff_all {p : Char → Bool} {s : List Char} :
    s.dropWhile p = [] ↔ s.all p = true := by
  induction s with
  | nil => simp
  | cons c r ih => cases h : p c <;> simp_all

theorem trimEnd_eq_nil_iff {s : List Char} : trimEnd s = [] ↔ s.all isBlank = true := by
  rw [trimEnd, List.reverse_eq_nil_iff, dropWhile_eq_nil_iff_all, List.all_reverse]

theorem all_dropWhile_isBlank {s : List Char} :
    (s.dropWhile isBlank).all isBlank = s.all isBlank := by
  induction s with
  | nil => rfl
  | cons c r ih => cases h : isBlank c <;> simp_all

theorem trimChars_eq_nil_iff {s : List Char} : trimChars s = [] ↔ s.all isBlank = true := by
  rw [trimChars, trimEnd_eq_nil_iff, all_dropWhile_isBlank]

theorem trimEnd_append {p : List Char} (hp : ∀ c ∈ p, isBlank c = false) (s : List Char) :
    trimEnd (p ++ s) = p ++ trimEnd s := by
  have hkeep : p.reverse.dropWhile isBlank = p.reverse := by
    cases h : p.reverse with
    | nil => rfl
    | cons c r =>
        have hc : c ∈ p := List.mem_reverse.mp (h ▸ List.mem_cons_self)
        exact List.dropWhile_cons_of_neg (by simp [hp c hc])
  rw [trimEnd, trimEnd, List.reverse_append, List.dropWhile_append]
  split
  · rename_i h
    rw [hkeep, List.reverse_reverse, List.isEmpty_iff.mp h]
    exact (List.append_nil p).symm
  · rw [List.reverse_append, List.reverse_reverse]

theorem trimChars_append {p : List Char} (hne : p ≠ []) (hp : ∀ c ∈ p, isBlank c = false)
    (s : List Char) : trimChars (p ++ s) = p ++ trimEnd s := by
  cases p with
  | nil => exact absurd rfl hne
  | cons c p =>
      rw [trimChars, List.cons_append, List.dropWhile_cons_of_neg (by simp [hp c List.mem_cons_self])]
      exact trimEnd_append hp s

theorem getLast_trimEnd {s : List Char} (h : trimEnd s ≠ []) :
    isBlank ((trimEnd s).getLast h) = false := by
  have hr : s.reverse.dropWhile isBlank ≠ [] := by simpa [trimEnd] using h
  have := List.head_dropWhile_not isBlank hr
  simpa [trimEnd, List.getLast_reverse] using this

theorem getLast_trimChars {s : List Char} (h : trimChars s ≠ []) :
    isBlank ((trimChars s).getLast h) = false :=
  getLast_trimEnd h

theorem trimChars_of_forall {s : List Char} (h : ∀ c ∈ s, isBlank c = false) : trimChars s = s := by
  cases s with
  | nil => rfl
  | cons c r =>
      have he := trimChars_append (List.cons_ne_nil c r) h []
      rwa [List.append_nil, trimEnd_eq_nil_iff.mpr rfl, List.append_nil] at he

end SchoolRegister.Text
