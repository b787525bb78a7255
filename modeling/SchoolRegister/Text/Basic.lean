/-! # Texts

What the other modules on texts share.  A property of characters is given as a table of closed ranges
of code points (`inRanges`).  `separated separator s` is the list of the parts of a text between the
places of a separator; there is one part more than there are separators, and parts may be empty.

A word in capital letters is compared with words of the ASCII range, so `capitalized` is exact where
the capitals of a character lie in that range; any other character stays as it is, and no word with
it equals one of those words. -/

namespace SchoolRegister.Text

/-! ### Tables of characters -/

/-- Some range of the table holds the code point. -/
def inRanges (table : List (Nat × Nat)) (code : Nat) : Bool :=
  table.any fun range => range.1 ≤ code && code ≤ range.2

theorem inRanges_iff {table : List (Nat × Nat)} {code : Nat} :
    inRanges table code = true ↔ ∃ range ∈ table, range.1 ≤ code ∧ code ≤ range.2 := by
  simp [inRanges]

/-! ### Parts -/

/-- The parts of a text between the places of a separator. -/
def separated (separator : Char) : List Char → List (List Char)
  | [] => [[]]
  | c :: rest =>
    match separated separator rest with
    | [] => [[c]]
    | part :: parts => if c = separator then [] :: part :: parts else (c :: part) :: parts

/-! ### Capital letters -/

/-- The capital letters for a character, as far as they are in the ASCII range: beyond it only two
letters and eight ligatures have such capitals. -/
def capitals (c : Char) : List Char :=
  match c with
  | 'ı' => ['I']
  | 'ſ' => ['S']
  | 'ß' => ['S', 'S']
  | 'ﬀ' => ['F', 'F']
  | 'ﬁ' => ['F', 'I']
  | 'ﬂ' => ['F', 'L']
  | 'ﬃ' => ['F', 'F', 'I']
  | 'ﬄ' => ['F', 'F', 'L']
  | 'ﬅ' | 'ﬆ' => ['S', 'T']
  | c => [c.toUpper]

def capitalized (s : String) : String := String.ofList (s.toList.flatMap capitals)

end SchoolRegister.Text
