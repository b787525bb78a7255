/-! # Surrogates and the order of texts

Two numbers from the surrogate range, a high one and then a low one, stand together for a character
beyond the first 65536.  A text from outside may hold one of them alone, which is no character: a
`Char` of a block to which no characters are assigned stands in for it (`charOfCode`), and `codeOfChar`
gives the number back that it stands for.  The block is reserved for that: a text with a `Char` of it is
taken for one with a lone half, so results that depend on lone halves are stated for texts without any
`Char` of the block (`isStandIn`).

Texts are compared by their codes (`precedes`), and a stand-in has the code of what it stands for. -/

namespace SchoolRegister.Text

def isHighSurrogate (n : Nat) : Bool := 0xd800 ≤ n && n < 0xdc00

def isLowSurrogate (n : Nat) : Bool := 0xdc00 ≤ n && n < 0xe000

/-- One half of a pair. -/
def isSurrogate (n : Nat) : Bool := isHighSurrogate n || isLowSurrogate n

def pairedChar (high low : Nat) : Char :=
  Char.ofNat (0x10000 + (high - 0xd800) * 0x400 + (low - 0xdc00))

/-- How far the stand-in for a lone half lies from it. -/
def standInOffset : Nat := 0xa0000

/-- The character with a code, or the stand-in for a lone half of a pair. -/
def charOfCode (n : Nat) : Char :=
  Char.ofNat (if isSurrogate n then n + standInOffset else n)

/-- The code of a character; a stand-in has the code of what it stands for. -/
def codeOfChar (c : Char) : Nat :=
  if isSurrogate (c.toNat - standInOffset) then c.toNat - standInOffset else c.toNat

/-- The character stands in for a lone half of a pair. -/
def isStandIn (c : Char) : Bool := isSurrogate (c.toNat - standInOffset)

/-! ### The order of texts -/

def codes (s : String) : List Nat := s.toList.map codeOfChar

/-- The first of two texts comes before the second. -/
def precedes (s t : String) : Bool := decide (codes s < codes t)

theorem isSurrogate_iff {n : Nat} : isSurrogate n = true ↔ 0xd800 ≤ n ∧ n < 0xe000 := by
  simp only [isSurrogate, isHighSurrogate, isLowSurrogate, Bool.or_eq_true, Bool.and_eq_true, decide_eq_true_eq]
  omega

/-- No character has the number of a surrogate, so no other character has the code of a stand-in. -/
theorem codeOfChar_injective {c d : Char} (h : codeOfChar c = codeOfChar d) : c = d := by
  have hc : c.toNat < 0xd800 ∨ 0xdfff < c.toNat ∧ c.toNat < 0x110000 := c.valid
  have hd : d.toNat < 0xd800 ∨ 0xdfff < d.toNat ∧ d.toNat < 0x110000 := d.valid
  have hoffset : standInOffset = 0xa0000 := rfl
  apply Char.toNat_inj.mp
  unfold codeOfChar at h
  split at h <;> split at h <;> rename_i hcs hds <;> rw [isSurrogate_iff] at hcs hds <;> omega

theorem codes_injective {s t : String} (h : codes s = codes t) : s = t :=
  String.toList_inj.mp ((List.map_inj_right fun _ _ => codeOfChar_injective).mp h)

end SchoolRegister.Text
