import Mathlib.Data.List.TakeWhile
import SchoolRegister.Number.Notation
import SchoolRegister.Number.Reading
import SchoolRegister.Proofs.Calendar.Written
import SchoolRegister.Proofs.Number.Hundredths
import SchoolRegister.Proofs.Number.Difference

/-! # Positional notation is read

A text of digits with a point among them is read as the number of its digits, divided by ten for each digit
after the point (`IsPositional.exists_ofText?`).  The notation of a double of moderate size is of that form
(`exists_isPositional`), so the text of a double of hundredths denotes exactly that number of hundredths
(`Binary64.textDenotes_ofHundredths`), and so does the double in decimal arithmetic
(`Binary64.exists_ofDouble`). -/

namespace SchoolRegister.Number

open Text

/-! ### Digits -/

/-- What a row of decimal digits denotes. -/
def digitsValue (s : List Char) : Nat := ofDigits (s.map digitOrZero)

theorem isDigit_of_isDigit {c : Char} (h : c.isDigit = true) : isDigit c = true := by
  rw [isDigit, asciiDigit?_of_isDigit h]
  rfl

theorem mapM_eq_some_map {α β : Type} {f : α → Option β} {g : α → β} {l : List α}
    (h : ∀ a ∈ l, f a = some (g a)) : l.mapM f = some (l.map g) := by
  induction l with
  | nil => rfl
  | cons a rest ih =>
      rw [List.mapM_cons, h a List.mem_cons_self, ih fun b hb => h b (List.mem_cons_of_mem a hb)]
      rfl

theorem digitsValue_digitsOf (n : Nat) : digitsValue (digitsOf n) = n := by
  obtain ⟨ds, hds, hn⟩ := mapM_digitValue?_digitsOf n
  rw [mapM_eq_some_map fun c hc => digitValue?_of_ascii (asciiDigit?_of_isDigit (isDigit_of_mem_digitsOf hc))]
    at hds
  cases hds
  exact hn

theorem length_digitsOf {n : Nat} (hn : 0 < n) : (digitsOf n).length = digitCount 10 n := by
  induction n using Nat.strongRecOn with
  | _ n ih =>
      rw [digitsOf, Nat.toDigits_eq_if (by omega), digitCount_pos (by decide) hn]
      split
      · rw [Nat.div_eq_of_lt ‹n < 10›, digitCount_zero, List.length_singleton]
      · rw [List.length_append, List.length_singleton, ← ih (n / 10) (by omega) (by omega), digitsOf]

theorem digitsValue_replicate_append (k : Nat) (s : List Char) :
    digitsValue (List.replicate k '0' ++ s) = digitsValue s := by
  rw [digitsValue, List.map_append, List.map_replicate]
  exact ofDigits_replicate_append k _

theorem digitsValue_append_replicate (s : List Char) (k : Nat) :
    digitsValue (s ++ List.replicate k '0') = digitsValue s * 10 ^ k := by
  induction k with
  | zero => rw [List.replicate_zero, List.append_nil, pow_zero, Nat.mul_one]
  | succ k ih =>
      rw [List.replicate_succ', ← List.append_assoc, digitsValue, List.map_append, List.map_singleton,
        ofDigits_append_singleton, ← digitsValue, ih, pow_succ]
      show 10 * _ + 0 = _
      ring

theorem ofDigits_dropWhile_zero (ds : List Nat) : ofDigits (ds.dropWhile (· == 0)) = ofDigits ds := by
  induction ds with
  | nil => rfl
  | cons d rest ih =>
      rw [List.dropWhile_cons]
      split
      · rename_i h
        rw [ih, beq_iff_eq.mp h]
        exact (ofDigits_replicate_append 1 rest).symm
      · rfl

/-! ### Reading digits with a point -/

/-- The text consists of digits with a point after the first of them or later, and denotes the number. -/
structure IsPositional (s : List Char) (q : ℚ) (whole fraction : List Char) : Prop where
  parts : s = whole ++ '.' :: fraction
  nonempty : whole ≠ []
  digits : ∀ c ∈ whole ++ fraction, c.isDigit = true
  short : whole.length ≤ 1000 ∧ fraction.length ≤ 1000
  value : (digitsValue (whole ++ fraction) : ℚ) * 10 ^ (-fraction.length : Int) = q

/-- A quantity with few digits around the point is read as what it denotes. -/
theorem exists_ofPlaces? (ds : List Nat) {e : Int} (he : -1000 ≤ e) (hlength : e + ds.length ≤ 1000) :
    ∃ x, Quantity.ofPlaces? false ds e = some (.finite x) ∧ x.value = ofDigits ds * 10 ^ e := by
  have hle : ((ds.dropWhile (· == 0)).length : Int) ≤ ds.length := by
    exact_mod_cast (List.dropWhile_sublist _).length_le
  have hfirst : Quantity.firstLastPlace = -1999999999999999997 := rfl
  have hlast : Quantity.lastFirstPlace = 999999999999999999 := rfl
  unfold Quantity.ofPlaces?
  dsimp only
  rw [if_neg]
  · split
    · rename_i hnil
      refine ⟨_, rfl, ?_⟩
      rw [← ofDigits_dropWhile_zero, List.isEmpty_iff.mp hnil]
      simp [Decimal.value, Decimal.size, withSign, ofDigits]
    · exact ⟨_, rfl, by rw [← ofDigits_dropWhile_zero ds]; rfl⟩
  · rw [Bool.or_eq_true, decide_eq_true_iff, decide_eq_true_iff]
    split <;> omega

namespace IsPositional

variable {s whole fraction : List Char} {q : ℚ}

theorem plain (h : IsPositional s q whole fraction) : ∀ c ∈ s,
    isBlank c = false ∧ (c != '_') = true ∧ plainCharacter? c = some c := by
  intro c hc
  rw [h.parts, List.mem_append, List.mem_cons] at hc
  have hcases : c = '.' ∨ c.isDigit = true := by
    rcases hc with hc | rfl | hc
    · exact .inr (h.digits c (List.mem_append_left _ hc))
    · exact .inl rfl
    · exact .inr (h.digits c (List.mem_append_right _ hc))
  rcases hcases with rfl | hd
  · decide
  · have hlt := toNat_lt_of_isDigit hd
    have hge := (Char.isDigit_iff_toNat.mp hd).1
    have h0 : '0'.toNat = 48 := rfl
    refine ⟨isBlank_of_isDigit hd, ?_, if_pos ⟨by omega, hlt⟩⟩
    rw [bne_iff_ne]
    rintro rfl
    exact absurd hd (by decide)

/-- Such a text starts with a digit, so it has no sign and is no word. -/
theorem exists_cons (h : IsPositional s q whole fraction) : ∃ c rest, s = c :: rest ∧ c.isDigit = true := by
  obtain ⟨c, rest, hw⟩ := List.exists_cons_of_ne_nil h.nonempty
  refine ⟨c, rest ++ '.' :: fraction, by rw [h.parts, hw]; rfl, h.digits c ?_⟩
  rw [hw]
  exact List.mem_cons_self

theorem signed_eq (h : IsPositional s q whole fraction) : signed s = (false, s) := by
  obtain ⟨c, rest, rfl, hd⟩ := h.exists_cons
  unfold signed
  split
  · rename_i e
    cases e
    exact absurd hd (by decide)
  · rename_i e
    cases e
    exact absurd hd (by decide)
  · rfl

theorem head_lower (h : IsPositional s q whole fraction) :
    ∃ c rest, s.map Char.toLower = c :: rest ∧ c.isAlpha = false := by
  obtain ⟨c, rest, rfl, hd⟩ := h.exists_cons
  refine ⟨c.toLower, _, rfl, ?_⟩
  have hc := Char.isDigit_iff_toNat.mp hd
  have h0 : '0'.toNat = 48 := rfl
  have h9 : '9'.toNat = 57 := rfl
  rw [← Char.ofNat_toNat c]
  generalize c.toNat = n at hc
  exact (by decide : ∀ n < 58, 48 ≤ n → (Char.ofNat n).toLower.isAlpha = false) n (by omega) (by omega)

theorem digitsAndExponent?_eq (h : IsPositional s q whole fraction) :
    digitsAndExponent? s = some ((whole ++ fraction).map digitOrZero, -(fraction.length : Int)) := by
  have hwhole : ∀ c ∈ whole, isDigit c = true := fun c hc =>
    isDigit_of_isDigit (h.digits c (List.mem_append_left _ hc))
  have hfraction : ∀ c ∈ fraction, isDigit c = true := fun c hc =>
    isDigit_of_isDigit (h.digits c (List.mem_append_right _ hc))
  have hpoint : isDigit '.' = false := by decide
  have htake : s.takeWhile isDigit = whole := by
    rw [h.parts, List.takeWhile_append_of_pos hwhole, List.takeWhile_cons_of_neg (by simp [hpoint]),
      List.append_nil]
  have hdrop : s.dropWhile isDigit = '.' :: fraction := by
    rw [h.parts, List.dropWhile_append_of_pos hwhole, List.dropWhile_cons_of_neg (by simp [hpoint])]
  have hnonempty : whole.isEmpty = false := by simp [h.nonempty]
  unfold digitsAndExponent?
  simp only [htake, hdrop, List.takeWhile_eq_self_iff.mpr hfraction, List.dropWhile_eq_nil_iff.mpr hfraction,
    hnonempty, Bool.false_and, Bool.false_eq_true, if_false, exponentPart?, Option.map_some, zero_sub]

theorem exists_ofText? (h : IsPositional s q whole fraction) :
    ∃ x, Quantity.ofText? (String.ofList s) = some (.finite x) ∧ x.value = q := by
  have hplain : ((trimChars s).filter (· != '_')).mapM plainCharacter? = some s := by
    rw [trimChars_of_forall fun c hc => (h.plain c hc).1,
      List.filter_eq_self.mpr fun c hc => (h.plain c hc).2.1,
      mapM_eq_some_map (g := id) fun c hc => (h.plain c hc).2.2, List.map_id]
  obtain ⟨c, rest, hlower, halpha⟩ := h.head_lower
  have hi : c ≠ 'i' := by
    rintro rfl
    exact absurd halpha (by decide)
  have hn : c ≠ 'n' := by
    rintro rfl
    exact absurd halpha (by decide)
  obtain ⟨x, hx, hvalue⟩ := exists_ofPlaces? ((whole ++ fraction).map digitOrZero)
    (e := -(fraction.length : Int)) (by have := h.short; omega)
    (by rw [List.length_map, List.length_append]; have := h.short; omega)
  refine ⟨x, ?_, hvalue.trans h.value⟩
  unfold Quantity.ofText?
  rw [String.toList_ofList, hplain]
  simp only [Option.bind_eq_bind, Option.bind_some, h.signed_eq, hlower, h.digitsAndExponent?_eq, hx]
  have hword : (c :: rest == "inf".toList || c :: rest == "infinity".toList) = false := by
    simp [hi]
  have hnan : Quantity.isNanWord (c :: rest) = false := by
    simp [Quantity.isNanWord, Ne.symm hn]
  rw [hword, hnan]
  rfl

end IsPositional

/-! ### Writing digits with a point -/

/-- The positional notation of digits with a power of ten has a point after the first digit or later. -/
theorem exists_isPositional {n : Nat} {g k : Int} (hk : k = g + (digitsOf n).length)
    (hhigh : k ≤ Notation.highest) (hg : -1000 ≤ g) :
    ∃ whole fraction, IsPositional (Notation.positional (digitsOf n) k) (n * 10 ^ g) whole fraction := by
  have hhighest : Notation.highest = 16 := rfl
  have hzeros : ∀ j, ∀ c ∈ List.replicate j '0', c.isDigit = true := by
    intro j c hc
    rw [List.eq_of_mem_replicate hc]
    rfl
  have hdigits : ∀ c ∈ digitsOf n, c.isDigit = true := fun c => isDigit_of_mem_digitsOf
  have hten : (10 : ℚ) ≠ 0 := by norm_num
  unfold Notation.positional
  split
  · rename_i hneg
    refine ⟨['0'], List.replicate (-k).toNat '0' ++ digitsOf n, rfl, List.cons_ne_nil _ _, ?_, ?_, ?_⟩
    · exact List.forall_mem_append.mpr ⟨hzeros 1, List.forall_mem_append.mpr ⟨hzeros _, hdigits⟩⟩
    · rw [List.length_append, List.length_replicate]
      exact ⟨by decide, by omega⟩
    · rw [show ['0'] = List.replicate 1 '0' from rfl, digitsValue_replicate_append,
        digitsValue_replicate_append, digitsValue_digitsOf, List.length_append, List.length_replicate]
      congr 2
      omega
  split
  · rename_i hpos hlong
    refine ⟨digitsOf n ++ List.replicate (k.toNat - (digitsOf n).length) '0', ['0'],
      List.append_assoc _ _ _ ▸ rfl, ?_, ?_, ?_, ?_⟩
    · refine List.ne_nil_of_length_pos ?_
      rw [List.length_append, List.length_replicate]
      omega
    · exact List.forall_mem_append.mpr ⟨List.forall_mem_append.mpr ⟨hdigits, hzeros _⟩, hzeros 1⟩
    · rw [List.length_append, List.length_replicate]
      exact ⟨by omega, by decide⟩
    · rw [List.append_assoc, ← List.replicate_succ', digitsValue_append_replicate, digitsValue_digitsOf,
        Nat.cast_mul, Nat.cast_pow, Nat.cast_ofNat, mul_assoc, ← zpow_natCast, ← zpow_add₀ hten]
      congr 2
      rw [List.length_singleton]
      omega
  · rename_i hpos hshort
    refine ⟨(digitsOf n).take k.toNat, (digitsOf n).drop k.toNat, rfl, ?_, ?_, ?_, ?_⟩
    · rw [Ne, List.take_eq_nil_iff]
      rintro (h | h)
      · omega
      · rw [h, List.length_nil] at hshort
        omega
    · rwa [List.take_append_drop]
    · rw [List.length_take, List.length_drop]
      omega
    · rw [List.take_append_drop, digitsValue_digitsOf, List.length_drop]
      congr 2
      omega

namespace Binary64

/-- The text of the double is read as the number. -/
def TextDenotes (r : Binary64) (q : ℚ) : Prop :=
  ∃ x, Quantity.ofText? r.text = some (.finite x) ∧ x.value = q

variable {c : Nat}

theorem exists_shortest (hlt : c < 10 ^ 15) : ∃ m e j g, ofHundredths c = .finite false m e ∧
    shortestMagnitude m e = (j, g) ∧ -2 ≤ g ∧ (j : ℚ) * 10 ^ g = c / 100 := by
  rcases Nat.eq_zero_or_pos c with rfl | hc
  · exact ⟨0, minExponent, 0, 0, rfl, rfl, by decide, by norm_num⟩
  · obtain ⟨m, e, h⟩ := exists_hundredths hc hlt
    obtain ⟨j, g, hs⟩ := h.exists_shortest hc hlt
    exact ⟨m, e, j, g, (ofHundredths_of_pos hc (by omega)).trans h.nearest, hs⟩

theorem exists_ofDouble (hlt : c < 10 ^ 15) :
    ∃ x, Quantity.ofDouble (ofHundredths c) = .finite x ∧ x.IsHundredths c := by
  obtain ⟨m, e, j, g, hr, hs, hg, hvalue⟩ := exists_shortest hlt
  refine ⟨⟨false, j, g⟩, ?_, hg, hvalue⟩
  rw [hr, Quantity.ofDouble, hs]

/-- The text of the double of a number of hundredths denotes that number. -/
theorem textDenotes_ofHundredths (hlt : c < 10 ^ 15) : (ofHundredths c).TextDenotes (c / 100) := by
  obtain ⟨m, e, j, g, hr, hs, hg, hvalue⟩ := exists_shortest hlt
  have htext : (ofHundredths c).text = String.ofList (Notation.magnitude j g) := by
    rw [hr, text, hs]
    rfl
  rw [TextDenotes, htext, ← hvalue]
  unfold Notation.magnitude
  split
  · rename_i hj
    have hzero : digitsValue (['0'] ++ ['0']) = 0 := by decide
    have hpositional : IsPositional ['0', '.', '0'] (j * 10 ^ g) ['0'] ['0'] :=
      ⟨rfl, by decide, by simp, by decide, by rw [hj, hzero, Nat.cast_zero, zero_mul, zero_mul]⟩
    exact hpositional.exists_ofText?
  · rename_i hj
    have hjpos := Nat.pos_of_ne_zero hj
    -- the number lies between a hundredth and `10 ^ 13`, so its notation is positional
    have hle := Decimal.pow_order_le_size (x := ⟨false, j, g⟩) hjpos
    have hgt := Decimal.size_lt_pow_order ⟨false, j, g⟩
    rw [show Decimal.size ⟨false, j, g⟩ = c / 100 from hvalue] at hle hgt
    have hpos : 0 < c := by
      have : (0 : ℚ) < c / 100 := lt_of_lt_of_le (by positivity) hle
      exact_mod_cast (div_pos_iff_of_pos_right (by norm_num)).mp this
    have hlow : (10 : ℚ) ^ (-2 : Int) ≤ c / 100 := by
      have : (1 : ℚ) ≤ c := by exact_mod_cast hpos
      norm_num
      linarith
    have hhigh : (c : ℚ) / 100 < 10 ^ (13 : Int) := by
      have : (c : ℚ) < 1000000000000000 := by exact_mod_cast hlt
      norm_num
      linarith
    have horder : -2 < Decimal.order ⟨false, j, g⟩ :=
      (zpow_lt_zpow_iff_right₀ (by norm_num : (1 : ℚ) < 10)).mp (hlow.trans_lt hgt)
    have horder' : Decimal.order ⟨false, j, g⟩ - 1 < 13 :=
      (zpow_lt_zpow_iff_right₀ (by norm_num : (1 : ℚ) < 10)).mp (hle.trans_lt hhigh)
    rw [show Decimal.order ⟨false, j, g⟩ = g + (digitsOf j).length by rw [length_digitsOf hjpos]; rfl]
      at horder horder'
    have hlowest : Notation.lowest = -3 := rfl
    have hhighest : Notation.highest = 16 := rfl
    dsimp only
    rw [if_pos (by omega)]
    obtain ⟨whole, fraction, hpositional⟩ := exists_isPositional (n := j) (g := g) rfl (by omega) (by omega)
    exact hpositional.exists_ofText?

end Binary64
end SchoolRegister.Number
