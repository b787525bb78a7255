import SchoolRegister.Proofs.Sql.Lines

/-! # Lines that choose a database

A text chooses a database if it starts with the word USE or with CREATE DATABASE (`chooses`).  The two rules
that take such lines out of a script are one rule with its own words (`afterChoice?`).  It misses a line that
does not start with these words or that has no semicolon (`misses_afterChoice?`); a semicolon that only
blanks separate from the end of the line is found (`exists_afterSemicolon?`). -/

namespace SchoolRegister.Sql

open Text

/-! ### The words of a choice -/

def afterUseWord? (s : List Char) : Option (List Char) :=
  (afterWord? "USE".toList s).filter endsWord

def afterCreationWords? (s : List Char) : Option (List Char) :=
  (((afterWord? "CREATE".toList s).bind afterBlanks?).bind (afterWord? "DATABASE".toList)).filter endsWord

/-- The statement starts with USE or with CREATE DATABASE, in any case. -/
def chooses (statement : List Char) : Bool :=
  (afterUseWord? statement).isSome || (afterCreationWords? statement).isSome

theorem bind_endsWord (o : Option (List Char)) (k : List Char → Option (List Char)) :
    (o.bind fun rest => if endsWord rest then k rest else none) = (o.filter endsWord).bind k := by
  cases o with
  | none => rfl
  | some rest => cases h : endsWord rest <;> simp [Option.filter, h]

/-- What follows a line that starts with given words and ends in a semicolon. -/
def afterChoice? (words : List Char → Option (List Char)) (s : List Char) : Option (List Char) :=
  (words (s.dropWhile isBlank)).bind afterSemicolon?

theorem afterUse?_eq : afterUse? = afterChoice? afterUseWord? := funext fun _ => bind_endsWord _ _

theorem afterCreateDatabase?_eq : afterCreateDatabase? = afterChoice? afterCreationWords? := by
  funext s
  rw [afterChoice?, afterCreationWords?, ← bind_endsWord, Option.bind_assoc, Option.bind_assoc]
  rfl

/-! ### What the words leave -/

variable {s t w e line : List Char}

/-- The second text is what is left of the first one without some characters at its start, none of which is
a semicolon. -/
def Leaves (s t : List Char) : Prop := ∃ p, s = p ++ t ∧ ';' ∉ p

theorem Leaves.refl (s : List Char) : Leaves s s := ⟨[], rfl, List.not_mem_nil⟩

theorem Leaves.trans (h : Leaves s t) (h' : Leaves t w) : Leaves s w := by
  obtain ⟨p, rfl, hp⟩ := h
  obtain ⟨q, rfl, hq⟩ := h'
  refine ⟨p ++ q, (List.append_assoc p q w).symm, ?_⟩
  rw [List.mem_append]
  exact not_or.mpr ⟨hp, hq⟩

theorem Leaves.length_le (h : Leaves s t) : t.length ≤ s.length := by
  obtain ⟨p, rfl, -⟩ := h
  rw [List.length_append]
  omega

theorem Leaves.not_mem (h : Leaves s t) (hs : ';' ∉ s) : ';' ∉ t := by
  obtain ⟨p, rfl, -⟩ := h
  exact fun ht => hs (List.mem_append_right p ht)

theorem Leaves.exists_append (h : Leaves (s ++ ';' :: w) t) : ∃ x, t = x ++ ';' :: w ∧ x ⊆ s := by
  obtain ⟨p, hsplit, hp⟩ := h
  rcases List.append_eq_append_iff.mp hsplit with ⟨c, rfl, hc⟩ | ⟨x, rfl, hx⟩
  · cases c with
    | nil => exact ⟨[], hc.symm, List.nil_subset _⟩
    | cons d c =>
        cases (List.cons.inj hc).1
        exact absurd (List.mem_append_right _ List.mem_cons_self) hp
  · exact ⟨x, hx, List.subset_append_right _ _⟩

/-- A character without a capital form is a form of itself alone. -/
theorem isLetter_eq_false {capital c : Char} (hupper : c.toUpper = c) (hlong : c ≠ 'ſ') (hne : c ≠ capital) :
    isLetter capital c = false := by
  rw [isLetter, hupper, beq_eq_false_iff_ne.mpr hne, beq_eq_false_iff_ne.mpr hlong, Bool.and_false,
    Bool.or_false]

theorem leaves_afterWord? {ws : List Char} (hw : ';' ∉ ws)
    (h : afterWord? ws s = some t) : Leaves s t := by
  induction ws generalizing s with
  | nil =>
      obtain rfl := Option.some.inj h
      exact .refl _
  | cons c ws ih =>
      have hc := isLetter_eq_false rfl (by decide) (List.ne_of_not_mem_cons hw)
      cases s with
      | nil => cases h
      | cons d rest =>
          rw [afterWord?] at h
          split at h
          · rename_i hd
            refine Leaves.trans ⟨[d], rfl, ?_⟩ (ih (List.not_mem_of_not_mem_cons hw) h)
            rw [List.mem_singleton]
            rintro rfl
            rw [hc] at hd
            cases hd
          · cases h

theorem leaves_afterBlanks? (h : afterBlanks? s = some t) : Leaves s t := by
  unfold afterBlanks? at h
  split at h
  · cases h
    refine ⟨s.takeWhile isBlank, List.takeWhile_append_dropWhile.symm, fun hmem => ?_⟩
    cases List.mem_takeWhile_imp hmem
  · cases h

theorem leaves_afterUseWord? (h : afterUseWord? s = some t) : Leaves s t :=
  leaves_afterWord? (by decide) (Option.filter_eq_some_iff.mp h).1

theorem leaves_afterCreationWords? (h : afterCreationWords? s = some t) : Leaves s t := by
  obtain ⟨s₂, hs₂, hword⟩ := Option.bind_eq_some_iff.mp (Option.filter_eq_some_iff.mp h).1
  obtain ⟨s₁, hs₁, hblanks⟩ := Option.bind_eq_some_iff.mp hs₂
  exact (leaves_afterWord? (by decide) hs₁).trans
    ((leaves_afterBlanks? hblanks).trans (leaves_afterWord? (by decide) hword))

theorem isBlank_of_isLetter {capital c : Char} (hcapital : isBlank capital = false)
    (h : isLetter capital c = true) : isBlank c = false := by
  rw [Bool.eq_false_iff]
  intro hc
  have hupper : c.toUpper = c := by
    refine dif_neg ?_
    rintro ⟨hfirst, hlast⟩
    have hfirst : 97 ≤ c.toNat := hfirst
    have hlast : c.toNat ≤ 122 := hlast
    simp [isBlank, inRanges, blankRanges] at hc
    omega
  rw [isLetter, hupper, Bool.or_eq_true, beq_iff_eq, Bool.and_eq_true, beq_iff_eq, beq_iff_eq] at h
  rcases h with rfl | ⟨-, rfl⟩
  · rw [hcapital] at hc
    cases hc
  · revert hc
    decide

theorem isLetter_of_afterWord? {c d : Char} {ws : List Char} (h : afterWord? (c :: ws) (d :: s) = some t) :
    isLetter c d = true := by
  rw [afterWord?] at h
  split at h
  · assumption
  · cases h

theorem afterWord?_of_afterUseWord? (h : afterUseWord? s = some t) : afterWord? "USE".toList s = some t :=
  (Option.filter_eq_some_iff.mp h).1

/-- A text that starts with USE does not start with CREATE. -/
theorem afterCreate?_of_afterUseWord? (h : afterUseWord? s = some t) : afterWord? "CREATE".toList s = none := by
  have hword := afterWord?_of_afterUseWord? h
  cases s with
  | nil => cases hword
  | cons c rest =>
      have hu : isLetter 'U' c = true := isLetter_of_afterWord? hword
      have hc : c.toUpper = 'U' := by simpa [isLetter] using hu
      have hother : ¬ isLetter 'C' c = true := by simp [isLetter, hc]
      exact if_neg hother

theorem afterWord?_of_afterCreationWords? (h : afterCreationWords? s = some t) :
    ∃ rest, afterWord? "CREATE".toList s = some rest ∧ rest.all isBlank = false := by
  obtain ⟨s₂, hs₂, hword⟩ := Option.bind_eq_some_iff.mp (Option.filter_eq_some_iff.mp h).1
  obtain ⟨s₁, hs₁, hblanks⟩ := Option.bind_eq_some_iff.mp hs₂
  refine ⟨s₁, hs₁, ?_⟩
  rw [Bool.eq_false_iff]
  intro hall
  unfold afterBlanks? at hblanks
  rw [dropWhile_eq_nil_iff_all.mpr hall] at hblanks
  split at hblanks
  · obtain rfl := Option.some.inj hblanks
    cases hword
  · cases hblanks

theorem isLetter_of_chooses (h : chooses s = true) :
    ∃ c rest, s = c :: rest ∧ (isLetter 'U' c = true ∨ isLetter 'C' c = true) := by
  cases s with
  | nil => cases h
  | cons c rest =>
      refine ⟨c, rest, rfl, ?_⟩
      rw [chooses, Bool.or_eq_true, Option.isSome_iff_exists, Option.isSome_iff_exists] at h
      rcases h with ⟨t, ht⟩ | ⟨t, ht⟩
      · exact .inl (isLetter_of_afterWord? (afterWord?_of_afterUseWord? ht))
      · obtain ⟨t', ht', -⟩ := afterWord?_of_afterCreationWords? ht
        exact .inr (isLetter_of_afterWord? ht')

/-! ### Words and the end of a line -/

/-- A word does not go on over the end of a line. -/
theorem afterWord?_append {ws : List Char} (hw : '\n' ∉ ws) (he : EndsLine e) :
    afterWord? ws (s ++ e) = (afterWord? ws s).map (· ++ e) := by
  induction ws generalizing s with
  | nil => rfl
  | cons c ws ih =>
      have hc := isLetter_eq_false rfl (by decide) (List.ne_of_not_mem_cons hw)
      cases s with
      | nil => rcases he with rfl | ⟨t, rfl⟩ <;> simp [afterWord?, hc]
      | cons d rest =>
          simp only [List.cons_append, afterWord?]
          split
          · exact ih (List.not_mem_of_not_mem_cons hw)
          · rfl

theorem endsWord_append (he : EndsLine e) : endsWord (s ++ e) = endsWord s := by
  cases s with
  | nil => rcases he with rfl | ⟨t, rfl⟩ <;> rfl
  | cons c rest => rfl

theorem filter_endsWord_map (he : EndsLine e) (o : Option (List Char)) :
    (o.map (· ++ e)).filter endsWord = (o.filter endsWord).map (· ++ e) := by
  cases o with
  | none => rfl
  | some s => simp [Option.filter, endsWord_append he]

theorem afterUseWord?_append (he : EndsLine e) :
    afterUseWord? (s ++ e) = (afterUseWord? s).map (· ++ e) := by
  rw [afterUseWord?, afterWord?_append (by decide) he, filter_endsWord_map he]
  rfl

theorem afterBlanks?_append (hs : s.all isBlank = false) (e : List Char) :
    afterBlanks? (s ++ e) = (afterBlanks? s).map (· ++ e) := by
  cases s with
  | nil => cases hs
  | cons c rest =>
      unfold afterBlanks?
      rw [dropWhile_append_of_not_blank hs]
      cases hc : isBlank c <;> simp [hc]

/-- The words CREATE DATABASE do not go on over the end of a line, unless all of CREATE is the last word of
the line. -/
theorem afterCreationWords?_append (he : EndsLine e)
    (hs : ((afterWord? "CREATE".toList s).any fun rest => rest.all isBlank) = false) :
    afterCreationWords? (s ++ e) = (afterCreationWords? s).map (· ++ e) := by
  unfold afterCreationWords?
  rw [afterWord?_append (by decide) he]
  cases h : afterWord? "CREATE".toList s with
  | none => rfl
  | some rest =>
      have hrest : rest.all isBlank = false := by rwa [h] at hs
      rw [Option.map_some, Option.bind_some, afterBlanks?_append hrest, Option.bind_some]
      cases hb : afterBlanks? rest with
      | none => rfl
      | some rest' =>
          rw [Option.map_some, Option.bind_some, Option.bind_some, afterWord?_append (by decide) he,
            filter_endsWord_map he]

/-! ### The end of a choice -/

/-- What is left after a choice: nothing but blanks is lost of what followed it, and it starts with the end
of a line. -/
structure Follows (tail e : List Char) : Prop where
  sameStart : SameStart tail e
  start : tail = [] ∨ ∃ rest, tail = '\n' :: rest

theorem LineRule.sameStart_remove_of_follows {rule : List Char → Option (List Char)} (hr : LineRule rule)
    (h : ∃ tail, rule s = some tail ∧ Follows tail e) :
    SameStart (removeAtLineStarts rule true s) (removeAtLineStarts rule true e) := by
  obtain ⟨tail, htail, hfollows⟩ := h
  exact (hr.remove_cut htail hfollows.start).trans (hr.sameStart_remove hfollows.sameStart)

theorem length_takeWhile_lt {p : Char → Bool} {c : Char} (hc : c ∈ s) (hp : p c = false) :
    (s.takeWhile p).length < s.length := by
  refine Nat.lt_of_le_of_ne (List.takeWhile_prefix p).length_le fun h => ?_
  rw [← (List.takeWhile_prefix p).eq_of_length h] at hc
  rw [List.mem_takeWhile_imp hc] at hp
  cases hp

theorem all_takeWhile_isBlank (s : List Char) : (s.takeWhile isBlank).all isBlank = true :=
  List.all_eq_true.mpr fun _ h => List.mem_takeWhile_imp h

theorem dropWhile_isBlank_idem (s : List Char) :
    (s.dropWhile isBlank).dropWhile isBlank = s.dropWhile isBlank := by
  have h := dropWhile_append_of_blank (all_takeWhile_isBlank s) (s.dropWhile isBlank)
  rwa [List.takeWhile_append_dropWhile, eq_comm] at h

/-- Blanks up to the end of a line are all that is lost with them. -/
theorem follows_afterLineBlanks? (h : afterLineBlanks? s = some t) : Follows t s := by
  unfold afterLineBlanks? at h
  simp only at h
  split at h
  · rename_i hempty
    cases h
    exact ⟨(List.isEmpty_iff.mp hempty).symm, .inl rfl⟩
  · split at h
    · cases h
      refine ⟨?_, .inr ⟨_, rfl⟩⟩
      have hblank : ('\n' :: ((s.takeWhile isBlank).reverse.takeWhile (· != '\n')).reverse).all isBlank = true := by
        rw [List.all_cons, List.all_reverse, Bool.and_eq_true]
        refine ⟨by decide, List.all_eq_true.mpr fun c hc => ?_⟩
        have hmem := List.mem_reverse.mp ((List.takeWhile_prefix _).subset hc)
        exact List.mem_takeWhile_imp hmem
      exact (sameStart_append hblank _).trans (dropWhile_isBlank_idem s)
    · cases h

theorem length_afterLineBlanks? (h : afterLineBlanks? s = some t) : t.length ≤ s.length := by
  unfold afterLineBlanks? at h
  simp only at h
  split at h
  · cases h
    exact Nat.zero_le _
  · split at h
    · rename_i hcontains
      cases h
      have hlt : ((s.takeWhile isBlank).reverse.takeWhile (· != '\n')).length <
          (s.takeWhile isBlank).reverse.length :=
        length_takeWhile_lt (List.mem_reverse.mpr (List.contains_iff_mem.mp hcontains)) (by decide)
      have hsplit := congrArg List.length (List.takeWhile_append_dropWhile (p := isBlank) (l := s))
      rw [List.length_append] at hsplit
      rw [List.length_reverse] at hlt
      rw [List.length_append, List.length_cons, List.length_reverse]
      omega
    · cases h

theorem exists_afterLineBlanks? (hw : w.all isBlank = true) (he : EndsLine e) :
    ∃ tail, afterLineBlanks? (w ++ e) = some tail := by
  unfold afterLineBlanks?
  rcases he with rfl | ⟨t, rfl⟩
  · rw [dropWhile_append_of_blank hw]
    exact ⟨_, rfl⟩
  · have hcontains : ((w ++ '\n' :: t).takeWhile isBlank).contains '\n' = true := by
      rw [List.takeWhile_append_of_pos (List.all_eq_true.mp hw), List.takeWhile_cons_of_pos (by decide)]
      simp
    simp only [hcontains]
    split <;> exact ⟨_, rfl⟩

theorem afterLineBlanks?_of_text (hs : '\n' ∉ s) (t : List Char) :
    afterLineBlanks? (s ++ ';' :: t) = none := by
  have hcontains : ((s ++ ';' :: t).takeWhile isBlank).contains '\n' = false := by
    rw [Bool.eq_false_iff]
    intro h
    have hmem := List.contains_iff_mem.mp h
    rw [List.takeWhile_append, List.takeWhile_cons_of_neg (by decide), List.append_nil] at hmem
    split at hmem
    · exact hs hmem
    · exact hs ((List.takeWhile_prefix _).subset hmem)
  have hempty : ((s ++ ';' :: t).dropWhile isBlank).isEmpty = false := by
    rw [Bool.eq_false_iff, Ne, List.isEmpty_iff, dropWhile_eq_nil_iff_all, List.all_append,
      List.all_cons, show isBlank ';' = false by decide, Bool.false_and, Bool.and_false]
    exact Bool.false_ne_true
  unfold afterLineBlanks?
  simp only [hcontains, hempty]
  rfl

theorem length_afterSemicolon? (h : afterSemicolon? s = some t) : t.length < s.length := by
  induction s with
  | nil => cases h
  | cons c rest ih =>
      rw [afterSemicolon?] at h
      rw [List.length_cons]
      split at h
      · cases h
      · split at h
        · rcases Option.or_eq_some_iff.mp h with h | ⟨_, h⟩
          · have := length_afterLineBlanks? h
            omega
          · have := ih h
            omega
        · have := ih h
          omega

theorem exists_afterSemicolon? (hs : '\n' ∉ s) (hw : w.all isBlank = true) (he : EndsLine e) :
    ∃ tail, afterSemicolon? (s ++ ';' :: (w ++ e)) = some tail ∧ Follows tail e := by
  induction s with
  | nil =>
      obtain ⟨tail, ht⟩ := exists_afterLineBlanks? hw he
      have hf := follows_afterLineBlanks? ht
      refine ⟨tail, ?_, hf.sameStart.trans (sameStart_append hw e), hf.start⟩
      rw [List.nil_append, afterSemicolon?, if_neg (by decide), if_pos rfl, ht]
      rfl
  | cons c rest ih =>
      have hrest : '\n' ∉ rest := fun h => hs (List.mem_cons_of_mem c h)
      have hc : c ≠ '\n' := by
        rintro rfl
        exact hs List.mem_cons_self
      rw [List.cons_append, afterSemicolon?, if_neg hc, afterLineBlanks?_of_text hrest, Option.none_or,
        ite_self]
      exact ih hrest

theorem afterSemicolon?_of_not_mem (hs : ';' ∉ s) (he : EndsLine e) : afterSemicolon? (s ++ e) = none := by
  induction s with
  | nil => rcases he with rfl | ⟨t, rfl⟩ <;> rfl
  | cons c rest ih =>
      have hc : c ≠ ';' := by
        rintro rfl
        exact hs List.mem_cons_self
      rw [List.cons_append, afterSemicolon?, if_neg hc, ih fun h => hs (List.mem_cons_of_mem c h), ite_self]

/-- The text ends in a semicolon, apart from blanks. -/
def isClosed (s : List Char) : Bool := (trimEnd s).getLast? == some ';'

theorem exists_of_isClosed (h : isClosed s = true) : ∃ x w, s = x ++ ';' :: w ∧ w.all isBlank = true := by
  rw [isClosed, beq_iff_eq, trimEnd, List.getLast?_reverse] at h
  obtain ⟨rest, hrest⟩ : ∃ rest, s.reverse.dropWhile isBlank = ';' :: rest := by
    cases hd : s.reverse.dropWhile isBlank with
    | nil => simp [hd] at h
    | cons c rest =>
        rw [hd] at h
        cases h
        exact ⟨rest, rfl⟩
  have hsplit := congrArg List.reverse (List.takeWhile_append_dropWhile (p := isBlank) (l := s.reverse))
  rw [hrest, List.reverse_append, List.reverse_cons, List.reverse_reverse, List.append_assoc] at hsplit
  refine ⟨rest.reverse, (s.reverse.takeWhile isBlank).reverse, hsplit.symm, ?_⟩
  rw [List.all_reverse]
  exact all_takeWhile_isBlank _

/-! ### The rule -/

variable {words : List Char → Option (List Char)}

theorem lineRule_afterChoice? (hwords : ∀ s t, words s = some t → Leaves s t) :
    LineRule (afterChoice? words) where
  skips w t hw := by rw [afterChoice?, afterChoice?, dropWhile_append_of_blank hw]
  shrinks t tail h := by
    obtain ⟨rest, hrest, htail⟩ := Option.bind_eq_some_iff.mp h
    have hle := length_dropWhile_le isBlank t
    have hle' := (hwords _ _ hrest).length_le
    have hlt := length_afterSemicolon? htail
    omega

theorem lineRule_afterUse? : LineRule afterUse? := by
  rw [afterUse?_eq]
  exact lineRule_afterChoice? fun _ _ => leaves_afterUseWord?

theorem lineRule_afterCreateDatabase? : LineRule afterCreateDatabase? := by
  rw [afterCreateDatabase?_eq]
  exact lineRule_afterChoice? fun _ _ => leaves_afterCreationWords?

/-- A line that does not start with the words or that has no semicolon stays. -/
theorem misses_afterChoice? (hwords : ∀ s t, words s = some t → Leaves s t)
    (hends : ∀ e, EndsLine e →
      words (line.dropWhile isBlank ++ e) = (words (line.dropWhile isBlank)).map (· ++ e))
    (h : words (line.dropWhile isBlank) = none ∨ ';' ∉ line) : Misses (afterChoice? words) line := by
  intro hb e he
  rw [afterChoice?, dropWhile_append_of_not_blank hb, hends e he]
  cases hw : words (line.dropWhile isBlank) with
  | none => rfl
  | some rest =>
      have hmem : ';' ∉ line := h.resolve_left (by simp [hw])
      have hdropped : ';' ∉ line.dropWhile isBlank := fun hin => hmem ((List.dropWhile_sublist _).subset hin)
      exact afterSemicolon?_of_not_mem ((hwords _ _ hw).not_mem hdropped) he

end SchoolRegister.Sql
