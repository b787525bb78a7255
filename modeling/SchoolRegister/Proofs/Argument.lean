import Mathlib.Data.List.DropRight
import SchoolRegister.Argument
import SchoolRegister.Proofs.Outcome
import SchoolRegister.Proofs.Text.Trimming

/-! # What arguments denote

Each kind of argument has a relation that says what a value denotes as one: `DenotesText`,
`DenotesPositive`, `DenotesFlag` and `DenotesDate`.  The functions that read arguments succeed on the
values that denote something, and give that (`requireText_eq_ok_iff` and its like).  On any other value
they fail with a failure of validation; only an infinite number, where a positive whole number is wanted,
fails in a way of its own (`requirePositive_error`, `requirePositive_of_isInfinite`). -/

namespace SchoolRegister

/-- A double beyond all numbers. -/
def Value.IsInfinite (v : Value) : Prop := ∃ negative, v = .float (.infinite negative)

namespace Argument

open Text Calendar Number

/-- The value is a text that is not blank, and `s` is that text without the blanks at its ends. -/
def DenotesText (v : Value) (s : String) : Prop :=
  ∃ t, v.text? = some t ∧ isBlankText t = false ∧ s = trim t

/-- The value is a positive whole number or a text of one. -/
inductive DenotesPositive : Value → Int → Prop
  | int {n : Int} : 0 < n → DenotesPositive (.int n) n
  | float {x : Binary64} {n : Int} : x.isWhole = true → x.truncate? = some n → 0 < n →
      DenotesPositive (.float x) n
  | text {v : Value} {s : String} {n : Int} : v.text? = some s → integer? s = some n → 0 < n →
      DenotesPositive v n
  | bytes {bs : List UInt8} {n : Int} :
      plainInteger? (bs.map fun b => Char.ofNat b.toNat) = some n → 0 < n →
      DenotesPositive (.bytes bs) n

/-- The value is a flag or a word for one. -/
inductive DenotesFlag : Value → Bool → Prop
  | bool (b : Bool) : DenotesFlag (.bool b) b
  | trueWord {v : Value} {s : String} : v.text? = some s → lowered (trim s) ∈ trueWords →
      DenotesFlag v true
  | falseWord {v : Value} {s : String} : v.text? = some s → lowered (trim s) ∈ falseWords →
      DenotesFlag v false

/-- The value is a date, with a time or without, or a text of one. -/
inductive DenotesDate : Value → Date → Prop
  | date (d : Date) : DenotesDate (.date d) d
  | moment (m : Moment) : DenotesDate (.moment m) m.date
  | instant (m : Moment) : DenotesDate (.instant m) m.date
  | text {v : Value} {s : String} {d : Date} : v.text? = some s →
      readDate? (trimChars s.toList) = some d → DenotesDate v d

variable {v : Value} {field : String}

/-! ### Texts -/

theorem requireText_eq_ok_iff {s : String} : requireText v field = .ok s ↔ DenotesText v s := by
  unfold requireText DenotesText
  cases v.text? with
  | none => simp
  | some t =>
      cases h : isBlankText t with
      | true => simp [h]
      | false => simp [h, @eq_comm _ s]

theorem requireText_error {f : Failure} (h : requireText v field = .error f) :
    f = .required field := by
  unfold requireText at h
  split at h
  · split at h <;> cases h
    rfl
  · cases h
    rfl

theorem trimChars_trimChars (s : List Char) : trimChars (trimChars s) = trimChars s :=
  trimChars_of_trimmed (trimmed_trimChars s)

theorem trim_trim (s : String) : trim (trim s) = trim s := by
  rw [trim, trim, String.toList_ofList, trimChars_trimChars]

theorem isBlankText_trim (s : String) : isBlankText (trim s) = isBlankText s := by
  rw [Bool.eq_iff_iff, isBlankText, isBlankText, ← trimChars_eq_nil_iff, ← trimChars_eq_nil_iff, trim,
    String.toList_ofList, trimChars_trimChars]

theorem denotesText_self {s : String} (hb : isBlankText s = false) (ht : trim s = s) :
    DenotesText (.text s) s :=
  ⟨s, rfl, hb, ht.symm⟩

theorem DenotesText.self {s : String} (h : DenotesText v s) : DenotesText (.text s) s := by
  obtain ⟨t, _, hb, rfl⟩ := h
  exact denotesText_self ((isBlankText_trim t).trans hb) (trim_trim t)

/-! ### Positive whole numbers -/

/-- No role has the name of a number. -/
theorem integer?_roleName (r : Role) : integer? r.name = none := by
  cases r <;> decide +kernel

theorem requirePositive_eq (h : ∀ b, v ≠ .bool b) : requirePositive v field =
    match toInteger v with
    | .error .infiniteInteger => .error .infiniteInteger
    | .error _ => .error (.notPositiveInteger field)
    | .ok n => if hasFraction v ∨ n ≤ 0 then .error (.notPositiveInteger field) else .ok n := by
  cases v with
  | bool b => exact absurd rfl (h b)
  | _ => rfl

theorem toInteger_eq_infinite_iff : toInteger v = .error .infiniteInteger ↔ v.IsInfinite := by
  unfold Value.IsInfinite
  cases v with
  | float x =>
      cases x with
      | finite negative m e => simp [toInteger, Binary64.truncate?]
      | infinite negative => simp [toInteger]
      | nan => simp [toInteger, Binary64.truncate?]
  | text s => cases h : integer? s <;> simp [toInteger, h]
  | role r => simp [toInteger, integer?_roleName]
  | bytes bs =>
      cases h : plainInteger? (bs.map fun b => Char.ofNat b.toNat) <;> simp [toInteger, h]
  | _ => simp [toInteger]

theorem toInteger_float_eq_ok_iff {x : Binary64} {n : Int} :
    toInteger (.float x) = .ok n ↔ x.truncate? = some n := by
  cases x with
  | finite negative m e => simp [toInteger, Binary64.truncate?]
  | infinite negative => simp [toInteger, Binary64.truncate?]
  | nan => simp [toInteger, Binary64.truncate?]

theorem toInteger_eq_ok_iff_of_text {s : String} {n : Int} (h : v.text? = some s) :
    toInteger v = .ok n ↔ integer? s = some n := by
  cases v with
  | text t => cases h; cases hi : integer? s <;> simp [toInteger, hi]
  | role r => cases h; simp [toInteger, integer?_roleName]
  | _ => cases h

/-- A value denotes a positive whole number if it is no flag, is converted to such a number and has no
fractional part. -/
theorem denotesPositive_iff {n : Int} : DenotesPositive v n ↔
    (∀ b, v ≠ .bool b) ∧ toInteger v = .ok n ∧ hasFraction v = false ∧ 0 < n := by
  constructor
  · intro h
    cases h with
    | int hn => exact ⟨nofun, rfl, rfl, hn⟩
    | float hw ht hn => exact ⟨nofun, toInteger_float_eq_ok_iff.mpr ht, by simp [hasFraction, hw], hn⟩
    | text hs hi hn =>
        refine ⟨?_, (toInteger_eq_ok_iff_of_text hs).mpr hi, ?_, hn⟩
        · rintro b rfl
          cases hs
        · cases v <;> first | rfl | cases hs
    | bytes hi hn => exact ⟨nofun, by simp [toInteger, hi], rfl, hn⟩
  · rintro ⟨hb, hi, hf, hn⟩
    cases v with
    | int m => cases hi; exact .int hn
    | bool b => exact absurd rfl (hb b)
    | float x =>
        exact .float (by simpa [hasFraction] using hf) (toInteger_float_eq_ok_iff.mp hi) hn
    | text s => exact .text rfl ((toInteger_eq_ok_iff_of_text rfl).mp hi) hn
    | role r => exact .text rfl ((toInteger_eq_ok_iff_of_text rfl).mp hi) hn
    | bytes bs =>
        refine .bytes ?_ hn
        cases hp : plainInteger? (bs.map fun b => Char.ofNat b.toNat) with
        | none => simp [toInteger, hp] at hi
        | some m => simpa [toInteger, hp] using hi
    | _ => cases hi

theorem DenotesPositive.pos {n : Int} (h : DenotesPositive v n) : 0 < n := (denotesPositive_iff.mp h).2.2.2

theorem requirePositive_eq_ok_iff {n : Int} :
    requirePositive v field = .ok n ↔ DenotesPositive v n := by
  rw [denotesPositive_iff]
  by_cases hb : ∃ b, v = .bool b
  · obtain ⟨b, rfl⟩ := hb
    exact ⟨nofun, fun h => absurd rfl (h.1 b)⟩
  rw [requirePositive_eq (not_exists.mp hb)]
  cases hi : toInteger v with
  | error f => cases f <;> simp
  | ok m =>
      show (if hasFraction v = true ∨ m ≤ 0 then _ else _) = _ ↔ _
      by_cases hc : hasFraction v = true ∨ m ≤ 0
      · rw [if_pos hc]
        refine ⟨nofun, ?_⟩
        rintro ⟨_, e, hf, hn⟩
        cases e
        rcases hc with hc | hc
        · rw [hf] at hc
          cases hc
        · omega
      · rw [if_neg hc]
        constructor
        · intro e
          cases e
          exact ⟨not_exists.mp hb, rfl, by simpa using fun h => hc (.inl h), by omega⟩
        · exact fun h => h.2.1

/-- Only an infinite number fails otherwise than as an argument that is no positive whole number. -/
theorem requirePositive_error {f : Failure} (h : requirePositive v field = .error f) :
    f = .notPositiveInteger field ∨ f = .infiniteInteger ∧ v.IsInfinite := by
  by_cases hb : ∃ b, v = .bool b
  · obtain ⟨b, rfl⟩ := hb
    cases h
    exact .inl rfl
  rw [requirePositive_eq (not_exists.mp hb)] at h
  split at h
  · rename_i hi
    cases h
    exact .inr ⟨rfl, toInteger_eq_infinite_iff.mp hi⟩
  · cases h
    exact .inl rfl
  · split at h <;> cases h
    exact .inl rfl

theorem requirePositive_of_isInfinite (h : v.IsInfinite) :
    requirePositive v field = .error .infiniteInteger := by
  obtain ⟨negative, rfl⟩ := h
  rfl

/-! ### Flags -/

theorem flagOfWord?_eq_some_iff {s : String} {b : Bool} : flagOfWord? s = some b ↔
    (b = true ∧ lowered (trim s) ∈ trueWords) ∨ (b = false ∧ lowered (trim s) ∈ falseWords) := by
  -- no word is one for true and for false
  have hone : ∀ w ∈ trueWords, w ∉ falseWords := by decide
  unfold flagOfWord?
  by_cases ht : lowered (trim s) ∈ trueWords
  · simp [ht, hone _ ht, eq_comm]
  · by_cases hf : lowered (trim s) ∈ falseWords <;> simp [ht, hf, eq_comm]

theorem requireFlag_eq (h : ∀ b, v ≠ .bool b) :
    requireFlag v field = (v.text?.bind flagOfWord?).elim (.error (.notFlag field)) .ok := by
  cases v with
  | bool b => exact absurd rfl (h b)
  | _ => rfl

theorem requireFlag_eq_ok_iff {b : Bool} : requireFlag v field = .ok b ↔ DenotesFlag v b := by
  by_cases hb : ∃ c, v = .bool c
  · obtain ⟨c, rfl⟩ := hb
    constructor
    · intro e
      cases e
      exact .bool b
    · intro h
      cases h with
      | bool => rfl
      | trueWord hs => cases hs
      | falseWord hs => cases hs
  have hword : requireFlag v field = .ok b ↔ v.text?.bind flagOfWord? = some b := by
    rw [requireFlag_eq (not_exists.mp hb)]
    cases v.text?.bind flagOfWord? <;> simp
  rw [hword, Option.bind_eq_some_iff]
  constructor
  · rintro ⟨s, hs, hf⟩
    rcases flagOfWord?_eq_some_iff.mp hf with ⟨rfl, hw⟩ | ⟨rfl, hw⟩
    · exact .trueWord hs hw
    · exact .falseWord hs hw
  · intro h
    cases h with
    | bool => exact absurd ⟨b, rfl⟩ hb
    | trueWord hs hw => exact ⟨_, hs, flagOfWord?_eq_some_iff.mpr (.inl ⟨rfl, hw⟩)⟩
    | falseWord hs hw => exact ⟨_, hs, flagOfWord?_eq_some_iff.mpr (.inr ⟨rfl, hw⟩)⟩

theorem requireFlag_error {f : Failure} (h : requireFlag v field = .error f) :
    f = .notFlag field := by
  by_cases hb : ∃ b, v = .bool b
  · obtain ⟨b, rfl⟩ := hb
    cases h
  rw [requireFlag_eq (not_exists.mp hb)] at h
  cases hw : v.text?.bind flagOfWord? with
  | none => rw [hw] at h; cases h; rfl
  | some b => rw [hw] at h; cases h

/-! ### Dates -/

theorem dateOfText_eq_ok_iff {s : String} {d : Date} :
    dateOfText v s field = .ok d ↔ readDate? (trimChars s.toList) = some d := by
  unfold dateOfText
  cases readDate? (trimChars s.toList) <;> simp

theorem dateOfText_error {s : String} {f : Failure} (h : dateOfText v s field = .error f) :
    f = .unreadableDate field v.shown := by
  unfold dateOfText at h
  cases hr : readDate? (trimChars s.toList) with
  | none => rw [hr] at h; cases h; rfl
  | some d => rw [hr] at h; cases h

theorem toDate_of_text {s : String} (h : v.text? = some s) :
    toDate v field = dateOfText v s field := by
  cases v <;> cases h <;> rfl

theorem toDate_eq_ok_iff {d : Date} : toDate v field = .ok d ↔ DenotesDate v d := by
  cases hs : v.text? with
  | some s =>
      rw [toDate_of_text hs, dateOfText_eq_ok_iff]
      constructor
      · exact fun h => .text hs h
      · intro h
        cases h with
        | text hs' hd =>
            rw [hs] at hs'
            cases hs'
            exact hd
        | _ => cases hs
  | none =>
      constructor
      · intro h
        cases v with
        | date d => cases h; exact .date d
        | moment m => cases h; exact .moment m
        | instant m => cases h; exact .instant m
        | text s => cases hs
        | role r => cases hs
        | _ => cases h
      · intro h
        cases h with
        | text hs' => rw [hs] at hs'; cases hs'
        | _ => rfl

theorem toDate_error {f : Failure} (h : toDate v field = .error f) :
    f.domain? = some .validation := by
  unfold toDate at h
  split at h
  · cases h
  · cases h
  · cases h
  · split at h
    · rw [dateOfText_error h]
      rfl
    · cases h
      rfl

end Argument
end SchoolRegister
