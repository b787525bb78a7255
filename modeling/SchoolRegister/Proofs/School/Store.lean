import SchoolRegister.School.Store

/-! # What a mark does to a store

`Store.mark` gives a key the record that it answers (`mark_records`): the record has that key and that
presence, and it keeps the identifier and the student of the record that was there, or else has the next
identifier and the summary of the student.  A mark leaves students and rosters alone. -/

namespace SchoolRegister

theorem AttendanceKey.eq_iff {a b : AttendanceKey} :
    a = b ↔ a.studentId = b.studentId ∧ a.place = b.place ∧ a.date = b.date := by
  obtain ⟨i, p, d⟩ := a
  obtain ⟨j, q, e⟩ := b
  simp

namespace Store

variable (s : Store) (key : AttendanceKey) (present : Bool)

theorem find?_eq_some_iff {r : Record String} : s.find? key = some r ↔ r ∈ s.records ∧ r.key = key :=
  find?_key_eq_some_iff s.keys_nodup

theorem find?_eq_none_iff : s.find? key = none ↔ key ∉ s.records.map Record.key :=
  find?_key_eq_none_iff

theorem eq_of_key_eq {a b : Record String} (ha : a ∈ s.records) (hb : b ∈ s.records)
    (h : a.key = b.key) : a = b :=
  SchoolRegister.eq_of_key_eq s.keys_nodup ha hb h

theorem eq_of_number_eq {a b : Student String} (ha : a ∈ s.students) (hb : b ∈ s.students)
    (h : a.number = b.number) : a = b :=
  SchoolRegister.eq_of_key_eq s.numbers_nodup ha hb h

/-! ### The record of a mark -/

theorem mark_of_some {old : Record String} (h : s.find? key = some old) :
    s.mark key present = ({ old with present := present }, s.put { old with present := present }) := by
  simp only [mark, h]

theorem mark_of_none (h : s.find? key = none) : s.mark key present =
    (s.newRecord key present, { s.put (s.newRecord key present) with lastId := s.lastId + 1 }) := by
  simp only [mark, h]

theorem mark_key : (s.mark key present).1.key = key := by
  cases h : s.find? key with
  | some old =>
      rw [mark_of_some s key present h]
      exact ((s.find?_eq_some_iff key).mp h).2
  | none => rw [mark_of_none s key present h]; rfl

theorem mark_present : (s.mark key present).1.present = present := by
  cases h : s.find? key with
  | some old => rw [mark_of_some s key present h]
  | none => rw [mark_of_none s key present h]; rfl

theorem mark_records : (s.mark key present).2.records =
    putUnder Record.key s.records (s.mark key present).1 := by
  cases h : s.find? key with
  | some old => rw [mark_of_some s key present h]; rfl
  | none => rw [mark_of_none s key present h]; rfl

/-- The record of a key that was marked before keeps its identifier and its student. -/
theorem mark_of_mem {r : Record String} (hr : r ∈ s.records) (hk : r.key = key) :
    (s.mark key present).1.id = r.id ∧ (s.mark key present).1.student = r.student := by
  rw [mark_of_some s key present ((s.find?_eq_some_iff key).mpr ⟨hr, hk⟩)]
  exact ⟨rfl, rfl⟩

/-- The record of a new key has the next identifier and the summary of the student. -/
theorem mark_of_not_mem (h : key ∉ s.records.map Record.key) :
    (s.mark key present).1.id = s.lastId + 1 ∧
      (s.mark key present).1.student = s.summaryOf? key.studentId := by
  rw [mark_of_none s key present ((s.find?_eq_none_iff key).mpr h)]
  exact ⟨rfl, rfl⟩

/-- The records after a mark are its own and those of the other keys. -/
theorem mem_records_mark {r : Record String} : r ∈ (s.mark key present).2.records ↔
    r = (s.mark key present).1 ∨ (r ∈ s.records ∧ r.key ≠ key) := by
  rw [mark_records, mem_putUnder, mark_key]

theorem exists_mem_records_mark {r : Record String} (hr : r ∈ s.records) :
    ∃ r' ∈ (s.mark key present).2.records, r'.key = r.key ∧ r'.id = r.id := by
  by_cases e : r.key = key
  · refine ⟨_, (s.mem_records_mark key present).mpr (.inl rfl), ?_, (s.mark_of_mem key present hr e).1⟩
    rw [mark_key, e]
  · exact ⟨r, (s.mem_records_mark key present).mpr (.inr ⟨hr, e⟩), rfl, rfl⟩

/-- What holds of the record of a mark, and held of the records of the other keys, holds of all records
after the mark. -/
theorem forall_records_mark {P : Record String → Prop} (hnew : P (s.mark key present).1)
    (hold : ∀ r ∈ s.records, r.key ≠ key → P r) : ∀ r ∈ (s.mark key present).2.records, P r := by
  intro r hr
  rcases (s.mem_records_mark key present).mp hr with rfl | ⟨hr, hne⟩
  · exact hnew
  · exact hold r hr hne

theorem mark_lastId : (s.mark key present).2.lastId =
    if key ∈ s.records.map Record.key then s.lastId else s.lastId + 1 := by
  cases h : s.find? key with
  | some old =>
      obtain ⟨hr, hk⟩ := (s.find?_eq_some_iff key).mp h
      rw [mark_of_some s key present h, if_pos (hk ▸ List.mem_map_of_mem hr)]
      rfl
  | none => rw [mark_of_none s key present h, if_neg ((s.find?_eq_none_iff key).mp h)]

/-! ### What a mark leaves alone -/

/-- A mark keeps whatever does not depend on the records and on the last identifier. -/
theorem mark_keeps {β : Type} {part : Store → β}
    (h : ∀ (s : Store) r n, part { s.put r with lastId := n } = part s) :
    part (s.mark key present).2 = part s := by
  cases e : s.find? key with
  | some old => rw [mark_of_some s key present e]; exact h s _ s.lastId
  | none => rw [mark_of_none s key present e]; exact h s _ _

@[simp] theorem mark_students : (s.mark key present).2.students = s.students :=
  s.mark_keeps key present fun _ _ _ => rfl

@[simp] theorem mark_rosters : (s.mark key present).2.rosters = s.rosters :=
  s.mark_keeps key present fun _ _ _ => rfl

@[simp] theorem mark_down : (s.mark key present).2.down = s.down :=
  s.mark_keeps key present fun _ _ _ => rfl

end Store
end SchoolRegister
