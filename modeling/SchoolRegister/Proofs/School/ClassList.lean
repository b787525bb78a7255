import Mathlib.Data.List.Nodup
import Mathlib.Data.Prod.Lex
import Mathlib.Data.List.Lex
import SchoolRegister.School.Store
import SchoolRegister.Proofs.Calendar.Ordinal
import SchoolRegister.Proofs.Sorting

/-! # The list of a class

The records of a class in a range are in the order of date and surname (`Store.pairwise_classRecords`),
which is a lexicographic order (`Store.classLE_iff`).  Stores that agree on the records of a class, but
for their order and their identifiers, agree so on the list of every range
(`Store.classRecords_withoutId_perm`). -/

namespace SchoolRegister

/-- A record but for its own identifier. -/
def Record.withoutId {N : Type} (r : Record N) : Record N := { r with id := 0 }

theorem Record.withoutId_eq {a b : Record String} (hk : a.key = b.key) (hp : a.present = b.present)
    (hs : a.student = b.student) : a.withoutId = b.withoutId := by
  obtain ⟨i, studentId, className, term, year, date, present, student⟩ := a
  obtain ⟨j, studentId', className', term', year', date', present', student'⟩ := b
  simp only [Record.key, AttendanceKey.mk.injEq, ClassTerm.mk.injEq] at hk hp hs
  obtain ⟨rfl, ⟨rfl, rfl, rfl⟩, rfl⟩ := hk
  rw [Record.withoutId, Record.withoutId, hp, hs]

/-! ### Ranges of dates -/

theorem Span.contains_iff {span : Span} {d : Date} : span.contains d = true ↔
    (∀ a, span.first = some a → a ≤ d) ∧ ∀ b, span.last = some b → d ≤ b := by
  obtain ⟨first, last⟩ := span
  cases first <;> cases last <;> simp [contains]

theorem Span.contains_only {a d : Date} : (Span.only d).contains a = true ↔ a = d := by
  simp only [Span.contains, Span.only, Option.all_some, Bool.and_eq_true, decide_eq_true_eq]
  constructor
  · rintro ⟨hda, had⟩
    exact Date.le_antisymm had hda
  · rintro rfl
    exact ⟨Nat.le_refl _, Nat.le_refl _⟩

namespace Store

variable {s t : Store} {place : ClassTerm} {span : Span}

theorem mem_classRecords {r : Record String} : r ∈ s.classRecords place span ↔
    r ∈ s.records ∧ r.key.place = place ∧ span.contains r.date = true := by
  unfold classRecords
  rw [List.mem_mergeSort, List.mem_filter, Bool.and_eq_true, decide_eq_true_eq]

theorem length_classRecords_le (s : Store) (place : ClassTerm) (span : Span) :
    (s.classRecords place span).length ≤ s.records.length := by
  rw [classRecords, List.length_mergeSort]
  apply List.length_filter_le

/-! ### Order -/

/-- What the records of a class are sorted by. -/
def classRank (r : Record String) : Lex (Nat × List Nat) :=
  toLex (r.date.ordinal, Text.codes (sortName r))

theorem classLE_iff (a b : Record String) : classLE a b = true ↔ classRank a ≤ classRank b := by
  unfold classRank
  rw [Prod.Lex.toLex_le_toLex]
  simp only [classLE, Text.precedes, Bool.or_eq_true, Bool.and_eq_true, decide_eq_true_eq, Bool.not_eq_true',
    decide_eq_false_iff_not, Date.lt_iff_ordinal, not_lt]
  constructor
  · rintro (hlt | ⟨e, hle⟩)
    · exact .inl hlt
    · exact .inr ⟨by rw [e], hle⟩
  · rintro (hlt | ⟨e, hle⟩)
    · exact .inl hlt
    · exact .inr ⟨Date.ordinal_injective e, hle⟩

theorem pairwise_classRecords (s : Store) (place : ClassTerm) (span : Span) :
    (s.classRecords place span).Pairwise fun a b => classLE a b = true :=
  (pairwise_mergeSort_of_rank classLE_iff _).imp fun hab => (classLE_iff _ _).mpr hab

/-! ### Content -/

theorem nodup_withoutId (s : Store) (p : Record String → Bool) :
    ((s.records.filter p).map Record.withoutId).Nodup := by
  apply List.Nodup.of_map Record.key
  rw [List.map_map]
  exact s.keys_nodup.sublist (List.filter_sublist.map _)

theorem classRecords_withoutId (s : Store) (place : ClassTerm) (span : Span) :
    ((s.classRecords place span).map Record.withoutId).Perm
      (((s.records.filter fun r => r.key.place = place).map Record.withoutId).filter
        fun r => span.contains r.date) := by
  refine ((List.mergeSort_perm _ classLE).map _).trans (.of_eq ?_)
  rw [List.filter_map, List.filter_filter]
  congr 2
  funext r
  exact Bool.and_comm ..

/-- If two stores agree on the records of a class but for their order and their identifiers, they do so
in every range. -/
theorem classRecords_withoutId_perm
    (h : ((s.records.filter fun r => r.key.place = place).map Record.withoutId).Perm
      ((t.records.filter fun r => r.key.place = place).map Record.withoutId)) (span : Span) :
    ((s.classRecords place span).map Record.withoutId).Perm
      ((t.classRecords place span).map Record.withoutId) :=
  (s.classRecords_withoutId place span).trans
    ((h.filter _).trans (t.classRecords_withoutId place span).symm)

end Store
end SchoolRegister
