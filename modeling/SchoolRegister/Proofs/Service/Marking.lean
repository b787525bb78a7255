import SchoolRegister.Proofs.Argument
import SchoolRegister.Proofs.Session.History

/-! # Marks that are asked for

Arguments denote a mark if each of them denotes what the mark needs (`MarkArgs.Denotes`), and these are the
arguments that are valid (`MarkArgs.validate_eq_ok_iff`).  Other arguments are refused by a rule of the
school, with one exception: an infinite number for the term or the year, met before any argument that is
refused (`MarkArgs.MeetsInfinity`), is a failure of the service itself (`MarkArgs.validate_error`,
`MarkArgs.validate_of_meetsInfinity`). -/

namespace SchoolRegister

open Argument Service

namespace Service.MarkArgs

/-- Each argument denotes its part of a mark. -/
structure Denotes (args : MarkArgs) (mark : Mark) : Prop where
  studentNumber : DenotesText args.studentNumber mark.studentNumber
  className : DenotesText args.className mark.place.className
  term : DenotesPositive args.term mark.place.term
  year : DenotesPositive args.year mark.place.year
  present : DenotesFlag args.present mark.present
  date : DenotesDate args.date mark.date

/-- The arguments before an infinite term or year all denote something. -/
structure MeetsInfinity (args : MarkArgs) : Prop where
  studentNumber : ∃ s, DenotesText args.studentNumber s
  className : ∃ s, DenotesText args.className s
  number : args.term.IsInfinite ∨ (∃ n, DenotesPositive args.term n) ∧ args.year.IsInfinite

variable {args : MarkArgs} {mark : Mark} {f : Failure}

theorem validate_eq_ok_iff : args.validate = .ok mark ↔ args.Denotes mark := by
  constructor
  · intro h
    obtain ⟨number, hnumber, h⟩ := bind_eq_ok.mp h
    obtain ⟨className, hclass, h⟩ := bind_eq_ok.mp h
    obtain ⟨term, hterm, h⟩ := bind_eq_ok.mp h
    obtain ⟨year, hyear, h⟩ := bind_eq_ok.mp h
    obtain ⟨present, hpresent, h⟩ := bind_eq_ok.mp h
    obtain ⟨date, hdate, h⟩ := bind_eq_ok.mp h
    cases h
    exact
      { studentNumber := requireText_eq_ok_iff.mp hnumber
        className := requireText_eq_ok_iff.mp hclass
        term := requirePositive_eq_ok_iff.mp hterm
        year := requirePositive_eq_ok_iff.mp hyear
        present := requireFlag_eq_ok_iff.mp hpresent
        date := toDate_eq_ok_iff.mp hdate }
  · intro h
    rw [MarkArgs.validate, requireText_eq_ok_iff.mpr h.studentNumber,
      requireText_eq_ok_iff.mpr h.className, requirePositive_eq_ok_iff.mpr h.term,
      requirePositive_eq_ok_iff.mpr h.year, requireFlag_eq_ok_iff.mpr h.present,
      toDate_eq_ok_iff.mpr h.date]
    rfl

theorem validate_error (h : args.validate = .error f) :
    f.domain? = some .validation ∨ f = .infiniteInteger ∧ args.MeetsInfinity := by
  rcases bind_eq_error.mp h with h | ⟨number, hnumber, h⟩
  · rw [requireText_error h]
    exact .inl rfl
  rcases bind_eq_error.mp h with h | ⟨className, hclass, h⟩
  · rw [requireText_error h]
    exact .inl rfl
  have hbefore : (∃ s, DenotesText args.studentNumber s) ∧ ∃ s, DenotesText args.className s :=
    ⟨⟨number, requireText_eq_ok_iff.mp hnumber⟩, ⟨className, requireText_eq_ok_iff.mp hclass⟩⟩
  rcases bind_eq_error.mp h with h | ⟨term, hterm, h⟩
  · rcases requirePositive_error h with rfl | ⟨rfl, hinfinite⟩
    · exact .inl rfl
    · exact .inr ⟨rfl, hbefore.1, hbefore.2, .inl hinfinite⟩
  rcases bind_eq_error.mp h with h | ⟨year, hyear, h⟩
  · rcases requirePositive_error h with rfl | ⟨rfl, hinfinite⟩
    · exact .inl rfl
    · exact .inr ⟨rfl, hbefore.1, hbefore.2, .inr ⟨⟨term, requirePositive_eq_ok_iff.mp hterm⟩, hinfinite⟩⟩
  rcases bind_eq_error.mp h with h | ⟨present, hpresent, h⟩
  · rw [requireFlag_error h]
    exact .inl rfl
  rcases bind_eq_error.mp h with h | ⟨date, hdate, h⟩
  · exact .inl (toDate_error h)
  · cases h

theorem validate_of_meetsInfinity (h : args.MeetsInfinity) :
    args.validate = .error .infiniteInteger := by
  obtain ⟨number, hnumber⟩ := h.studentNumber
  obtain ⟨className, hclass⟩ := h.className
  rw [MarkArgs.validate, requireText_eq_ok_iff.mpr hnumber, requireText_eq_ok_iff.mpr hclass]
  rcases h.number with hterm | ⟨⟨term, hterm⟩, hyear⟩
  · rw [requirePositive_of_isInfinite hterm]
    rfl
  · rw [requirePositive_eq_ok_iff.mpr hterm, requirePositive_of_isInfinite hyear]
    rfl

/-- Arguments are of three kinds: they denote a mark, they meet an infinite number, or they are refused. -/
theorem validate_cases (args : MarkArgs) :
    (∃ mark, args.Denotes mark ∧ args.validate = .ok mark) ∨
      ((¬ ∃ mark, args.Denotes mark) ∧ args.MeetsInfinity ∧
        args.validate = .error .infiniteInteger) ∨
      ((¬ ∃ mark, args.Denotes mark) ∧ ¬ args.MeetsInfinity ∧
        ∃ f, args.validate = .error f ∧ f.domain? = some .validation) := by
  cases hv : args.validate with
  | ok mark => exact .inl ⟨mark, validate_eq_ok_iff.mp hv, rfl⟩
  | error f =>
      have hnone : ¬ ∃ mark, args.Denotes mark := by
        rintro ⟨mark, hm⟩
        rw [validate_eq_ok_iff.mpr hm] at hv
        cases hv
      rcases validate_error hv with hf | ⟨rfl, hinf⟩
      · refine .inr (.inr ⟨hnone, fun hinf => ?_, f, rfl, hf⟩)
        rw [validate_of_meetsInfinity hinf] at hv
        cases hv
        cases hf
      · exact .inr (.inl ⟨hnone, hinf, rfl⟩)

end Service.MarkArgs
end SchoolRegister
