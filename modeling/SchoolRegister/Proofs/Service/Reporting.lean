import SchoolRegister.Proofs.Argument
import SchoolRegister.Service.Reports

/-! # Reports that are asked for

The bounds of a range are missing or denote dates, of which the first one is not after the last one
(`DenotesSpan`).  Arguments denote a report, or a history, if each of them denotes what it needs
(`ReportArgs.Denotes`, `HistoryArgs.Denotes`), and these are the arguments that are valid
(`ReportArgs.validate_eq_ok_iff`, `HistoryArgs.validate_eq_ok_iff`).  Texts, of which some may be missing, are
refused by a rule of the school if they do not denote a report (`ReportArgs.validate_error`), and the ways in
which they may fail to are those of `ReportArgs.Refused` (`ReportArgs.refused_iff`). -/

namespace SchoolRegister

open Text Calendar Argument Service

/-- The value is a text, or there is none. -/
def Value.IsTextual (v : Value) : Prop := v = .null ∨ ∃ s, v.text? = some s

theorem Value.IsTextual.not_isInfinite {v : Value} (h : v.IsTextual) : ¬ v.IsInfinite := by
  rintro ⟨negative, rfl⟩
  rcases h with h | ⟨s, hs⟩
  · cases h
  · cases hs

namespace Argument

/-- The value is a text that is not blank and denotes no date. -/
def Unreadable (v : Value) : Prop := ∃ s, v.text? = some s ∧ isBlankText s = false ∧ ∀ d, ¬ DenotesDate v d

/-- The bound is missing, or it denotes a date. -/
inductive DenotesBound : Value → Option Date → Prop
  | missing {v : Value} : isMissing v = true → DenotesBound v none
  | date {v : Value} {d : Date} : isMissing v = false → DenotesDate v d → DenotesBound v (some d)

/-- Both bounds denote those of the range, and the range does not end before it starts. -/
structure DenotesSpan (start finish : Value) (span : Span) : Prop where
  first : DenotesBound start span.first
  last : DenotesBound finish span.last
  ordered : ∀ a b, span.first = some a → span.last = some b → a ≤ b

variable {v start finish : Value} {field : String} {bound : Option Date} {span : Span}

theorem toOptionalDate_eq_ok_iff : toOptionalDate v field = .ok bound ↔ DenotesBound v bound := by
  unfold toOptionalDate
  cases hm : isMissing v with
  | true =>
      rw [if_pos rfl]
      constructor
      · intro h
        cases h
        exact .missing hm
      · intro h
        cases h with
        | missing => rfl
        | date hm' => rw [hm] at hm'; cases hm'
  | false =>
      rw [if_neg Bool.false_ne_true]
      constructor
      · intro h
        cases hd : toDate v field with
        | error f => rw [hd] at h; cases h
        | ok d =>
            rw [hd] at h
            cases h
            exact .date hm (toDate_eq_ok_iff.mp hd)
      · intro h
        cases h with
        | missing hm' => rw [hm] at hm'; cases hm'
        | date _ hd => rw [toDate_eq_ok_iff.mpr hd]; rfl

theorem checkRange_eq_ok_iff {first last : Option Date} :
    checkRange first last = .ok () ↔ ∀ a b, first = some a → last = some b → a ≤ b := by
  unfold checkRange
  split
  · rename_i a b
    by_cases h : b < a
    · rw [if_pos h]
      refine ⟨nofun, fun hle => ?_⟩
      exact absurd h (Nat.not_lt.mpr (hle a b rfl rfl))
    · rw [if_neg h]
      refine ⟨fun _ a' b' ha hb => ?_, fun _ => rfl⟩
      cases ha
      cases hb
      exact Nat.not_lt.mp h
  · rename_i hnone
    refine ⟨fun _ a b ha hb => ?_, fun _ => rfl⟩
    exact (hnone a b ha hb).elim

end Argument

namespace Argument

theorem DenotesDate.unique {v : Value} {a b : Date} (ha : DenotesDate v a) (hb : DenotesDate v b) : a = b := by
  have hok : toDate v "" = .ok a := toDate_eq_ok_iff.mpr ha
  rw [toDate_eq_ok_iff.mpr hb] at hok
  exact (Except.ok.inj hok).symm

theorem isMissing_of_text {v : Value} {s : String} (h : v.text? = some s) : isMissing v = isBlankText s := by
  cases v with
  | text | role => cases h; rfl
  | _ => cases h

theorem DenotesDate.not_missing {v : Value} {d : Date} (h : DenotesDate v d) : isMissing v = false := by
  cases h with
  | text hs hd =>
      rw [isMissing_of_text hs, Bool.eq_false_iff]
      intro hb
      rw [trimChars_eq_nil_iff.mpr hb] at hd
      cases hd
  | _ => rfl

/-- A bound that is a text is missing or denotes a date, unless it cannot be read. -/
theorem exists_denotesBound {v : Value} (h : v.IsTextual) (hreadable : ¬ Unreadable v) :
    ∃ bound, DenotesBound v bound := by
  rcases h with rfl | ⟨s, hs⟩
  · exact ⟨none, .missing rfl⟩
  · cases hb : isBlankText s with
    | true => exact ⟨none, .missing ((isMissing_of_text hs).trans hb)⟩
    | false =>
        obtain ⟨d, hd⟩ : ∃ d, DenotesDate v d := by
          by_contra hnone
          exact hreadable ⟨s, hs, hb, not_exists.mp hnone⟩
        exact ⟨some d, .date hd.not_missing hd⟩

theorem Unreadable.not_denotesBound {v : Value} {bound : Option Date} (h : Unreadable v) :
    ¬ DenotesBound v bound := by
  obtain ⟨s, hs, hblank, hnone⟩ := h
  intro hb
  cases hb with
  | missing hm =>
      rw [isMissing_of_text hs, hblank] at hm
      cases hm
  | date _ hd => exact hnone _ hd

theorem DenotesBound.eq_some {v : Value} {bound : Option Date} {d : Date} (h : DenotesBound v bound)
    (hd : DenotesDate v d) : bound = some d := by
  cases h with
  | missing hm =>
      rw [hd.not_missing] at hm
      cases hm
  | date _ hd' => rw [hd'.unique hd]

theorem toOptionalDate_error {v : Value} {field : String} {f : Failure} (h : toOptionalDate v field = .error f) :
    f.domain? = some .validation := by
  unfold toOptionalDate at h
  split at h
  · cases h
  · cases hd : toDate v field with
    | ok d => rw [hd] at h; cases h
    | error g => rw [hd] at h; cases h; exact toDate_error hd

theorem checkRange_error {first last : Option Date} {f : Failure} (h : checkRange first last = .error f) :
    f = .startAfterEnd := by
  unfold checkRange at h
  split at h
  · split at h <;> cases h
    rfl
  · cases h

theorem requirePositive_error_of_textual {v : Value} {field : String} {f : Failure} (hv : v.IsTextual)
    (h : requirePositive v field = .error f) : f = .notPositiveInteger field :=
  (requirePositive_error h).resolve_right fun hinfinite => hv.not_isInfinite hinfinite.2

end Argument

/-! ### Reports -/

namespace Service

/-- Each argument denotes its part of a report. -/
structure ReportArgs.Denotes (args : ReportArgs) (query : ReportQuery) : Prop where
  span : DenotesSpan args.start args.finish query.span
  className : DenotesText args.className query.place.className
  term : DenotesPositive args.term query.place.term
  year : DenotesPositive args.year query.place.year

/-- Each argument denotes its part of a history. -/
structure HistoryArgs.Denotes (args : HistoryArgs) (query : HistoryQuery) : Prop where
  studentNumber : DenotesText args.studentNumber query.studentNumber
  term : DenotesPositive args.term query.term
  year : DenotesPositive args.year query.year
  span : DenotesSpan args.start args.finish query.span

theorem ReportArgs.validate_eq_ok_iff {args : ReportArgs} {query : ReportQuery} :
    args.validate = .ok query ↔ args.Denotes query := by
  constructor
  · intro h
    obtain ⟨first, hfirst, h⟩ := bind_eq_ok.mp h
    obtain ⟨last, hlast, h⟩ := bind_eq_ok.mp h
    obtain ⟨_, hrange, h⟩ := bind_eq_ok.mp h
    obtain ⟨className, hclass, h⟩ := bind_eq_ok.mp h
    obtain ⟨term, hterm, h⟩ := bind_eq_ok.mp h
    obtain ⟨year, hyear, h⟩ := bind_eq_ok.mp h
    cases h
    exact
      { span := ⟨toOptionalDate_eq_ok_iff.mp hfirst, toOptionalDate_eq_ok_iff.mp hlast,
          checkRange_eq_ok_iff.mp hrange⟩
        className := requireText_eq_ok_iff.mp hclass
        term := requirePositive_eq_ok_iff.mp hterm
        year := requirePositive_eq_ok_iff.mp hyear }
  · intro h
    rw [ReportArgs.validate, toOptionalDate_eq_ok_iff.mpr h.span.first, toOptionalDate_eq_ok_iff.mpr h.span.last]
    show (do checkRange query.span.first query.span.last; _) = _
    rw [checkRange_eq_ok_iff.mpr h.span.ordered, requireText_eq_ok_iff.mpr h.className,
      requirePositive_eq_ok_iff.mpr h.term, requirePositive_eq_ok_iff.mpr h.year]
    rfl

theorem HistoryArgs.validate_eq_ok_iff {args : HistoryArgs} {query : HistoryQuery} :
    args.validate = .ok query ↔ args.Denotes query := by
  constructor
  · intro h
    obtain ⟨number, hnumber, h⟩ := bind_eq_ok.mp h
    obtain ⟨term, hterm, h⟩ := bind_eq_ok.mp h
    obtain ⟨year, hyear, h⟩ := bind_eq_ok.mp h
    obtain ⟨first, hfirst, h⟩ := bind_eq_ok.mp h
    obtain ⟨last, hlast, h⟩ := bind_eq_ok.mp h
    obtain ⟨_, hrange, h⟩ := bind_eq_ok.mp h
    cases h
    exact
      { studentNumber := requireText_eq_ok_iff.mp hnumber
        term := requirePositive_eq_ok_iff.mp hterm
        year := requirePositive_eq_ok_iff.mp hyear
        span := ⟨toOptionalDate_eq_ok_iff.mp hfirst, toOptionalDate_eq_ok_iff.mp hlast,
          checkRange_eq_ok_iff.mp hrange⟩ }
  · intro h
    rw [HistoryArgs.validate, requireText_eq_ok_iff.mpr h.studentNumber, requirePositive_eq_ok_iff.mpr h.term,
      requirePositive_eq_ok_iff.mpr h.year, toOptionalDate_eq_ok_iff.mpr h.span.first,
      toOptionalDate_eq_ok_iff.mpr h.span.last]
    show (do checkRange query.span.first query.span.last; _) = _
    rw [checkRange_eq_ok_iff.mpr h.span.ordered]
    rfl

/-! ### Arguments that are refused -/

namespace ReportArgs

/-- All arguments are texts or missing. -/
structure Textual (args : ReportArgs) : Prop where
  className : args.className.IsTextual
  term : args.term.IsTextual
  year : args.year.IsTextual
  start : args.start.IsTextual
  finish : args.finish.IsTextual

/-- Some argument does not denote its part of a report, or the range ends before it starts. -/
inductive Refused (args : ReportArgs) : Prop
  | start : Unreadable args.start → Refused args
  | finish : Unreadable args.finish → Refused args
  | range {a b : Date} : DenotesDate args.start a → DenotesDate args.finish b → b < a → Refused args
  | className : (∀ s, args.className.text? = some s → isBlankText s = true) → Refused args
  | term : (∀ n, ¬ DenotesPositive args.term n) → Refused args
  | year : (∀ n, ¬ DenotesPositive args.year n) → Refused args

variable {args : ReportArgs} {query query' : ReportQuery} {f : Failure}

theorem Denotes.unique (h : args.Denotes query) (h' : args.Denotes query') : query = query' := by
  have hok := validate_eq_ok_iff.mpr h
  rw [validate_eq_ok_iff.mpr h'] at hok
  exact (Except.ok.inj hok).symm

theorem Refused.not_denotes (h : args.Refused) : ¬ args.Denotes query := by
  intro hq
  cases h with
  | start hs => exact hs.not_denotesBound hq.span.first
  | finish hf => exact hf.not_denotesBound hq.span.last
  | range ha hb hlt =>
      have hle := hq.span.ordered _ _ (hq.span.first.eq_some ha) (hq.span.last.eq_some hb)
      exact Nat.not_lt.mpr hle hlt
  | className hc =>
      obtain ⟨s, hs, hblank, _⟩ := hq.className
      rw [hc s hs] at hblank
      cases hblank
  | term ht => exact ht _ hq.term
  | year hy => exact hy _ hq.year

theorem exists_denotes (h : args.Textual) (hr : ¬ args.Refused) : ∃ query, args.Denotes query := by
  obtain ⟨first, hfirst⟩ := exists_denotesBound h.start fun hs => hr (.start hs)
  obtain ⟨last, hlast⟩ := exists_denotesBound h.finish fun hf => hr (.finish hf)
  obtain ⟨s, hs, hblank⟩ : ∃ s, args.className.text? = some s ∧ isBlankText s = false := by
    by_contra hnone
    refine hr (.className fun s hs => ?_)
    by_contra hblank
    exact hnone ⟨s, hs, by simpa using hblank⟩
  obtain ⟨term, hterm⟩ : ∃ n, DenotesPositive args.term n := by
    by_contra hnone
    exact hr (.term (not_exists.mp hnone))
  obtain ⟨year, hyear⟩ : ∃ n, DenotesPositive args.year n := by
    by_contra hnone
    exact hr (.year (not_exists.mp hnone))
  refine ⟨⟨⟨trim s, term, year⟩, ⟨first, last⟩⟩, ⟨hfirst, hlast, ?_⟩, ⟨s, hs, hblank, rfl⟩, hterm, hyear⟩
  rintro a b rfl rfl
  cases hfirst with
  | date _ ha =>
      cases hlast with
      | date _ hb =>
          by_contra hlt
          exact hr (.range ha hb (Nat.not_le.mp hlt))

theorem refused_iff (h : args.Textual) : args.Refused ↔ ¬ ∃ query, args.Denotes query := by
  constructor
  · rintro hr ⟨query, hq⟩
    exact hr.not_denotes hq
  · intro hnone
    by_contra hr
    exact hnone (exists_denotes h hr)

/-- Texts are refused by a rule of the school. -/
theorem validate_error (h : args.Textual) (he : args.validate = .error f) : f.domain? = some .validation := by
  rcases bind_eq_error.mp he with he | ⟨first, _, he⟩
  · exact toOptionalDate_error he
  rcases bind_eq_error.mp he with he | ⟨last, _, he⟩
  · exact toOptionalDate_error he
  rcases bind_eq_error.mp he with he | ⟨_, _, he⟩
  · rw [checkRange_error he]
    rfl
  rcases bind_eq_error.mp he with he | ⟨className, _, he⟩
  · rw [requireText_error he]
    rfl
  rcases bind_eq_error.mp he with he | ⟨term, _, he⟩
  · rw [requirePositive_error_of_textual h.term he]
    rfl
  rcases bind_eq_error.mp he with he | ⟨year, _, he⟩
  · rw [requirePositive_error_of_textual h.year he]
    rfl
  · cases he

/-- Texts denote a report, or they are refused. -/
theorem validate_cases (h : args.Textual) : (∃ query, args.Denotes query) ∨
    args.Refused ∧ ∃ f, args.validate = .error f ∧ f.domain? = some .validation := by
  cases hv : args.validate with
  | ok query => exact .inl ⟨query, validate_eq_ok_iff.mp hv⟩
  | error f =>
      refine .inr ⟨(refused_iff h).mpr ?_, f, rfl, validate_error h hv⟩
      rintro ⟨query, hq⟩
      rw [validate_eq_ok_iff.mpr hq] at hv
      cases hv

end ReportArgs

end Service
end SchoolRegister
