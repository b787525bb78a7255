import Mathlib.Data.List.Nodup
import SchoolRegister.Proofs.Outcome
import SchoolRegister.Proofs.Service.Clients
import SchoolRegister.Proofs.Session.Records

/-! # Marks at the same time are marks one after another

Clients that mark at the same time, taking their steps in any order, come to what a session comes to in
which they mark one after another, in the order in which their marks are stored.

* `Reached` says how far clients have come: the store is that of a run of the marks stored so far, and each
  client stands where its `Stage` in that run puts it.  Every step of a client keeps it
  (`Reached.step`), and so does every schedule (`Reached.after`).
* A client that is refused changes nothing, so it may stand anywhere among the others
  (`Store.markAll_filter`).
* A key keeps its identifier (`Store.exists_record_markAll`) and its record as long as no other mark of it
  is stored (`Store.mem_records_markAll`).

`Session.linearized` puts these together. -/

namespace SchoolRegister

open Service

namespace Store

variable {s t : Store} {args : MarkArgs} {key : AttendanceKey} {present : Bool} {r : Record String}

/-! ### One mark -/

/-- The key and the presence of the mark that arguments make. -/
def target (s : Store) (args : MarkArgs) : Except Failure (AttendanceKey × Bool) := do
  let mark ← args.validate
  match s.findStudent mark.studentNumber with
  | none => .error .unknownStudent
  | some student => .ok (⟨student.id, mark.place, mark.date⟩, mark.present)

theorem outcome_lookUp (s : Store) (args : MarkArgs) :
    (lookUp register args).outcome s = (s.target args, s) := by
  have hf : ∀ number, (register.findStudent number).outcome s = (.ok (s.findStudent number), s) :=
    fun _ => rfl
  rw [lookUp, Action.outcome_bind, Action.outcome_ofExcept, target]
  cases args.validate with
  | error f => rfl
  | ok mark =>
      show ((register.findStudent mark.studentNumber) >>= _).outcome s = _
      rw [Action.outcome_bind, hf]
      show _ = ((match s.findStudent mark.studentNumber with | none => _ | some student => _), s)
      cases s.findStudent mark.studentNumber <;> rfl

theorem target_congr (h : s.students = t.students) (args : MarkArgs) : s.target args = t.target args := by
  simp only [target, findStudent, h]

theorem exists_mark_of_target (h : s.target args = .ok (key, present)) :
    ∃ mark, args.validate = .ok mark ∧ present = mark.present := by
  obtain ⟨mark, hv, h⟩ := bind_eq_ok.mp h
  refine ⟨mark, hv, ?_⟩
  cases hs : s.findStudent mark.studentNumber with
  | none => rw [hs] at h; cases h
  | some student => rw [hs] at h; cases h; rfl

theorem outcome_of_refused {f : Failure} (h : s.target args = .error f) :
    (markAttendance register args).outcome s = (.error f, s) := by
  rw [markAttendance_eq, Action.outcome_bind, outcome_lookUp, h]

theorem outcome_of_target (h : s.target args = .ok (key, present)) :
    (markAttendance register args).outcome s =
      (.ok (s.mark key present).1, (s.mark key present).2) := by
  rw [markAttendance_eq, Action.outcome_bind, outcome_lookUp, h]
  rfl

/-! ### Marks one after another -/

/-- The store after some marks, one after another. -/
def markAll (s : Store) (l : List MarkArgs) : Store :=
  l.foldl (fun s args => ((markAttendance register args).outcome s).2) s

theorem markAll_append (l l' : List MarkArgs) : s.markAll (l ++ l') = (s.markAll l).markAll l' :=
  List.foldl_append

theorem markAll_cons_of_refused {f : Failure} (h : s.target args = .error f) (l : List MarkArgs) :
    s.markAll (args :: l) = s.markAll l := by
  rw [markAll, List.foldl_cons, outcome_of_refused h]
  rfl

theorem markAll_cons_of_target (h : s.target args = .ok (key, present)) (l : List MarkArgs) :
    s.markAll (args :: l) = (s.mark key present).2.markAll l := by
  rw [markAll, List.foldl_cons, outcome_of_target h]
  rfl

theorem markAll_induction (P : Store → Prop) (l : List MarkArgs)
    (hmark : ∀ (s : Store) args key present, args ∈ l → s.target args = .ok (key, present) → P s →
      P (s.mark key present).2) (h : P s) : P (s.markAll l) := by
  induction l generalizing s with
  | nil => exact h
  | cons args rest ih =>
      have hrest := fun s args' key present ha =>
        hmark s args' key present (List.mem_cons_of_mem args ha)
      cases ht : s.target args with
      | error f =>
          rw [markAll_cons_of_refused ht]
          exact ih hrest h
      | ok p =>
          rw [markAll_cons_of_target ht]
          exact ih hrest (hmark s args p.1 p.2 List.mem_cons_self ht h)

@[simp] theorem students_markAll (s : Store) (l : List MarkArgs) :
    (s.markAll l).students = s.students := by
  refine markAll_induction (fun t => t.students = s.students) l (fun t _ key present _ _ h => ?_) rfl
  rw [mark_students, h]

theorem target_markAll (s : Store) (l : List MarkArgs) (args : MarkArgs) :
    (s.markAll l).target args = s.target args := target_congr (s.students_markAll l) args

/-- Marks that are refused may be left out. -/
theorem markAll_filter {ι : Type} {args : ι → MarkArgs} {p : ι → Bool} {l : List ι}
    (h : ∀ i ∈ l, p i = false → ∃ f, s.target (args i) = .error f) :
    s.markAll (l.map args) = s.markAll ((l.filter p).map args) := by
  induction l generalizing s with
  | nil => rfl
  | cons i rest ih =>
      have hrest := fun j hj => h j (List.mem_cons_of_mem i hj)
      rw [List.map_cons, List.filter_cons]
      cases ht : s.target (args i) with
      | error f =>
          rw [markAll_cons_of_refused ht, ih hrest]
          split
          · rw [List.map_cons, markAll_cons_of_refused ht]
          · rfl
      | ok q =>
          have hp : p i = true := by
            refine eq_true_of_ne_false fun hp => ?_
            obtain ⟨f, hf⟩ := h i List.mem_cons_self hp
            rw [ht] at hf
            cases hf
          rw [if_pos hp, List.map_cons, markAll_cons_of_target ht, markAll_cons_of_target ht]
          refine ih fun j hj hpj => ?_
          rw [target_congr (s.mark_students q.1 q.2)]
          exact hrest j hj hpj

theorem exists_record_markAll (hr : r ∈ s.records) (l : List MarkArgs) :
    ∃ r' ∈ (s.markAll l).records, r'.key = r.key ∧ r'.id = r.id := by
  refine markAll_induction (fun t => ∃ r' ∈ t.records, r'.key = r.key ∧ r'.id = r.id) l ?_
    ⟨r, hr, rfl, rfl⟩
  rintro t args key present _ _ ⟨r', hr', hk, hid⟩
  obtain ⟨r'', hr'', hk', hid'⟩ := t.exists_mem_records_mark key present hr'
  exact ⟨r'', hr'', hk'.trans hk, hid'.trans hid⟩

theorem mem_records_markAll (hr : r ∈ s.records) {l : List MarkArgs}
    (h : ∀ args ∈ l, ∀ p, s.target args = .ok p → p.1 ≠ r.key) : r ∈ (s.markAll l).records := by
  refine (markAll_induction (fun t => t.students = s.students ∧ r ∈ t.records) l ?_ ⟨rfl, hr⟩).2
  rintro t args key present ha ht ⟨hs, hmem⟩
  refine ⟨(t.mark_students key present).trans hs, (t.mem_records_mark key present).mpr (.inr ⟨hmem, ?_⟩)⟩
  exact (h args ha _ ((target_congr hs args).symm.trans ht)).symm

/-! ### How far clients have come -/

section Clients

variable {ι : Type} {args : ι → MarkArgs} {done : List ι} {c : Clients Store String ι} {i j : ι}

/-- Where a client may stand once the marks of some clients have been stored, one after another. -/
inductive Stage (s : Store) (args : ι → MarkArgs) (done : List ι) (i : ι) : Client String → Prop
  | waiting (hi : i ∉ done) : Stage s args done i (.waiting (args i))
  | found {key : AttendanceKey} {present : Bool} (hi : i ∉ done)
      (ht : s.target (args i) = .ok (key, present)) : Stage s args done i (.found key present)
  | refused {f : Failure} (hi : i ∉ done) (ht : s.target (args i) = .error f) :
      Stage s args done i (.answered (.error f))
  | stored {front back : List ι} {key : AttendanceKey} {present : Bool} (hd : done = front ++ i :: back)
      (ht : s.target (args i) = .ok (key, present)) :
      Stage s args done i (.answered (.ok ((s.markAll (front.map args)).mark key present).1))

/-- The store is that of a run of the marks stored so far, and each client stands where this run puts
it. -/
structure Reached (s : Store) (args : ι → MarkArgs) (done : List ι) (c : Clients Store String ι) :
    Prop where
  state : c.state = s.markAll (done.map args)
  nodup : done.Nodup
  stage : ∀ i, Stage s args done i (c.client i)

/-! ### What the clients have come to -/

namespace Reached

variable (h : Reached s args done c)
include h

/-- The clients whose marks are stored are those with a record for an answer. -/
theorem mem_done_iff : i ∈ done ↔ ∃ r, c.client i = .answered (.ok r) := by
  have hstage := h.stage i
  generalize c.client i = x at hstage ⊢
  cases hstage with
  | waiting hi => exact ⟨fun hd => absurd hd hi, nofun⟩
  | found hi => exact ⟨fun hd => absurd hd hi, nofun⟩
  | refused hi => exact ⟨fun hd => absurd hd hi, nofun⟩
  | stored hd => exact ⟨fun _ => ⟨_, rfl⟩, fun _ => hd ▸ List.mem_append_right _ List.mem_cons_self⟩

theorem not_mem_of_stored {front back : List ι} (hd : done = front ++ i :: back) :
    i ∉ front ∧ i ∉ back := by
  have hn := h.nodup
  rw [hd, List.nodup_middle, List.nodup_cons, List.mem_append, not_or] at hn
  exact hn.1

/-- A client that is answered with a record has been answered the mark that it stored. -/
theorem exists_stored (hi : c.client i = .answered (.ok r)) :
    ∃ front back key present, done = front ++ i :: back ∧ s.target (args i) = .ok (key, present) ∧
      r = ((s.markAll (front.map args)).mark key present).1 := by
  have hstage := h.stage i
  rw [hi] at hstage
  cases hstage with
  | @stored front back key present hd ht => exact ⟨front, back, key, present, hd, ht, rfl⟩

theorem target_of_refused {f : Failure} (hi : c.client i = .answered (.error f)) :
    s.target (args i) = .error f := by
  have hstage := h.stage i
  rw [hi] at hstage
  cases hstage with
  | refused _ ht => exact ht

/-- A client that has been answered without having its mark stored has been refused. -/
theorem refused_of_not_mem {o : Except Failure (Record String)} (ho : c.client i = .answered o)
    (hi : i ∉ done) : ∃ f, s.target (args i) = .error f := by
  cases o with
  | error f => exact ⟨f, h.target_of_refused ho⟩
  | ok r => exact absurd (h.mem_done_iff.mpr ⟨r, ho⟩) hi

/-- The record of a client was in the store when its mark was stored. -/
theorem exists_mem_records {front back : List ι} (hd : done = front ++ i :: back)
    (hi : c.client i = .answered (.ok r)) :
    ∃ t : Store, t.students = s.students ∧ r ∈ t.records ∧ c.state = t.markAll (back.map args) := by
  obtain ⟨front', back', key, present, hd', ht, rfl⟩ := h.exists_stored hi
  obtain ⟨hfront, hback⟩ := h.not_mem_of_stored hd
  obtain ⟨rfl, _, rfl⟩ := (List.append_cons_inj_of_notMem hfront hback).mp (hd.symm.trans hd')
  refine ⟨((s.markAll (front.map args)).mark key present).2, by simp, ?_, ?_⟩
  · exact (mem_records_mark _ _ _).mpr (.inl rfl)
  · rw [h.state, hd, List.map_append, List.map_cons, markAll_append, markAll_cons_of_target]
    rw [target_markAll, ht]

theorem id_eq_of_key_eq {r' : Record String} (hi : c.client i = .answered (.ok r))
    (hj : c.client j = .answered (.ok r')) (hk : r.key = r'.key) : r.id = r'.id := by
  have hkept : ∀ {i r}, c.client i = .answered (.ok r) →
      ∃ r₁ ∈ c.state.records, r₁.key = r.key ∧ r₁.id = r.id := by
    intro i r hi
    obtain ⟨front, back, _, _, hd, _⟩ := h.exists_stored hi
    obtain ⟨t, _, hr, hstate⟩ := h.exists_mem_records hd hi
    exact hstate ▸ exists_record_markAll hr _
  obtain ⟨r₁, hr₁, hk₁, hid₁⟩ := hkept hi
  obtain ⟨r₂, hr₂, hk₂, hid₂⟩ := hkept hj
  rw [← hid₁, ← hid₂, c.state.eq_of_key_eq hr₁ hr₂ (hk₁.trans (hk.trans hk₂.symm))]

/-- The record of the last mark of a key that was stored is the only one of the key. -/
theorem filter_key_of_last {front back : List ι} (hd : done = front ++ i :: back)
    (hi : c.client i = .answered (.ok r))
    (hlast : ∀ j ∈ back, ∀ r', c.client j = .answered (.ok r') → r'.key ≠ r.key) :
    c.state.records.filter (·.key = r.key) = [r] := by
  obtain ⟨t, hs, hr, hstate⟩ := h.exists_mem_records hd hi
  refine SchoolRegister.filter_key_eq c.state.keys_nodup ?_
  rw [hstate]
  refine mem_records_markAll hr fun a ha p hp => ?_
  obtain ⟨j, hj, rfl⟩ := List.mem_map.mp ha
  obtain ⟨r', hr'⟩ := h.mem_done_iff.mp (hd ▸ List.mem_append_right front (List.mem_cons_of_mem i hj))
  obtain ⟨_, _, key, present, _, ht, rfl⟩ := h.exists_stored hr'
  rw [target_congr hs, ht] at hp
  cases hp
  have hne := hlast j hj _ hr'
  rwa [mark_key] at hne

end Reached

/-! ### Steps and schedules -/

theorem Stage.concat {x : Client String} (h : Stage s args done j x) (hne : j ≠ i) :
    Stage s args (done ++ [i]) j x := by
  have hnot : j ∉ done → j ∉ done ++ [i] := fun hj hmem =>
    (List.mem_append.mp hmem).elim hj fun hmem => hne (List.mem_singleton.mp hmem)
  cases h with
  | waiting hj => exact .waiting (hnot hj)
  | found hj ht => exact .found (hnot hj) ht
  | refused hj ht => exact .refused (hnot hj) ht
  | @stored front back key present hd ht =>
      have hd' : done ++ [i] = front ++ j :: (back ++ [i]) := by
        rw [hd, List.append_assoc, List.cons_append]
      exact .stored hd' ht

theorem reached_waiting (s : Store) (args : ι → MarkArgs) : Reached s args [] (.waiting s args) :=
  ⟨rfl, List.nodup_nil, fun _ => .waiting List.not_mem_nil⟩

variable [DecidableEq ι]

theorem Reached.update {state : Store} {x : Client String} {done' : List ι} (h : Reached s args done c)
    (hstate : state = s.markAll (done'.map args)) (hn : done'.Nodup) (hx : Stage s args done' i x)
    (hother : ∀ j y, j ≠ i → Stage s args done j y → Stage s args done' j y) :
    Reached s args done' ⟨state, Function.update c.client i x⟩ := by
  refine ⟨hstate, hn, fun j => ?_⟩
  show Stage s args done' j (Function.update c.client i x j)
  by_cases hj : j = i
  · subst hj
    rw [Function.update_self]
    exact hx
  · rw [Function.update_of_ne hj]
    exact hother j _ hj (h.stage j)

/-- A step of a client stores its mark after those before it, or none. -/
theorem Reached.step (h : Reached s args done c) (i : ι) :
    Reached s args (done ++ if (c.client i).isStoring then [i] else []) (c.step register i) := by
  have hstage := h.stage i
  have hstep : c.step register i = ⟨((c.client i).step register c.state).2,
    Function.update c.client i ((c.client i).step register c.state).1⟩ := rfl
  rw [hstep]
  generalize c.client i = x at hstage ⊢
  cases hstage with
  | waiting hi =>
      have ht : c.state.target (args i) = s.target (args i) := by rw [h.state, target_markAll]
      simp only [Client.step, Client.isStoring, outcome_lookUp, ht, Bool.false_eq_true, if_false,
        List.append_nil]
      cases hs : s.target (args i) with
      | error f => exact h.update h.state h.nodup (.refused hi hs) fun _ _ _ => id
      | ok p => exact h.update h.state h.nodup (.found hi hs) fun _ _ _ => id
  | @found key present hi ht =>
      have hnodup : (done ++ [i]).Nodup := List.concat_eq_append ▸ List.Nodup.concat hi h.nodup
      have hstate : (c.state.mark key present).2 = s.markAll ((done ++ [i]).map args) := by
        rw [List.map_append, List.map_singleton, markAll_append, ← h.state, markAll_cons_of_target]
        · rfl
        · rw [h.state, target_markAll, ht]
      have hx := Stage.stored (show done ++ [i] = done ++ i :: [] from rfl) ht
      rw [← h.state] at hx
      exact h.update hstate hnodup hx fun _ _ hne hj => hj.concat hne
  | refused hi ht =>
      show Reached s args (done ++ []) _
      rw [List.append_nil]
      exact h.update h.state h.nodup (.refused hi ht) fun _ _ _ => id
  | stored hd ht =>
      show Reached s args (done ++ []) _
      rw [List.append_nil]
      exact h.update h.state h.nodup (.stored hd ht) fun _ _ _ => id

/-- Clients keep to their stages in every schedule. -/
theorem Reached.after (h : Reached s args done c) (schedule : List ι) :
    Reached s args (done ++ c.stored register schedule) (c.after register schedule) := by
  induction schedule generalizing done c with
  | nil =>
      rw [Clients.stored, List.append_nil]
      exact h
  | cons i rest ih =>
      rw [Clients.stored, ← List.append_assoc]
      exact ih (h.step i)

/-! ### Clients in a row -/

namespace Reached

variable {order front back : List ι} (h : Reached s args done c)
include h

/-- Of clients that have been answered, those without a stored mark may be left out. -/
theorem markAll_answered (hall : ∀ i ∈ order, ∃ o, c.client i = .answered o) :
    s.markAll (order.map args) = s.markAll ((order.filter (· ∈ done)).map args) := by
  refine markAll_filter fun i hi hp => ?_
  obtain ⟨o, ho⟩ := hall i hi
  exact h.refused_of_not_mem ho (of_decide_eq_false hp)

/-- The answer of a client is the one that it gets after those before it in the row. -/
theorem outcome_eq {o : Except Failure (Record String)} (hrow : c.IsRow done order)
    (hs : order = front ++ i :: back) (hi : c.client i = .answered o) :
    ((markAttendance register (args i)).outcome (s.markAll (front.map args))).1 = o := by
  cases o with
  | error f => rw [outcome_of_refused ((s.target_markAll _ _).trans (h.target_of_refused hi))]
  | ok r =>
      obtain ⟨front', back', key, present, hd, ht, rfl⟩ := h.exists_stored hi
      have hmem : i ∈ done := h.mem_done_iff.mpr ⟨_, hi⟩
      -- the marks stored before it are those of the clients before it
      have hsplit := hrow.stored
      rw [hs, List.filter_append, List.filter_cons, if_pos (decide_eq_true hmem)] at hsplit
      obtain ⟨hfront, hback⟩ := h.not_mem_of_stored hd
      have he := ((List.append_cons_inj_of_notMem hfront hback).mp (hd.symm.trans hsplit.symm)).1
      have hfirst : s.markAll (front.map args) = s.markAll (front'.map args) := by
        rw [he]
        exact h.markAll_answered fun j hj => hrow.answered j (hs ▸ List.mem_append_left _ hj)
      rw [outcome_of_target ((s.target_markAll _ _).trans ht), hfirst]

end Reached
end Clients
end Store

/-! ### Clients and sessions -/

namespace Session

variable {ι : Type} {s : Session} {args : ι → MarkArgs}

/-- The marks of some clients, as steps of a session. -/
def markSteps (args : ι → MarkArgs) (order : List ι) : List Step := order.map fun i => .mark (args i)

/-- What a session, in which they mark one after another, says of clients that mark at the same time: those
in `stored` have had their marks stored, in that order. -/
structure Linearized [DecidableEq ι] (s : Session) (args : ι → MarkArgs) (stored : List ι)
    (c : Clients Store String ι) : Prop where
  /-- A client has its mark stored at most once. -/
  nodup : stored.Nodup
  /-- Its mark is stored if and only if it is answered with a record. -/
  mem_stored : ∀ i, i ∈ stored ↔ ∃ r, c.client i = .answered (.ok r)
  /-- The store is that of the session, wherever the clients stand that have been refused. -/
  store : ∀ order, c.IsRow stored order → c.state = (s.after (markSteps args order)).store
  /-- The answers are those of the session. -/
  answers : ∀ order, c.IsRow stored order → ∀ front i back o, order = front ++ i :: back →
    c.client i = .answered o → ((s.after (markSteps args front)).step (.mark (args i))).1 = o.map .record
  /-- Records of one key have one identifier. -/
  ids : ∀ i j r r', c.client i = .answered (.ok r) → c.client j = .answered (.ok r') → r.key = r'.key →
    r.id = r'.id
  /-- The record that is left for a key is the answer to the last mark of it that is stored. -/
  last : ∀ front i back r, stored = front ++ i :: back → c.client i = .answered (.ok r) →
    (∀ j ∈ back, ∀ r', c.client j = .answered (.ok r') → r'.key ≠ r.key) →
      c.state.records.filter (·.key = r.key) = [r] ∧
        ∃ mark, (args i).validate = .ok mark ∧ r.present = mark.present

theorem store_after_markSteps (s : Session) (args : ι → MarkArgs) (order : List ι) :
    (s.after (markSteps args order)).store = s.store.markAll (order.map args) := by
  induction order generalizing s with
  | nil => rfl
  | cons i rest ih =>
      rw [markSteps, List.map_cons, after_cons]
      refine (ih _).trans ?_
      rw [step_mark]
      rfl

/-- Clients that mark at the same time come to what a session comes to in which they mark one after
another, in the order in which their marks are stored. -/
theorem linearized [DecidableEq ι] (s : Session) (args : ι → MarkArgs) (schedule : List ι) :
    s.Linearized args ((Clients.waiting s.store args).stored Store.register schedule)
      ((Clients.waiting s.store args).after Store.register schedule) := by
  have h := (Store.reached_waiting s.store args).after schedule
  rw [List.nil_append] at h
  refine ⟨h.nodup, fun i => h.mem_done_iff, ?_, ?_, fun i j r r' => h.id_eq_of_key_eq, ?_⟩
  · intro order hrow
    rw [h.state, store_after_markSteps, h.markAll_answered hrow.answered, hrow.stored]
  · intro order hrow front i back o hs hi
    rw [step_mark, store_after_markSteps]
    exact congrArg (Except.map Answer.record) (h.outcome_eq hrow hs hi)
  · intro front i back r hd hi hlast
    obtain ⟨_, _, key, present, _, ht, rfl⟩ := h.exists_stored hi
    refine ⟨h.filter_key_of_last hd hi hlast, ?_⟩
    rw [Store.mark_present]
    exact Store.exists_mark_of_target ht

/-- Two clients that mark the student of the small school on one day, and one that knows no student. -/
def smallClients (i : Fin 3) : MarkArgs :=
  { studentNumber := .text (if i = 2 then "18" else "17"), className := .text "5B", term := .int 1,
    year := .int 2024, present := .bool (i = 0), date := .text "2024-01-02" }

/-- The second client looks up its student after the first one and stores its mark before it, and the third
one is refused in between. -/
theorem linearized_small :
    let start := Clients.waiting small.store smallClients
    let c := start.after Store.register [0, 1, 2, 1, 0]
    start.stored Store.register [0, 1, 2, 1, 0] = [1, 0] ∧
      c.state = (small.after (markSteps smallClients [2, 1, 0])).store ∧
      c.state.records.map (fun r => (r.id, r.present)) = [(1, true)] := by
  intro start c
  have h := linearized small smallClients [0, 1, 2, 1, 0]
  have hstored : start.stored Store.register [0, 1, 2, 1, 0] = [1, 0] := by decide +kernel
  have hall : ∀ i ∈ [2, 1, 0], ∃ o, c.client i = .answered o := fun i _ =>
    match i with
    | 0 | 1 | 2 => ⟨_, rfl⟩
  exact ⟨hstored, h.store [2, 1, 0] ⟨hall, by rw [hstored]; decide⟩, by decide +kernel⟩

end Session
end SchoolRegister
