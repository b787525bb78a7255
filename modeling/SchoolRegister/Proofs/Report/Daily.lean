import SchoolRegister.Proofs.Outcome
import SchoolRegister.Proofs.School.ClassList
import SchoolRegister.Report.Daily

/-! # Daily metrics of the same records

Daily metrics are made of the dates, the marks and the students of the records: rewriting the students
rewrites the absent ones (`dailyMetrics_map`), and identifiers do not count (`dailyMetrics_withoutId`).
The order of the records shows in one place only: students of one surname stand in the list of absent
students of a day as their records do (`Day.Alike`).  If two lists of records in order of date and surname
differ in nothing but the order of equals, their daily metrics differ in nothing else
(`dailyMetrics_alike`). -/

namespace SchoolRegister.Report

theorem attendanceRate_error {actual possible : Int} {f : Failure}
    (h : attendanceRate actual possible = .error f) : f = .invalidDecimal := by
  unfold attendanceRate roundedRate at h
  split at h
  · cases h
  · cases hr : (Number.Quantity.finite (Number.Decimal.percentage actual possible)).rounded? with
    | none =>
        rw [hr] at h
        cases h
        rfl
    | some x =>
        rw [hr] at h
        cases h

variable {N : Type} {rs rs' : List (Record N)}

/-- How many records of a date say that a student was present. -/
def presentOn (rs : List (Record N)) (date : Date) : Nat := (countedOn rs date).countP (·.1.present)

/-- The students who were marked absent on a date, in the order of the records. -/
def absentOn (rs : List (Record N)) (date : Date) : List (Summary N) :=
  ((countedOn rs date).filter fun p => !p.1.present).map (·.2)

theorem dayOf_eq (rs : List (Record N)) (total : Int) (date : Date) : dayOf rs total date = do
    let rate ← attendanceRate (presentOn rs date) total
    return ⟨date, total, presentOn rs date, (absentOn rs date).length, rate, absentOn rs date⟩ := rfl

/-! ### Records rewritten one by one -/

section Rewriting

variable {M : Type} {g : Record N → Record M} {h : Summary N → Summary M}

/-- Each record is rewritten, and its student with it; its date and its presence stay. -/
structure Rewrites (g : Record N → Record M) (h : Summary N → Summary M) : Prop where
  date : ∀ r, (g r).date = r.date
  present : ∀ r, (g r).present = r.present
  student : ∀ r, (g r).student = r.student.map h

theorem rewrites_withoutId : Rewrites (Record.withoutId : Record N → Record N) fun s => s :=
  ⟨fun _ => rfl, fun _ => rfl, fun r => (Option.map_id' (x := r.student)).symm⟩

/-- A day with its absent students rewritten. -/
def Day.mapAbsent (h : Summary N → Summary M) (d : Day N) : Day M :=
  ⟨d.date, d.possible, d.actual, d.absentCount, d.rate, d.absent.map h⟩

@[simp] theorem Day.mapAbsent_self : Day.mapAbsent (fun s : Summary N => s) = fun d => d := by
  funext d
  simp [Day.mapAbsent]

theorem counted_map (hg : Rewrites g h) (rs : List (Record N)) :
    counted (rs.map g) = (counted rs).map fun p => (g p.1, h p.2) := by
  unfold counted
  rw [List.filterMap_map, List.map_filterMap]
  apply List.filterMap_congr
  intro r _
  rw [Function.comp_apply, hg.student, Option.map_map, Option.map_map]
  rfl

theorem countedOn_map (hg : Rewrites g h) (rs : List (Record N)) (date : Date) :
    countedOn (rs.map g) date = (countedOn rs date).map fun p => (g p.1, h p.2) := by
  unfold countedOn
  rw [counted_map hg, List.filter_map]
  simp only [Function.comp_def, hg.date]

theorem markedDates_map (hg : Rewrites g h) (rs : List (Record N)) :
    markedDates (rs.map g) = markedDates rs := by
  unfold markedDates
  rw [counted_map hg, List.map_map]
  simp only [Function.comp_def, hg.date]

theorem presentOn_map (hg : Rewrites g h) (rs : List (Record N)) (date : Date) :
    presentOn (rs.map g) date = presentOn rs date := by
  unfold presentOn
  rw [countedOn_map hg, List.countP_map]
  simp only [Function.comp_def, hg.present]

theorem absentOn_map (hg : Rewrites g h) (rs : List (Record N)) (date : Date) :
    absentOn (rs.map g) date = (absentOn rs date).map h := by
  unfold absentOn
  rw [countedOn_map hg, List.filter_map, List.map_map, List.map_map]
  simp only [Function.comp_def, hg.present]

theorem dayOf_map (hg : Rewrites g h) (rs : List (Record N)) (total : Int) (date : Date) :
    dayOf (rs.map g) total date = (dayOf rs total date).map (Day.mapAbsent h) := by
  rw [dayOf_eq, dayOf_eq, presentOn_map hg, absentOn_map hg, List.length_map]
  cases attendanceRate (presentOn rs date) total <;> rfl

/-- Daily metrics of records that are rewritten are those of the records, with the absent students
rewritten. -/
theorem dailyMetrics_map (hg : Rewrites g h) (rs : List (Record N)) (total : Int) :
    dailyMetrics (rs.map g) total =
      (dailyMetrics rs total).map fun days => days.map (Day.mapAbsent h) := by
  have hm := mapM_map_eq (g := fun date => date) (dayOf_map hg rs total) (markedDates rs)
  rw [List.map_id'] at hm
  unfold dailyMetrics
  rw [markedDates_map hg, hm]

theorem dailyMetrics_withoutId (rs : List (Record N)) (total : Int) :
    dailyMetrics (rs.map Record.withoutId) total = dailyMetrics rs total := by
  rw [dailyMetrics_map rewrites_withoutId, Day.mapAbsent_self]
  cases dailyMetrics rs total with
  | error f => rfl
  | ok days => exact congrArg Except.ok (List.map_id' days)

end Rewriting

/-! ### Order of the records -/

theorem counted_perm (h : rs.Perm rs') : (counted rs).Perm (counted rs') := h.filterMap _

theorem countedOn_perm (h : rs.Perm rs') (date : Date) :
    (countedOn rs date).Perm (countedOn rs' date) := (counted_perm h).filter _

theorem markedDates_perm (h : rs.Perm rs') : markedDates rs = markedDates rs' := by
  have hd := distinct_perm ((counted_perm h).map (·.1.date))
  exact mergeSort_eq_of_perm (fun a b => decide_eq_true_iff) hd fun a _ b _ => Date.ordinal_injective

theorem presentOn_perm (h : rs.Perm rs') (date : Date) : presentOn rs date = presentOn rs' date :=
  (countedOn_perm h date).countP_eq _

theorem absentOn_perm (h : rs.Perm rs') (date : Date) : (absentOn rs date).Perm (absentOn rs' date) :=
  ((countedOn_perm h date).filter _).map _

/-- The daily metrics of two lists of the same records are alike day by day. -/
theorem dailyMetrics_of_perm (h : rs.Perm rs') {total : Int} {R : Day N → Day N → Prop}
    (hday : ∀ date, Alike R (dayOf rs total date) (dayOf rs' total date)) :
    Alike (List.Forall₂ R) (dailyMetrics rs total) (dailyMetrics rs' total) := by
  unfold dailyMetrics
  rw [markedDates_perm h]
  refine Alike.mapM (R := Eq) (List.forall₂_refl _) fun date date' e => ?_
  subst e
  exact hday date

/-- Two days are reported alike: students of one surname may stand in another order in the list of absent
students. -/
structure Day.Alike (a b : Day String) : Prop where
  date : a.date = b.date
  possible : a.possible = b.possible
  actual : a.actual = b.actual
  absentCount : a.absentCount = b.absentCount
  rate : a.rate = b.rate
  absent : a.absent.Perm b.absent
  surnames : a.absent.map (·.surname) = b.absent.map (·.surname)

theorem surname_le_of_classLE {a b : Record String} {x y : Summary String}
    (h : Store.classLE a b = true) (hd : a.date = b.date) (hx : a.student = some x)
    (hy : b.student = some y) : Text.codes x.surname ≤ Text.codes y.surname := by
  have hle := (Store.classLE_iff a b).mp h
  rw [Store.classRank, Store.classRank, Prod.Lex.toLex_le_toLex] at hle
  simpa [hd, Store.sortName, hx, hy] using hle

/-- If the records are in order of date and surname, the absent students of a day are in order of their
surnames. -/
theorem pairwise_absentOn {rs : List (Record String)}
    (h : rs.Pairwise fun a b => Store.classLE a b = true) (date : Date) :
    ((absentOn rs date).map (·.surname)).Pairwise fun s t => Text.codes s ≤ Text.codes t := by
  unfold absentOn countedOn counted
  rw [List.filter_filter, List.map_map, List.pairwise_map, List.pairwise_filter, List.pairwise_filterMap]
  refine h.imp fun {a b} hab p hp q hq hpd hqd => ?_
  obtain ⟨x, hx, rfl⟩ := Option.map_eq_some_iff.mp hp
  obtain ⟨y, hy, rfl⟩ := Option.map_eq_some_iff.mp hq
  simp only [Bool.and_eq_true, decide_eq_true_eq] at hpd hqd
  exact surname_le_of_classLE hab (hpd.2.trans hqd.2.symm) hx hy

theorem dayOf_alike {rs rs' : List (Record String)} (h : rs.Perm rs')
    (hs : rs.Pairwise fun a b => Store.classLE a b = true)
    (hs' : rs'.Pairwise fun a b => Store.classLE a b = true) (total : Int) (date : Date) :
    Alike Day.Alike (dayOf rs total date) (dayOf rs' total date) := by
  have habsent := absentOn_perm h date
  -- two permutations of the same surnames, both in order
  have hnames : (absentOn rs date).map (·.surname) = (absentOn rs' date).map (·.surname) :=
    (habsent.map _).eq_of_pairwise (fun _ _ _ _ h h' => Text.codes_injective (le_antisymm h h')) (pairwise_absentOn hs date)
      (pairwise_absentOn hs' date)
  rw [dayOf_eq, dayOf_eq, presentOn_perm h]
  refine (Alike.refl (fun _ => rfl) (attendanceRate _ total)).bind fun rate rate' e => ?_
  exact ⟨rfl, rfl, rfl, congrArg Int.ofNat habsent.length_eq, e, habsent, hnames⟩

/-- The daily metrics of two lists of the same records, both in order of date and surname, are alike. -/
theorem dailyMetrics_alike {rs rs' : List (Record String)} (h : rs.Perm rs')
    (hs : rs.Pairwise fun a b => Store.classLE a b = true)
    (hs' : rs'.Pairwise fun a b => Store.classLE a b = true) (total : Int) :
    Alike (List.Forall₂ Day.Alike) (dailyMetrics rs total) (dailyMetrics rs' total) :=
  dailyMetrics_of_perm h (dayOf_alike h hs hs' total)

end SchoolRegister.Report
