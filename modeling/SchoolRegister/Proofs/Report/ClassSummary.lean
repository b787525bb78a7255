import SchoolRegister.Proofs.Report.Daily
import SchoolRegister.Report.ClassSummary

/-! # The summary of the same records

Students whose names are texts are ranked by surname, name and number (`studentBefore?_eq`); of two
numbers one student always comes first, so their ranking does not depend on the order in which they
were given (`sortStudents_perm`).  Hence the summary of a class depends neither on the identifiers of
the records (`summarize_withoutId`) nor, where a number belongs to one student, on the order of the
records (`summarize_perm`). -/

namespace SchoolRegister.Report

variable {rs rs' : List (Record String)}

/-! ### Ranking -/

/-- What students are ranked by. -/
def rankOf (s : Summary String) : Lex (List Nat × Lex (List Nat × List Nat)) :=
  toLex (Text.codes s.surname, toLex (Text.codes s.name, Text.codes s.number))

theorem studentBefore?_eq (a b : Summary String) :
    studentBefore? a b = some (decide (rankOf a < rankOf b)) := by
  have hcodes {s t : String} : Text.codes s = Text.codes t ↔ s = t := ⟨Text.codes_injective, congrArg _⟩
  unfold studentBefore? rankOf Text.precedes
  simp only [Name.same, Name.before?, Text.precedes, Bool.not_eq_true', beq_eq_false_iff_ne, ne_eq]
  by_cases h1 : a.surname = b.surname
  · by_cases h2 : a.name = b.name
    · simp [h1, h2, Prod.Lex.toLex_lt_toLex]
    · simp [h1, h2, hcodes, Prod.Lex.toLex_lt_toLex]
  · simp [h1, hcodes, Prod.Lex.toLex_lt_toLex]

theorem number_of_rankOf {a b : Summary String} (h : rankOf a = rankOf b) : a.number = b.number := by
  have h2 := congrArg (fun r => (ofLex (ofLex r).2).2) h
  exact Text.codes_injective h2

theorem isDecided_of_nodup {stats : List (StudentStats String)}
    (h : (stats.map (·.student.number)).Nodup) :
    Ranking.isDecided (fun a b => studentBefore? a.student b.student) stats = true := by
  induction stats with
  | nil => rfl
  | cons a rest ih =>
      rw [List.map_cons, List.nodup_cons] at h
      rw [Ranking.isDecided, Bool.and_eq_true, List.all_eq_true]
      refine ⟨?_, ih h.2⟩
      intro b hb
      have hne : rankOf a.student ≠ rankOf b.student := by
        intro e
        apply h.1
        rw [number_of_rankOf e]
        exact List.mem_map_of_mem (f := fun s => s.student.number) hb
      simp only [Ranking.isDecidedPair, studentBefore?_eq, Bool.or_eq_true, decide_eq_true_eq]
      exact lt_or_gt_of_ne hne

/-- The ranking of students with different numbers does not depend on the order in which they come. -/
theorem sortStudents_perm {stats stats' : List (StudentStats String)} (h : stats.Perm stats')
    (hn : (stats.map (·.student.number)).Nodup) : sortStudents stats = sortStudents stats' := by
  have hn' : (stats'.map (·.student.number)).Nodup := (h.map _).nodup hn
  have le_iff : ∀ a b : StudentStats String,
      (studentBefore? b.student a.student != some true) = true ↔
        rankOf a.student ≤ rankOf b.student := by
    intro a b
    rw [studentBefore?_eq]
    simp
  have heq := mergeSort_eq_of_perm le_iff h fun a ha b hb e =>
    eq_of_key_eq hn ha hb (number_of_rankOf e)
  unfold sortStudents ranked?
  rw [if_pos (isDecided_of_nodup hn), if_pos (isDecided_of_nodup hn'), heq]

/-! ### The counts of one student -/

section Counts

variable {N : Type}

/-- The records that count for a number. -/
def countedOf (rs : List (Record N)) (number : String) : List (Record N × Summary N) :=
  (counted rs).filter fun p => p.2.number == number

def presentOf (rs : List (Record N)) (number : String) : Nat :=
  (countedOf rs number).countP (·.1.present)

/-- The students of the records that count for a number. -/
def studentsOf (rs : List (Record N)) (number : String) : List (Summary N) :=
  (countedOf rs number).map (·.2)

/-- How many records say that their student was present. -/
def presentIn (rs : List (Record N)) : Nat := (counted rs).countP (·.1.present)

theorem statsOf?_eq (rs : List (Record N)) (number : String) : statsOf? rs number = do
    let rate ← attendanceRate (presentOf rs number) (studentsOf rs number).length
    return (studentsOf rs number).head?.map fun student =>
      ⟨student, (studentsOf rs number).length, presentOf rs number,
        (studentsOf rs number).length - presentOf rs number, rate⟩ := by
  unfold studentsOf
  simp only [List.head?_map, List.length_map, Option.map_map]
  rfl

theorem statsOf?_error {rs : List (Record N)} {number : String} {f : Failure}
    (h : statsOf? rs number = .error f) : f = .invalidDecimal := by
  rw [statsOf?_eq] at h
  cases hr : attendanceRate (presentOf rs number) (studentsOf rs number).length with
  | error g =>
      rw [hr] at h
      cases h
      exact attendanceRate_error hr
  | ok rate =>
      rw [hr] at h
      cases h

theorem summarize_eq [Name N] (rs : List (Record N)) (place : ClassTerm) : summarize rs place = do
    let stats ← (studentNumbers rs).mapM (statsOf? rs)
    let students ← sortStudents (stats.filterMap id)
    let rate ← attendanceRate (presentIn rs) (counted rs).length
    return ⟨place, (counted rs).length, presentIn rs, (counted rs).length - presentIn rs, rate,
      students⟩ := rfl

/-! ### Numbers -/

theorem exists_head?_studentsOf {rs : List (Record N)} {number : String}
    (h : number ∈ studentNumbers rs) :
    ∃ student, (studentsOf rs number).head? = some student ∧ student.number = number := by
  rw [studentNumbers, mem_distinct] at h
  obtain ⟨p, hp, hn⟩ := List.mem_map.mp h
  have hmem : p ∈ countedOf rs number := List.mem_filter.mpr ⟨hp, by simp [hn]⟩
  cases hs : countedOf rs number with
  | nil =>
      rw [hs] at hmem
      cases hmem
  | cons q rest =>
      have hq : q ∈ countedOf rs number := hs ▸ List.mem_cons_self
      exact ⟨q.2, by rw [studentsOf, hs]; rfl, beq_iff_eq.mp (List.mem_filter.mp hq).2⟩

/-- A number that occurs has counts, and they are those of a student with that number. -/
theorem number_of_statsOf? {rs : List (Record N)} {number : String} (h : number ∈ studentNumbers rs)
    {found : Option (StudentStats N)} (hs : statsOf? rs number = .ok found) :
    found.map (·.student.number) = some number := by
  rw [statsOf?_eq] at hs
  obtain ⟨rate, _, hs⟩ := bind_eq_ok.mp hs
  obtain ⟨student, hh, hn⟩ := exists_head?_studentsOf h
  rw [hh] at hs
  cases hs
  exact congrArg some hn

theorem map_number_of_mapM {rs : List (Record N)} {found : List (Option (StudentStats N))}
    (h : (studentNumbers rs).mapM (statsOf? rs) = .ok found) :
    (found.filterMap id).map (·.student.number) = studentNumbers rs := by
  have hm := map_filterMap_of_mapM (h := fun number => number)
    (fun number hn found hf => number_of_statsOf? hn hf) h
  rw [hm, List.map_id']

theorem nodup_of_mapM {rs : List (Record N)} {found : List (Option (StudentStats N))}
    (h : (studentNumbers rs).mapM (statsOf? rs) = .ok found) :
    ((found.filterMap id).map (·.student.number)).Nodup := by
  rw [map_number_of_mapM h]
  exact nodup_distinct _

end Counts

/-! ### Records rewritten one by one -/

section Rewriting

variable {M : Type} {g : Record String → Record M} {h : Summary String → Summary M}

/-- The counts of a student with the student rewritten. -/
def StudentStats.mapStudent {N : Type} (h : Summary N → Summary M) (s : StudentStats N) :
    StudentStats M :=
  ⟨h s.student, s.total, s.present, s.absent, s.rate⟩

/-- A summary with the students rewritten. -/
def ClassSummary.mapStudents {N : Type} (h : Summary N → Summary M) (s : ClassSummary N) :
    ClassSummary M :=
  ⟨s.place, s.records, s.present, s.absent, s.rate, s.students.map (.mapStudent h)⟩

@[simp] theorem StudentStats.mapStudent_self {N : Type} :
    StudentStats.mapStudent (fun s : Summary N => s) = fun s => s := rfl

@[simp] theorem ClassSummary.mapStudents_self {N : Type} :
    ClassSummary.mapStudents (fun s : Summary N => s) = fun s => s := by
  funext s
  simp [ClassSummary.mapStudents]

theorem countedOf_map (hg : Rewrites g h) (hn : ∀ s, (h s).number = s.number) (rs : List (Record String))
    (number : String) :
    countedOf (rs.map g) number = (countedOf rs number).map fun p => (g p.1, h p.2) := by
  unfold countedOf
  rw [counted_map hg, List.filter_map]
  simp only [Function.comp_def, hn]

theorem statsOf?_map (hg : Rewrites g h) (hn : ∀ s, (h s).number = s.number) (rs : List (Record String))
    (number : String) : statsOf? (rs.map g) number =
      (statsOf? rs number).map fun found => found.map (.mapStudent h) := by
  have hpresent : presentOf (rs.map g) number = presentOf rs number := by
    rw [presentOf, countedOf_map hg hn, List.countP_map]
    simp only [Function.comp_def, hg.present]
    rfl
  have hstudents : studentsOf (rs.map g) number = (studentsOf rs number).map h := by
    rw [studentsOf, countedOf_map hg hn, List.map_map, studentsOf, List.map_map]
    rfl
  rw [statsOf?_eq, statsOf?_eq, hpresent, hstudents, List.length_map, List.head?_map]
  cases attendanceRate (presentOf rs number) (studentsOf rs number).length with
  | error f => rfl
  | ok rate => cases (studentsOf rs number).head? <;> rfl

variable [Name M]

/-- Students who can be ranked are ranked in the same way when they are rewritten and still compare as
before. -/
theorem sortStudents_map (hb : ∀ a b, studentBefore? (h a) (h b) = studentBefore? a b)
    {stats : List (StudentStats String)} (hn : (stats.map (·.student.number)).Nodup) :
    sortStudents (stats.map (.mapStudent h)) =
      (sortStudents stats).map fun students => students.map (.mapStudent h) := by
  have hdecided : ∀ l : List (StudentStats String),
      Ranking.isDecided (fun a b : StudentStats M => studentBefore? a.student b.student)
          (l.map (StudentStats.mapStudent h)) =
        Ranking.isDecided (fun a b => studentBefore? a.student b.student) l := by
    intro l
    induction l with
    | nil => rfl
    | cons a rest ih =>
        rw [List.map_cons, Ranking.isDecided, Ranking.isDecided, ih, List.all_map]
        congr 2
        funext b
        simp only [Function.comp_apply, Ranking.isDecidedPair, StudentStats.mapStudent, hb]
  unfold sortStudents ranked?
  rw [hdecided, if_pos (isDecided_of_nodup hn), if_pos (isDecided_of_nodup hn)]
  refine congrArg Except.ok (List.map_mergeSort fun a _ b _ => ?_).symm
  exact congrArg (· != some true) (hb b.student a.student).symm

/-- The summary of records that are rewritten is that of the records, with the students rewritten. -/
theorem summarize_map (hg : Rewrites g h) (hn : ∀ s, (h s).number = s.number)
    (hb : ∀ a b, studentBefore? (h a) (h b) = studentBefore? a b) (rs : List (Record String))
    (place : ClassTerm) :
    summarize (rs.map g) place = (summarize rs place).map (.mapStudents h) := by
  have hnumbers : studentNumbers (rs.map g) = studentNumbers rs := by
    rw [studentNumbers, counted_map hg, List.map_map]
    simp only [Function.comp_def, hn]
    rfl
  have hall : presentIn (rs.map g) = presentIn rs := by
    rw [presentIn, counted_map hg, List.countP_map]
    simp only [Function.comp_def, hg.present]
    rfl
  have hstats := mapM_map_eq (g := fun number => number) (statsOf?_map hg hn rs) (studentNumbers rs)
  rw [List.map_id'] at hstats
  rw [summarize_eq, summarize_eq, hnumbers, hall, hstats, counted_map hg, List.length_map]
  cases hm : (studentNumbers rs).mapM (statsOf? rs) with
  | error f => rfl
  | ok found =>
      have hfound : (found.map fun x => x.map (StudentStats.mapStudent h)).filterMap id =
          (found.filterMap id).map (StudentStats.mapStudent h) := by
        rw [List.filterMap_map, List.map_filterMap]
        rfl
      show (sortStudents ((found.map fun x => x.map (StudentStats.mapStudent h)).filterMap id) >>= _) = _
      rw [hfound, sortStudents_map hb (nodup_of_mapM hm)]
      show _ = (sortStudents (found.filterMap id) >>= _).map _
      cases sortStudents (found.filterMap id) with
      | error f => rfl
      | ok students => cases attendanceRate (presentIn rs) (counted rs).length <;> rfl

end Rewriting

theorem summarize_withoutId (rs : List (Record String)) (place : ClassTerm) :
    summarize (rs.map Record.withoutId) place = summarize rs place := by
  rw [summarize_map rewrites_withoutId (fun _ => rfl) (fun _ _ => rfl), ClassSummary.mapStudents_self]
  cases summarize rs place <;> rfl

/-! ### The order of the records -/

/-- A number belongs to one student among the records that count. -/
def OneStudentEach (rs : List (Record String)) : Prop :=
  ∀ p ∈ counted rs, ∀ q ∈ counted rs, p.2.number = q.2.number → p.2 = q.2

theorem statsOf?_perm (h : rs.Perm rs') (hone : OneStudentEach rs) (number : String) :
    statsOf? rs number = statsOf? rs' number := by
  have hp : (countedOf rs number).Perm (countedOf rs' number) := (counted_perm h).filter _
  have hpresent : presentOf rs number = presentOf rs' number := hp.countP_eq _
  have hstudents : studentsOf rs number = studentsOf rs' number := by
    apply eq_of_perm_of_forall_eq (hp.map _)
    intro x hx y hy
    obtain ⟨p, hp, rfl⟩ := List.mem_map.mp hx
    obtain ⟨q, hq, rfl⟩ := List.mem_map.mp hy
    obtain ⟨hp, hpn⟩ := List.mem_filter.mp hp
    obtain ⟨hq, hqn⟩ := List.mem_filter.mp hq
    exact hone p hp q hq ((beq_iff_eq.mp hpn).trans (beq_iff_eq.mp hqn).symm)
  rw [statsOf?_eq, statsOf?_eq, hpresent, hstudents]

/-- The summary of a class does not depend on the order of the records, if a number belongs to one
student. -/
theorem summarize_perm (h : rs.Perm rs') (hone : OneStudentEach rs) (place : ClassTerm) :
    summarize rs place = summarize rs' place := by
  have hc := counted_perm h
  have hpresent : presentIn rs = presentIn rs' := hc.countP_eq _
  have hstats : statsOf? rs = statsOf? rs' := funext (statsOf?_perm h hone)
  have hnumbers : (studentNumbers rs).Perm (studentNumbers rs') :=
    distinct_perm (hc.map (·.2.number))
  have halike : Alike List.Perm ((studentNumbers rs).mapM (statsOf? rs))
      ((studentNumbers rs').mapM (statsOf? rs')) := by
    rw [hstats]
    exact Alike.mapM_perm (fun _ _ => statsOf?_error) hnumbers
  rw [summarize_eq, summarize_eq, hpresent, hc.length_eq]
  -- the counts come in another order, which their ranking undoes
  refine Alike.eq ((halike.and_left fun _ => nodup_of_mapM).bind fun stats stats' hp => ?_)
  rw [sortStudents_perm (hp.2.filterMap id) hp.1]
  exact Alike.refl (fun _ => rfl) _

end SchoolRegister.Report
