import SchoolRegister.Proofs.Http.Access

/-! # Which requests reach a resource

A request is for a resource if its path, once the escapes are resolved and the slashes at its start are
taken off, is written as the resource is (`Resource.location`), if its method is one of those that are
allowed there (`Resource.methods`), and if it does not ask for a lasting connection.  These are the
requests that reach the resource (`Request.resource?_eq_some_iff_isFor`). -/

namespace SchoolRegister.Text

/-- The parts of a text between the places of a separator are those that the list library gives. -/
theorem separated_eq_splitOn (separator : Char) (s : List Char) :
    separated separator s = s.splitOn separator := by
  induction s with
  | nil => rw [separated, List.splitOn_nil]
  | cons c rest ih =>
      rw [List.splitOn_eq_splitOnP, List.splitOnP_cons_eq_if_modifyHead, ← List.splitOn_eq_splitOnP,
        separated, ih]
      cases hr : rest.splitOn separator with
      | nil => exact absurd hr (List.splitOn_ne_nil _ _)
      | cons part parts => by_cases hc : c = separator <;> simp [hc]

theorem not_mem_of_mem_splitOn {separator : Char} {s part : List Char}
    (h : part ∈ s.splitOn separator) : separator ∉ part := by
  induction s generalizing part with
  | nil =>
      rw [List.splitOn_nil, List.mem_singleton] at h
      rw [h]
      exact List.not_mem_nil
  | cons c rest ih =>
      rw [List.splitOn_cons_eq_if_modifyHead] at h
      obtain ⟨first, others, hr⟩ := List.exists_cons_of_ne_nil (List.splitOn_ne_nil separator rest)
      rw [hr] at ih h
      by_cases hc : c = separator
      · rw [if_pos (beq_iff_eq.mpr hc)] at h
        rcases List.mem_cons.mp h with rfl | h
        · exact List.not_mem_nil
        · exact ih h
      · rw [if_neg (by simpa using hc), List.modifyHead_cons] at h
        rcases List.mem_cons.mp h with rfl | h
        · rw [List.mem_cons, not_or]
          exact ⟨Ne.symm hc, ih List.mem_cons_self⟩
        · exact ih (List.mem_cons_of_mem _ h)

end SchoolRegister.Text

namespace SchoolRegister.Http

open Text

namespace Resource

def location : Resource → String
  | mark => "api/attendance/mark"
  | classView => "api/attendance/class"
  | student number => "api/attendance/student/" ++ number
  | report => "api/attendance/reports"
  | reportFile => "api/attendance/reports.csv"
  | summary => "api/attendance/summary"

def methods : Resource → List String
  | mark => ["POST"]
  | _ => ["GET", "HEAD"]

/-- The parts of the location of a resource. -/
def parts : Resource → List String
  | student number => basePath ++ ["student", number]
  | r => basePath ++ [r.leaf]

/-- A number in a location is not empty, and no slash divides it. -/
def IsLocated (r : Resource) : Prop := ∀ number, r = student number → number ≠ "" ∧ '/' ∉ number.toList

end Resource

/-- A request is for a resource. -/
structure Request.IsFor (request : Request) (resource : Resource) : Prop where
  located : resource.IsLocated
  path : (pathText request.path.toList).dropWhile (· == '/') = resource.location.toList
  method : capitalized request.method ∈ resource.methods
  passing : request.isLasting = false

variable {resource : Resource}

theorem placeOf_eq_resource_iff {parts : List String} :
    placeOf parts = .resource resource ↔ parts = resource.parts ∧ resource ≠ .student "" := by
  constructor
  · intro h
    unfold placeOf at h
    split at h
    · rename_i number
      split at h
      · cases h
      · rename_i hn
        cases h
        refine ⟨rfl, fun e => hn ?_⟩
        rw [Resource.student.inj e]
        rfl
    · rename_i leaf
      split at h
      · rename_i r hf
        cases h
        have hl : resource.leaf = leaf := by simpa using List.find?_some hf
        have hmem := List.mem_of_find?_eq_some hf
        rw [← hl]
        cases resource <;> first | exact ⟨rfl, nofun⟩ | simp [Resource.fixed] at hmem
      · cases h
    · split at h <;> cases h
    · cases h
  · rintro ⟨rfl, hne⟩
    cases resource with
    | student number =>
        have hn : ¬ number.isEmpty = true := fun e => hne (by rw [String.isEmpty_iff.mp e])
        exact if_neg hn
    | _ => rfl

theorem toList_location (r : Resource) :
    r.location.toList = ['/'].intercalate (r.parts.map String.toList) := by
  cases r with
  | student number =>
      have hparts : (Resource.student number).parts.map String.toList =
          ["api".toList, "attendance".toList, "student".toList, number.toList] := rfl
      have hjoined : ['/'].intercalate ["api".toList, "attendance".toList, "student".toList,
          number.toList] = "api/attendance/student/".toList ++ number.toList := by
        simp only [List.intercalate_cons_cons, List.intercalate_singleton]
        rfl
      rw [hparts, hjoined]
      exact String.toList_append
  | _ => decide

theorem placeAt_eq_resource_iff {path : List Char} :
    placeAt path = .resource resource ↔ resource.IsLocated ∧ path = resource.location.toList := by
  rw [placeAt, placeOf_eq_resource_iff, separated_eq_splitOn, toList_location]
  constructor
  · rintro ⟨hp, hne⟩
    have hsplit : path.splitOn '/' = resource.parts.map String.toList := by
      rw [← hp, List.map_map, Function.comp_def]
      simp
    refine ⟨?_, by rw [← hsplit, List.intercalate_splitOn]⟩
    rintro number rfl
    refine ⟨fun e => hne (by rw [e]), not_mem_of_mem_splitOn (s := path) ?_⟩
    rw [hsplit]
    exact List.mem_map_of_mem (List.mem_append_right basePath (List.mem_cons_of_mem _ List.mem_cons_self))
  · rintro ⟨hl, rfl⟩
    have hslash : ∀ part ∈ resource.parts.map String.toList, '/' ∉ part := by
      cases resource with
      | student number =>
          simpa [Resource.parts, basePath] using (hl number rfl).2
      | _ => decide
    rw [List.splitOn_intercalate '/' hslash (by cases resource <;> simp [Resource.parts, basePath])]
    refine ⟨?_, fun e => (hl "" e).1 rfl⟩
    rw [List.map_map, Function.comp_def]
    simp

/-- A request goes to a resource if its method is accepted at its path as it stands. -/
theorem target_eq_found_iff {path method : String} : target path method = .here (.found resource) ↔
    matchAt (placeAt ((pathText path.toList).dropWhile (· == '/'))) method = .found resource := by
  simp only [target]
  constructor
  · intro h
    split at h
    · exact Target.here.inj h
    · split at h
      · cases h
      · rename_i hm
        rw [Target.here.inj h] at hm
        exact absurd rfl hm
  · intro h
    rw [h]
    rfl

theorem matchAt_eq_found_iff {place : Place} {method : String} :
    matchAt place method = .found resource ↔ place = .resource resource ∧ method ∈ resource.methods := by
  have haccepts : ∀ r : Resource, r.accepts method = true ↔ method ∈ r.methods := by
    intro r
    cases r <;> simp [Resource.accepts, Resource.verb, Resource.methods, isReading]
  have hoptions : ∀ r : Resource, "OPTIONS" ∉ r.methods := by
    intro r
    cases r <;> exact of_decide_eq_true rfl
  constructor
  · intro h
    have ha := (haccepts resource).mp (accepts_of_matchAt h)
    cases place with
    | nothing => cases h
    | file =>
        simp only [matchAt] at h
        split at h
        · cases h
        · split at h <;> cases h
    | resource r =>
        simp only [matchAt] at h
        split at h
        · cases h
        · split at h
          · cases h
            exact ⟨rfl, ha⟩
          · cases h
  · rintro ⟨rfl, hm⟩
    have hne : ¬ (method == "OPTIONS") = true := by
      rw [beq_iff_eq]
      exact fun e => hoptions resource (e ▸ hm)
    rw [matchAt, if_neg hne, if_pos ((haccepts resource).mpr hm)]

/-- The requests that reach a resource are those that are for it. -/
theorem Request.resource?_eq_some_iff_isFor {request : Request} :
    request.resource? = some resource ↔ request.IsFor resource := by
  rw [resource?_eq_some_iff, target_eq_found_iff, matchAt_eq_found_iff, placeAt_eq_resource_iff]
  constructor
  · rintro ⟨⟨⟨hl, hp⟩, hm⟩, hw⟩
    exact ⟨hl, hp, hm, hw⟩
  · rintro ⟨hl, hp, hm, hw⟩
    exact ⟨⟨⟨hl, hp⟩, hm⟩, hw⟩

example : ({ method := "post", path := "//api/attendance/m%61rk" } : Request).resource? = some .mark := by
  decide +kernel

end SchoolRegister.Http
