import SchoolRegister.Permission

/-! # What the text of a role permits

Whether somebody may perform an operation depends on one text only: that of the role, trimmed and in
lower case (`Permission.roleText`).  The operation is permitted if that text is the name of a role in the
table (`Permission.check_eq_allowed_iff`); a value that counts as false has a text that is the name of
none. -/

namespace SchoolRegister

open Text

theorem Role.ofName?_eq_some_iff {s : String} {r : Role} : Role.ofName? s = some r ↔ r.name = s := by
  constructor
  · intro h
    simpa using List.find?_some h
  · rintro rfl
    exact Role.ofName?_name r

namespace Permission

/-- The text of a role, trimmed and in lower case. -/
def roleText (role : Value) : String := Argument.lowered (trim (role.text?.getD role.plain))

theorem ofName?_roleText_of_not_isTruthy {v : Value} (h : v.isTruthy = false) :
    Role.ofName? (roleText v) = none := by
  cases v with
  | null => decide
  | bool b =>
      cases b with
      | true => cases h
      | false => decide
  | int n =>
      have hn : n = 0 := by simpa [Value.isTruthy] using h
      subst hn
      decide
  | float x =>
      cases x with
      | finite negative m e =>
          have hm : m = 0 := by simpa [Value.isTruthy, Number.Binary64.isZero] using h
          subst hm
          have ht : roleText (.float (.finite negative 0 e)) = roleText (.float (.finite negative 0 0)) :=
            rfl
          rw [ht]
          cases negative <;> decide
      | infinite negative => cases h
      | nan => cases h
  | text s =>
      have hs : s = "" := by simpa [Value.isTruthy] using h
      subst hs
      decide
  | list items =>
      have hi : items = [] := by simpa [Value.isTruthy] using h
      subst hi
      decide
  | dict entries =>
      have he : entries = [] := by simpa [Value.isTruthy] using h
      subst he
      decide
  | bytes bs =>
      have hb : bs = [] := by simpa [Value.isTruthy] using h
      subst hb
      decide
  | date d => cases h
  | moment m => cases h
  | instant m => cases h
  | role r => cases h

/-- The role that a value stands for is the one with the text of the value as its name. -/
theorem roleOf?_eq (v : Value) : roleOf? v = Role.ofName? (roleText v) := by
  cases hv : v.isTruthy with
  | false =>
      rw [ofName?_roleText_of_not_isTruthy hv]
      cases v with
      | role r => cases hv
      | _ => simp only [roleOf?, hv]; rfl
  | true =>
      cases v with
      | role r => cases r <;> decide
      | _ => simp only [roleOf?, hv]; rfl

/-- An actor may perform an operation if the text of the role is the name of a role in the table. -/
theorem check_eq_allowed_iff {actor : Actor} {operation : Operation} :
    check (some actor) operation = .allowed ↔
      roleText actor.role ∈ operation.permitted.map Role.name := by
  simp only [check, roleOf?_eq]
  cases hr : Role.ofName? (roleText actor.role) with
  | none =>
      simp only [reduceCtorEq, false_iff, List.mem_map, not_exists, not_and]
      intro r _ hn
      rw [Role.ofName?_eq_some_iff.mpr hn] at hr
      cases hr
  | some role =>
      rw [← Role.ofName?_eq_some_iff.mp hr]
      have hmem : role.name ∈ operation.permitted.map Role.name ↔ role ∈ operation.permitted := by
        constructor
        · intro h
          obtain ⟨r, hr, hn⟩ := List.mem_map.mp h
          have he : some r = some role := by rw [← Role.ofName?_name r, hn, Role.ofName?_name]
          exact Option.some.inj he ▸ hr
        · exact List.mem_map_of_mem
      rw [hmem]
      dsimp only
      split <;> simp [*]

end Permission
end SchoolRegister
