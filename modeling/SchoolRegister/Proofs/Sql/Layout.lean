import SchoolRegister.Database.Schema
import SchoolRegister.Database.Setup
import SchoolRegister.Proofs.Sql.Choices
import SchoolRegister.Proofs.Sql.Script

/-! # Scripts with choices on lines of their own

The configuration chooses the database, so a script is relieved of the statements that choose one.  This is
done line by line, before the script is split into statements.  `Layout` says that the choices stand on lines
of their own, between the other statements; then these statements and no others are left out
(`scriptStatements_of_layout`).  Where another statement shares the line, it is treated like the choice, or
the choice like the other statement (`scriptStatements_shared`). -/

namespace SchoolRegister.Sql

open Text Database

variable {s t e line : List Char} {lines : List (List Char)}

/-! ### Blanks at the start of a script -/

theorem statements_congr (h : SameStart s t) : statements s = statements t := by
  have hdrop : ∀ l, statements l = statements (l.dropWhile isBlank) := by
    intro l
    obtain ⟨w, hw, hl⟩ := exists_blank_append l
    exact (congrArg statements hl).trans (statements_append_of_blank hw _)
  rw [hdrop, hdrop t, h]

theorem statements_withoutComments_congr (h : SameStart s t) :
    statements (withoutComments s) = statements (withoutComments t) :=
  statements_congr (lineRule_afterComment.sameStart_remove h)

/-! ### Lines that stay -/

/-- No rule takes out the line: it does not start with the words of a choice or it has no semicolon, and it
does not break off after CREATE, as the next line may go on with DATABASE. -/
structure IsPlain (line : List Char) : Prop where
  oneLine : '\n' ∉ line
  stays : chooses (line.dropWhile isBlank) = false ∨ ';' ∉ line
  complete : ((afterWord? "CREATE".toList (line.dropWhile isBlank)).any fun rest => rest.all isBlank) = false

instance : DecidablePred IsPlain := fun line =>
  decidable_of_iff ('\n' ∉ line ∧ (chooses (line.dropWhile isBlank) = false ∨ ';' ∉ line) ∧
      ((afterWord? "CREATE".toList (line.dropWhile isBlank)).any fun rest => rest.all isBlank) = false)
    ⟨fun ⟨oneLine, stays, complete⟩ => ⟨oneLine, stays, complete⟩,
      fun h => ⟨h.oneLine, h.stays, h.complete⟩⟩

theorem IsPlain.misses_afterUse? (h : IsPlain line) : Misses afterUse? line := by
  rw [afterUse?_eq]
  refine misses_afterChoice? (fun _ _ => leaves_afterUseWord?) (fun e he => afterUseWord?_append he)
    (h.stays.imp_left fun hc => ?_)
  rw [chooses, Bool.or_eq_false_iff] at hc
  exact Option.not_isSome_iff_eq_none.mp (Bool.eq_false_iff.mp hc.1)

theorem IsPlain.misses_afterCreateDatabase? (h : IsPlain line) : Misses afterCreateDatabase? line := by
  rw [afterCreateDatabase?_eq]
  refine misses_afterChoice? (fun _ _ => leaves_afterCreationWords?)
    (fun e he => afterCreationWords?_append he h.complete) (h.stays.imp_left fun hc => ?_)
  rw [chooses, Bool.or_eq_false_iff] at hc
  exact Option.not_isSome_iff_eq_none.mp (Bool.eq_false_iff.mp hc.2)

theorem withoutDatabase_textOf (hp : ∀ l ∈ lines, IsPlain l) (he : EndsInText lines) (t : List Char) :
    withoutDatabase (textOf lines ++ t) = textOf lines ++ withoutDatabase t := by
  have hcreate : ∀ l ∈ lines, '\n' ∉ l ∧ Misses afterCreateDatabase? l :=
    fun l hl => ⟨(hp l hl).oneLine, (hp l hl).misses_afterCreateDatabase?⟩
  have huse : ∀ l ∈ lines, '\n' ∉ l ∧ Misses afterUse? l :=
    fun l hl => ⟨(hp l hl).oneLine, (hp l hl).misses_afterUse?⟩
  rw [withoutDatabase, withoutDatabase, lineRule_afterCreateDatabase?.remove_textOf hcreate (.inl he),
    lineRule_afterUse?.remove_textOf huse (.inl he)]

/-- A text of plain lines stays as it is. -/
theorem withoutDatabase_of_plain (hp : ∀ l ∈ lines, IsPlain l) (hline : IsPlain line) :
    withoutDatabase (textOf lines ++ line) = textOf lines ++ line := by
  have hcreate : ∀ l ∈ lines, '\n' ∉ l ∧ Misses afterCreateDatabase? l :=
    fun l hl => ⟨(hp l hl).oneLine, (hp l hl).misses_afterCreateDatabase?⟩
  have huse : ∀ l ∈ lines, '\n' ∉ l ∧ Misses afterUse? l :=
    fun l hl => ⟨(hp l hl).oneLine, (hp l hl).misses_afterUse?⟩
  rw [withoutDatabase,
    lineRule_afterCreateDatabase?.remove_of_misses hcreate hline.oneLine hline.misses_afterCreateDatabase?,
    lineRule_afterUse?.remove_of_misses huse hline.oneLine hline.misses_afterUse?]

/-! ### Lines that are taken out -/

/-- The line consists of statements that choose a database. -/
structure IsChoice (line : List Char) : Prop where
  oneLine : '\n' ∉ line
  starts : chooses line = true
  closed : isClosed line = true
  whole : isWhole line = true
  chosen : (statements line).all chooses = true

instance : DecidablePred IsChoice := fun line =>
  decidable_of_iff ('\n' ∉ line ∧ chooses line = true ∧ isClosed line = true ∧ isWhole line = true ∧
      (statements line).all chooses = true)
    ⟨fun ⟨oneLine, starts, closed, whole, chosen⟩ => ⟨oneLine, starts, closed, whole, chosen⟩,
      fun h => ⟨h.oneLine, h.starts, h.closed, h.whole, h.chosen⟩⟩

namespace IsChoice

theorem head (h : IsChoice line) : ∃ c rest, line = c :: rest ∧ isBlank c = false ∧ c ≠ '-' := by
  obtain ⟨c, rest, hline, hc⟩ := isLetter_of_chooses h.starts
  refine ⟨c, rest, hline, ?_, ?_⟩
  · rcases hc with hc | hc <;> exact isBlank_of_isLetter (by decide) hc
  · rintro rfl
    revert hc
    decide

theorem dropWhile_append (h : IsChoice line) (e : List Char) :
    (line ++ e).dropWhile isBlank = line ++ e := by
  obtain ⟨c, rest, rfl, hc, -⟩ := h.head
  rw [List.cons_append, List.dropWhile_cons_of_neg (by simp [hc])]

theorem not_blank (h : IsChoice line) : line.all isBlank = false := by
  obtain ⟨c, rest, rfl, hc, -⟩ := h.head
  rw [List.all_cons, hc]
  rfl

theorem isComment (h : IsChoice line) : isComment line = false := by
  have hdrop := h.dropWhile_append []
  rw [List.append_nil] at hdrop
  obtain ⟨c, rest, rfl, -, hc⟩ := h.head
  rw [Sql.isComment, afterComment?, hdrop]
  split
  · rename_i heq
    exact absurd (List.cons.inj heq).1 hc
  · rfl

/-- The rule for the words with which the line starts takes it out. -/
theorem exists_afterChoice? {words : List Char → Option (List Char)}
    (hwords : ∀ s t, words s = some t → Leaves s t) (h : IsChoice line) (hstarts : (words line).isSome = true)
    (hends : words (line ++ e) = (words line).map (· ++ e)) (he : EndsLine e) :
    ∃ tail, afterChoice? words (line ++ e) = some tail ∧ Follows tail e := by
  obtain ⟨rest, hrest⟩ := Option.isSome_iff_exists.mp hstarts
  rw [afterChoice?, h.dropWhile_append, hends, hrest, Option.map_some, Option.bind_some]
  obtain ⟨s, w, rfl, hw⟩ := exists_of_isClosed h.closed
  obtain ⟨x, rfl, hx⟩ := (hwords _ _ hrest).exists_append
  have hx' : '\n' ∉ x := fun hin => h.oneLine (List.mem_append_left _ (hx hin))
  rw [List.append_assoc]
  exact exists_afterSemicolon? hx' hw he

theorem sameStart_withoutDatabase (h : IsChoice line) (he : EndsLine e) :
    SameStart (withoutDatabase (line ++ e)) (withoutDatabase e) := by
  have hwords := h.starts
  rw [chooses, Bool.or_eq_true] at hwords
  rcases hwords with huse | hcreate
  · obtain ⟨rest, hrest⟩ := Option.isSome_iff_exists.mp huse
    have hcreate := afterCreate?_of_afterUseWord? hrest
    -- the first rule leaves a line that starts with USE, the second one takes it out
    have hplain : ((afterWord? "CREATE".toList line).any fun rest => rest.all isBlank) = false := by
      rw [hcreate]
      rfl
    have hmisses : afterCreateDatabase? (line ++ e) = none := by
      rw [afterCreateDatabase?_eq, afterChoice?, h.dropWhile_append, afterCreationWords?_append he hplain,
        afterCreationWords?, hcreate]
      rfl
    obtain ⟨e', he', hremoved, hsame⟩ :=
      lineRule_afterCreateDatabase?.exists_remove_line hmisses h.oneLine he
    rw [withoutDatabase, hremoved]
    refine SameStart.trans (lineRule_afterUse?.sameStart_remove_of_follows ?_)
      (lineRule_afterUse?.sameStart_remove hsame)
    rw [afterUse?_eq]
    exact h.exists_afterChoice? (fun _ _ => leaves_afterUseWord?) huse (afterUseWord?_append he') he'
  · refine lineRule_afterUse?.sameStart_remove
      (lineRule_afterCreateDatabase?.sameStart_remove_of_follows ?_)
    rw [afterCreateDatabase?_eq]
    obtain ⟨rest, hrest⟩ := Option.isSome_iff_exists.mp hcreate
    obtain ⟨rest', hrest', hb⟩ := afterWord?_of_afterCreationWords? hrest
    refine h.exists_afterChoice? (fun _ _ => leaves_afterCreationWords?) hcreate ?_ he
    refine afterCreationWords?_append he ?_
    rw [hrest']
    exact hb

/-- A line with a choice adds nothing but choices to the statements of a text. -/
theorem statements_withoutComments (h : IsChoice line) (he : EndsLine e) :
    statements (withoutComments (line ++ e)) = statements line ++ statements (withoutComments e) := by
  rcases he with rfl | ⟨t, rfl⟩
  · have hnone := misses_afterComment? h.oneLine h.isComment h.not_blank [] (.inl rfl)
    rw [List.append_nil] at hnone
    rw [List.append_nil, withoutComments, withoutComments, remove_last h.oneLine hnone, remove_nil,
      statements_of_blank (w := []) rfl, List.append_nil]
  · rw [withoutComments_line h.oneLine h.not_blank, h.isComment, if_neg Bool.false_ne_true,
      statements_append h.whole, statements_congr (sameStart_newline _),
      statements_withoutComments_congr (sameStart_newline t)]

end IsChoice

/-! ### Layouts -/

/-- The choices of a script stand on lines of their own: between them are closed statements that choose
nothing, on lines that stay. -/
inductive Layout : List Char → Prop where
  | plain {lines : List (List Char)} {line : List Char} (stays : ∀ l ∈ lines, IsPlain l) (last : IsPlain line)
      (others : ∀ s ∈ statements (withoutComments (textOf lines ++ line)), chooses s = false) :
      Layout (textOf lines ++ line)
  | closed {lines : List (List Char)} {script : List Char} (stays : ∀ l ∈ lines, IsPlain l)
      (endsInText : EndsInText lines) (whole : isWhole (withoutComments (textOf lines)) = true)
      (others : ∀ s ∈ statements (withoutComments (textOf lines)), chooses s = false)
      (rest : Layout script) : Layout (textOf lines ++ script)
  | choice {blanks line script : List Char} (blank : blanks.all isBlank = true) (choice : IsChoice line)
      (ends : EndsLine script) (rest : Layout script) : Layout (blanks ++ (line ++ script))

/-- A comment, two choices and then plain lines without comments. -/
theorem layout_of_heading {comment creation use : List Char} (hcomment : IsPlain comment)
    (hc : isComment comment = true) (hcreation : IsChoice creation) (huse : IsChoice use)
    (hlines : ∀ l ∈ lines, IsPlain l ∧ isComment l = false)
    (hothers : ∀ s ∈ statements (textOf lines), chooses s = false) :
    Layout (textOf (comment :: creation :: use :: lines)) := by
  have hb := not_blank_of_isComment hc
  have hnewline : (['\n'] : List Char).all isBlank = true := by decide
  have hheading : withoutComments (textOf [comment]) = ['\n'] := by
    have hline := withoutComments_line hcomment.oneLine hb []
    rw [if_pos hc, List.nil_append, show withoutComments [] = [] from remove_nil] at hline
    rw [textOf_cons]
    exact hline
  have hmisses : ∀ l ∈ [] :: lines, '\n' ∉ l ∧ Misses afterComment? l := by
    refine List.forall_mem_cons.mpr ⟨⟨List.not_mem_nil, fun h => nomatch h⟩, fun l hl => ?_⟩
    obtain ⟨hplain, hnone⟩ := hlines l hl
    exact ⟨hplain.oneLine, misses_afterComment? hplain.oneLine hnone⟩
  have hplain : Layout (textOf ([] :: lines) ++ []) := by
    refine .plain (List.forall_mem_cons.mpr ⟨by decide, fun l hl => (hlines l hl).1⟩) (by decide) ?_
    rw [withoutComments, lineRule_afterComment.remove_of_misses hmisses List.not_mem_nil (fun h => nomatch h),
      List.append_nil, textOf_cons, List.nil_append, statements_congr (sameStart_newline _)]
    exact hothers
  rw [List.append_nil, textOf_cons, List.nil_append] at hplain
  have hchoices := Layout.choice (List.all_nil : [].all isBlank = true) hcreation (endsLine_newline _)
    (Layout.choice hnewline huse (endsLine_newline _) hplain)
  have hfirst : ∀ l ∈ [comment], IsPlain l := List.forall_mem_singleton.mpr hcomment
  have hlayout := Layout.closed hfirst ?_ ?_ ?_ hchoices
  · rw [textOf_cons_append] at hlayout
    rw [textOf_cons, textOf_cons, textOf_cons]
    exact hlayout
  · rintro l ⟨⟩
    exact hb
  · rw [hheading]
    exact isWhole_of_blank hnewline
  · rw [hheading, statements_of_blank hnewline]
    exact List.forall_mem_nil _

theorem layout_schema : Layout schema.toList := by
  have htext : schema.toList = textOf (schemaLines.map String.toList) := by
    rw [schema, String.toList_join, List.flatMap_map, textOf, List.flatMap_map]
    simp only [String.toList_append]
    rfl
  rw [htext]
  have hlines : ∀ l ∈ (schemaLines.drop 3).map String.toList, IsPlain l ∧ isComment l = false := by
    simp only [schemaLines, List.drop, List.map, String.toList_append]
    repeat rw [String.toList_ofList]
    decide +kernel
  have hothers : ∀ s ∈ statements (textOf ((schemaLines.drop 3).map String.toList)), chooses s = false := by
    simp only [schemaLines, List.drop, List.map, String.toList_append]
    repeat rw [String.toList_ofList]
    decide +kernel
  refine layout_of_heading ?_ ?_ ?_ ?_ hlines hothers
  all_goals
    rw [String.toList_ofList]
    decide +kernel

/-- The statements of a script that are executed are those that choose no database, in their order, if the
choices stand on lines of their own. -/
theorem scriptStatements_of_layout {script : List Char} (h : Layout script) :
    scriptStatements script = (statements (withoutComments script)).filter fun s => !chooses s := by
  induction h with
  | plain stays last others =>
      rw [scriptStatements, withoutDatabase_of_plain stays last, List.filter_eq_self.mpr]
      exact fun s hs => by simp [others s hs]
  | closed stays endsInText whole others _ ih =>
      rw [scriptStatements, withoutDatabase_textOf stays endsInText,
        withoutComments_textOf (fun l hl => (stays l hl).oneLine) endsInText,
        withoutComments_textOf (fun l hl => (stays l hl).oneLine) endsInText, statements_append whole,
        statements_append whole, List.filter_append, ← ih, List.filter_eq_self.mpr]
      · rfl
      · exact fun s hs => by simp [others s hs]
  | @choice blanks line script blank choice ends _ ih =>
      have hexecuted : scriptStatements (blanks ++ (line ++ script)) = scriptStatements script := by
        refine statements_withoutComments_congr (SameStart.trans ?_ (choice.sameStart_withoutDatabase ends))
        exact lineRule_afterUse?.sameStart_remove
          (lineRule_afterCreateDatabase?.sameStart_remove (sameStart_append blank _))
      have hothers : (statements line).filter (fun s => !chooses s) = [] := by
        rw [List.filter_eq_nil_iff]
        intro s hs
        simp [List.all_eq_true.mp choice.chosen s hs]
      rw [hexecuted, ih, statements_withoutComments_congr (sameStart_append blank _),
        choice.statements_withoutComments ends, List.filter_append, hothers, List.nil_append]

theorem scriptStatements_of_layout_schema : Layout schema.toList ∧
    scriptStatements schema.toList =
      (statements (withoutComments schema.toList)).filter fun s => !chooses s :=
  ⟨layout_schema, scriptStatements_of_layout layout_schema⟩

/-- Where they share a line, a statement is left out with the choice before it, and a choice is executed with
the statement before it. -/
theorem scriptStatements_shared :
    scriptStatements "USE school_db; CREATE TABLE t (a INT);\n".toList = [] ∧
      ((statements (withoutComments "USE school_db; CREATE TABLE t (a INT);\n".toList)).filter fun s => !chooses s) =
        ["CREATE TABLE t (a INT)".toList] ∧
      scriptStatements "SELECT 1; USE other;\n".toList = ["SELECT 1".toList, "USE other".toList] ∧
      ((statements (withoutComments "SELECT 1; USE other;\n".toList)).filter fun s => !chooses s) =
        ["SELECT 1".toList] := by
  repeat rw [String.toList_ofList]
  decide +kernel

end SchoolRegister.Sql
