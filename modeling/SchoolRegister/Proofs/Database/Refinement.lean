import Mathlib.Data.List.Forall2
import SchoolRegister.Proofs.Database.Rows
import SchoolRegister.Proofs.Database.Transactions
import SchoolRegister.Proofs.Outcome
import SchoolRegister.Proofs.School.Store
import SchoolRegister.Proofs.Service.Notes
import SchoolRegister.Proofs.Session.Records

/-! # A database in the place of the store

If the result sets of a server show what the store in memory returns to a use case, row by row
(`AllShow`), then the use case over the database gives the same answer or fails in the same way as over
the store, and uses up those result sets (`Session.outcome_database_eq_step`).

The proof goes over the operations of the register: each is one transaction that uses up one result set
(`Action.Reads`) and reads back what the rows show.  `Link.database` lifts this to whatever is put
together of the operations, and so to the use cases.  There are result sets for whatever a store returns
(`exists_allShow`). -/

namespace SchoolRegister

variable {α β : Type}

/-! ### Rows for replies -/

namespace Database

/-- The rows show a reply: one row for each thing that it lists.  A student who is not found is shown by
no row, or by one in which nothing is known of the student. -/
inductive Shows : Reply String → List Row → Prop where
  | nobody : Shows (.student none) []
  | student {found : Option (Student String)} {row : Row} (h : row.Shows (studentCells found)) :
      Shows (.student found) [row]
  | enrolments {es : List (Enrolment String)} {rows : List Row}
      (h : List.Forall₂ (fun e row => row.Shows (enrolmentCells e)) es rows) :
      Shows (.enrolments es) rows
  | records {rs : List (Record String)} {rows : List Row}
      (h : List.Forall₂ (fun r row => ∃ date, ShowsDate r.date date ∧ row.Shows (recordCells r date))
        rs rows) : Shows (.records rs) rows
  | record {r : Record String} {row : Row} {date : Value} (hd : ShowsDate r.date date)
      (h : row.Shows (recordCells r date)) : Shows (.record r) [row]

/-- The result sets show the replies one after another; a missing result set has no rows. -/
def AllShow (replies : List (Reply String)) (sets : List (Option (List Row))) : Prop :=
  List.Forall₂ (fun reply set => Shows reply (set.getD [])) replies sets

theorem AllShow.append {first second : List (Reply String)} {sets : List (Option (List Row))}
    (h : AllShow (first ++ second) sets) :
    ∃ now later, sets = now ++ later ∧ AllShow first now ∧ AllShow second later := by
  refine ⟨sets.take first.length, sets.drop first.length, (List.take_append_drop _ _).symm, ?_, ?_⟩
  · have ht := List.forall₂_take first.length h
    rwa [List.take_left] at ht
  · have hd := List.forall₂_drop first.length h
    rwa [List.drop_left] at hd

theorem exists_shows (reply : Reply String) : ∃ rows, Shows reply rows := by
  cases reply with
  | student found => exact ⟨[.named (studentCells found)], .student (shows_studentCells found)⟩
  | enrolments es =>
      refine ⟨es.map fun e => .named (enrolmentCells e), .enrolments ?_⟩
      rw [List.forall₂_map_right_iff, List.forall₂_same]
      exact fun e _ => shows_enrolmentCells e
  | records rs =>
      refine ⟨rs.map fun r => .named (recordCells r (.date r.date)), .records ?_⟩
      rw [List.forall₂_map_right_iff, List.forall₂_same]
      exact fun r _ => ⟨.date r.date, .day .date, shows_recordCells r _⟩
  | record r =>
      exact ⟨[.named (recordCells r (.date r.date))], .record (.day .date) (shows_recordCells r _)⟩

/-- Whatever a store returns, there are result sets that show it. -/
theorem exists_allShow (replies : List (Reply String)) : ∃ sets, AllShow replies sets := by
  induction replies with
  | nil => exact ⟨[], .nil⟩
  | cons reply replies ih =>
      obtain ⟨rows, hrows⟩ := exists_shows reply
      obtain ⟨sets, hsets⟩ := ih
      exact ⟨some rows :: sets, .cons hrows hsets⟩

/-- The server executes every statement and has some result sets to give. -/
def Server.Gives (server : Server) (results : List (Option (List Row))) : Prop :=
  server.failAt = none ∧ server.results = results

end Database

open Database

/-! ### Operations of the database -/

/-- The action uses up one result set, and if that has some rows its outcome is `e`. -/
def Action.Reads (a : Action Server α) (rows : List Row) (e : Except Failure α) : Prop :=
  ∀ server set rest, server.Gives (set :: rest) → set.getD [] = rows →
    ∃ server', a.outcome server = (e, server') ∧ server'.Gives rest

namespace Action.Reads

variable {rows : List Row} {e : Except Failure α}

theorem ofExcept_bind {x : β} {k : β → Action Server α} (h : (k x).Reads rows e) :
    (Action.ofExcept (.ok x) >>= k).Reads rows e := h

theorem execute_bind {sql : String} {parameters : List Value} {k : Unit → Action Server α}
    (h : (k ()).Reads rows e) : (execute sql parameters >>= k).Reads rows e := by
  intro server set rest hg hr
  have hgo : ¬ server.failAt = some server.executed.length := by simp [hg.1]
  rw [Action.outcome_bind, outcome_execute, if_neg hgo]
  exact h _ set rest hg hr

theorem fetchAll_bind {k : List Row → Action Server α} (h : k rows = Action.ofExcept e) :
    (fetchAll >>= k).Reads rows e := by
  rintro server set rest ⟨hf, hs⟩ rfl
  have hrows : server.nextRows = set.getD [] := by rw [Server.nextRows, hs, List.headD_cons]
  have hrest : server.fetched.results = rest := by rw [Server.fetched, hs, List.tail_cons]
  refine ⟨server.fetched, ?_, hf, hrest⟩
  rw [Action.outcome_bind, outcome_fetchAll, hrows]
  exact congrArg (Action.outcome · _) h

theorem fetchOne_bind {k : Option Row → Action Server α}
    (h : k (rows.head?.filter fun r => !r.isEmpty) = Action.ofExcept e) :
    (fetchOne >>= k).Reads rows e := by
  rw [fetchOne, bind_assoc]
  apply fetchAll_bind
  rw [pure_bind]
  exact h

theorem transaction {config : Config} {body : Action Server α} (h : body.Reads rows e) :
    (Database.transaction config body).Reads rows e := by
  intro server set rest hg hr
  obtain ⟨server', hb, hg'⟩ := h (server.opened config) set rest hg hr
  exact ⟨server'.log (closing e.isOk), by rw [outcome_transaction, hb], hg'⟩

end Action.Reads

namespace Database

variable {config : Config} {rows : List Row}

theorem head?_filter_of_shows {row : Row} {cells : List (String × Value)} {c : String × Value}
    (h : row.Shows cells) (hc : c ∈ cells) :
    ([row].head?.filter fun r => !r.isEmpty) = some row := by
  rw [List.head?_cons, Option.filter_some_pos (by simp [h.isEmpty hc])]

theorem findStudent_reads {number : Value} {found : Option (Student String)}
    (h : Shows (.student found) rows) :
    (findStudent config number).Reads rows (.ok (found.map (Student.map .text))) := by
  apply Action.Reads.transaction
  apply Action.Reads.execute_bind
  apply Action.Reads.fetchOne_bind
  cases h with
  | nobody => rfl
  | student h =>
      rw [head?_filter_of_shows h List.mem_cons_self]
      exact congrArg Action.ofExcept (studentOf_of_shows h)

theorem roster_reads {className : Value} {term year : Int} {es : List (Enrolment String)}
    (h : Shows (.enrolments es) rows) :
    (roster config className (.int term) (.int year)).Reads rows
      (.ok (es.map (Enrolment.map .text))) := by
  cases h with
  | enrolments h =>
      apply Action.Reads.transaction
      apply Action.Reads.execute_bind
      apply Action.Reads.fetchAll_bind
      exact congrArg Action.ofExcept (mapM_eq_map (h.imp fun _ _ hrow => enrolmentOf_of_shows hrow))

theorem listRecords_reads {conditions : List (String × Value)} {order : String}
    {rs : List (Record String)} (h : Shows (.records rs) rows) :
    (listRecords config conditions order).Reads rows (.ok (rs.map (Record.map .text))) := by
  cases h with
  | records h =>
      apply Action.Reads.transaction
      apply Action.Reads.execute_bind
      apply Action.Reads.fetchAll_bind
      exact congrArg Action.ofExcept
        (mapM_eq_map (h.imp fun _ _ ⟨_, hd, hrow⟩ => recordOf_of_shows hd hrow))

theorem listBy_reads {column order : String} {owner first last : Value} {term year : Int}
    {rs : List (Record String)} (h : Shows (.records rs) rows) :
    (listBy config column order owner (.int term) (.int year) first last).Reads rows
      (.ok (rs.map (Record.map .text))) := by
  apply Action.Reads.ofExcept_bind
  apply Action.Reads.ofExcept_bind
  exact listRecords_reads h

theorem upsert_reads {key : RowKey} {present : Value} {parameters : List Value}
    {r : Record String} (hk : key.parameters = .ok parameters) (h : Shows (.record r) rows) :
    (upsert config key present).Reads rows (.ok (r.map .text)) := by
  rw [upsert, hk]
  apply Action.Reads.transaction
  apply Action.Reads.execute_bind
  apply Action.Reads.execute_bind
  apply Action.Reads.fetchOne_bind
  cases h with
  | record hd h =>
      rw [head?_filter_of_shows h List.mem_cons_self]
      exact congrArg Action.ofExcept (recordOf_of_shows hd h)

end Database

/-! ### The database in the place of the store -/

/-- The database does what a store does that is not down, as long as its result sets show what the store
notes. -/
def Link.database : Link (Store × List (Reply String)) Server where
  holds g a b := ∀ s : Store × List (Reply String), s.1.down = false →
    ∃ new, (a.outcome s).2.2 = s.2 ++ new ∧ (a.outcome s).2.1.down = false ∧
      ∀ server sets rest, server.Gives (sets ++ rest) → AllShow new sets →
        ∃ server', b.outcome server = ((a.outcome s).1.map g, server') ∧ server'.Gives rest
  ofExcept g e s hs := by
    refine ⟨[], (List.append_nil _).symm, hs, ?_⟩
    rintro server sets rest hg ⟨⟩
    exact ⟨server, rfl, hg⟩
  bind := by
    intro α β γ δ g h a b k l hab hkl s hs
    obtain ⟨new, hn, hs', hb⟩ := hab s hs
    rw [Action.outcome_bind]
    rcases ha : a.outcome s with ⟨r, t⟩
    rw [ha] at hn hs' hb
    cases r with
    | error f =>
        refine ⟨new, hn, hs', fun server sets rest hg hall => ?_⟩
        obtain ⟨server', ho, hg'⟩ := hb server sets rest hg hall
        exact ⟨server', by rw [Action.outcome_bind, ho]; rfl, hg'⟩
    | ok x =>
        obtain ⟨new', hn', hs'', hl⟩ := hkl x t hs'
        refine ⟨new ++ new', ?_, hs'', fun server sets rest hg hall => ?_⟩
        · show ((k x).outcome t).2.2 = _
          rw [hn', hn, List.append_assoc]
        · -- the result sets divide into those for the first action and those for what follows
          obtain ⟨now, later, rfl, hnow, hlater⟩ := hall.append
          rw [List.append_assoc] at hg
          obtain ⟨server₁, ho, hg₁⟩ := hb server now (later ++ rest) hg hnow
          obtain ⟨server₂, ho', hg₂⟩ := hl server₁ later rest hg₁ hlater
          refine ⟨server₂, ?_, hg₂⟩
          rw [Action.outcome_bind, ho]
          exact ho'

/-- An operation of the database that reads back what the store returns goes together with it. -/
theorem Link.database_of_reads {a : Action Store α} {b : Action Server β} {reply : α → Reply String}
    {g : α → β}
    (ha : ∀ s : Store, s.down = false → ∃ x t, a.outcome s = (.ok x, t) ∧ t.down = false)
    (hb : ∀ x rows, Shows (reply x) rows → b.Reads rows (.ok (g x))) :
    Link.database.holds g (a.noting reply) b := by
  rintro ⟨s, notes⟩ hs
  obtain ⟨x, t, hx, ht⟩ := ha s hs
  rw [Action.outcome_noting, hx]
  refine ⟨[reply x], rfl, ht, fun server sets rest hg hall => ?_⟩
  obtain ⟨set, later, hset, hnil, rfl⟩ := List.forall₂_cons_left_iff.mp hall
  cases hnil
  exact hb x _ hset server set rest hg rfl

theorem Store.answerList_of_not_down {f : Store → List α} (s : Store) (hs : s.down = false) :
    ∃ x t, (answerList f).outcome s = (.ok x, t) ∧ t.down = false :=
  ⟨f s, s, by rw [answerList, Action.outcome_ofFunction, hs]; rfl, hs⟩

/-- The register in the database goes together with the one in memory. -/
theorem Database.register_linked (config : Config) :
    Store.register.noting.Linked Link.database Value.text (Database.register config) where
  findStudent number := Link.database_of_reads (fun s hs => ⟨s.findStudent number, s, rfl, hs⟩)
    fun _ _ h => findStudent_reads h
  enrolled place := Link.database_of_reads (fun s hs => ⟨s.enrolled place, s, rfl, hs⟩)
    fun _ _ h => roster_reads h
  mark key present := Link.database_of_reads
    (fun s hs => ⟨(s.mark key present).1, (s.mark key present).2, rfl, s.mark_down key present ▸ hs⟩)
    fun _ _ h => upsert_reads rfl h
  classRecords _ _ := Link.database_of_reads Store.answerList_of_not_down fun _ _ h => listBy_reads h
  studentRecords _ _ _ _ :=
    Link.database_of_reads Store.answerList_of_not_down fun _ _ h => listBy_reads h

namespace Session

variable {s : Session} {x : Step} {config : Config} {b : Action Server (Answer Value)}

/-- If the result sets of a server show what the store in memory returns to a use case, then the use case
over the database gives the same answer as over the store, or fails in the same way, and leaves the result
sets after those. -/
theorem outcome_database_eq_step (hs : s.store.down = false)
    (hb : x.useCase? (Database.register config) s.today = some b) {server : Server}
    {sets rest : List (Option (List Row))} (hg : server.Gives (sets ++ rest))
    (hall : AllShow (s.replies x) sets) :
    (b.outcome server).1 = (s.step x).1.map (Answer.map .text) ∧
      (b.outcome server).1.map Answer.document = (s.step x).1.map Answer.document ∧
      (b.outcome server).2.Gives rest := by
  -- the register with notes stands between the two
  obtain ⟨a, ha⟩ := Step.exists_useCase? Store.register.noting hb
  obtain ⟨new, hn, -, hdatabase⟩ :=
    (Database.register_linked config).useCase? Name.renames_text ha hb (s.store, []) hs
  have hnew : s.replies x = new := by
    rw [replies, ha]
    exact hn
  obtain ⟨server', ho, hg'⟩ := hdatabase server sets rest hg (hnew ▸ hall)
  rw [ho, step_eq_noting ha]
  refine ⟨rfl, ?_, hg'⟩
  cases (a.outcome (s.store, [])).1 with
  | error f => rfl
  | ok answer => exact congrArg Except.ok (Answer.document_map Name.renames_text answer)

/-- A class in which one student is marked and one place has no student. -/
theorem outcome_database_eq_step_small :
    let s := small.after [smallMark true "2024-01-02"]
    let day : Date := ⟨2024, 1, 2, by decide⟩
    let x : Step := .classView { className := .text "5B", term := .int 1, year := .int 2024,
                                 date := .date day }
    let student : Student String := ⟨7, "17", "Adams", "Zoe", none⟩
    let roster : List (Enrolment String) :=
      [⟨1, "5B", 1, 2024, some student⟩, ⟨2, "5B", 1, 2024, none⟩]
    let record : Record String := ⟨1, 7, "5B", 1, 2024, day, true, some student.summary⟩
    let date : Value := .bytes (asciiBytes "2024-01-02 08:15:00")
    let sets : List (Option (List Row)) :=
      [some (roster.map fun e => .named (enrolmentCells e)), some [.named (recordCells record date)]]
    s.store.down = false ∧ AllShow (s.replies x) sets ∧
      ∃ b, x.useCase? (Database.register {}) s.today = some b ∧
        (b.outcome { results := sets }).1 = .ok (.classEntries
          [⟨some 1, student.summary.map .text, true, day, ⟨"5B", 1, 2024⟩⟩]) := by
  intro s day x student roster record date sets
  have htext : (Value.moment ⟨day, 8, 15, 0⟩).plain = "2024-01-02 08:15:00" := by decide +kernel
  have hdate : ShowsDate day date := by
    have hbytes := ShowsDate.bytes (IsDay.moment ⟨day, 8, 15, 0⟩ rfl)
    rwa [htext] at hbytes
  have hreplies : s.replies x = [.enrolments roster, .records [record]] := by
    -- sorting is not evaluated, but there is nothing to sort in a list of one record
    have h : s.replies x = [.enrolments roster, .records ([record].mergeSort Store.classLE)] := by
      dsimp only [s, x, roster, record, student, day]
      rfl
    rw [h, List.mergeSort_singleton]
  have hstep : (s.step x).1 =
      .ok (.classEntries [⟨some 1, student.summary, true, day, ⟨"5B", 1, 2024⟩⟩]) := by
    have h : (s.step x).1 = .ok (.classEntries ([student].map
        (Service.classEntry ([record].mergeSort Store.classLE) ⟨"5B", 1, 2024⟩ day))) := by
      dsimp only [s, x, record, student, day]
      rfl
    rw [h, List.mergeSort_singleton]
    rfl
  have hall : AllShow (s.replies x) sets := by
    rw [hreplies]
    refine .cons (.enrolments ?_) (.cons (.records ?_) .nil)
    · exact .cons (shows_enrolmentCells _) (.cons (shows_enrolmentCells _) .nil)
    · exact .cons ⟨date, hdate, shows_recordCells _ _⟩ .nil
  have hgives : ({ results := sets } : Server).Gives (sets ++ []) := ⟨rfl, rfl⟩
  refine ⟨rfl, hall, _, rfl, ?_⟩
  rw [(outcome_database_eq_step rfl rfl hgives hall).1, hstep]
  rfl

end Session
end SchoolRegister
