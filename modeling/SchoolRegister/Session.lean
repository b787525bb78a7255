import SchoolRegister.School.Store
import SchoolRegister.Http.Draft

/-! # Sessions

A `Session` is a store in memory together with a login and the current date.  A `Step` is anything
that may happen to it: a use case, a request, a change of students, rosters or records, a login, or a
breakdown of the store.  `Session.step` is total: it gives an answer or a failure, and the session
afterwards; `Session.run` takes steps one after another and notes after each how many records there
are. -/

namespace SchoolRegister

open Service Report Http

/-- A member of a roster as a step names one: the number of a known student, a student, or a place
without one. -/
inductive Member where
  | number (s : String)
  | student (s : Student String)
  | missing

/-- What may happen to a session. -/
inductive Step where
  | mark (args : MarkArgs)
  | classView (args : ClassArgs)
  | history (args : HistoryArgs)
  | daily (args : ReportArgs)
  | report (args : ReportArgs)
  | reportFile (args : ReportArgs)
  | summary (className term year : Value)
  | enrol (place : ClassTerm) (members : List Member)
  | addStudent (student : Student String)
  | put (record : Record String)
  | breakStore
  | records
  | login (login : Login)
  | http (draft : Draft)

/-- What a step answers. -/
inductive Answer (N : Type) where
  | done
  | record (r : Record N)
  | classEntries (es : List (ClassEntry N))
  | historyEntries (es : List (HistoryEntry N))
  | days (ds : List (Day N))
  | report (r : AttendanceReport N)
  | file (d : Download)
  | summary (s : ClassSummary N)
  | records (rs : List (Record N))
  | response (r : Response)

def Answer.document {N : Type} [Name N] : Answer N → Value
  | .done => .null
  | .record r => r.document
  | .classEntries es => .list (es.map (·.document))
  | .historyEntries es => .list (es.map (·.document))
  | .days ds => .list (ds.map (·.document))
  | .report r => r.document
  | .file d => d.document
  | .summary s => s.document
  | .records rs => .list (rs.map (·.document))
  | .response r => r.document

/-- A store in memory with a login and the current date. -/
structure Session where
  store : Store := {}
  login : Login := {}
  today : Date

variable {σ N : Type} [Name N]

/-- The use cases among the steps, over any register; the other steps have none. -/
def Step.useCase? (register : Register σ N) (today : Date) : Step → Option (Action σ (Answer N))
  | .mark args => some (.record <$> markAttendance register args)
  | .classView args => some (.classEntries <$> classAttendance register today args)
  | .history args => some (.historyEntries <$> studentHistory register args)
  | .daily args => some (.days <$> classDays register args)
  | .report args => some (.report <$> classReport register args)
  | .reportFile args => some (.file <$> classReportFile register args)
  | .summary className term year => some (.summary <$> classSummary register className term year)
  | _ => none

namespace Session

/-- The student at a place of a roster. -/
def memberOf (s : Session) : Member → Option (Student String)
  | .number n => s.store.findStudent n
  | .student x => some x
  | .missing => none

/-- What comes of a request that a client drafts; the login is known only where people log in. -/
def exchange (s : Session) (draft : Draft) : Except Failure (Answer String) × Session :=
  match draft.request with
  | .error f => (.error f, s)
  | .ok (request, atHome) =>
    let login := if atHome then s.login else {}
    let (response, store) := (respond Store.register s.today login request).run s.store
    (.ok (.response response), { s with store := store })

/-- What the steps do that are neither a use case nor a request. -/
def manage (s : Session) : Step → Answer String × Session
  | .enrol place members =>
    (.done, { s with store := s.store.enrol place (members.map s.memberOf) })
  | .addStudent student => (.done, { s with store := s.store.addStudent student })
  | .put record => (.done, { s with store := s.store.put record })
  | .breakStore => (.done, { s with store := { s.store with down := true } })
  | .records => (.records s.store.records, s)
  | .login login => (.done, { s with login := login.carried })
  | _ => (.done, s)

/-- What a step answers, and the session after it. -/
def step (s : Session) (step : Step) : Except Failure (Answer String) × Session :=
  match step.useCase? Store.register s.today with
  | some action =>
    let (outcome, store) := action.outcome s.store
    (outcome, { s with store := store })
  | none =>
    match step with
    | .http draft => s.exchange draft
    | step =>
      let (answer, s') := s.manage step
      (.ok answer, s')

/-- The session after some steps. -/
def after (s : Session) (steps : List Step) : Session := steps.foldl (fun s x => (s.step x).2) s

/-- The answers of some steps, each with the number of records after it. -/
def run (s : Session) : List Step → List (Except Failure (Answer String) × Nat)
  | [] => []
  | x :: rest =>
    let (outcome, s') := s.step x
    (outcome, s'.store.records.length) :: s'.run rest

end Session
end SchoolRegister
