import SchoolRegister.Proofs.Report.Export
import SchoolRegister.Proofs.Service.Reading
import SchoolRegister.Proofs.Session.Authorization
import SchoolRegister.Proofs.Session.Records

/-! # The report and the file

The report on a class can be asked for as a document and as a file.  Both requests meet the same refusals.
Where there is a report, the file has one row for each of its days and no other (`Session.DownloadAgrees`,
`Session.download_agrees`), as long as no number and no name of an absent student holds half of a surrogate
pair; with such a half there may be a report and no file (`Session.report_without_file`). -/

namespace SchoolRegister

open Http Service Report

namespace Http

variable {σ N : Type} [Name N] {register : Register σ N} {today : Date} {login : Login}
  {request file : Request}

/-- Whoever may not ask is refused in the same way by two resources of one operation. -/
theorem serveLoggedIn_eq_of_not_may {resource resource' : Resource}
    (ho : resource'.operation = resource.operation) (h : login.may resource.operation = false) :
    serveLoggedIn register today login file resource' =
      serveLoggedIn register today login request resource := by
  unfold Login.may at h
  unfold serveLoggedIn
  cases ha : login.actor? with
  | none => rfl
  | some actor =>
      rw [ho]
      cases hc : Permission.check (some actor) resource.operation with
      | allowed => simp [ha, hc] at h
      | denied reason => simp only [hc]

/-- The response to an outcome. -/
def responseTo : Except Failure Response → Response
  | .ok response => response
  | .error f => failureResponse f

theorem serveLoggedIn_of_answers {resource : Resource} {s : σ} {e : Except Failure Response}
    (hm : login.may resource.operation = true)
    (h : (serve register today request resource).Answers s e) :
    (serveLoggedIn register today login request resource).run s = (responseTo e, s) := by
  unfold Action.Answers at h
  rw [serveLoggedIn_of_may hm, h]
  cases e <;> rfl

theorem answers_report {s : σ} {e : Except Failure (AttendanceReport N)}
    (h : (classReport register request.reportArgs).Answers s e) :
    (serve register today request .report).Answers s (e >>= fun report => .ok (success report.document)) :=
  h.bind fun _ => Action.Answers.pure _

theorem answers_reportFile {s : σ} {e : Except Failure (AttendanceReport N)}
    (h : (classReport register request.reportArgs).Answers s e) :
    (serve register today request .reportFile).Answers s
      (e >>= exportReport >>= fun file => .ok ⟨200, .csv file⟩) :=
  (h.bind fun _ => Action.Answers.ofExcept _).bind fun _ => Action.Answers.pure _

theorem reportArgs_eq_of_query_eq (h : file.query = request.query) :
    file.reportArgs = request.reportArgs := by
  unfold Request.reportArgs Request.parameter
  rw [h]

end Http

namespace Session

/-- The response is a file with a table for some days: after a byte order mark it is read as the names of the
columns and one row for each day. -/
def HasTable (days : List (Day String)) (file : Response) : Prop :=
  ∃ name text, file = ⟨200, .csv ⟨name, "\ufeff" ++ text⟩⟩ ∧ rowsOf text = columns :: days.map Day.row

/-- A response with the report on a class and one with its file agree. -/
structure DownloadAgrees (report file : Response) : Prop where
  /-- Where there is no report, there is no file, and for the same reason. -/
  refused : report.status ≠ 200 → file = report
  /-- Where there is a report, there is a file with a table for its days, if the numbers and the names of the
  absent students can be written. -/
  given : report.status = 200 → ∃ data days,
    report.content = .json (.dict [("success", .bool true), ("data", .dict data)]) ∧
      Value.getOrNull data "daily_metrics" = .list (days.map Day.document) ∧
      ((∀ d ∈ days, ∀ x ∈ d.absent, x.isEncodable = true) → HasTable days file)

theorem hasTable_exportReport {report : AttendanceReport String}
    (h : ∀ d ∈ report.days, ∀ x ∈ d.absent, x.isEncodable = true) :
    HasTable report.days (responseTo (exportReport report >>= fun file => .ok ⟨200, .csv file⟩)) := by
  have hall : report.days.all (fun d => d.absent.all Summary.isEncodable) = true := by
    simpa using h
  rw [exportReport_eq, if_pos hall, csvOf_eq]
  exact ⟨_, tableText report.days, rfl, rowsOf_tableText _⟩

variable {s : Session} {draft draft' : Draft} {request file : Request} {atHome : Bool}

theorem step_http_eq {resource : Resource} (hd : draft.request = .ok (request, atHome))
    (hr : request.IsFor resource) : (s.step (.http draft)).1 =
      .ok (.response (headOnly request.method
        ((serveLoggedIn Store.register s.today (s.loginAt atHome) request resource).run s.store).1)) := by
  have hx := congrArg Prod.fst (exchange_of_request (s := s) hd)
  rw [respond_of_resource (Request.resource?_eq_some_iff_isFor.mpr hr)] at hx
  exact hx

theorem step_http_of_isFor {resource : Resource} (hd : draft.request = .ok (request, atHome))
    (hr : request.IsFor resource) (hm : request.method = "GET") : (s.step (.http draft)).1 =
      .ok (.response ((serveLoggedIn Store.register s.today (s.loginAt atHome) request resource).run
        s.store).1) := by
  rw [step_http_eq hd hr, hm]
  rfl

/-- A request for the report on a class and one for the file, with one query and by the same person, are
answered in agreement. -/
theorem download_agrees (hd : draft.request = .ok (request, atHome))
    (hd' : draft'.request = .ok (file, atHome)) (hr : request.IsFor .report) (hf : file.IsFor .reportFile)
    (hm : request.method = "GET") (hm' : file.method = "GET") (hq : file.query = request.query) :
    ∃ response response', (s.step (.http draft)).1 = .ok (.response response) ∧
      (s.step (.http draft')).1 = .ok (.response response') ∧ DownloadAgrees response response' := by
  refine ⟨_, _, step_http_of_isFor hd hr hm, step_http_of_isFor hd' hf hm', ?_⟩
  cases hmay : (s.loginAt atHome).may Resource.report.operation with
  | false =>
      obtain ⟨response, hresponse, hstatus⟩ :=
        serveLoggedIn_of_not_may Store.register s.today request hmay s.store
      have hsame : serveLoggedIn Store.register s.today (s.loginAt atHome) file .reportFile =
          serveLoggedIn Store.register s.today (s.loginAt atHome) request .report :=
        serveLoggedIn_eq_of_not_may rfl hmay
      rw [hsame, hresponse]
      exact ⟨fun _ => rfl, fun h => absurd h hstatus⟩
  | true =>
      obtain ⟨e, ha⟩ : ∃ e, (classReport Store.register request.reportArgs).Answers s.store e :=
        ⟨_, Store.answers_classReport _⟩
      have ha' : (classReport Store.register file.reportArgs).Answers s.store e := by
        rw [reportArgs_eq_of_query_eq hq]
        exact ha
      have hfile : (s.loginAt atHome).may Resource.reportFile.operation = true := hmay
      rw [serveLoggedIn_of_answers hmay (answers_report ha),
        serveLoggedIn_of_answers hfile (answers_reportFile ha')]
      cases e with
      | error f => exact ⟨fun _ => rfl, fun h => absurd h (failureResponse_status f)⟩
      | ok report =>
          exact ⟨fun h => absurd rfl h, fun _ => ⟨_, report.days, rfl, rfl, hasTable_exportReport⟩⟩

/-- A draft that asks for the class of the small school. -/
def smallDraft (address : String) : Draft :=
  { method := "GET", address := address,
    query := some [("class_name", "5B"), ("term_num", "1"), ("year", "2024")] }

def smallRequest (path : String) : Request :=
  { method := "GET", path := path,
    query := [("class_name", "5B"), ("term_num", "1"), ("year", "2024")] }

/-- A student with a surname is absent, and somebody who is admitted to reports logs in. -/
def withAbsence (surname : String) : Session :=
  small.after [.addStudent ⟨7, "17", surname, "Zoe", none⟩, smallMark false "2024-01-02",
    .login ⟨some (.int 1), some (.text "admin")⟩]

theorem download_agrees_small :
    let s := withAbsence "Adams, \"Ada\"\r\n"
    s.statusOf? (smallDraft "/api/attendance/reports") = some 200 ∧
      s.statusOf? (smallDraft "/api/attendance/reports.csv") = some 200 ∧ ∃ response response',
      (s.step (.http (smallDraft "/api/attendance/reports"))).1 = .ok (.response response) ∧
      (s.step (.http (smallDraft "/api/attendance/reports.csv"))).1 = .ok (.response response') ∧
      DownloadAgrees response response' := by
  intro s
  have hreport : (smallDraft "/api/attendance/reports").request =
      .ok (smallRequest "/api/attendance/reports", true) := rfl
  have hfile : (smallDraft "/api/attendance/reports.csv").request =
      .ok (smallRequest "/api/attendance/reports.csv", true) := rfl
  have hr : (smallRequest "/api/attendance/reports").IsFor .report :=
    ⟨nofun, by decide +kernel, by decide +kernel, rfl⟩
  have hf : (smallRequest "/api/attendance/reports.csv").IsFor .reportFile :=
    ⟨nofun, by decide +kernel, by decide +kernel, rfl⟩
  exact ⟨by decide +kernel, by decide +kernel, download_agrees hreport hfile hr hf rfl rfl rfl⟩

/-- With half of a surrogate pair for a surname, there is a report but no file. -/
theorem report_without_file :
    let s := withAbsence (String.singleton (Text.charOfCode 0xd800))
    s.statusOf? (smallDraft "/api/attendance/reports") = some 200 ∧
      s.statusOf? (smallDraft "/api/attendance/reports.csv") = some 500 := by
  decide +kernel

end Session
end SchoolRegister
