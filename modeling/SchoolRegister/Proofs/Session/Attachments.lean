import SchoolRegister.Proofs.Report.FileName
import SchoolRegister.Proofs.Service.Reporting
import SchoolRegister.Proofs.Service.Tally
import SchoolRegister.Proofs.Session.Downloads

/-! # The name of a download

A response that carries a file names it in a header.  There is a file only if there is a report
(`Session.exists_file_of_step`), and a report is on the class that the query names, without the blanks around the
name (`Http.exists_of_denotesText_parameter`), in a term and a year that are positive numbers.  So the header is
made of the parts of a name whatever the query says (`Session.attachment_named`). -/

namespace SchoolRegister

open Argument Http Report Service Text

namespace Http

variable {request : Request} {query : ReportQuery}

/-- The header that names a file, also if the head alone was asked for. -/
theorem disposition?_headOnly (method : String) (file : Download) :
    (headOnly method ⟨200, .csv file⟩).disposition? = some ("attachment; filename=" ++ file.name) := by
  unfold headOnly
  split <;> rfl

theorem exists_of_denotesText_parameter {name t : String} (h : DenotesText (request.parameter name) t) :
    ∃ raw, request.query.find? (fun p => p.1 == name) = some (name, raw) ∧ t = trim raw ∧ t ≠ "" := by
  obtain ⟨u, hu, hblank, rfl⟩ := h
  cases hfind : request.query.find? fun p => p.1 == name with
  | none =>
      rw [Request.parameter, hfind] at hu
      cases hu
  | some p =>
      obtain ⟨key, raw⟩ := p
      have hkey : key = name := by simpa using List.find?_some hfind
      have hparameter : request.parameter name = if isBlankText raw then .null else .text (trim raw) := by
        rw [Request.parameter, hfind]
      by_cases hraw : isBlankText raw = true
      · rw [hparameter, if_pos hraw] at hu
        cases hu
      · rw [hparameter, if_neg hraw] at hu
        cases hu
        refine ⟨raw, by rw [hkey], trim_trim raw, ?_⟩
        rw [trim_trim, trim, Ne, String.ofList_eq_empty_iff, trimChars_eq_nil_iff]
        exact hraw

end Http

namespace Session

variable {s : Session} {draft : Draft} {request : Request} {atHome : Bool} {response : Response}

/-- A request for the file that is answered with status 200 is answered with the file of a report. -/
theorem exists_file_of_step (hd : draft.request = .ok (request, atHome)) (hr : request.IsFor .reportFile)
    (h : (s.step (.http draft)).1 = .ok (.response response)) (hstatus : response.status = 200) :
    ∃ (query : ReportQuery) (days : List (Day String)) (file : Download), request.reportArgs.Denotes query ∧
      file.name = csvName query.place (periodOf query.span days) ∧
        response = headOnly request.method ⟨200, .csv file⟩ := by
  rw [step_http_eq hd hr] at h
  cases h
  rw [headOnly_status] at hstatus
  cases hmay : (s.loginAt atHome).may Resource.reportFile.operation with
  | false =>
      obtain ⟨refused, hrefused, hne⟩ :=
        serveLoggedIn_of_not_may Store.register s.today request hmay s.store
      rw [hrefused] at hstatus
      exact absurd hstatus hne
  | true =>
      rw [serveLoggedIn_of_answers hmay (answers_reportFile (Store.answers_classReport _))] at hstatus ⊢
      generalize he : (_ >>= fun file => Except.ok (⟨200, .csv file⟩ : Response)) = e at hstatus ⊢
      cases e with
      | error f => exact absurd hstatus (failureResponse_status f)
      | ok response =>
          obtain ⟨file, hfile, he⟩ := bind_eq_ok.mp he
          obtain ⟨report, hreport, hexport⟩ := bind_eq_ok.mp hfile
          obtain ⟨query, days, total, hquery, _, hon⟩ := Store.exists_reportOn_of_ok hreport
          cases he
          refine ⟨query, days, file, ReportArgs.validate_eq_ok_iff.mp hquery, ?_, rfl⟩
          rw [name_of_exportReport hexport, (eq_of_reportOn hon).1, period_of_reportOn hon]

/-- The name of a download cannot break the header that it stands in.  Whatever the class is called, a request for
the file that is answered with status 200 is told a name that is made of the slug of the class, numerals and fixed
texts, and there is nothing else in it than safe characters and full stops. -/
theorem attachment_named (hd : draft.request = .ok (request, atHome)) (hr : request.IsFor .reportFile)
    (h : (s.step (.http draft)).1 = .ok (.response response)) (hstatus : response.status = 200) :
    ∃ raw parts, request.query.find? (fun p => p.1 == "class_name") = some ("class_name", raw) ∧
      NameParts.Names parts (trim raw) ∧ (∀ c ∈ parts.text, NameChar c ∨ c = '.') ∧
        response.disposition? = some ("attachment; filename=" ++ String.ofList parts.text) := by
  obtain ⟨query, days, file, hargs, hfile, rfl⟩ := exists_file_of_step hd hr h hstatus
  obtain ⟨raw, hraw, hclass, hne⟩ := exists_of_denotesText_parameter hargs.className
  obtain ⟨parts, hparts, hname⟩ := names_csvName query.span days hne hargs.term.pos hargs.year.pos
  rw [hclass] at hparts
  refine ⟨raw, parts, hraw, hparts, fun c hc => hparts.mem_text hc, ?_⟩
  rw [disposition?_headOnly, hfile, hname]

/-- What is asked for about a class whose name has marks of quotation and ends of lines. -/
def quotedQuery : List (String × String) :=
  [("class_name", " 5\"B\"\r\nX-Admin: é/2-b; "), ("term_num", "1"), ("year", "2024"), ("end_date", "2024-02-01")]

/-- The school has a class of that name, and somebody is logged in who is admitted to reports. -/
def withQuotes : Session :=
  small.after [.enrol ⟨"5\"B\"\r\nX-Admin: é/2-b;", 1, 2024⟩ [.number "17"],
    .login ⟨some (.int 1), some (.text "admin")⟩]

/-- The header of the response to a draft that names a file. -/
def dispositionOf? (s : Session) (draft : Draft) : Option String :=
  match (s.step (.http draft)).1 with
  | .ok (.response response) => response.disposition?
  | _ => none

theorem attachment_named_quotes :
    let draft : Draft := { smallDraft "/api/attendance/reports.csv" with query := some quotedQuery }
    ∃ raw parts, quotedQuery.head? = some ("class_name", raw) ∧ withQuotes.statusOf? draft = some 200 ∧
      NameParts.Names parts (trim raw) ∧
      withQuotes.dispositionOf? draft = some ("attachment; filename=" ++ String.ofList parts.text) ∧
      withQuotes.dispositionOf? draft =
        some "attachment; filename=attendance_5_B_X-Admin_2-b__T1_2024_all_20240201.csv" := by
  intro draft
  have hd : ({ smallDraft "/api/attendance/reports.csv" with query := some quotedQuery } : Draft).request =
      .ok ({ smallRequest "/api/attendance/reports.csv" with query := quotedQuery }, true) := rfl
  have hr : Request.IsFor { smallRequest "/api/attendance/reports.csv" with query := quotedQuery } .reportFile :=
    ⟨nofun, by decide +kernel, by decide +kernel, rfl⟩
  have hstatus : withQuotes.statusOf? draft = some 200 := by decide +kernel
  have hdisposition : withQuotes.dispositionOf? draft =
      some "attachment; filename=attendance_5_B_X-Admin_2-b__T1_2024_all_20240201.csv" := by decide +kernel
  have h200 := hstatus
  unfold statusOf? at h200
  split at h200
  · rename_i response h
    obtain ⟨raw, parts, hraw, hparts, _, hnamed⟩ := attachment_named hd hr h (Option.some.inj h200)
    refine ⟨raw, parts, hraw, hstatus, hparts, ?_, hdisposition⟩
    unfold dispositionOf?
    rw [h]
    exact hnamed
  · cases h200

end Session
end SchoolRegister
