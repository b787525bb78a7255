import SchoolRegister.Http.Route
import SchoolRegister.Json.Encoding
import SchoolRegister.Permission
import SchoolRegister.Report.Export
import SchoolRegister.Text.Basic
import SchoolRegister.Value.Transmitted

/-! # Requests and responses

`respond` answers a request over any register.  A resource is reached only by a person who is logged
in and whose role permits its operation; all else is checked afterwards.  A failure that is a rule of
the school is told with its own status and message, any other one is an internal error.  No request
fails: `respond` always gives a response. -/

namespace SchoolRegister.Http

open Text Service Report

/-- What the login left for later requests: who is there, and in what role.  Both may be missing. -/
structure Login where
  userId : Option Value := none
  role : Option Value := none

/-- The login as a later request finds it: it travels with the requests. -/
def Login.carried (login : Login) : Login :=
  ⟨login.userId.map Value.carried, login.role.map Value.carried⟩

def Login.actor? (login : Login) : Option Permission.Actor :=
  login.userId.map fun id => ⟨id, .ofOption login.role⟩

/-- What a request carries. -/
inductive Body where
  | empty
  | json (v : Value)
  | text (contentType content : String)

/-- A request; it may ask for a lasting connection instead of a response. -/
structure Request where
  method : String
  path : String
  query : List (String × String) := []
  body : Body := .empty
  isLasting : Bool := false

/-- What a response carries; of a file it may be the name alone. -/
inductive Content where
  | empty
  | json (v : Value)
  | csv (file : Download)
  | csvHead (name : String)

/-- A response. -/
structure Response where
  status : Nat
  content : Content := .empty

/-! ### The parts of a request -/

/-- A parameter of the query, trimmed; the first of its name counts, and a blank one is missing. -/
def Request.parameter (r : Request) (name : String) : Value :=
  match r.query.find? fun p => p.1 == name with
  | some (_, s) => if isBlankText s then .null else .text (trim s)
  | none => .null

/-- A space or a tab, which may stand around the parts of a header. -/
def isHeaderSpace (c : Char) : Bool := c == ' ' || c == '\t'

/-- The kind of content without its parameters, in lower case. -/
def mediaType (contentType : String) : String :=
  let kind := (contentType.toList.takeWhile (· != ';')).dropWhile isHeaderSpace
  Argument.lowered (String.ofList (kind.reverse.dropWhile isHeaderSpace).reverse)

def isJson (contentType : String) : Bool :=
  let kind := mediaType contentType
  kind == "application/json" || (kind.startsWith "application/" && kind.endsWith "+json")

/-- The value that a request carries: null if it is not JSON or does not parse. -/
def Body.value : Body → Except Failure Value
  | .empty => .ok .null
  | .json v => .ok v
  | .text contentType content =>
    if isJson contentType then
      match Json.readDocument content with
      | .ok v => .ok v
      | .error .malformed => .ok .null
      | .error .tooDeep => .error .badValue
    else .ok .null

/-- The entries of the object that a request carries; anything that counts as false is an object
without entries, and any other value is none. -/
def Body.entries (body : Body) : Except Failure (List (String × Value)) := do
  match ← body.value with
  | .dict entries => return entries
  | v => if v.isTruthy then throw .missingMember else return []

/-- The arguments of a mark in the entries of an object. -/
def markArgs (entries : List (String × Value)) : MarkArgs :=
  let get := Value.getOrNull entries
  { studentNumber := get "student_number", className := get "class_name", term := get "term_num",
    year := get "year", present := get "present", date := get "date" }

def Request.classArgs (r : Request) : ClassArgs :=
  { className := r.parameter "class_name", term := r.parameter "term_num",
    year := r.parameter "year", date := r.parameter "date" }

def Request.historyArgs (r : Request) (number : String) : HistoryArgs :=
  { studentNumber := .text number, term := r.parameter "term_num", year := r.parameter "year",
    start := r.parameter "start_date", finish := r.parameter "end_date" }

def Request.reportArgs (r : Request) : ReportArgs :=
  { className := r.parameter "class_name", term := r.parameter "term_num",
    year := r.parameter "year", start := r.parameter "start_date",
    finish := r.parameter "end_date" }

/-! ### Responses -/

/-- A response that gives what was asked for. -/
def success (data : Value) : Response :=
  ⟨200, .json (.dict [("success", .bool true), ("data", data)])⟩

/-- A response that says why there is none. -/
def refusal (status : Nat) (message : String) : Response :=
  ⟨status, .json (.dict [("success", .bool false), ("message", .text message)])⟩

/-- The response to a request that failed. -/
def failureResponse (f : Failure) : Response :=
  match f.domain? with
  | some .validation => refusal 400 f.message
  | some .authorization => refusal 403 f.message
  | some .notFound => refusal 404 f.message
  | none => refusal 500 "Internal server error"

/-- The header that names the file of a download. -/
def Response.disposition? (r : Response) : Option String :=
  match r.content with
  | .csv ⟨name, _⟩ | .csvHead name => some ("attachment; filename=" ++ name)
  | .empty | .json _ => none

def Response.document (r : Response) : Value :=
  .dict (("status", .int r.status) :: match r.content with
    | .empty | .csvHead _ => []
    | .json v => [("json", v)]
    | .csv file =>
      [("csv", .text file.content), ("disposition", .text (r.disposition?.getD ""))])

variable {σ N : Type} [Name N]

/-- What a resource answers to a person who may ask. -/
def serve (register : Register σ N) (today : Date) (request : Request) :
    Resource → Action σ Response
  | .mark => do
    let entries ← Action.ofExcept request.body.entries
    return success (← markAttendance register (markArgs entries)).document
  | .classView => do
    let entries ← classAttendance register today request.classArgs
    return success (.list (entries.map (·.document)))
  | .student number => do
    let entries ← studentHistory register (request.historyArgs number)
    return success (.list (entries.map (·.document)))
  | .report => do
    return success (← classReport register request.reportArgs).document
  | .reportFile => do
    return ⟨200, .csv (← classReportFile register request.reportArgs)⟩
  | .summary => do
    let args := request.reportArgs
    return success (← classSummary register args.className args.term args.year).document

/-- What a resource answers to whoever is logged in. -/
def serveLoggedIn (register : Register σ N) (today : Date) (login : Login) (request : Request)
    (resource : Resource) : StateM σ Response :=
  match login.actor? with
  | none => pure (refusal 401 "Please log in to continue")
  | some actor =>
    match Permission.check (some actor) resource.operation with
    | .denied reason => pure (refusal 403 reason)
    | .allowed => fun s =>
      match (serve register today request resource).outcome s with
      | (.ok response, s') => (response, s')
      | (.error f, s') => (failureResponse f, s')

/-- What is left of a content without the body: a file is still named. -/
def Content.head : Content → Content
  | .csv ⟨name, _⟩ | .csvHead name => .csvHead name
  | .empty | .json _ => .empty

/-- The response without its body, if only the head was asked for, in capital letters. -/
def headOnly (method : String) (r : Response) : Response :=
  if method == "HEAD" then { r with content := r.content.head } else r

/-- The response to a request; no resource takes part in a lasting connection. -/
def respond (register : Register σ N) (today : Date) (login : Login) (request : Request) :
    StateM σ Response :=
  let target := target request.path (capitalized request.method)
  if request.isLasting && target.isTaken then pure ⟨400, .empty⟩
  else match target with
    | .redirected => pure ⟨308, .empty⟩
    | .here .missing | .here .noFile => pure ⟨404, .empty⟩
    | .here .notAllowed => pure ⟨405, .empty⟩
    | .here .options => pure ⟨200, .empty⟩
    | .here (.found resource) => do
      return headOnly request.method (← serveLoggedIn register today login request resource)

end SchoolRegister.Http
