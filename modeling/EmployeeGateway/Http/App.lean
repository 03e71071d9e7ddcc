import EmployeeGateway.Http.Route
import EmployeeGateway.Http.Message
import EmployeeGateway.Service
import EmployeeGateway.Settings
import EmployeeGateway.Http.Description
import EmployeeGateway.Http.Pages

/-!
# The HTTP interface

`Interface.handle` answers a request: it is dispatched on its method and
path (`dispatch`). A method the path does not serve is answered 405, an
unknown path 404 (both with a `detail`), and a path served with its end
changed is redirected (307) to that path on the request's origin
(`HttpRequest.locate`). A response whose body cannot be sent as UTF-8 (it
holds an unpaired unit) is replaced by the answer to a fault whose
text is not shown. A request for the head only gets the response without its
body.

The interface describes itself: its OpenAPI description as JSON
(`Description.document`), an API explorer and a reference document over it,
and the page the explorer's sign-in returns to, all as HTML (`Pages`).

The other endpoints call the service once each and answer its result:

* the employee listing, a search, and one employee as employee dumps, the
  highest salary as a number, the top ten as names, all with status 200;
* a create answers 201 with the new employee; its body must first read as a
  JSON document and validate as a new employee, else the answer is 400 with
  the message `Invalid request data` and the service is not called (a body
  whose integers cannot even be converted is answered 400 with a `detail`);
* a delete answers the text `Employee: <name> deleted successfully`;
* health reports the upstream as `not_configured` when it is not set up, else
  `ok` or `error` as its connection check says, and is `degraded` exactly when
  it is `error`; readiness is always `true`; the root names the interface.

A fault of the service becomes an error body with the status and a message:
404 and the fault's message when nothing was found, 500 and the message for a
service fault or any other fault of the service's family, and 500 with a
fixed message for any other fault, whose own text is never shown.
-/

namespace EmployeeGateway

/-- The HTTP interface over a service in the monad `m`, with a clock for the
timestamps of error bodies. -/
structure Interface (m : Type → Type) where
  service : Service m
  clock : m Int

namespace Interface

variable {m : Type → Type} [Monad m]

/-- The message of a request that does not validate. -/
def invalidMessage : String := "Invalid request data"

/-- The message of a fault whose own text is not shown. -/
def genericMessage : String := "An unexpected error occurred"

/-- The detail of a body that cannot be read. -/
def unreadableDetail : String := "There was an error parsing the body"

/-- The name the root answers with. -/
def title : String := "Employee API"

/-- An error body with a status and message, stamped with the clock. -/
def errorResponse (app : Interface m) (status : Nat) (message : String) : m HttpResponse := do
  let t ← app.clock
  pure (.json status (ErrorBody.toValue ⟨status, message, t⟩))

/-- The status and message a fault is answered with. -/
def faultStatus : Fault → Nat × String
  | .notFound msg => (404, msg)
  | .service msg _ => (500, msg)
  | .domain msg => (500, msg)
  | _ => (500, genericMessage)

/-- The answer to a fault. -/
def faultResponse (app : Interface m) (f : Fault) : m HttpResponse :=
  app.errorResponse (faultStatus f).1 (faultStatus f).2

/-- The answer to a result: `ok` for a value, the fault's answer otherwise. -/
def answer {α : Type} (app : Interface m) (r : Except Fault α) (ok : α → HttpResponse) :
    m HttpResponse :=
  match r with
  | .ok a => pure (ok a)
  | .error f => app.faultResponse f

/-- The dump of a list of employees. -/
def employeesValue (es : List Employee) : Value := .arr (es.map Employee.toValue)

/-- The health report for the state of the upstream. -/
def healthReport (upstreamState : String) : Value :=
  .obj [("status", .str (if upstreamState == "error" then "degraded" else "healthy")),
    ("version", .str Settings.defaults.appVersion),
    ("services", .obj [("employee_api", .str upstreamState)])]

/-- The health endpoint. -/
def health (app : Interface m) : m HttpResponse := do
  if ← app.service.upstream.configured then
    match ← app.service.upstream.checkConnection with
    | .ok ok => pure (.json 200 (healthReport (if ok then "ok" else "error")))
    | .error f => app.faultResponse f
  else pure (.json 200 (healthReport "not_configured"))

/-- The create endpoint: read and validate the body, then create. -/
def create (app : Interface m) (req : HttpRequest) : m HttpResponse :=
  let fromValue (v : Value) : m HttpResponse :=
    match NewEmployee.validate v with
    | .error _ => app.errorResponse 400 invalidMessage
    | .ok request => do
      app.answer (← app.service.createEmployee request) fun e => .json 201 (Employee.toValue e)
  match req.readJson with
  | .json v => fromValue v
  | .bytes _ | .absent | .malformed => app.errorResponse 400 invalidMessage
  | .unreadable => pure (.detail 400 unreadableDetail)

/-- Where the description is served. -/
def descriptionUrl : String := "/openapi.json"

/-- Where the explorer's sign-in returns to. -/
def signInReturnUrl : String := "/docs/oauth2-redirect"

/-- Serve an endpoint. -/
def serve (app : Interface m) (req : HttpRequest) : Endpoint → m HttpResponse
  | .description => pure (.json 200 Description.document)
  | .explorer => pure (.html 200 (Pages.explorer (title ++ " - Swagger UI") descriptionUrl signInReturnUrl))
  | .signInReturn => pure (.html 200 Pages.signInReturn)
  | .reader => pure (.html 200 (Pages.reader (title ++ " - ReDoc") descriptionUrl))
  | .root => pure (.json 200 (.obj [("message", .str title)]))
  | .health => app.health
  | .ready => pure (.json 200 (.obj [("ready", .bool true)]))
  | .allEmployees => do
    app.answer (← app.service.allEmployees) fun es => .json 200 (employeesValue es)
  | .search text => do
    app.answer (← app.service.searchByName text) fun es => .json 200 (employeesValue es)
  | .highestSalary => do
    app.answer (← app.service.highestSalary) fun n => .json 200 (.int n)
  | .topTenNames => do
    app.answer (← app.service.topTenNames) fun ns => .json 200 (.arr (ns.map .str))
  | .byId id => do
    app.answer (← app.service.employeeById id) fun e => .json 200 (Employee.toValue e)
  | .create => app.create req
  | .removeById id => do
    app.answer (← app.service.removeById id) fun e =>
      .text 200 ("Employee: " ++ e.name ++ " deleted successfully")

/-- Answer a request. -/
def handle (app : Interface m) (req : HttpRequest) : m HttpResponse := do
  let r ← match dispatch req.method req.path with
    | .endpoint e => app.serve req e
    | .wrongMethod => pure (.detail 405 "Method Not Allowed")
    | .redirect path => pure (.redirect (req.locate path))
    | .notFound => pure (.detail 404 "Not Found")
  let r ← if r.encodable then pure r else app.errorResponse 500 genericMessage
  pure (if req.method == "HEAD" then r.headOnly else r)

end Interface

end EmployeeGateway
