import EmployeeGateway.Client.Exchange
import EmployeeGateway.Service
import EmployeeGateway.Settings

/-!
# The HTTP client of the upstream

A `Connection` is the client's state: whether it is set up, the base URL every
request goes to and the seconds an exchange may take. It starts `closed`
(not set up, empty URL, zero seconds). `setUp` sets it up from settings
once: a set-up connection is left as it is, and an empty URL leaves it
closed; otherwise the URL loses its trailing slashes. `close` returns to
`closed`.

Each operation sends one request over a session and reads the exchange with
`Exchange.receive`: the listing is a `GET`, a create a `POST` of the new
employee's dump, a delete a `DELETE` of `{"name": name}`. The body must then
validate as the envelope of the operation; otherwise the operation fails with
an upstream fault whose cause is the validation report. A connection that is
not set up sends nothing and fails with a runtime fault, except the
connection check, which answers `false`. The check waits at most five
seconds and only looks at the status.
-/

namespace EmployeeGateway

/-- The state of the HTTP client. -/
structure Connection where
  initialized : Bool
  baseUrl : String
  timeoutSeconds : Binary64
  deriving Repr, Inhabited

namespace Connection

/-- The state before set-up and after closing. -/
def closed : Connection := ⟨false, "", Binary64.zero false⟩

/-- The text without its trailing slashes. -/
def withoutTrailingSlashes (s : String) : String :=
  String.ofList (s.toList.reverse.dropWhile (· == '/')).reverse

/-- Set up the connection from settings, once. -/
def setUp (s : Settings) (c : Connection) : Connection :=
  if c.initialized then c
  else if s.baseUrl.isEmpty then c
  else ⟨true, withoutTrailingSlashes s.baseUrl, s.timeoutSeconds⟩

/-- Close the connection. -/
def close (_ : Connection) : Connection := closed

/-- The fault of an operation on a connection that is not set up. -/
def notInitializedFault : Fault := .runtime "EmployeeApiClient not initialized"

/-- The fault of a body that is not the expected envelope. -/
def envelopeFault (report : Invalid) : Fault :=
  .upstream "Upstream response does not match the expected envelope" none (some (.invalid report))

/-- The seconds a connection check may take. -/
def checkSeconds : Nat := 5

variable {m : Type → Type} [Monad m]

/-- Send one request with an optional body and read the answer's JSON body. -/
def send (session : Session m) (c : Connection) (method : String) (body : Option Value) :
    m (Except Fault Value) :=
  if !c.initialized then pure (.error notInitializedFault)
  else do
    let ex ← session ⟨method, c.baseUrl, .seconds c.timeoutSeconds, body⟩
    pure (ex.receive method c.baseUrl)

/-- Send one request and validate the answer as an envelope. -/
def fetch {α : Type} (session : Session m) (c : Connection) (method : String) (body : Option Value)
    (validate : Value → Except Invalid α) : m (Except Fault α) := do
  let r ← send session c method body
  pure (r.bind fun v => (validate v).mapError envelopeFault)

/-- List all employees. -/
def listAll (session : Session m) (c : Connection) : m (Except Fault (Envelope (List Employee))) :=
  fetch session c "GET" none Envelope.validateList

/-- Create an employee. -/
def create (session : Session m) (c : Connection) (request : NewEmployee) :
    m (Except Fault (Envelope Employee)) :=
  fetch session c "POST" (some request.toValue) Envelope.validateEmployee

/-- Delete the employees of a name. -/
def deleteByName (session : Session m) (c : Connection) (name : String) :
    m (Except Fault (Envelope Bool)) :=
  fetch session c "DELETE" (some (DeleteRequest.toValue ⟨name⟩)) Envelope.validateBool

/-- Can the upstream be reached? -/
def checkConnection (session : Session m) (c : Connection) : m (Except Fault Bool) :=
  if !c.initialized then pure (.ok false)
  else do
    let ex ← session ⟨"GET", c.baseUrl, .whole checkSeconds, none⟩
    pure ex.reachable

/-- The connection as the upstream of the service. -/
def upstream (session : Session m) (c : Connection) : Upstream m where
  configured := pure c.initialized
  listAll := listAll session c
  create request := create session c request
  deleteByName name := do return (← deleteByName session c name).map (Envelope.map .bool)
  checkConnection := checkConnection session c

end Connection

end EmployeeGateway
