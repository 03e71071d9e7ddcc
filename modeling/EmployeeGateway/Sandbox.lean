import EmployeeGateway.Upstream.Memory
import EmployeeGateway.Service
import EmployeeGateway.Http.App
import EmployeeGateway.Http.Outgoing

/-!
# The service over an in-memory upstream

A `Sandbox` is an in-memory upstream together with the log of the waits the
service asked for. `Sandbox.service` is the service whose upstream is the
sandbox's memory and whose waits are logged rather than slept.

`Sandbox.interface` is the HTTP interface over that service, and
`Sandbox.serve` answers a request with the waits it asked for.
`Sandbox.sendAll` sends requests through the test client one after another:
a request that cannot be sent, or whose answer the client cannot read, ends
the whole run with its error; a JSON document nested too deeply for the
client ends it before anything is sent.

`Sandbox.Call` names the service's operations with their arguments as
dynamic values, plus reconfiguring the upstream. `Call.perform` checks the
arguments the way the operations receive them: a search query that is not
text fails before anything else (it has no lowercase), an id that is not
text matches no employee, and a new employee is validated first. Results
are given as values: employees as their dumps.
-/

namespace EmployeeGateway

/-- An in-memory upstream and the waits logged so far, latest first. -/
structure Sandbox where
  memory : Memory
  slept : List Binary64
  deriving Inhabited

namespace Sandbox

/-- Actions on a sandbox. -/
abbrev Act := StateM Sandbox

/-- Run a step of the in-memory upstream. -/
def onMemory {α : Type} (f : Memory → α × Memory) : Act α :=
  modifyGet fun s => let (a, mem) := f s.memory; (a, { s with memory := mem })

/-- The sandbox's memory as an upstream. -/
def upstream : Upstream Act where
  configured := do return (← get).memory.initialized
  listAll := onMemory Memory.listAll
  create request := onMemory (Memory.create request)
  deleteByName name := onMemory (Memory.deleteByName name)
  checkConnection := do return .ok (← get).memory.connectionOk

/-- Log a wait. -/
def logSleep (d : Binary64) : Act Unit := modify fun s => { s with slept := d :: s.slept }

/-- The service over the sandbox under a policy. -/
def service (p : Policy) : Service Act := ⟨upstream, p, logSleep⟩

/-- An operation of the service, or a change of the upstream. -/
inductive Call where
  | allEmployees
  | searchByName (query : Value)
  | employeeById (key : Value)
  | highestSalary
  | topTenNames
  | createEmployee (request : Value)
  | removeById (key : Value)
  | configure (changes : Memory.Changes)
  | unknown (name : String)

/-- The dump of a list of employees. -/
def employeesValue (es : List Employee) : Value := .arr (es.map Employee.toValue)

/-- Map a result to a value. -/
def asValue {α : Type} (f : α → Value) (r : Except Fault α) : Except Fault Value := r.map f

/-- Perform a call. -/
def Call.perform (p : Policy) : Call → Act (Except Fault Value)
  | .allEmployees => asValue employeesValue <$> (service p).allEmployees
  | .searchByName (.str q) => asValue employeesValue <$> (service p).searchByName q
  | .searchByName v => pure (.error (.noAttribute ("'" ++ v.kindName ++ "' object has no attribute 'lower'")))
  | .employeeById (.str id) => asValue Employee.toValue <$> (service p).employeeById id
  | .employeeById v => asValue Employee.toValue <$> (service p).findEmployee (fun _ => false) v.text
  | .highestSalary => asValue Value.int <$> (service p).highestSalary
  | .topTenNames => asValue (fun ns => .arr (ns.map Value.str)) <$> (service p).topTenNames
  | .createEmployee v =>
    match NewEmployee.validate v with
    | .error e => pure (.error (.invalid e))
    | .ok request => asValue Employee.toValue <$> (service p).createEmployee request
  | .removeById (.str id) => asValue Employee.toValue <$> (service p).removeById id
  | .removeById v => asValue Employee.toValue <$> (service p).findEmployee (fun _ => false) v.text
  | .configure c => do
    modify fun s => { s with memory := Memory.configure c s.memory }
    pure (.ok .null)
  | .unknown name => pure (.error (.missingKey name))

/-- What one call did: its result, the waits it asked for, and the number of
listings made so far. -/
structure Outcome where
  result : Except Fault Value
  sleeps : List Binary64
  listCalls : Nat

/-- Perform calls in order. -/
def performAll (p : Policy) : List Call → Sandbox → List Outcome × Sandbox
  | [], s => ([], s)
  | c :: cs, s =>
    let (r, s') := (c.perform p).run { s with slept := [] }
    let o : Outcome := ⟨r, s'.slept.reverse, s'.memory.listCalls⟩
    let (os, s'') := performAll p cs s'
    (o :: os, s'')

/-- The HTTP interface over the sandbox; error bodies are stamped with time
zero. -/
def interface (p : Policy) : Interface Act := ⟨service p, pure 0⟩

/-- What one request did: its response and the waits it asked for. -/
structure Exchanged where
  response : HttpResponse
  sleeps : List Binary64

/-- Answer one request, with the waits it asked for. -/
def serve (p : Policy) (r : HttpRequest) (s : Sandbox) : Exchanged × Sandbox :=
  let (resp, s') := ((interface p).handle r).run { s with slept := [] }
  (⟨resp, s'.slept.reverse⟩, s')

/-- Send requests one after another: each is delivered, answered, and its
answer read; the first that cannot be sent or whose answer cannot be read
ends the run. -/
def exchangeAll (p : Policy) : List OutgoingRequest → Sandbox → Except SendError (List Exchanged × Sandbox)
  | [], s => .ok ([], s)
  | r :: rs, s => do
    let received ← r.deliver
    let (e, s') := serve p received s
    OutgoingRequest.checkAnswer e.response
    let (es, s'') ← exchangeAll p rs s'
    pure (e :: es, s'')

/-- Send requests through the test client; a JSON document too deep for the
client stops the run before anything is sent. -/
def sendAll (p : Policy) (rs : List OutgoingRequest) (s : Sandbox) :
    Except SendError (List Exchanged × Sandbox) :=
  if rs.any OutgoingRequest.tooDeep then .error .tooDeep else exchangeAll p rs s

end Sandbox

end EmployeeGateway
