import EmployeeGateway.Client.Connection

/-!
# Scripted runs of the client

A `ClientCall` is one step on a client whose session is scripted: each
operation comes with the exchange the session gives for its one request.
`ClientCall.perform` runs a step on a connection and reports its result, the
request sent (if any) and the connection after it.

Arguments arrive as dynamic values and are checked the way the operations
receive them: settings are validated before set-up, a new employee is
validated before anything is sent, and the name of a delete is validated as
the body of the delete before the connection is looked at.
-/

namespace EmployeeGateway

/-- A step on a scripted client. -/
inductive ClientCall where
  | setUp (settings : Value)
  | close
  | listAll (reply : Exchange)
  | checkConnection (reply : Exchange)
  | create (request : Value) (reply : Exchange)
  | deleteByName (name : Value) (reply : Exchange)
  | unknown (name : String)
  deriving Inhabited

/-- What a step did: its result, the request sent, and the connection after. -/
structure ClientOutcome where
  result : Except Fault Value
  request : Option Request
  state : Connection

namespace ClientCall

/-- Actions that remember the last request sent. -/
abbrev Recorded := StateM (Option Request)

/-- The session that answers every request with `reply`, remembering it. -/
def replying (reply : Exchange) : Session Recorded := fun r => do
  set (some r)
  pure reply

/-- Run an operation of the connection and report its result as a value. -/
def record {α : Type} (c : Connection) (action : Recorded (Except Fault α)) (shown : α → Value) :
    ClientOutcome :=
  let (r, sent) := action.run none
  ⟨r.map shown, sent, c⟩

/-- Run a step on a connection. -/
def perform (c : Connection) : ClientCall → ClientOutcome
  | .setUp v =>
    match Settings.construct v with
    | .error f => ⟨.error f, none, c⟩
    | .ok s => ⟨.ok .null, none, c.setUp s⟩
  | .close => ⟨.ok .null, none, c.close⟩
  | .listAll reply => record c (c.listAll (replying reply)) Envelope.listValue
  | .checkConnection reply => record c (c.checkConnection (replying reply)) .bool
  | .create v reply =>
    match NewEmployee.validate v with
    | .error r => ⟨.error (.invalid r), none, c⟩
    | .ok request =>
      record c (c.create (replying reply) request) (Envelope.toValue Employee.toValue)
  | .deleteByName v reply =>
    match DeleteRequest.validate (.obj [("name", v)]) with
    | .error r => ⟨.error (.invalid r), none, c⟩
    | .ok request => record c (c.deleteByName (replying reply) request.name) (Envelope.toValue .bool)
  | .unknown name => ⟨.error (.missingKey name), none, c⟩

/-- Run steps one after another from a fresh connection. -/
def performAll : List ClientCall → Connection → List ClientOutcome
  | [], _ => []
  | step :: rest, c =>
    let o := perform c step
    o :: performAll rest o.state

end ClientCall

end EmployeeGateway
