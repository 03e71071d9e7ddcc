import EmployeeGateway.Fault
import EmployeeGateway.Json.Value
import EmployeeGateway.Text.Quoted

/-!
# Exchanges with the upstream over HTTP

A `Request` is what the client sends: a method, the base URL, how long the
exchange may take and an optional JSON body. An `Exchange` is what the session
gives back: a failure of sending, or a status code and the outcome of reading
the body as JSON.

`Exchange.receive` is the client's one rule for turning an exchange into a
JSON body or a fault, in this order:

* a transport failure while sending becomes an upstream fault without status,
  named by the failure's shown form; any other failure passes unchanged;
* status 429 is a rate-limit refusal, and any status outside `200 ..< 300` an
  upstream fault carrying that status; the body is not read then;
* a body that is not JSON (a content-type failure or a bad value) becomes an
  upstream fault carrying the status, with the reading failure as its cause;
  another transport failure while reading is treated as while sending.
-/

namespace EmployeeGateway

namespace TransportKind

/-- The class name of a transport failure. -/
def className : TransportKind → String
  | .client => "ClientError"
  | .connection => "ClientConnectionError"
  | .payload => "ClientPayloadError"
  | .contentType => "ContentTypeError"
  | .timeout => "TimeoutError"

/-- How a transport failure is shown in messages: its class name with its
arguments, the message quoted when there is one. A content-type failure
carries the request information and history of a response, of which a failed
exchange has none. -/
def shown (k : TransportKind) (message : Option String) : String :=
  match k with
  | .contentType => "ContentTypeError(None, ())"
  | _ => k.className ++ "(" ++ (message.map Text.quote).getD "" ++ ")"

end TransportKind

/-- How long an exchange may take: the configured seconds, or a whole number
of seconds. -/
inductive Deadline where
  | seconds (x : Binary64)
  | whole (n : Nat)
  deriving Repr, Inhabited

/-- A request to the upstream. -/
structure Request where
  method : String
  url : String
  deadline : Deadline
  body : Option Value
  deriving Repr, Inhabited

/-- What a session gives for a request. -/
inductive Exchange where
  /-- Sending the request failed. -/
  | failed (fault : Fault)
  /-- The upstream answered with a status; reading its body as JSON gives a
  value or fails. -/
  | answered (status : Int) (body : Except Fault Value)
  deriving Inhabited

/-- A session: sends a request and gives the exchange, in the monad `m`. -/
abbrev Session (m : Type → Type) := Request → m Exchange

namespace Fault

/-- A reading failure that means the body is not JSON. -/
def isUndecodable : Fault → Bool
  | .transport .contentType _ => true
  | .badValue _ => true
  | _ => false

/-- Is the fault a transport failure? -/
def isTransport : Fault → Bool
  | .transport .. => true
  | _ => false

/-- An upstream fault without status for a transport failure of the request
`method url`; other faults pass unchanged. -/
def escalate (method url : String) : Fault → Fault
  | .transport k m => .upstream (method ++ " " ++ url ++ " failed: " ++ k.shown m) none (some (.transport k m))
  | f => f

end Fault

namespace Exchange

/-- Is the status a success, `200 ..< 300`? -/
def isSuccess (status : Int) : Bool := 200 ≤ status && status < 300

/-- The JSON body of an exchange for the request `method url`, or the fault
the client raises for it. -/
def receive (method url : String) : Exchange → Except Fault Value
  | .failed f => .error (Fault.escalate method url f)
  | .answered status body =>
    if status == 429 then .error (.rateLimited Fault.rateLimitMessage)
    else if !isSuccess status then
      .error (.upstream (method ++ " " ++ url ++ " returned " ++ toString status) (some status) none)
    else
      match body with
      | .ok v => .ok v
      | .error f =>
        if f.isUndecodable then
          .error (.upstream (method ++ " " ++ url ++ " returned a non-JSON body") (some status) (some f))
        else .error (Fault.escalate method url f)

/-- Whether the upstream answered a connection check with a status below
500; a transport failure means it did not, any other failure passes. -/
def reachable : Exchange → Except Fault Bool
  | .failed f => if f.isTransport then .ok false else .error f
  | .answered status _ => .ok (status < 500)

end Exchange

end EmployeeGateway
