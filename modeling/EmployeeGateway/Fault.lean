import EmployeeGateway.Validation.Report
import EmployeeGateway.Binary64.Power

/-!
# Faults

`Fault` is every way an operation of the service can end without a result.
The service's own faults are `notFound` (nothing matched a query) and
`service` (the work could not be done; it may carry the fault behind it);
`domain` is a fault of the same family that is neither of the two, which the
service never raises itself but an upstream of any behaviour may.
Upstream faults are `upstream` (with the status code when one was received)
and `rateLimited` (status 429). `invalid` is a failed validation. The
remaining kinds are failures that come from outside the service's own rules:
transport failures of an HTTP session, bad values, runtime errors, numeric
overflow, division by zero, a missing key, a missing attribute and a call
with arguments that do not fit.

`Fault.isRetryable` says which faults the retry loop tries again after: the
upstream faults and the service fault.
-/

namespace EmployeeGateway

/-- The kinds of transport failure an HTTP session can raise. -/
inductive TransportKind where
  /-- A general client failure. -/
  | client
  /-- The connection could not be made or was lost. -/
  | connection
  /-- The body could not be read. -/
  | payload
  /-- The body's content type is not JSON. -/
  | contentType
  /-- The exchange took too long. -/
  | timeout
  deriving Repr, DecidableEq, Inhabited

/-- Every way an operation can end without a result. -/
inductive Fault where
  | notFound (message : String)
  | service (message : String) (cause : Option Fault)
  | domain (message : String)
  | upstream (message : String) (status : Option Int) (cause : Option Fault)
  | rateLimited (message : String)
  | invalid (report : Invalid)
  | transport (kind : TransportKind) (message : Option String)
  | badValue (message : String)
  | runtime (message : String)
  | overflow (message : String)
  | zeroDivision (message : String)
  | missingKey (key : String)
  | noAttribute (message : String)
  | typeError (message : String)
  deriving Repr, Inhabited

namespace Fault

/-- The message of a rate-limit fault raised without one. -/
def rateLimitMessage : String := "Upstream rate limit exceeded"

/-- Does the retry loop try again after this fault? -/
def isRetryable : Fault → Bool
  | .upstream .. => true
  | .rateLimited _ => true
  | .service .. => true
  | _ => false

/-- Is this fault a rate-limit refusal? -/
def isRateLimited : Fault → Bool
  | .rateLimited _ => true
  | _ => false

/-- The status code an upstream fault carries. -/
def status? : Fault → Option Int
  | .upstream _ s _ => s
  | .rateLimited _ => some 429
  | _ => none

/-- The fault behind this one, if any. -/
def cause? : Fault → Option Fault
  | .service _ c => c
  | .upstream _ _ c => c
  | _ => none

end Fault

/-- The fault of a power that has no binary64 value. -/
def PowerFault.toFault : PowerFault → Fault
  | .exponentTooLarge => .overflow "int too large to convert to float"
  | .zeroToNegative => .zeroDivision "0.0 cannot be raised to a negative power"
  | .outOfRange => .overflow "(34, 'Numerical result out of range')"

end EmployeeGateway
