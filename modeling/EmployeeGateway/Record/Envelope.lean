import EmployeeGateway.Record.Employee

/-!
# Upstream envelopes

Every upstream answer is an envelope: optional `data` of the expected kind
and an optional `status` text, both null when absent; other members are
ignored. The three envelopes read from the upstream hold a list of employees,
one employee, or a boolean, and their reports are titled after the kind they
hold; an envelope built with data of any kind checks only its status.
-/

namespace EmployeeGateway

open Checked

/-- An upstream answer. -/
structure Envelope (α : Type) where
  data : Option α
  status : Option String

namespace Envelope

/-- Check an envelope whose data is checked by `item`. -/
def check {α : Type} (item : Value → Checked α) (v : Value) : Checked (Envelope α) :=
  match object v with
  | .error e => .error e
  | .ok ms =>
    (both (optional ms "data" none (nullable item))
      (optional ms "status" none (nullable textField))).map fun p => ⟨p.1, p.2⟩

/-- The envelope with its data changed by `f`. -/
def map {α β : Type} (f : α → β) (e : Envelope α) : Envelope β := ⟨e.data.map f, e.status⟩

/-- The dump of an envelope. -/
def toValue {α : Type} (f : α → Value) (e : Envelope α) : Value :=
  .obj [("data", optionValue f e.data), ("status", optionValue .str e.status)]

/-- Report title of the envelope of a list of employees. -/
def listTitle : String := "UpstreamEnvelope[list[Employee]]"

/-- Report title of the envelope of one employee. -/
def employeeTitle : String := "UpstreamEnvelope[Employee]"

/-- Report title of the envelope of a boolean. -/
def boolTitle : String := "UpstreamEnvelope[bool]"

/-- Report title of an envelope whose data may be of any kind. -/
def anyTitle : String := "UpstreamEnvelope"

/-- Validate the envelope of a list of employees. -/
def validateList (v : Value) : Except Invalid (Envelope (List Employee)) :=
  report listTitle (check (list Employee.check) v)

/-- Validate the envelope of one employee. -/
def validateEmployee (v : Value) : Except Invalid (Envelope Employee) :=
  report employeeTitle (check Employee.check v)

/-- Validate the envelope of a boolean. -/
def validateBool (v : Value) : Except Invalid (Envelope Bool) :=
  report boolTitle (check (fun v => leaf (Lax.bool v)) v)

/-- Validate an envelope whose data may be any value: only the status is
checked. -/
def validateAny (v : Value) : Except Invalid (Envelope Value) :=
  report anyTitle (check (fun d => .ok d) v)

/-- Dump of a list envelope. -/
def listValue (e : Envelope (List Employee)) : Value :=
  toValue (fun es => .arr (es.map Employee.toValue)) e

end Envelope

end EmployeeGateway
