import EmployeeGateway.Validation.Record

/-!
# Employee records

The records the service exchanges with its clients and its upstream, each
with its field rules (`check`), its dump (`toValue`, members in field order)
and the title its validation reports carry:

* `Employee` (`Employee`): id and name (text) and a positive salary
  (integer), with optional age (integer), title and email (text);
  other members are ignored;
* `NewEmployee` (`CreateEmployeeRequest`): a name and a title that are not
  blank, a positive salary and an age from 16 to 75;
* `DeleteRequest` (`DeleteEmployeeRequest`): a name;
* `ErrorBody` (`ErrorResponse`): a status code, a message and a timestamp.

Salary and age bounds are fields of the records, so every record in hand
satisfies them.
-/

namespace EmployeeGateway

open Checked

/-! ## Field rules shared by the records -/

/-- A text field. -/
def textField (v : Value) : Checked String := leaf (Lax.text v)

/-- An integer field. -/
def intField (v : Value) : Checked Int := leaf (Lax.int v)

/-- A positive integer field. -/
def positiveField (v : Value) : Checked { n : Int // 0 < n } :=
  match intField v with
  | .ok n => if h : 0 < n then .ok ⟨n, h⟩ else .error [⟨.greaterThan, []⟩]
  | .error e => .error e

/-- A text field that is not blank after stripping. -/
def nonBlankField (v : Value) : Checked String :=
  ensure (fun s => !(Text.strip s).isEmpty) .valueError (textField v)

/-- An integer field in `[lo, hi]`. -/
def boundedField (lo hi : Int) (v : Value) : Checked { n : Int // lo ≤ n ∧ n ≤ hi } :=
  match intField v with
  | .ok n =>
    if h₁ : n ≤ hi then
      if h₂ : lo ≤ n then .ok ⟨n, h₂, h₁⟩ else .error [⟨.greaterThanEqual, []⟩]
    else .error [⟨.lessThanEqual, []⟩]
  | .error e => .error e

/-- An optional value dumped as itself or null. -/
def optionValue {α : Type} (f : α → Value) : Option α → Value
  | some a => f a
  | none => .null

/-! ## Employee -/

/-- An employee as the upstream lists it. -/
structure Employee where
  id : String
  name : String
  salary : Int
  age : Option Int
  title : Option String
  email : Option String
  salary_pos : 0 < salary

namespace Employee

/-- The title of employee reports. -/
def reportTitle : String := "Employee"

/-- Check an employee's fields. -/
def check (v : Value) : Checked Employee :=
  match object v with
  | .error e => .error e
  | .ok ms =>
    match both (required ms "id" textField)
        (both (required ms "employee_name" textField)
          (both (required ms "employee_salary" positiveField)
            (both (optional ms "employee_age" none (nullable intField))
              (both (optional ms "employee_title" none (nullable textField))
                (optional ms "employee_email" none (nullable textField)))))) with
    | .ok (id, name, salary, age, title, email) => .ok ⟨id, name, salary.1, age, title, email, salary.2⟩
    | .error e => .error e

/-- Validate an employee. -/
def validate (v : Value) : Except Invalid Employee := report reportTitle (check v)

/-- The dump of an employee. -/
def toValue (e : Employee) : Value :=
  .obj [("id", .str e.id), ("employee_name", .str e.name), ("employee_salary", .int e.salary),
    ("employee_age", optionValue .int e.age), ("employee_title", optionValue .str e.title),
    ("employee_email", optionValue .str e.email)]

end Employee

/-! ## New employee -/

/-- A request to create an employee. -/
structure NewEmployee where
  name : String
  salary : Int
  age : Int
  title : String
  salary_pos : 0 < salary
  age_min : 16 ≤ age
  age_max : age ≤ 75

namespace NewEmployee

/-- The title of new-employee reports. -/
def reportTitle : String := "CreateEmployeeRequest"

/-- Check a new employee's fields. -/
def check (v : Value) : Checked NewEmployee :=
  match object v with
  | .error e => .error e
  | .ok ms =>
    match both (required ms "name" nonBlankField)
        (both (required ms "salary" positiveField)
          (both (required ms "age" (boundedField 16 75))
            (required ms "title" nonBlankField))) with
    | .ok (name, salary, age, title) => .ok ⟨name, salary.1, age.1, title, salary.2, age.2.1, age.2.2⟩
    | .error e => .error e

/-- Validate a new employee. -/
def validate (v : Value) : Except Invalid NewEmployee := report reportTitle (check v)

/-- The dump of a new employee. -/
def toValue (r : NewEmployee) : Value :=
  .obj [("name", .str r.name), ("salary", .int r.salary), ("age", .int r.age), ("title", .str r.title)]

end NewEmployee

/-! ## Delete request -/

/-- A request to delete the employees of a name. -/
structure DeleteRequest where
  name : String

namespace DeleteRequest

/-- The title of delete-request reports. -/
def reportTitle : String := "DeleteEmployeeRequest"

/-- Check a delete request's fields. -/
def check (v : Value) : Checked DeleteRequest :=
  match object v with
  | .error e => .error e
  | .ok ms => (required ms "name" textField).map DeleteRequest.mk

/-- Validate a delete request. -/
def validate (v : Value) : Except Invalid DeleteRequest := report reportTitle (check v)

/-- The dump of a delete request. -/
def toValue (r : DeleteRequest) : Value := .obj [("name", .str r.name)]

end DeleteRequest

/-! ## Error body -/

/-- The body of an error answer. -/
structure ErrorBody where
  status : Int
  message : String
  timestamp : Int

namespace ErrorBody

/-- The title of error-body reports. -/
def reportTitle : String := "ErrorResponse"

/-- Check an error body's fields. -/
def check (v : Value) : Checked ErrorBody :=
  match object v with
  | .error e => .error e
  | .ok ms =>
    match both (required ms "status" intField)
        (both (required ms "message" textField) (required ms "timestamp" intField)) with
    | .ok (status, message, timestamp) => .ok ⟨status, message, timestamp⟩
    | .error e => .error e

/-- Validate an error body. -/
def validate (v : Value) : Except Invalid ErrorBody := report reportTitle (check v)

/-- The dump of an error body. -/
def toValue (b : ErrorBody) : Value :=
  .obj [("status", .int b.status), ("message", .str b.message), ("timestamp", .int b.timestamp)]

end ErrorBody

end EmployeeGateway
