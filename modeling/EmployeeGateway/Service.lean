import EmployeeGateway.Record.Envelope
import EmployeeGateway.Retry.Run
import EmployeeGateway.Text.Lower
import EmployeeGateway.Json.Writer

/-!
# The employee service

The service reaches employees only through an upstream: listing them,
creating one, deleting those of a name, and checking the connection. An
`Upstream m` gives these as actions in a monad `m`; an action either returns
the upstream's envelope (for the check, whether it answered) or fails with a
fault.

The service answers questions about employees over an upstream, each upstream
call run under the retry policy (`Retry.run`):

* `allEmployees` lists them; an envelope without data is a service fault
  (`Failed to fetch employees: No data returned`), retried like the upstream's
  own faults;
* `searchByName q` keeps, in listing order, those whose lowercased name
  contains the lowercased `q`, and is `notFound` when none does;
* `findEmployee` returns the first listed employee a test accepts, with
  `employeeById` testing the id;
* `highestSalary` is the greatest salary, `notFound` for an empty listing;
* `topTenNames` are the names of the first ten of the listing sorted by salary,
  highest first, ties keeping listing order;
* `createEmployee` creates through the upstream; an envelope without data is a
  service fault (`Failed to create employee: No data returned`);
* `removeById` looks the employee up by id, then deletes by name under the
  retry policy; a delete is confirmed only when the envelope's data is the
  value `true` itself, and an unconfirmed one is a service fault naming the
  upstream's status.
-/

namespace EmployeeGateway

/-- The operations of an upstream in the monad `m`. -/
structure Upstream (m : Type → Type) where
  /-- Is the upstream set up at all? -/
  configured : m Bool
  /-- List all employees. -/
  listAll : m (Except Fault (Envelope (List Employee)))
  /-- Create an employee. -/
  create : NewEmployee → m (Except Fault (Envelope Employee))
  /-- Delete the employees of a name. -/
  deleteByName : String → m (Except Fault (Envelope Value))
  /-- Can the upstream be reached? -/
  checkConnection : m (Except Fault Bool)

/-- A service: an upstream, a retry policy, and a way to wait. -/
structure Service (m : Type → Type) where
  upstream : Upstream m
  policy : Policy
  sleep : Binary64 → m Unit

namespace Service

variable {m : Type → Type} [Monad m]

/-- How many names `topTenNames` returns. -/
def topLimit : Nat := 10

/-- The listing's employees, or the fault of a listing without data. -/
def listingData (r : Except Fault (Envelope (List Employee))) : Except Fault (List Employee) :=
  match r with
  | .error f => .error f
  | .ok env =>
    match env.data with
    | some es => .ok es
    | none => .error (.service "Failed to fetch employees: No data returned" none)

/-- All employees, listed under the retry policy. -/
def allEmployees (s : Service m) : m (Except Fault (List Employee)) :=
  Retry.run s.sleep s.policy "fetch employees" (listingData <$> s.upstream.listAll)

/-- The employees whose names match a query. -/
def matching (query : String) (es : List Employee) : List Employee :=
  let needle := Text.lower query
  es.filter fun e => Text.occursIn needle (Text.lower e.name)

/-- The employees whose lowercased name contains the lowercased query. -/
def searchByName (s : Service m) (query : String) : m (Except Fault (List Employee)) := do
  match ← allEmployees s with
  | .error f => pure (.error f)
  | .ok es =>
    match matching query es with
    | [] => pure (.error (.notFound ("No employees found with name containing: " ++ query)))
    | hits => pure (.ok hits)

/-- The first listed employee that `test` accepts; `shown` is how the query
appears in the not-found message. -/
def findEmployee (s : Service m) (test : Employee → Bool) (shown : String) :
    m (Except Fault Employee) := do
  match ← allEmployees s with
  | .error f => pure (.error f)
  | .ok es =>
    match es.find? test with
    | some e => pure (.ok e)
    | none => pure (.error (.notFound ("No employee found with id: " ++ shown)))

/-- The first listed employee with the id. -/
def employeeById (s : Service m) (id : String) : m (Except Fault Employee) :=
  findEmployee s (fun e => e.id == id) id

/-- The greatest salary of a nonempty listing. -/
def topSalary : List Employee → Option Int
  | [] => none
  | e :: es => some (es.foldl (fun acc x => max acc x.salary) e.salary)

/-- The greatest salary. -/
def highestSalary (s : Service m) : m (Except Fault Int) := do
  match ← allEmployees s with
  | .error f => pure (.error f)
  | .ok es =>
    match topSalary es with
    | some n => pure (.ok n)
    | none => pure (.error (.notFound "No employees found to determine highest salary"))

/-- The listing sorted by salary, highest first, ties in listing order. -/
def bySalary (es : List Employee) : List Employee :=
  es.mergeSort fun a b => decide (b.salary ≤ a.salary)

/-- The names of the ten best paid employees. -/
def topTenNames (s : Service m) : m (Except Fault (List String)) := do
  match ← allEmployees s with
  | .error f => pure (.error f)
  | .ok es => pure (.ok ((bySalary es).take topLimit |>.map (·.name)))

/-- The created employee, or the fault of an answer without data. -/
def createdData (r : Except Fault (Envelope Employee)) : Except Fault Employee :=
  match r with
  | .error f => .error f
  | .ok env =>
    match env.data with
    | some e => .ok e
    | none => .error (.service "Failed to create employee: No data returned" none)

/-- Create an employee through the upstream under the retry policy. -/
def createEmployee (s : Service m) (request : NewEmployee) : m (Except Fault Employee) :=
  Retry.run s.sleep s.policy "create employee" (createdData <$> s.upstream.create request)

/-- Does the upstream's answer confirm a delete? Only data that is the value
`true` itself does. -/
def confirms (env : Envelope Value) : Bool :=
  match env.data with
  | some v => v.isTrue
  | none => false

/-- Nothing, or the fault of an unconfirmed delete, which shows the status
the upstream reported. -/
def deleteConfirmed (r : Except Fault (Envelope Value)) : Except Fault Unit :=
  match r with
  | .error f => .error f
  | .ok env =>
    if confirms env then .ok ()
    else .error (.service ("Failed to delete employee: upstream reported status " ++
      (optionValue .str env.status).display) none)

/-- Delete the employee with the id, returning it. -/
def removeById (s : Service m) (id : String) : m (Except Fault Employee) := do
  match ← employeeById s id with
  | .error f => pure (.error f)
  | .ok e =>
    match ← Retry.run s.sleep s.policy ("delete employee " ++ id)
        (deleteConfirmed <$> s.upstream.deleteByName e.name) with
    | .error f => pure (.error f)
    | .ok () => pure (.ok e)

/-! ## Runs in a state monad

Over an upstream whose actions run in `StateM σ`, each operation is its
listing (or its lookup) followed by a step that does not touch the state. -/

section Runs

variable {σ : Type} (sv : Service (StateM σ)) (s : σ)

/-- A bind in a state monad runs the first action, then the continuation
from the state that action leaves. -/
theorem run_bind {α β : Type} (x : StateM σ α) (f : α → StateM σ β) :
    (x >>= f).run s = (f (x.run s).1).run (x.run s).2 := rfl

/-- The top earners are read off the listing the retry run returns. -/
theorem topTenNames_run :
    sv.topTenNames.run s =
      ((sv.allEmployees.run s).1.map fun es => ((bySalary es).take topLimit).map (·.name),
        (sv.allEmployees.run s).2) := by
  rw [topTenNames, run_bind]
  cases (sv.allEmployees.run s).1 <;> rfl

/-- A lookup is the first listed employee the test accepts, or not found. -/
theorem findEmployee_run (test : Employee → Bool) (shown : String) :
    (sv.findEmployee test shown).run s =
      match sv.allEmployees.run s with
      | (.error f, s') => (.error f, s')
      | (.ok es, s') =>
        (match es.find? test with
          | some e => .ok e
          | none => .error (.notFound ("No employee found with id: " ++ shown)), s') := by
  rw [findEmployee, run_bind]
  cases sv.allEmployees.run s with
  | mk r s' =>
    cases r with
    | error f => rfl
    | ok es =>
      dsimp only
      cases es.find? test <;> rfl

/-- A removal looks the employee up, then runs the delete of its name under
the retry policy from the state the lookup leaves, and returns the employee
when that run succeeds. -/
theorem removeById_run (id : String) :
    (sv.removeById id).run s =
      match (sv.employeeById id).run s with
      | (.error f, s') => (.error f, s')
      | (.ok e, s') =>
        let d := (Retry.run sv.sleep sv.policy ("delete employee " ++ id)
          (deleteConfirmed <$> sv.upstream.deleteByName e.name)).run s'
        (d.1.map fun _ => e, d.2) := by
  rw [removeById, run_bind]
  cases (sv.employeeById id).run s with
  | mk r s' =>
    cases r with
    | error f => rfl
    | ok e =>
      dsimp only
      rw [run_bind]
      cases (Retry.run sv.sleep sv.policy ("delete employee " ++ id)
        (deleteConfirmed <$> sv.upstream.deleteByName e.name)).run s' with
      | mk d s'' => cases d <;> rfl

end Runs

end Service

end EmployeeGateway
