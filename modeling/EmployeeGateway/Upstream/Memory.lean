import EmployeeGateway.Service
import EmployeeGateway.Text.Blank
import EmployeeGateway.Text.Lower

/-!
# An in-memory upstream

`Memory` is an upstream kept in memory, with faults scripted per operation:
each call of `list_all`, `create` or `delete_by_name` first takes the next
scripted fault of its operation, if any, and fails with it. Otherwise:

* listing counts the call (before taking a fault) and returns the stored
  employees, or an envelope without data when listing data is set missing;
* creating returns an envelope without data when creation data is set
  missing, and otherwise stores and returns a new employee with the id
  `generated-<n>` (the `n`-th creation) and the email made of the name's first
  word in lowercase and `@company.com`;
* deleting records the name, removes every employee of that name when the
  configured delete result is exactly `true`, and replies with an envelope
  built from the configured result and status, which fails as invalid when
  the status is neither text nor null;
* the connection check answers the configured flag.

`Memory.ofFixture` builds an upstream from its employees, which must validate,
and its settings. `Memory.configure` applies changes to the settings: scripted
faults are appended to their queues, and other given settings replace the
current ones; the stored employees are never changed this way.
-/

namespace EmployeeGateway

/-- An upstream held in memory. -/
structure Memory where
  employees : List Employee
  faults : List (String × List Fault)
  listDataMissing : Bool
  createDataMissing : Bool
  deleteResult : Value
  deleteStatus : Value
  connectionOk : Bool
  initialized : Bool
  created : Nat
  listCalls : Nat
  deletedNames : List String
  deriving Inhabited

namespace Memory

/-- The status an in-memory delete reports unless configured otherwise. -/
def processedStatus : String := "Successfully processed request."

/-- A fresh in-memory upstream with no employees. -/
def empty : Memory :=
  ⟨[], [], false, false, .bool true, .str processedStatus, true, true, 0, 0, []⟩

/-- Take the next scripted fault of an operation. -/
def takeFault (op : String) (mem : Memory) : Option Fault × Memory :=
  match mem.faults.find? (fun q => q.1 == op) with
  | some (_, f :: rest) =>
    (some f, { mem with faults := mem.faults.map fun q => if q.1 == op then (op, rest) else q })
  | _ => (none, mem)

/-- List the stored employees. -/
def listAll (mem : Memory) : Except Fault (Envelope (List Employee)) × Memory :=
  let mem := { mem with listCalls := mem.listCalls + 1 }
  match takeFault "list_all" mem with
  | (some f, mem) => (.error f, mem)
  | (none, mem) =>
    if mem.listDataMissing then (.ok ⟨none, some "Failed"⟩, mem)
    else (.ok ⟨some mem.employees, none⟩, mem)

/-- The email of a new employee: the first word of the name, lowercased, at
the company's domain. -/
def emailFor (name : String) : String :=
  Text.lower ((Text.words name).headD "") ++ "@company.com"

/-- The employee a request creates as the `n`-th creation. -/
def newEmployee (request : NewEmployee) (n : Nat) : Employee :=
  ⟨"generated-" ++ toString n, request.name, request.salary, some request.age, some request.title,
    some (emailFor request.name), request.salary_pos⟩

/-- Create an employee. -/
def create (request : NewEmployee) (mem : Memory) : Except Fault (Envelope Employee) × Memory :=
  match takeFault "create" mem with
  | (some f, mem) => (.error f, mem)
  | (none, mem) =>
    if mem.createDataMissing then (.ok ⟨none, none⟩, mem)
    else
      let n := mem.created + 1
      let e := newEmployee request n
      (.ok ⟨some e, none⟩, { mem with created := n, employees := mem.employees ++ [e] })

/-- Delete the employees of a name. -/
def deleteByName (name : String) (mem : Memory) : Except Fault (Envelope Value) × Memory :=
  match takeFault "delete_by_name" mem with
  | (some f, mem) => (.error f, mem)
  | (none, mem) =>
    let mem := { mem with deletedNames := mem.deletedNames ++ [name] }
    let mem :=
      if mem.deleteResult.isTrue then { mem with employees := mem.employees.filter (·.name != name) }
      else mem
    match Envelope.validateAny (.obj [("data", mem.deleteResult), ("status", mem.deleteStatus)]) with
    | .error e => (.error (.invalid e), mem)
    | .ok env => (.ok env, mem)

/-- Operations with scripted faults still waiting, with their counts, by
operation name. -/
def pendingFaults (mem : Memory) : List (String × Nat) :=
  ((mem.faults.filter (fun q => !q.2.isEmpty)).map fun q => (q.1, q.2.length)).mergeSort
    fun a b => !(decide (b.1 < a.1))

/-- Changes to the settings of an in-memory upstream; absent parts stay as
they are. -/
structure Changes where
  faults : List (String × List Fault)
  listDataMissing : Option Bool
  createDataMissing : Option Bool
  deleteResult : Option Value
  deleteStatus : Option Value
  connectionOk : Option Bool
  initialized : Option Bool
  deriving Inhabited

/-- Append scripted faults to the queue of an operation. -/
def appendFaults (queues : List (String × List Fault)) (op : String) (fs : List Fault) :
    List (String × List Fault) :=
  if queues.any (fun q => q.1 == op) then
    queues.map fun q => if q.1 == op then (op, q.2 ++ fs) else q
  else queues ++ [(op, fs)]

/-- Validate employees one by one, stopping at the first that fails. -/
def validateEach : List Value → Except Invalid (List Employee)
  | [] => .ok []
  | v :: vs =>
    match Employee.validate v with
    | .error e => .error e
    | .ok e => (validateEach vs).map (e :: ·)

/-- Apply changes. -/
def configure (c : Changes) (mem : Memory) : Memory :=
  { mem with
    faults := c.faults.foldl (fun qs q => appendFaults qs q.1 q.2) mem.faults
    listDataMissing := c.listDataMissing.getD mem.listDataMissing
    createDataMissing := c.createDataMissing.getD mem.createDataMissing
    deleteResult := c.deleteResult.getD mem.deleteResult
    deleteStatus := c.deleteStatus.getD mem.deleteStatus
    connectionOk := c.connectionOk.getD mem.connectionOk
    initialized := c.initialized.getD mem.initialized }

/-- An upstream holding the given employees, validated first, with the given
settings. -/
def ofFixture (employees : List Value) (c : Changes) : Except Invalid Memory :=
  (validateEach employees).map fun es => configure c { empty with employees := es }

end Memory

end EmployeeGateway
