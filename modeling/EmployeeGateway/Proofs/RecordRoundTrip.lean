import EmployeeGateway.Record.Envelope

/-!
# Dumps validate back

Every record the service exchanges is validated from a dynamic value and
dumped to one. For each record kind, a value that validation accepted has a
dump that validates back to the same value, and the dump's members are the
record's fields in declaration order, whatever other members the validated
input carried (`RoundTrips`). So dumping after validating is idempotent.

The proof goes field by field: each field check accepts the dump of a value it
produced (`textField_str`, `positiveField_int`, `nullable_optionValue`, …), a
list check accepts the dumps of its items (`list_arr`), and a record check then
reduces to its fields. Only the new-employee request needs what validation
established beyond its type: that its name and title are not blank
(`NewEmployee.check_nonBlank`).

The main statement is `records_round_trip`.
-/

namespace EmployeeGateway

open Checked

/-! ## Field checks accept the dumps of their values -/

section Fields

variable {α β : Type}

@[simp] theorem textField_str (s : String) : textField (.str s) = .ok s := rfl

@[simp] theorem intField_int (n : Int) : intField (.int n) = .ok n := rfl

@[simp] theorem under_ok (step : PathStep) (a : α) : under step (.ok a : Checked α) = .ok a := rfl

@[simp] theorem both_ok (a : α) (b : β) : both (.ok a : Checked α) (.ok b : Checked β) = .ok (a, b) := rfl

theorem positiveField_int {n : Int} (h : 0 < n) : positiveField (.int n) = .ok ⟨n, h⟩ := by
  simp [positiveField, h]

theorem boundedField_int {lo hi n : Int} (h₁ : lo ≤ n) (h₂ : n ≤ hi) :
    boundedField lo hi (.int n) = .ok ⟨n, h₁, h₂⟩ := by
  simp [boundedField, h₁, h₂]

theorem nonBlankField_str {s : String} (h : (!(Text.strip s).isEmpty) = true) :
    nonBlankField (.str s) = .ok s := by
  simp [nonBlankField, ensure, h]

/-- A nullable check accepts the dump of an optional value whose present
values it accepts, as long as no present value dumps to null. -/
theorem nullable_optionValue {check : Value → Checked α} {f : α → Value}
    (hf : ∀ a, f a ≠ .null) (h : ∀ a, check (f a) = .ok a) (o : Option α) :
    nullable check (optionValue f o) = .ok o := by
  cases o with
  | none => rfl
  | some a =>
    show nullable check (f a) = .ok (some a)
    unfold nullable
    split
    · next hnull => exact absurd hnull (hf a)
    · rw [h]
      rfl

@[simp] theorem nullable_int (o : Option Int) : nullable intField (optionValue .int o) = .ok o :=
  nullable_optionValue (fun _ h => by cases h) intField_int o

@[simp] theorem nullable_str (o : Option String) :
    nullable textField (optionValue .str o) = .ok o :=
  nullable_optionValue (fun _ h => by cases h) textField_str o

/-- Each item check accepts the dumps of its items, from any position on. -/
theorem eachItem_map {check : Value → Checked α} {f : α → Value} (h : ∀ a, check (f a) = .ok a)
    (xs : List α) : ∀ i, eachItem check i (xs.map f) = .ok xs := by
  induction xs with
  | nil => intro i; rfl
  | cons x xs ih =>
    intro i
    simp only [List.map_cons, eachItem, h, under_ok, ih]

/-- A list check accepts the array of its items' dumps. -/
theorem list_arr {check : Value → Checked α} {f : α → Value} (h : ∀ a, check (f a) = .ok a)
    (xs : List α) : list check (.arr (xs.map f)) = .ok xs :=
  eachItem_map h xs 0

end Fields

/-! ## What validation establishes -/

section Accepted

variable {α β : Type}

theorem both_eq_ok {x : Checked α} {y : Checked β} {a : α} {b : β} :
    both x y = .ok (a, b) ↔ x = .ok a ∧ y = .ok b := by
  cases x <;> cases y <;> simp [both]

theorem under_eq_ok {step : PathStep} {r : Checked α} {a : α} : under step r = .ok a ↔ r = .ok a := by
  cases r <;> simp [under]

theorem required_eq_ok {ms : List (String × Value)} {name : String} {check : Value → Checked α}
    {a : α} (h : required ms name check = .ok a) : ∃ v, check v = .ok a := by
  unfold required at h
  split at h
  · cases h
  · exact ⟨_, under_eq_ok.mp h⟩

theorem report_eq_ok {title : String} {r : Checked α} {a : α} : report title r = .ok a ↔ r = .ok a := by
  cases r <;> simp [report]

/-- A text accepted as not blank is not blank. -/
theorem nonBlankField_eq_ok {v : Value} {s : String} (h : nonBlankField v = .ok s) :
    (!(Text.strip s).isEmpty) = true := by
  unfold nonBlankField ensure at h
  split at h
  · split at h
    · next hs =>
      cases h
      exact hs
    · cases h
  · cases h

/-- A validated new-employee request has a name and a title that are not
blank. -/
theorem NewEmployee.check_nonBlank {d : Value} {r : NewEmployee} (h : NewEmployee.check d = .ok r) :
    (!(Text.strip r.name).isEmpty) = true ∧ (!(Text.strip r.title).isEmpty) = true := by
  unfold NewEmployee.check at h
  split at h
  · cases h
  · split at h
    · next name salary age title hfields =>
      cases h
      obtain ⟨hname, -, -, htitle⟩ := by simpa only [both_eq_ok] using hfields
      obtain ⟨v, hv⟩ := required_eq_ok hname
      obtain ⟨w, hw⟩ := required_eq_ok htitle
      exact ⟨nonBlankField_eq_ok hv, nonBlankField_eq_ok hw⟩
    · cases h

end Accepted

/-! ## Records -/

theorem Employee.check_toValue (e : Employee) : Employee.check e.toValue = .ok e := by
  obtain ⟨id, name, salary, age, title, email, hpos⟩ := e
  simp [Employee.check, Employee.toValue, object, required, Checked.optional, positiveField_int hpos]

theorem NewEmployee.check_toValue (r : NewEmployee) (hname : (!(Text.strip r.name).isEmpty) = true)
    (htitle : (!(Text.strip r.title).isEmpty) = true) : NewEmployee.check r.toValue = .ok r := by
  obtain ⟨name, salary, age, title, hpos, hmin, hmax⟩ := r
  simp [NewEmployee.check, NewEmployee.toValue, object, required, positiveField_int hpos,
    boundedField_int hmin hmax, nonBlankField_str hname, nonBlankField_str htitle]

theorem DeleteRequest.check_toValue (r : DeleteRequest) : DeleteRequest.check r.toValue = .ok r := by
  simp [DeleteRequest.check, DeleteRequest.toValue, object, required]
  rfl

theorem ErrorBody.check_toValue (b : ErrorBody) : ErrorBody.check b.toValue = .ok b := by
  simp [ErrorBody.check, ErrorBody.toValue, object, required]

/-- An envelope check accepts the dump of an envelope whose data it accepts. -/
theorem Envelope.check_toValue {α : Type} {item : Value → Checked α} {f : α → Value}
    (hf : ∀ a, f a ≠ .null) (h : ∀ a, item (f a) = .ok a) (e : Envelope α) :
    Envelope.check item (Envelope.toValue f e) = .ok e := by
  simp [Envelope.check, Envelope.toValue, object, Checked.optional, nullable_optionValue hf h]
  rfl

theorem Envelope.check_bool (e : Envelope Bool) :
    Envelope.check (fun v => leaf (Lax.bool v)) (Envelope.toValue .bool e) = .ok e :=
  @Envelope.check_toValue Bool (fun v => leaf (Lax.bool v)) Value.bool (fun _ h => by cases h)
    (fun _ => rfl) e

/-! ## Round trips -/

/-- The member names of an object value, in order. -/
def Value.keys? (v : Value) : Option (List String) := v.members?.map (·.map Prod.fst)

/-- The fields of an employee, in declaration order. -/
def Employee.fields : List String :=
  ["id", "employee_name", "employee_salary", "employee_age", "employee_title", "employee_email"]

/-- The fields of a new-employee request. -/
def NewEmployee.fields : List String := ["name", "salary", "age", "title"]

/-- The field of a delete request. -/
def DeleteRequest.fields : List String := ["name"]

/-- The fields of an error body. -/
def ErrorBody.fields : List String := ["status", "message", "timestamp"]

/-- The fields of an envelope. -/
def Envelope.fields : List String := ["data", "status"]

/-- A record kind round-trips when validating the dump of any value its
validation accepted gives that value back, and the dump's members are the
given fields in order. -/
structure RoundTrips {α : Type} (validate : Value → Except Invalid α) (dump : α → Value)
    (fields : List String) : Prop where
  validate_dump : ∀ d a, validate d = .ok a → validate (dump a) = .ok a
  keys_dump : ∀ d a, validate d = .ok a → (dump a).keys? = some fields

/-- Dumping after validating is idempotent. -/
theorem RoundTrips.dump_idempotent {α : Type} {validate : Value → Except Invalid α}
    {dump : α → Value} {fields : List String} (h : RoundTrips validate dump fields) {d : Value}
    {a : α} (hd : validate d = .ok a) : (validate (dump a)).map dump = .ok (dump a) := by
  rw [h.validate_dump d a hd]
  rfl

/-- A record kind whose check accepts the dump of every value it produced
round-trips under any report title. -/
theorem RoundTrips.of_check {α : Type} {check : Value → Checked α} {title : String}
    {dump : α → Value} {fields : List String}
    (h : ∀ d a, check d = .ok a → check (dump a) = .ok a) (hkeys : ∀ a, (dump a).keys? = some fields) :
    RoundTrips (fun v => report title (check v)) dump fields where
  validate_dump d a hd := report_eq_ok.mpr (h d a (report_eq_ok.mp hd))
  keys_dump _ a _ := hkeys a

theorem Employee.keys_toValue (e : Employee) : e.toValue.keys? = some Employee.fields := rfl

/-- **Dumps validate back.** For each record kind the service exchanges —
employee, new-employee request, delete request, error body, and the envelopes
of a list of employees, of an employee and of a boolean — validating the dump
of a validated value gives that value back and the dump's members are the
kind's fields in order; the employees nested in an envelope's dump are
employee dumps, whose members are the employee fields in order. -/
theorem records_round_trip :
    RoundTrips Employee.validate Employee.toValue Employee.fields ∧
      RoundTrips NewEmployee.validate NewEmployee.toValue NewEmployee.fields ∧
      RoundTrips DeleteRequest.validate DeleteRequest.toValue DeleteRequest.fields ∧
      RoundTrips ErrorBody.validate ErrorBody.toValue ErrorBody.fields ∧
      RoundTrips Envelope.validateList Envelope.listValue Envelope.fields ∧
      RoundTrips Envelope.validateEmployee (Envelope.toValue Employee.toValue) Envelope.fields ∧
      RoundTrips Envelope.validateBool (Envelope.toValue .bool) Envelope.fields ∧
      ∀ e : Employee, e.toValue.keys? = some Employee.fields := by
  have hemp : ∀ e : Employee, e.toValue ≠ .null := fun _ h => by cases h
  refine ⟨RoundTrips.of_check (fun _ e _ => Employee.check_toValue e) (fun _ => rfl),
    RoundTrips.of_check (fun _ r hr => ?_) (fun _ => rfl),
    RoundTrips.of_check (fun _ r _ => DeleteRequest.check_toValue r) (fun _ => rfl),
    RoundTrips.of_check (fun _ b _ => ErrorBody.check_toValue b) (fun _ => rfl),
    RoundTrips.of_check (fun _ e _ => ?_) (fun _ => rfl),
    RoundTrips.of_check (fun _ e _ => Envelope.check_toValue hemp Employee.check_toValue e)
      (fun _ => rfl),
    RoundTrips.of_check (fun _ e _ => Envelope.check_bool e) (fun _ => rfl),
    Employee.keys_toValue⟩
  · -- only a request validation accepted has a name and a title that are not blank
    obtain ⟨hname, htitle⟩ := NewEmployee.check_nonBlank hr
    exact NewEmployee.check_toValue r hname htitle
  · exact Envelope.check_toValue (fun _ h => by cases h) (list_arr Employee.check_toValue) e

end EmployeeGateway
