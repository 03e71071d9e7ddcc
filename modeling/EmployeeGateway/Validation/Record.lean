import EmployeeGateway.Validation.Lax

/-!
# Checking records field by field

A record is checked from an object value field by field, in the record's
order, and every violation is kept: `Checked.both` joins the checks of two
fields, keeping the violations of both. A field check looks the member up
(`missing` when absent and required), converts it, and places the
violations it finds under the member's name. A value that is not an object
is a `model_type` violation at the record itself.
-/

namespace EmployeeGateway

/-- A checked value, or the violations found, in report order. -/
abbrev Checked (α : Type) := Except (List Violation) α

namespace Checked

/-- Both checks, keeping the violations of both. -/
def both {α β : Type} : Checked α → Checked β → Checked (α × β)
  | .ok a, .ok b => .ok (a, b)
  | .error e, .ok _ => .error e
  | .ok _, .error e => .error e
  | .error e₁, .error e₂ => .error (e₁ ++ e₂)

/-- A conversion's failure as a violation at the checked value itself. -/
def leaf {α : Type} (r : Except ViolationKind α) : Checked α :=
  match r with
  | .ok a => .ok a
  | .error k => .error [⟨k, []⟩]

/-- Violations placed under a path step. -/
def under {α : Type} (step : PathStep) (r : Checked α) : Checked α :=
  match r with
  | .ok a => .ok a
  | .error vs => .error (vs.map (Violation.under step))

/-- A required member, checked by `check`. -/
def required {α : Type} (ms : List (String × Value)) (name : String)
    (check : Value → Checked α) : Checked α :=
  match (ms.find? (fun m => m.1 == name)).map (·.2) with
  | none => .error [⟨.missing, [.key name]⟩]
  | some v => under (.key name) (check v)

/-- An optional member with a default, checked by `check` when present. -/
def optional {α : Type} (ms : List (String × Value)) (name : String) (default : α)
    (check : Value → Checked α) : Checked α :=
  match (ms.find? (fun m => m.1 == name)).map (·.2) with
  | none => .ok default
  | some v => under (.key name) (check v)

/-- A check that also accepts null, as `none`. -/
def nullable {α : Type} (check : Value → Checked α) : Value → Checked (Option α)
  | .null => .ok none
  | v => (check v).map some

/-- Each item of a list, violations placed under the item's position. -/
def eachItem {α : Type} (check : Value → Checked α) : Nat → List Value → Checked (List α)
  | _, [] => .ok []
  | i, v :: vs =>
    match under (.index i) (check v), eachItem check (i + 1) vs with
    | .ok a, .ok as => .ok (a :: as)
    | .error e, .ok _ => .error e
    | .ok _, .error e => .error e
    | .error e₁, .error e₂ => .error (e₁ ++ e₂)

/-- A list, each item checked by `check`. -/
def list {α : Type} (check : Value → Checked α) : Value → Checked (List α)
  | .arr vs => eachItem check 0 vs
  | _ => .error [⟨.listType, []⟩]

/-- The members of an object, or a `model_type` violation. -/
def object (v : Value) : Checked (List (String × Value)) :=
  match v with
  | .obj ms => .ok ms
  | _ => .error [⟨.modelType, []⟩]

/-- A further rule on a converted value, violated with `kind`. -/
def ensure {α : Type} (ok : α → Bool) (kind : ViolationKind) (r : Checked α) : Checked α :=
  match r with
  | .ok a => if ok a then .ok a else .error [⟨kind, []⟩]
  | .error e => .error e

/-- Report a check under a record title. -/
def report {α : Type} (title : String) (r : Checked α) : Except Invalid α :=
  match r with
  | .ok a => .ok a
  | .error vs => .error ⟨title, vs⟩

end Checked

end EmployeeGateway
