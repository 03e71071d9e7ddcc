/-!
# Validation reports

Checking a dynamic value against a record's field rules yields either the
record or a report: the record's title and the list of violations, each with
its kind and its location (the path of member names and list positions from
the checked value down to the offending part). The report's summary line is
`N validation error(s) for Title`.
-/

namespace EmployeeGateway

/-- One step of a location: a member name or a list position. -/
inductive PathStep where
  | key (name : String)
  | index (i : Nat)
  deriving Repr, DecidableEq, Inhabited

/-- What is wrong with a part of a checked value. -/
inductive ViolationKind where
  | missing
  | stringType
  | stringUnicode
  | intType
  | intParsing
  | intParsingSize
  | intFromFloat
  | finiteNumber
  | floatType
  | floatParsing
  | boolType
  | boolParsing
  | greaterThan
  | greaterThanEqual
  | lessThanEqual
  | valueError
  | modelType
  | listType
  | extraForbidden
  deriving Repr, DecidableEq, Inhabited

namespace ViolationKind

/-- The code that names a violation kind in reports. -/
def code : ViolationKind → String
  | .missing => "missing"
  | .stringType => "string_type"
  | .stringUnicode => "string_unicode"
  | .intType => "int_type"
  | .intParsing => "int_parsing"
  | .intParsingSize => "int_parsing_size"
  | .intFromFloat => "int_from_float"
  | .finiteNumber => "finite_number"
  | .floatType => "float_type"
  | .floatParsing => "float_parsing"
  | .boolType => "bool_type"
  | .boolParsing => "bool_parsing"
  | .greaterThan => "greater_than"
  | .greaterThanEqual => "greater_than_equal"
  | .lessThanEqual => "less_than_equal"
  | .valueError => "value_error"
  | .modelType => "model_type"
  | .listType => "list_type"
  | .extraForbidden => "extra_forbidden"

end ViolationKind

/-- A violation at a location. -/
structure Violation where
  kind : ViolationKind
  path : List PathStep
  deriving Repr, DecidableEq, Inhabited

namespace Violation

/-- The same violation seen from one level up, under `step`. -/
def under (step : PathStep) (v : Violation) : Violation := ⟨v.kind, step :: v.path⟩

end Violation

/-- A failed check: the record's title and its violations, in report order. -/
structure Invalid where
  title : String
  violations : List Violation
  deriving Repr, DecidableEq, Inhabited

namespace Invalid

/-- The summary line of a report. -/
def summary (r : Invalid) : String :=
  let n := r.violations.length
  toString n ++ (if n == 1 then " validation error for " else " validation errors for ") ++ r.title

end Invalid

end EmployeeGateway
