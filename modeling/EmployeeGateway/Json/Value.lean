import EmployeeGateway.Binary64.Basic

/-!
# Dynamic JSON values

`Value` is a JSON document as the service sees it: integers of any size and
binary64 floats are kept apart (a number written with a point or an exponent
is a float), and an object is a list of members in order. Objects built by
the reader have no repeated key (see `Json.Reader`); `Value.field?` looks a
member up by key.
-/

namespace EmployeeGateway

/-- A JSON value with integers and floats kept apart. -/
inductive Value where
  | null
  | bool (b : Bool)
  | int (i : Int)
  | float (x : Binary64)
  | str (s : String)
  | arr (items : List Value)
  | obj (members : List (String × Value))
  deriving Repr, Inhabited

namespace Value

/-- The member of an object under `key`, if the value is an object with one. -/
def field? (v : Value) (key : String) : Option Value :=
  match v with
  | .obj ms => (ms.find? (fun m => m.1 == key)).map (·.2)
  | _ => none

/-- The members of an object, or `none` for any other value. -/
def members? : Value → Option (List (String × Value))
  | .obj ms => some ms
  | _ => none

/-- The string of a string value. -/
def str? : Value → Option String
  | .str s => some s
  | _ => none

/-- The items of an array value. -/
def items? : Value → Option (List Value)
  | .arr xs => some xs
  | _ => none

/-- Is the value the boolean `true` itself (not merely a true-like value)? -/
def isTrue : Value → Bool
  | .bool true => true
  | _ => false

/-- Set `key` to `v` in a member list: an existing member keeps its place and
takes the new value, a new key goes last. -/
def setMember (ms : List (String × Value)) (key : String) (v : Value) : List (String × Value) :=
  if ms.any (fun m => m.1 == key) then ms.map (fun m => if m.1 == key then (key, v) else m)
  else ms ++ [(key, v)]

/-- The name of a value's kind as error texts spell it. -/
def kindName : Value → String
  | .null => "NoneType"
  | .bool _ => "bool"
  | .int _ => "int"
  | .float _ => "float"
  | .str _ => "str"
  | .arr _ => "list"
  | .obj _ => "dict"

end Value

end EmployeeGateway
