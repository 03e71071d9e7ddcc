import EmployeeGateway.Json.Value
import EmployeeGateway.Settings

/-!
# The interface's description

`Description.document` is the OpenAPI 3.1 description of the HTTP interface,
built from a table of its operations (`Description.operations`) and the JSON
Schemas of the records they take and give (`Description.records`):

* each operation is listed under its path and lowercase method, with an id
  made of its handler's name and path (every character other than an ASCII
  letter, digit or `_` becoming `_`), then `_` and the method; a summary that
  is the handler's name in title case; its tags; its path parameters (text,
  required); its JSON body, if any (required); and its answers;
* the successful answer has the operation's status and either JSON, following
  the answer's schema when it declares one (titled `Response` and the id in
  title case, unless it names a record), or plain text; an operation with parameters or a body may
  also fail validation (422);
* a record's schema lists its properties, each titled by its name in title
  case unless it has a title of its own, and the names of those it requires.

Title case (`Description.titleCase`) puts the first letter of every run of
letters in upper case and the others in lower case, and writes `_` as a
space.
-/

namespace EmployeeGateway

namespace Description

/-- A bound of an integer: above a value, at least a value, or at most one. -/
inductive Bound where
  | above (n : Int)
  | atLeast (n : Int)
  | atMost (n : Int)
  deriving Repr, Inhabited

/-- A JSON Schema, as far as the description needs one. -/
inductive Schema where
  /-- Any value. -/
  | any
  | string
  | integer (bounds : List Bound)
  | object
  | null
  /-- A list whose items follow a schema. -/
  | array (items : Schema)
  /-- A value that follows one of several schemas. -/
  | anyOf (options : List Schema)
  /-- A record described among the components. -/
  | ref (name : String)
  deriving Repr, Inhabited

/-- A bound as a schema keyword and its value, written as a float. -/
def Bound.member : Bound → String × Value
  | .above n => ("exclusiveMinimum", .float ((Binary64.ofInt? n).getD (Binary64.zero false)))
  | .atLeast n => ("minimum", .float ((Binary64.ofInt? n).getD (Binary64.zero false)))
  | .atMost n => ("maximum", .float ((Binary64.ofInt? n).getD (Binary64.zero false)))

mutual

/-- The keywords of a schema. -/
def Schema.members : Schema → List (String × Value)
  | .any => []
  | .string => [("type", .str "string")]
  | .integer bounds => ("type", .str "integer") :: bounds.map Bound.member
  | .object => [("type", .str "object")]
  | .null => [("type", .str "null")]
  | .array items => [("type", .str "array"), ("items", .obj items.members)]
  | .anyOf options => [("anyOf", .arr (Schema.optionValues options))]
  | .ref name => [("$ref", .str ("#/components/schemas/" ++ name))]

/-- The schemas of the options of `anyOf`. -/
def Schema.optionValues : List Schema → List Value
  | [] => []
  | s :: ss => .obj s.members :: Schema.optionValues ss

end

/-- A schema as a value. -/
def Schema.toValue (s : Schema) : Value := .obj s.members

/-- A schema with a title; a reference to a record keeps the record's own. -/
def Schema.titled (title : String) : Schema → Value
  | .ref name => Schema.toValue (.ref name)
  | s => .obj (s.members ++ [("title", .str title)])

/-- Title case: the first letter of each run of letters upper, the others
lower, and `_` as a space. -/
def titleCase (s : String) : String :=
  let step (acc : List Char × Bool) (c : Char) : List Char × Bool :=
    let (out, afterLetter) := acc
    let c' := if c == '_' then ' ' else if afterLetter then c.toLower else c.toUpper
    (c' :: out, c.isAlpha)
  String.ofList (s.toList.foldl step ([], false)).1.reverse

/-- A property of a record. -/
structure Property where
  name : String
  schema : Schema
  required : Bool
  /-- A title other than the name in title case. -/
  title : Option String := none
  deriving Repr, Inhabited

/-- A record's schema. -/
structure Record where
  name : String
  description : Option String
  properties : List Property
  deriving Repr, Inhabited

/-- A record's schema as a value. -/
def Record.toValue (r : Record) : Value :=
  let required := (r.properties.filter (·.required)).map fun p => Value.str p.name
  .obj ([("title", .str r.name), ("type", .str "object"),
      ("properties", .obj (r.properties.map fun p => (p.name, p.schema.titled (p.title.getD (titleCase p.name)))))] ++
    (if required.isEmpty then [] else [("required", .arr required)]) ++
    (match r.description with
     | some d => [("description", .str d)]
     | none => []))

/-- The record schemas the operations refer to. -/
def records : List Record :=
  [ ⟨"CreateEmployeeRequest", none,
      [ ⟨"name", .string, true, none⟩,
        ⟨"salary", .integer [.above 0], true, none⟩,
        ⟨"age", .integer [.atLeast 16, .atMost 75], true, none⟩,
        ⟨"title", .string, true, none⟩ ]⟩,
    ⟨"Employee",
      some ("Employee snapshot as returned by the upstream API.\n\n" ++
        "The upstream field names are kept as-is so the external JSON shape does\n" ++
        "not depend on any renaming here."),
      [ ⟨"id", .string, true, none⟩,
        ⟨"employee_name", .string, true, none⟩,
        ⟨"employee_salary", .integer [.above 0], true, none⟩,
        ⟨"employee_age", .anyOf [.integer [], .null], false, none⟩,
        ⟨"employee_title", .anyOf [.string, .null], false, none⟩,
        ⟨"employee_email", .anyOf [.string, .null], false, none⟩ ]⟩,
    ⟨"HTTPValidationError", none,
      [ ⟨"detail", .array (.ref "ValidationError"), false, none⟩ ]⟩,
    ⟨"ValidationError", none,
      [ ⟨"loc", .array (.anyOf [.string, .integer []]), true, some "Location"⟩,
        ⟨"msg", .string, true, some "Message"⟩,
        ⟨"type", .string, true, some "Error Type"⟩,
        ⟨"input", .any, false, some "Input"⟩,
        ⟨"ctx", .object, false, some "Context"⟩ ]⟩ ]

/-- What an operation answers when it succeeds. -/
inductive Answer where
  /-- JSON of no declared schema. -/
  | untyped
  /-- JSON following a schema. -/
  | json (schema : Schema)
  /-- Plain text. -/
  | text
  deriving Repr, Inhabited

/-- An operation of the interface. -/
structure Operation where
  method : String
  path : String
  handler : String
  tags : List String
  parameters : List String
  body : Option String
  status : Nat
  answer : Answer
  deriving Repr, Inhabited

namespace Operation

/-- The operation's id: handler name and path with every character other
than an ASCII letter, digit or `_` as `_`, then `_` and the method. -/
def id (o : Operation) : String :=
  let word (c : Char) : Char := if c.isAlphanum || c == '_' then c else '_'
  String.ofList ((o.handler ++ o.path).toList.map word) ++ "_" ++ o.method

/-- The JSON answer of a media type with a schema. -/
def content (mediaType : String) (schema : Value) : Value :=
  .obj [(mediaType, .obj [("schema", schema)])]

/-- The successful answer. -/
def success (o : Operation) : Value :=
  let body := match o.answer with
    | .untyped => content "application/json" (Schema.toValue .any)
    | .json schema => content "application/json" (schema.titled (titleCase ("Response_" ++ o.id)))
    | .text => content "text/plain" (Schema.toValue .string)
  .obj [("description", .str "Successful Response"), ("content", body)]

/-- The answer to a request that fails validation. -/
def validationFailure : Value :=
  .obj [("description", .str "Validation Error"),
    ("content", content "application/json" (Schema.toValue (.ref "HTTPValidationError")))]

/-- The answers of the operation, by status. -/
def responses (o : Operation) : Value :=
  .obj ([(toString o.status, o.success)] ++
    (if o.parameters.isEmpty && o.body.isNone then [] else [("422", validationFailure)]))

/-- A path parameter. -/
def parameter (name : String) : Value :=
  .obj [("name", .str name), ("in", .str "path"), ("required", .bool true),
    ("schema", Schema.titled (titleCase name) .string)]

/-- The operation as a value. -/
def toValue (o : Operation) : Value :=
  .obj ((if o.tags.isEmpty then [] else [("tags", .arr (o.tags.map .str))]) ++
    [("summary", .str (titleCase o.handler)), ("operationId", .str o.id)] ++
    (if o.parameters.isEmpty then [] else [("parameters", .arr (o.parameters.map parameter))]) ++
    (match o.body with
     | some record =>
       [("requestBody", .obj [("content", content "application/json" (Schema.toValue (.ref record))),
         ("required", .bool true)])]
     | none => []) ++
    [("responses", o.responses)])

end Operation

/-- The employee operations' common path. -/
def employeePath : String := "/api/v1/employee"

/-- The operations of the interface, in the order they are declared. -/
def operations : List Operation :=
  [ ⟨"get", "/api/v1/health", "health_check", ["health"], [], none, 200, .untyped⟩,
    ⟨"get", "/api/v1/health/ready", "readiness_probe", ["health"], [], none, 200, .untyped⟩,
    ⟨"get", employeePath, "get_all_employees", ["employee"], [], none, 200,
      .json (.array (.ref "Employee"))⟩,
    ⟨"get", employeePath ++ "/search/{search_string}", "get_employees_by_name_search", ["employee"],
      ["search_string"], none, 200, .json (.array (.ref "Employee"))⟩,
    ⟨"get", employeePath ++ "/highestSalary", "get_highest_salary_of_employees", ["employee"], [],
      none, 200, .json (.integer [])⟩,
    ⟨"get", employeePath ++ "/topTenHighestEarningEmployeeNames",
      "get_top_ten_highest_earning_employee_names", ["employee"], [], none, 200,
      .json (.array .string)⟩,
    ⟨"get", employeePath ++ "/{employee_id}", "get_employee_by_id", ["employee"], ["employee_id"],
      none, 200, .json (.ref "Employee")⟩,
    ⟨"post", employeePath, "create_employee", ["employee"], [], some "CreateEmployeeRequest", 201,
      .json (.ref "Employee")⟩,
    ⟨"delete", employeePath ++ "/{employee_id}", "delete_employee_by_id", ["employee"],
      ["employee_id"], none, 200, .text⟩,
    ⟨"get", "/", "root", [], [], none, 200, .untyped⟩ ]

/-- The distinct paths of the operations, in order of first appearance. -/
def paths (os : List Operation) : List String :=
  (os.map (·.path)).eraseDups

/-- The paths object: each path with its operations by method. -/
def pathsValue (os : List Operation) : Value :=
  .obj ((paths os).map fun p =>
    (p, .obj ((os.filter (·.path == p)).map fun o => (o.method, o.toValue))))

/-- The interface's title. -/
def title : String := "Employee API"

/-- The interface's description text. -/
def summary : String := "REST facade over the upstream employee-management API"

/-- The OpenAPI description of the interface. -/
def document : Value :=
  .obj [("openapi", .str "3.1.0"),
    ("info", .obj [("title", .str title), ("description", .str summary),
      ("version", .str Settings.defaults.appVersion)]),
    ("paths", pathsValue operations),
    ("components", .obj [("schemas", .obj (records.map fun r => (r.name, r.toValue)))])]

end Description

end EmployeeGateway
