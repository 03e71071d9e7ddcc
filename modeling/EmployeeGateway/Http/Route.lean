
/-!
# Routes of the HTTP interface

The interface answers at a fixed table of routes, tried in order:

| method | path | endpoint |
|---|---|---|
| GET, HEAD | `/openapi.json` | the interface's description |
| GET, HEAD | `/docs` | the API explorer |
| GET, HEAD | `/docs/oauth2-redirect` | the explorer's sign-in return |
| GET, HEAD | `/redoc` | the reference document |
| GET | `/api/v1/health` | health |
| GET | `/api/v1/health/ready` | readiness |
| GET | `/api/v1/employee` | all employees |
| GET | `/api/v1/employee/search/{text}` | search by name |
| GET | `/api/v1/employee/highestSalary` | highest salary |
| GET | `/api/v1/employee/topTenHighestEarningEmployeeNames` | top ten names |
| GET | `/api/v1/employee/{id}` | one employee |
| POST | `/api/v1/employee` | create |
| DELETE | `/api/v1/employee/{id}` | delete |
| GET | `/` | root |

A fixed path matches itself, and also itself followed by one line feed (the
end of a path may stand before a final line feed). A path with a parameter
matches its prefix followed by a non-empty segment without `/`, which is the
parameter. A route whose path matches but whose method differs matches only
in part.

`dispatch` finds the endpoint: the first route that matches fully; else, if
some route matches in part, the method is not allowed; else, unless the path
is the root, the path is changed at its end (trailing slashes removed, or one
added when there is none) and if some route matches that path at all, the
answer is a redirect to that path; else nothing is found.
-/

namespace EmployeeGateway

/-- The endpoints of the interface, with the path parameter they take. -/
inductive Endpoint where
  | description
  | explorer
  | signInReturn
  | reader
  | root
  | health
  | ready
  | allEmployees
  | search (text : String)
  | highestSalary
  | topTenNames
  | byId (id : String)
  | create
  | removeById (id : String)
  deriving Repr, DecidableEq, Inhabited

/-- The path of a route: fixed, or a prefix followed by one parameter segment. -/
inductive PathPattern where
  | fixed (path : String)
  | segment (pathPrefix : String)
  deriving Repr, DecidableEq, Inhabited

namespace PathPattern

/-- The parameter a path gives to the pattern (empty for a fixed one), if it
matches. -/
def capture? (p : PathPattern) (path : String) : Option String :=
  match p with
  | .fixed f => if path == f || path == f ++ "\n" then some "" else none
  | .segment pre =>
    if pre.toList.isPrefixOf path.toList then
      let rest := path.toList.drop pre.length
      if !rest.isEmpty && !rest.contains '/' then some (String.ofList rest) else none
    else none

end PathPattern

/-- How well a route matches a request. -/
inductive Fit where
  /-- The path does not match. -/
  | miss
  /-- The path matches but the method does not. -/
  | pathOnly
  /-- Path and method match. -/
  | full
  deriving Repr, DecidableEq, Inhabited

/-- A route: its methods, a path pattern, and the endpoint for the parameter. -/
structure Route where
  methods : List String
  pattern : PathPattern
  endpoint : String → Endpoint

namespace Route

/-- How the route matches a method and path, with the endpoint reached. -/
def fit (r : Route) (method path : String) : Fit × Option Endpoint :=
  match r.pattern.capture? path with
  | none => (.miss, none)
  | some s => if r.methods.contains method then (.full, some (r.endpoint s)) else (.pathOnly, none)

/-- The employee routes' common prefix. -/
def employeePath : String := "/api/v1/employee"

/-- The table of routes, in the order they are tried. -/
def table : List Route :=
  [ ⟨["GET", "HEAD"], .fixed "/openapi.json", fun _ => .description⟩,
    ⟨["GET", "HEAD"], .fixed "/docs", fun _ => .explorer⟩,
    ⟨["GET", "HEAD"], .fixed "/docs/oauth2-redirect", fun _ => .signInReturn⟩,
    ⟨["GET", "HEAD"], .fixed "/redoc", fun _ => .reader⟩,
    ⟨["GET"], .fixed "/api/v1/health", fun _ => .health⟩,
    ⟨["GET"], .fixed "/api/v1/health/ready", fun _ => .ready⟩,
    ⟨["GET"], .fixed employeePath, fun _ => .allEmployees⟩,
    ⟨["GET"], .segment (employeePath ++ "/search/"), .search⟩,
    ⟨["GET"], .fixed (employeePath ++ "/highestSalary"), fun _ => .highestSalary⟩,
    ⟨["GET"], .fixed (employeePath ++ "/topTenHighestEarningEmployeeNames"), fun _ => .topTenNames⟩,
    ⟨["GET"], .segment (employeePath ++ "/"), .byId⟩,
    ⟨["POST"], .fixed employeePath, fun _ => .create⟩,
    ⟨["DELETE"], .segment (employeePath ++ "/"), .removeById⟩,
    ⟨["GET"], .fixed "/", fun _ => .root⟩ ]

end Route

/-- Where a request is sent. -/
inductive Routed where
  /-- An endpoint serves it. -/
  | endpoint (e : Endpoint)
  /-- The path is served, but not for this method. -/
  | wrongMethod
  /-- The path is served with its end changed, as this path. -/
  | redirect (path : String)
  /-- Nothing serves it. -/
  | notFound
  deriving Repr, DecidableEq, Inhabited

/-- The first endpoint of the routes that fully match. -/
def fullMatch (method path : String) : List Route → Option Endpoint
  | [] => none
  | r :: rs =>
    match r.fit method path with
    | (.full, some e) => some e
    | _ => fullMatch method path rs

/-- Does some route match the path, whatever the method? -/
def pathServed (path : String) (routes : List Route) : Bool :=
  routes.any fun r => (r.pattern.capture? path).isSome

/-- The path with its end changed: trailing slashes removed, or one added. -/
def otherEnd (path : String) : String :=
  if path.endsWith "/" then String.ofList (path.toList.reverse.dropWhile (· == '/')).reverse
  else path ++ "/"

/-- Where a request with this method and path goes. -/
def dispatch (method path : String) : Routed :=
  match fullMatch method path Route.table with
  | some e => .endpoint e
  | none =>
    if pathServed path Route.table then .wrongMethod
    else if path == "/" then .notFound
    else
      let other := otherEnd path
      if pathServed other Route.table then .redirect other
      else .notFound

end EmployeeGateway
