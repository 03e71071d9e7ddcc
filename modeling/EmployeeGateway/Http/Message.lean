import EmployeeGateway.Json.Bytes
import EmployeeGateway.Json.Writer
import EmployeeGateway.Text.Blank
import EmployeeGateway.Text.Lower
import EmployeeGateway.Http.Url
import EmployeeGateway.Decimal.Notation

/-!
# HTTP requests and responses

An `HttpRequest` is a request as the interface receives it: the method, the
scheme, the address of the server, the decoded path, the query as sent, the
headers (names in lowercase, in the order sent) and the body as bytes.

`HttpRequest.readJson` reads the body the way a JSON body parameter is read:

* an empty body is absent;
* a body is read as JSON only when its content type (the first
  `content-type` header) is JSON: the part before any `;`, stripped and
  lowercased, has exactly one `/`, the main type is `application` and the
  subtype is `json` or ends in `+json`;
* a body that is not declared as JSON is kept as bytes, which no record
  accepts;
* a JSON body is decoded from its bytes (`Json.readBytes`) with at most
  `HttpRequest.nestingRoom` arrays and objects open at once; one that does
  not decode, is nested deeper, or has integers too long to convert cannot be
  read at all, and one that decodes but is not a document is refused as
  invalid.

`HttpRequest.locate` writes the absolute URL of a path on the request's own
origin: the scheme, then the first `host` header when it is a valid host
(`HttpRequest.validHost`: a bracketed IPv6 address or future literal, or a
name of unreserved characters, sub-delimiters and `%`, then an optional port
of digits up to 65535), else the server's address with its port unless that
is the scheme's default; then the percent-encoded path and the query. What a
URL may not hold is percent-encoded.

An `HttpResponse` is a status, an optional content type, a body (JSON, text
or nothing) and an optional redirect location; it is `encodable` when its
body holds no unpaired unit.
-/

namespace EmployeeGateway

/-- A request as the HTTP interface receives it. -/
structure HttpRequest where
  method : String
  scheme : String
  server : String × Int
  path : String
  query : String
  headers : List (String × String)
  body : List Nat
  deriving Repr, Inhabited

/-- What a request body is, as a body parameter sees it. -/
inductive BodyRead where
  /-- No body, or the JSON document `null`. -/
  | absent
  /-- A JSON document. -/
  | json (v : Value)
  /-- Bytes not declared as JSON. -/
  | bytes (bs : List Nat)
  /-- Declared as JSON but not a JSON document. -/
  | malformed
  /-- Declared as JSON but not readable at all. -/
  | unreadable
  deriving Repr, Inhabited

namespace HttpRequest

/-- The content type of JSON documents. -/
def jsonType : String := "application/json"

/-- The first header of a name, given in lowercase. -/
def header? (r : HttpRequest) (name : String) : Option String :=
  (r.headers.find? (·.1 == name)).map (·.2)

/-- Does a content type declare JSON? -/
def declaresJson (contentType : String) : Bool :=
  let kind := Text.lower (Text.strip (String.ofList ((contentType.toList.splitOn ';').headD [])))
  match kind.toList.splitOn '/' with
  | [main, sub] =>
    String.ofList main == "application" &&
      (String.ofList sub == "json" || (String.ofList sub).endsWith "+json")
  | _ => false

/-- How many arrays and objects a JSON body may have open at once: the
decoder shares a budget of 1000 nested calls with the 41 already in use when
a request body is decoded, and each open array or object takes one more. -/
def nestingRoom : Nat := 959

/-- Read the body as a body parameter does. -/
def readJson (r : HttpRequest) : BodyRead :=
  if r.body.isEmpty then .absent
  else
    match r.header? "content-type" with
    | some t =>
      if declaresJson t then
        match Json.readBytes nestingRoom r.body with
        | .ok .null => .absent
        | .ok v => .json v
        | .error (.text .malformed) => .malformed
        | .error _ => .unreadable
      else .bytes r.body
    | none => .bytes r.body

/-- Is the text a port: one or more ASCII digits of value at most 65535? -/
def validPort (cs : List Char) : Bool :=
  !cs.isEmpty && cs.all Char.isDigit && Decimal.digitsValue cs ≤ 65535

/-- Is the text between brackets an address literal: an IPv6 address without
zone, or a future form (`v`, hex digits, `.`, then unreserved characters,
sub-delimiters and `:`)? -/
def validLiteral : List Char → Bool
  | 'v' :: rest =>
    let hex := rest.takeWhile Url.isHex
    match rest.drop hex.length with
    | '.' :: tail =>
      !hex.isEmpty && !tail.isEmpty &&
        tail.all fun c => Url.isUnreserved c || Url.isSubDelimiter c || c == ':'
    | _ => false
  | inner => !inner.contains '%' && !inner.contains '/' && Ipv6.validAddress inner

/-- Is the text an optional port part: nothing, or `:` and a port? -/
def validPortPart : List Char → Bool
  | [] => true
  | ':' :: port => validPort port
  | _ => false

/-- Is a host header a valid host, fit to stand in a URL: a bracketed address
literal, or a name of unreserved characters, sub-delimiters and `%` that is
not empty; then an optional port? -/
def validHost (h : String) : Bool :=
  match h.toList with
  | '[' :: rest =>
    let inner := rest.takeWhile (· != ']')
    match rest.drop inner.length with
    | ']' :: after => validLiteral inner && validPortPart after
    | _ => false
  | cs =>
    let name := cs.takeWhile (· != ':')
    !name.isEmpty && name.all (fun c => Url.isUnreserved c || Url.isSubDelimiter c || c == '%') &&
      validPortPart (cs.drop name.length)

/-- The default port of the schemes a server speaks. -/
def serverPort (scheme : String) : Int := if scheme == "https" || scheme == "wss" then 443 else 80

/-- The host the request names: a valid host header, else the server. -/
def hostPart (r : HttpRequest) : String :=
  match r.header? "host" with
  | some h => if validHost h then h else serverText
  | none => serverText
where
  serverText : String :=
    if r.server.2 == serverPort r.scheme then r.server.1
    else r.server.1 ++ ":" ++ toString r.server.2

/-- Characters a location may hold as they are. -/
def locationSafe (c : Char) : Bool := Url.isUnreserved c || ":/%#?=@[]!$&'()*+,;".toList.contains c

/-- The absolute URL of a path, with the request's query, on the request's
origin. The path is percent-encoded first, keeping only unreserved characters
and `/`, so that a decoded `?` or `#` stays part of the path. -/
def locate (r : HttpRequest) (path : String) : String :=
  let path := Url.quoteAll (fun c => Url.isUnreserved c || c == '/') path.toList
  let url := (r.scheme ++ "://" ++ r.hostPart).toList ++ path ++
    (if r.query.isEmpty then [] else '?' :: r.query.toList)
  String.ofList (Url.quoteAll locationSafe url)

end HttpRequest

/-- The body of a response. -/
inductive ResponseBody where
  | json (v : Value)
  | text (s : String)
  | empty
  deriving Repr, Inhabited

/-- A response of the HTTP interface. -/
structure HttpResponse where
  status : Nat
  contentType : Option String
  body : ResponseBody
  location : Option String
  deriving Repr, Inhabited

namespace HttpResponse

/-- A JSON response. -/
def json (status : Nat) (v : Value) : HttpResponse := ⟨status, some HttpRequest.jsonType, .json v, none⟩

/-- A plain text response. -/
def text (status : Nat) (s : String) : HttpResponse := ⟨status, some "text/plain; charset=utf-8", .text s, none⟩

/-- An HTML response. -/
def html (status : Nat) (s : String) : HttpResponse := ⟨status, some "text/html; charset=utf-8", .text s, none⟩

/-- A response that only states a detail. -/
def detail (status : Nat) (message : String) : HttpResponse := json status (.obj [("detail", .str message)])

/-- A redirect to a location. -/
def redirect (location : String) : HttpResponse := ⟨307, none, .empty, some location⟩

/-- Can the body be sent as UTF-8, holding no unpaired unit? -/
def encodable (r : HttpResponse) : Bool :=
  match r.body with
  | .json v => !Json.hasUnpaired v
  | .text s => Unpaired.encodable s
  | .empty => true

/-- The response without its body, as it reaches a request that asked only
for the head. -/
def headOnly (r : HttpResponse) : HttpResponse := { r with body := .empty }

end HttpResponse

end EmployeeGateway
