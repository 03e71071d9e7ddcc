import EmployeeGateway.Http.Message
import EmployeeGateway.Text.Upper

/-!
# Requests as a test client sends them

An `OutgoingRequest` is what a test client is asked to send: a method, URL
text, headers in order, and a body given as text or as a JSON document.
`OutgoingRequest.deliver` turns it into the `HttpRequest` the interface
receives, or the `SendError` that stops it, checking in this order:

1. the URL is parsed (`Url.parse`) and, unless it has both a scheme and a
   host, put under the test server `http://testserver/` (`Url.resolve`);
2. each header name and value must be ASCII;
3. the method is uppercased with the full Unicode mapping;
4. the body: text is sent as its UTF-8 bytes, and when both are given the
   text wins over the document; a document is written as compact JSON and
   must hold no NaN or infinity, and its text is then encoded as UTF-8, with
   `application/json` as content type unless a header gives one;
5. the scheme must be `http`, `https`, `ws` or `wss`;
6. `ws` and `wss` ask for a connection upgrade instead of a request;
7. the server's address is the URL's host (bracketed when it is an IPv6
   address) and its port, else the scheme's default port; the server gets the
   path decoded twice, the query as sent, a `host` header naming the URL's
   host and port unless the headers give one, and the headers with lowercase
   names.

A client cannot walk a JSON document nested deeper than
`OutgoingRequest.nestingRoom` arrays and objects (`SendError.tooDeep`), and
when an answer redirects, its location must be a URL the client can read
(`SendError.location`).
-/

namespace EmployeeGateway

/-- A request as a test client is asked to send it. -/
structure OutgoingRequest where
  method : String
  url : String
  headers : List (String × String)
  content : Option String
  json : Option Value
  deriving Repr, Inhabited

/-- The kinds of error that stop a request before it is sent. -/
inductive SendErrorKind where
  /-- The URL is not valid. -/
  | invalidUrl
  /-- Text cannot be encoded. -/
  | encoding
  /-- A value cannot be used. -/
  | value
  /-- A scheme no transport is known for. -/
  | key
  /-- The request asks for a connection upgrade. -/
  | upgrade
  /-- A document is nested too deeply to walk. -/
  | recursion
  /-- An answer breaks the protocol. -/
  | protocol
  deriving Repr, DecidableEq, Inhabited

/-- Why a request cannot be sent. -/
inductive SendError where
  | url (e : UrlError)
  | header (f : EncodeFailure)
  | body (f : EncodeFailure)
  /-- The JSON document holds NaN or an infinity. -/
  | nonFinite
  | scheme (name : String)
  | upgrade
  /-- A JSON document nested deeper than the client can walk. -/
  | tooDeep
  /-- A redirect whose location is no valid URL. -/
  | location (e : UrlError)
  deriving Repr, Inhabited

namespace SendError

/-- The kind of the error. -/
def kind : SendError → SendErrorKind
  | .url (.unencodable _) => .encoding
  | .url _ => .invalidUrl
  | .header _ | .body _ => .encoding
  | .nonFinite => .value
  | .scheme _ => .key
  | .upgrade => .upgrade
  | .tooDeep => .recursion
  | .location _ => .protocol

/-- The message of the error. -/
def message : SendError → String
  | .url e => e.message
  | .header f | .body f => f.message
  | .nonFinite => "Out of range float values are not JSON compliant"
  | .scheme s => Text.quote s
  | .upgrade => ""
  | .tooDeep => "maximum recursion depth exceeded"
  | .location e => "Invalid URL in location header: " ++ e.message ++ "."

end SendError

namespace Json

mutual

/-- Does the value hold NaN or an infinity? -/
def hasNonFinite : Value → Bool
  | .float .nan => true
  | .float (.inf _) => true
  | .arr xs => hasNonFiniteItems xs
  | .obj ms => hasNonFiniteMembers ms
  | _ => false

/-- Does an item hold NaN or an infinity? -/
def hasNonFiniteItems : List Value → Bool
  | [] => false
  | x :: xs => hasNonFinite x || hasNonFiniteItems xs

/-- Does a member's value hold NaN or an infinity? -/
def hasNonFiniteMembers : List (String × Value) → Bool
  | [] => false
  | (_, v) :: ms => hasNonFinite v || hasNonFiniteMembers ms

end

mutual

/-- How many arrays and objects are open at the deepest point of a value. -/
def depth : Value → Nat
  | .arr xs => depthItems xs + 1
  | .obj ms => depthMembers ms + 1
  | _ => 0

/-- The greatest depth of the items. -/
def depthItems : List Value → Nat
  | [] => 0
  | x :: xs => max (depth x) (depthItems xs)

/-- The greatest depth of the members' values. -/
def depthMembers : List (String × Value) → Nat
  | [] => 0
  | (_, v) :: ms => max (depth v) (depthMembers ms)

end

end Json

namespace OutgoingRequest

/-- The test server requests without a host go to. -/
def testServer : Url := ⟨"http", "testserver", none, "/", none⟩

/-- Does the header list have a header of this name, in any case? -/
def hasHeader (headers : List (String × String)) (name : String) : Bool :=
  headers.any fun h => Text.lower h.1 == name

/-- Check that every header name and value is ASCII, in order. -/
def checkHeaders : List (String × String) → Except SendError Unit
  | [] => .ok ()
  | (k, v) :: rest => do
    let _ ← (Codec.asciiBytes k).mapError .header
    let _ ← (Codec.asciiBytes v).mapError .header
    checkHeaders rest

/-- The body bytes and the content type the body brings. -/
def bodyBytes (r : OutgoingRequest) : Except SendError (List Nat × Option String) :=
  match r.content, r.json with
  | some text, _ => ((Codec.utf8Bytes text).mapError .body).map (·, none)
  | none, some v =>
    if Json.hasNonFinite v then .error .nonFinite
    else ((Codec.utf8Bytes (Json.write v)).mapError .body).map (·, some HttpRequest.jsonType)
  | none, none => .ok ([], none)

/-- The server's address: the host, bracketed when it is an IPv6 address,
and the port, else the scheme's default. -/
def serverAddress (u : Url) : String × Int :=
  (if u.host.contains ':' then "[" ++ u.host ++ "]" else u.host, u.port.getD (HttpRequest.serverPort u.scheme))

/-- How many arrays and objects a client can walk open at once in a JSON
document it sends. -/
def nestingRoom : Nat := 496

/-- Is the request's JSON document nested deeper than a client can walk? -/
def tooDeep (r : OutgoingRequest) : Bool :=
  match r.json with
  | some v => nestingRoom < Json.depth v
  | none => false

/-- The redirects a client reads a location from. -/
def redirectStatuses : List Nat := [301, 302, 303, 307, 308]

/-- Check the location of a redirecting answer: it must parse as a URL. -/
def checkAnswer (r : HttpResponse) : Except SendError Unit :=
  match r.location with
  | some l =>
    if redirectStatuses.contains r.status then
      match Url.parse l with
      | .ok _ => .ok ()
      | .error e => .error (.location e)
    else .ok ()
  | none => .ok ()

/-- The request the interface receives, or why it cannot be sent. -/
def deliver (r : OutgoingRequest) : Except SendError HttpRequest := do
  let u ← (Url.parse r.url).mapError .url
  let u ← (Url.resolve testServer u).mapError .url
  checkHeaders r.headers
  let method := Text.upper r.method
  let (body, bodyType) ← r.bodyBytes
  if !(["http", "https", "ws", "wss"].contains u.scheme) then throw (.scheme u.scheme)
  if u.scheme == "ws" || u.scheme == "wss" then throw .upgrade
  let server := serverAddress u
  let hostHeader := if hasHeader r.headers "host" then [] else [("host", u.netloc)]
  let typeHeader := match bodyType with
    | some t => if hasHeader r.headers "content-type" then [] else [("content-type", t)]
    | none => []
  let headers := hostHeader ++ r.headers.map (fun h => (Text.lower h.1, h.2)) ++ typeHeader
  let path := String.ofList (Url.unquote (Url.unquote u.pathOrRoot.toList))
  pure ⟨method, u.scheme, server, path, u.query.getD "", headers, body⟩

end OutgoingRequest

end EmployeeGateway
