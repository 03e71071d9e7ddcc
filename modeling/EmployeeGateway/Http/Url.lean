import EmployeeGateway.Text.Codec
import EmployeeGateway.Text.Digits
import EmployeeGateway.Text.Quoted
import EmployeeGateway.Http.Address
import EmployeeGateway.Http.HostName

/-!
# URLs

`Url.parse` reads URL text into a `Url`: a lowercase scheme, an encoded host,
a port that is not the scheme's default, and a percent-encoded path and
query. The text is refused (`UrlError`) when it is too long or holds an ASCII
control character; otherwise it splits into

* a scheme: a letter and then letters, digits, `+`, `.` and `-`, followed by
  `:` (a `:` alone at the start gives an empty scheme);
* an authority after `//`, up to the next `/`, `?` or `#`; in it, a user part
  up to the last `@`, then a host (a bracketed literal up to the last `]`,
  or everything up to a `:`), then after an optional `:` the port;
* a path up to `?` or `#`, a query after `?` up to `#`, and a fragment.

Then each part is checked and brought to its normal form:

* a host of four runs of digits joined by dots must be an IPv4 address; a bracketed host an IPv6 address (the brackets are
  dropped); other ASCII hosts are lowercased and percent-encoded; any other
  host is encoded by `HostName.encode`;
* a port is an integer written in decimal, dropped when it is the default of
  the scheme as written (`http` 80, `https` 443, `ftp` 21, `ws` 80, `wss` 443);
* a path without scheme or authority may not start with `//` or `:`; with one
  of them its dot segments are removed (`Url.normalizePath`);
* path and query are percent-encoded, each with its own set of characters it
  may keep, and an escape `%XX` already written is kept. A code point is
  encoded as `%XX` for each of its UTF-8 bytes; an unpaired unit has no bytes
  and fails, also in the user part and the fragment, which are otherwise
  dropped.

Lengths and positions count code points (`Unpaired.points`).

`Url.resolve` puts a URL that is not absolute (lacking a scheme or a host)
under a base: its path, without leading slashes, and query follow the base's
path, and the result is parsed again from its parts. `Url.unquote` decodes
percent escapes, the bytes of each run of ASCII characters read as UTF-8 with
ill-formed parts replaced.
-/

namespace EmployeeGateway

namespace Url

/-! ## Percent-encoding -/

/-- An upper-case hex digit. -/
def hexDigit (n : Nat) : Char := Char.ofNat (if n < 10 then 0x30 + n else 0x41 + n - 10)

/-- A byte as `%XX`. -/
def escapeByte (b : Nat) : List Char := ['%', hexDigit (b / 16), hexDigit (b % 16)]

/-- The value of a hex digit, either case. -/
def hexValue? (c : Char) : Option Nat :=
  if '0' ≤ c && c ≤ '9' then some (c.toNat - 0x30)
  else if 'a' ≤ c && c ≤ 'f' then some (c.toNat - 0x61 + 10)
  else if 'A' ≤ c && c ≤ 'F' then some (c.toNat - 0x41 + 10)
  else none

/-- Is the character a hex digit? -/
def isHex (c : Char) : Bool := (hexValue? c).isSome

/-- Characters that never need escaping: ASCII letters and digits and `-._~`. -/
def isUnreserved (c : Char) : Bool :=
  ('a' ≤ c && c ≤ 'z') || ('A' ≤ c && c ≤ 'Z') || ('0' ≤ c && c ≤ '9') ||
    c == '-' || c == '.' || c == '_' || c == '~'

/-- The sub-delimiters `!$&'()*+,;=`. -/
def isSubDelimiter (c : Char) : Bool := "!$&'()*+,;=".toList.contains c

/-- The grave accent. -/
def grave : Char := Char.ofNat 0x60

/-- Is the character printable ASCII other than space? -/
def isVisibleAscii (c : Char) : Bool := 0x21 ≤ c.toNat && c.toNat ≤ 0x7E

/-- Characters a query keeps: visible ASCII other than `"`, `#`, `<`, `>`. -/
def querySafe (c : Char) : Bool := isVisibleAscii c && !"\"#<>".toList.contains c

/-- Characters a path keeps: those a query keeps, other than `?`, the grave
accent and braces. -/
def pathSafe (c : Char) : Bool :=
  querySafe c && c != '?' && c != grave && c != '\x7b' && c != '\x7d'

/-- Characters an ASCII host keeps besides unreserved ones: the
sub-delimiters and `"`, the grave accent, braces, `%`, `|` and backslash. -/
def hostSafe (c : Char) : Bool :=
  isSubDelimiter c || c == '"' || c == grave || c == '\x7b' || c == '\x7d' || c == '%' ||
    c == '|' || c == '\\'

/-- The failure of percent-encoding an unpaired unit, which has no UTF-8
bytes. -/
def unitFailure (u : Nat) : EncodeFailure := ⟨"utf-8", [u], 0, 1, "surrogates not allowed"⟩

/-- Percent-encode the code points that are neither unreserved nor `safe`,
keeping each `%XX` already written; an unpaired unit fails. -/
def quote (safe : Char → Bool) : List Char → Except EncodeFailure (List Char)
  | [] => .ok []
  | '%' :: a :: b :: rest =>
    if isHex a && isHex b then (quote safe rest).map ('%' :: a :: b :: ·)
    else if safe '%' then (quote safe (a :: b :: rest)).map ('%' :: ·)
    else (quote safe (a :: b :: rest)).map (escapeByte 0x25 ++ ·)
  | c :: rest =>
    if isUnreserved c || safe c then (quote safe rest).map (c :: ·)
    else
      -- the code point that starts here, which may take two characters
      let p := Unpaired.first c rest
      if Unpaired.isUnit p.1 then .error (unitFailure p.1)
      else (quote safe p.2).map ((Utf8.encodePoint p.1).flatMap escapeByte ++ ·)
termination_by cs => cs.length
decreasing_by
  all_goals simp only [List.length_cons]
  all_goals first
    | omega
    | have := Unpaired.first_length_le c rest; omega

/-- Percent-encode every code point outside `safe`, `%` included unless it
is safe. -/
def quoteAll (safe : Char → Bool) (cs : List Char) : List Char :=
  (Unpaired.points cs).flatMap fun n =>
    if n < 0x80 && safe (Char.ofNat n) then [Char.ofNat n] else (Utf8.encodePoint n).flatMap escapeByte

/-- Decode percent escapes once: the escapes of each run of ASCII characters
give bytes read as UTF-8; other characters stay. `pending` holds the bytes of
the current run, last first. -/
def unquoteRun : List Char → List Nat → List Char
  | [], pending => Utf8.decode pending.reverse
  | '%' :: a :: b :: rest, pending =>
    match hexValue? a, hexValue? b with
    | some x, some y => unquoteRun rest ((x * 16 + y) :: pending)
    | _, _ => unquoteRun (a :: b :: rest) (0x25 :: pending)
  | c :: rest, pending =>
    if c.toNat < 0x80 then unquoteRun rest (c.toNat :: pending)
    else Utf8.decode pending.reverse ++ c :: unquoteRun rest []
termination_by cs => cs.length

/-- Decode percent escapes once. -/
def unquote (cs : List Char) : List Char := unquoteRun cs []

/-! ## Paths -/

/-- The segments of a path, split at every slash. -/
def segments (cs : List Char) : List (List Char) := cs.splitOn '/'

/-- Remove dot segments: `.` is dropped, `..` drops the last segment kept
unless only the root is left. -/
def dropDots (segs : List (List Char)) : List (List Char) :=
  (segs.foldl (fun kept s =>
    if s == ['.'] then kept
    else if s == ['.', '.'] then
      match kept with
      | [] => []
      | [[]] => [[]]
      | _ :: rest => rest
    else s :: kept) []).reverse

/-- Join segments with slashes. -/
def joinSegments (segs : List (List Char)) : List Char := ['/'].intercalate segs

/-- The path with its dot segments removed. -/
def normalizePath (cs : List Char) : List Char := joinSegments (dropDots (segments cs))

end Url

/-- Why URL text cannot be used. -/
inductive UrlError where
  /-- The text is longer than 65536 code points. -/
  | tooLong
  /-- A part given on its own is longer than 65536 code points. -/
  | partTooLong (part : String)
  /-- An ASCII control character, and where it first stands. -/
  | nonPrintable (c : Char) (position : Nat)
  | ipv4 (host : String)
  | ipv6 (host : String)
  | hostName (host : String)
  | port (text : String)
  /-- A path after an authority that does not start with `/`. -/
  | pathNotRooted
  /-- A path without scheme or authority that starts with `//`. -/
  | pathDoubleSlash
  /-- A path without scheme or authority that starts with `:`. -/
  | pathColon
  /-- A part holds what percent-encoding cannot encode. -/
  | unencodable (f : EncodeFailure)
  deriving Repr, Inhabited

namespace UrlError

/-- The message of the error. -/
def message : UrlError → String
  | .tooLong => "URL too long"
  | .partTooLong p => "URL component " ++ Text.quote p ++ " too long"
  | .nonPrintable c i =>
    "Invalid non-printable ASCII character in URL, " ++ Text.quote (String.singleton c) ++
      " at position " ++ toString i ++ "."
  | .ipv4 h => "Invalid IPv4 address: " ++ Text.quote h
  | .ipv6 h => "Invalid IPv6 address: " ++ Text.quote h
  | .hostName h => "Invalid IDNA hostname: " ++ Text.quote h
  | .port t => "Invalid port: " ++ Text.quote t
  | .pathNotRooted => "For absolute URLs, path must be empty or begin with '/'"
  | .pathDoubleSlash => "Relative URLs cannot have a path starting with '//'"
  | .pathColon => "Relative URLs cannot have a path starting with ':'"
  | .unencodable f => f.message

end UrlError

/-- A parsed URL. The host is encoded (an IPv6 literal without brackets), the
port is absent when it is the scheme's default, and path and query are
percent-encoded; an absent query differs from an empty one. -/
structure Url where
  scheme : String
  host : String
  port : Option Int
  path : String
  query : Option String
  deriving Repr, Inhabited

namespace Url

/-! ## Splitting URL text -/

/-- Is the character allowed in a scheme after its first letter? -/
def isSchemeChar (c : Char) : Bool := c.isAlphanum || c == '+' || c == '.' || c == '-'

/-- The scheme and the text after its colon; no colon, no scheme. -/
def splitScheme (cs : List Char) : List Char × List Char :=
  match cs with
  | ':' :: rest => ([], rest)
  | c :: _ =>
    if c.isAlpha then
      let run := cs.takeWhile isSchemeChar
      match cs.drop run.length with
      | ':' :: rest => (run, rest)
      | _ => ([], cs)
    else ([], cs)
  | [] => ([], [])

/-- The authority after `//` and the text after it; no `//`, no authority. -/
def splitAuthority (cs : List Char) : List Char × List Char :=
  match cs with
  | '/' :: '/' :: rest =>
    let a := rest.takeWhile fun c => c != '/' && c != '?' && c != '#'
    (a, rest.drop a.length)
  | _ => ([], cs)

/-- The text before the last occurrence of `c` and after it, if `c` occurs. -/
def splitAtLast (c : Char) (cs : List Char) : Option (List Char × List Char) :=
  let back := cs.reverse
  match back.dropWhile (· != c) with
  | [] => none
  | _ :: before => some (before.reverse, (back.takeWhile (· != c)).reverse)

/-- The user part, host and port text of an authority. -/
def authorityParts (a : List Char) : List Char × List Char × List Char :=
  let (user, rest) := (splitAtLast '@' a).getD ([], a)
  let (host, afterHost) :=
    match rest with
    | '[' :: inner =>
      match splitAtLast ']' inner with
      | some (lit, after) => ('[' :: lit ++ [']'], after)
      | none => (rest.takeWhile (· != ':'), rest.dropWhile (· != ':'))
    | _ => (rest.takeWhile (· != ':'), rest.dropWhile (· != ':'))
  let port := match afterHost with
    | ':' :: p => p
    | p => p
  (user, host, port)

/-- The first ASCII control character of the text and its position. -/
def firstControl (cs : List Char) : Option (Char × Nat) :=
  let good := cs.takeWhile fun c => !(c.toNat < 0x20 || c.toNat == 0x7F)
  (cs.drop good.length).head?.map fun c => (c, (Unpaired.points good).length)

/-! ## Checking the parts -/

/-- Is the text four runs of ASCII digits joined by dots? -/
def looksDotted (cs : List Char) : Bool :=
  let parts := cs.splitOn '.'
  parts.length == 4 && parts.all fun p => !p.isEmpty && p.all Char.isDigit

/-- Lowercase the ASCII letters. -/
def asciiLower (cs : List Char) : List Char := cs.map Char.toLower

/-- The encoded form of a host. -/
def encodeHost (host : List Char) : Except UrlError String :=
  let text := String.ofList host
  if host.isEmpty then .ok ""
  else if looksDotted host then
    if Ipv4.validChars host then .ok text else .error (.ipv4 text)
  else if host.head? == some '[' && host.getLast? == some ']' && 2 ≤ host.length then
    let inner := String.ofList ((host.drop 1).dropLast)
    if Ipv6.valid inner then .ok inner else .error (.ipv6 text)
  else if host.all (·.toNat < 0x80) then
    match quote hostSafe (asciiLower host) with
    | .ok cs => .ok (String.ofList cs)
    | .error f => .error (.unencodable f)
  else
    match HostName.encode text with
    | some h => .ok h
    | none => .error (.hostName text)

/-- The default port of a scheme, as written. -/
def defaultPort (scheme : String) : Option Int :=
  if scheme == "http" || scheme == "ws" then some 80
  else if scheme == "https" || scheme == "wss" then some 443
  else if scheme == "ftp" then some 21
  else none

/-- The port of port text: none when empty or the scheme's default. -/
def readPort (scheme : String) (text : List Char) : Except UrlError (Option Int) :=
  if text.isEmpty then .ok none
  else
    match Text.decimalInt? (String.ofList text) with
    | none => .error (.port (String.ofList text))
    | some n => .ok (if defaultPort scheme == some n then none else some n)

/-- Fail on the first unpaired unit, which percent-encoding cannot encode. -/
def checkUnits (cs : List Char) : Except UrlError Unit :=
  match (Unpaired.points cs).find? Unpaired.isUnit with
  | some u => .error (.unencodable (unitFailure u))
  | none => .ok ()

/-- Check a path against what its URL has. -/
def checkPath (path : List Char) (hasScheme hasAuthority : Bool) : Except UrlError Unit :=
  if hasAuthority && !path.isEmpty && path.head? != some '/' then .error .pathNotRooted
  else if !hasScheme && !hasAuthority then
    match path with
    | '/' :: '/' :: _ => .error .pathDoubleSlash
    | ':' :: _ => .error .pathColon
    | _ => .ok ()
  else .ok ()

/-- A URL from its parts as written. -/
def ofParts (scheme authority path : List Char) (query fragment : Option (List Char)) :
    Except UrlError Url := do
  let (user, host, port) := authorityParts authority
  checkUnits user
  let host ← encodeHost host
  let port ← readPort (String.ofList scheme) port
  let hasScheme := !scheme.isEmpty
  let hasAuthority := !user.isEmpty || !host.isEmpty || port.isSome
  checkPath path hasScheme hasAuthority
  let path := if hasScheme || hasAuthority then normalizePath path else path
  let path ← (quote pathSafe path).mapError .unencodable
  let query ← match query with
    | some q => ((quote querySafe q).mapError .unencodable).map some
    | none => pure none
  match fragment with
  | some f => checkUnits f
  | none => pure ()
  pure ⟨String.ofList (asciiLower scheme), host, port, String.ofList path, query.map String.ofList⟩

/-- The longest text a URL may be. -/
def maxLength : Nat := 65536

/-- Parse URL text. -/
def parse (text : String) : Except UrlError Url := do
  let cs := text.toList
  if maxLength < (Unpaired.points cs).length then throw .tooLong
  match firstControl cs with
  | some (c, i) => throw (.nonPrintable c i)
  | none => pure ()
  let (scheme, rest) := splitScheme cs
  let (authority, rest) := splitAuthority rest
  let path := rest.takeWhile fun c => c != '?' && c != '#'
  let rest := rest.drop path.length
  let (query, rest) : Option (List Char) × List Char := match rest with
    | '?' :: r => (some (r.takeWhile (· != '#')), r.dropWhile (· != '#'))
    | r => (none, r)
  let fragment := match rest with
    | '#' :: r => some r
    | _ => none
  ofParts scheme authority path query fragment

/-! ## Views and resolution -/

/-- Does the URL have both a scheme and a host? -/
def isAbsolute (u : Url) : Bool := !u.scheme.isEmpty && !u.host.isEmpty

/-- The host, bracketed when it is an IPv6 literal, and the port. -/
def netloc (u : Url) : String :=
  (if u.host.contains ':' then "[" ++ u.host ++ "]" else u.host) ++
    (match u.port with
     | some p => ":" ++ toString p
     | none => "")

/-- The path, the root when empty. -/
def pathOrRoot (u : Url) : String := if u.path.isEmpty then "/" else u.path

/-- The path and the query after `?`, if there is one. -/
def rawPath (u : Url) : String :=
  u.pathOrRoot ++ (match u.query with
    | some q => "?" ++ q
    | none => "")

/-- Put a URL that is not absolute under `base`: its path without leading
slashes, and its query, follow the base's path (which ends in `/`). -/
def resolve (base u : Url) : Except UrlError Url :=
  if u.isAbsolute then .ok u
  else
    let basePath := if base.pathOrRoot.endsWith "/" then base.pathOrRoot else base.pathOrRoot ++ "/"
    let raw := basePath.toList ++ u.rawPath.toList.dropWhile (· == '/')
    let path := raw.takeWhile (· != '?')
    let query := match raw.dropWhile (· != '?') with
      | _ :: q => some q
      | [] => none
    if maxLength < (Unpaired.points path).length then .error (.partTooLong "path")
    else if (query.map fun q => (Unpaired.points q).length).getD 0 > maxLength then
      .error (.partTooLong "query")
    else ofParts base.scheme.toList base.netloc.toList path query none

end Url

end EmployeeGateway
