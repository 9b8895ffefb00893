import FleetTelemetry.Json.Value

/-!
# HTTP requests and responses

A request names a method, a URL, query pairs (kept in the order they were added, repeats
allowed), headers (names lower-cased in ASCII, one value per name, kept sorted), an optional body
and a timeout. Its full URL appends the percent-encoded query to the URL, after `&` when the URL
already has a query and after `?` otherwise. A response is a status and a body; a transport
failure has a kind and a message.
-/

namespace FleetTelemetry.Http

inductive Method where
  | get
  | post
  deriving BEq, Repr

def Method.name : Method → String
  | .get => "GET"
  | .post => "POST"

inductive Auth where
  | none
  | bearer (token : String)
  | header (name value : String)
  deriving BEq, Repr

/-- ASCII letters lower-cased, every other character kept. -/
def asciiLower (s : String) : String := s.map fun c => if c.isUpper then c.toLower else c

def setHeader (name value : String) : List (String × String) → List (String × String)
  | [] => [(name, value)]
  | (n, v) :: rest =>
    if name < n then (name, value) :: (n, v) :: rest
    else if name = n then (name, value) :: rest
    else (n, v) :: setHeader name value rest

structure Request where
  method : Method
  url : String
  query : List (String × String) := []
  headers : List (String × String) := []
  body : Option String := none
  timeoutMs : Nat := 30000
  deriving BEq, Repr

namespace Request

/-- A request with no query, headers or body and a 30 second timeout. -/
def new (method : Method) (url : String) : Request := { method, url }

def withQuery (r : Request) (name value : String) : Request :=
  { r with query := r.query ++ [(name, value)] }

def withHeader (r : Request) (name value : String) : Request :=
  { r with headers := setHeader (asciiLower name) value r.headers }

def withBody (r : Request) (body : String) : Request := { r with body := some body }

/-- Applies an authentication: a bearer token as the `authorization` header, or a header of
its own. -/
def withAuth (r : Request) : Auth → Request
  | .none => r
  | .bearer t => { r with headers := setHeader "authorization" ("Bearer " ++ t) r.headers }
  | .header n v => { r with headers := setHeader (asciiLower n) v r.headers }

def withTimeoutMs (r : Request) (ms : Nat) : Request := { r with timeoutMs := ms }

def queryValue (r : Request) (name : String) : Option String := r.query.lookup name

/-- Whether a byte is kept as it is by percent-encoding. -/
def isUnreserved (b : UInt8) : Bool :=
  (65 ≤ b && b ≤ 90) || (97 ≤ b && b ≤ 122) || (48 ≤ b && b ≤ 57) || b == 45 || b == 95
    || b == 46 || b == 126

def hexUpper (n : Nat) : Char :=
  if n < 10 then Char.ofNat (48 + n) else Char.ofNat (55 + n)

/-- Percent-encoding of the UTF-8 bytes of a text: letters, digits and `-_.~` are kept, every
other byte becomes `%XX`. -/
def percentEncode (s : String) : String :=
  String.ofList (s.toUTF8.toList.flatMap fun b =>
    if isUnreserved b then [Char.ofNat b.toNat]
    else ['%', hexUpper (b.toNat / 16), hexUpper (b.toNat % 16)])

def fullUrl (r : Request) : String :=
  if r.query.isEmpty then r.url
  else
    let encoded := "&".intercalate (r.query.map fun (k, v) => percentEncode k ++ "=" ++ percentEncode v)
    let sep := if r.url.contains '?' then "&" else "?"
    r.url ++ sep ++ encoded

/-- The request as an object: method, URL, full URL, headers, body and timeout. -/
def toJson (r : Request) : Json :=
  .obj [("body", Json.ofOption r.body), ("full_url", .str r.fullUrl),
    ("headers", .obj (r.headers.map fun (k, v) => (k, .str v))), ("method", .str r.method.name),
    ("timeout_ms", .ofNat r.timeoutMs), ("url", .str r.url)]

end Request

structure Response where
  status : Nat
  body : String
  deriving BEq, Repr

def Response.isSuccess (r : Response) : Bool := 200 ≤ r.status && r.status < 300

inductive ErrorKind where
  | timeout
  | connect
  | body
  | other
  deriving BEq, Repr

def ErrorKind.name : ErrorKind → String
  | .timeout => "timeout"
  | .connect => "connect"
  | .body => "body"
  | .other => "request"

structure Failure where
  kind : ErrorKind
  message : String
  deriving BEq, Repr

/-- What a request leads to: a response or a transport failure. -/
abbrev Outcome := Except Failure Response

end FleetTelemetry.Http
