import FleetTelemetry.Http.Server

/-!
# The HTTP client

The client sends a request over the loopback network the way the production transport does:

* the full URL must read as a URL with a host, and its scheme must be `http` or `https`;
  header names must be tokens and header values free of control characters; otherwise the
  request fails before it is sent (a *builder* error);
* it sends `user-agent: fleetsync/0.1.0` and `accept: */*` unless the request sets them, and
  `content-length` for a non-empty body;
* it follows up to ten redirects (`301`, `302`, `303`, `307`, `308` with a readable
  `Location`): `303`, and `301`/`302` after a `POST`, continue as a `GET` without body;
  each follow-up request names the one before it in `referer`; leaving the host or port drops
  the credentials;
* the timeout covers the whole exchange, redirects included;
* a port without a server refuses the connection; a status line the client cannot read fails
  the exchange; a body shorter than declared fails when it is read; `204` and `304` have no body,
  and `101` (switching protocols) ends the exchange with no body.

Each failure has a kind and a message, written as the production transport writes them.
-/

namespace FleetTelemetry.Http

def userAgent : String := "fleetsync/0.1.0"

def redirectLimit : Nat := 10

def isTokenChar (c : Char) : Bool :=
  let n := c.toNat
  (n < 128 && c.isAlphanum) ||
    [33, 35, 36, 37, 38, 39, 42, 43, 45, 46, 94, 95, 96, 124, 126].contains n

/-- Whether a header may be sent: a non-empty token name and a value without control
characters other than tab. -/
def isSendableHeader (h : String × String) : Bool :=
  !h.1.isEmpty && h.1.toList.all isTokenChar &&
    h.2.toList.all fun c => c = '\t' || (c.toNat ≥ 32 && c.toNat ≠ 127)

namespace Failure

def builder : Failure := ⟨.other, "request failed: builder error"⟩

def builderFor (u : Url) : Failure := ⟨.other, "request failed: builder error for url (" ++ u.text ++ ")"⟩

def refused (u : Url) : Failure :=
  ⟨.connect, "connection failed: error sending request for url (" ++ u.text ++ ")"⟩

def timedOut (u : Url) : Failure :=
  ⟨.timeout, "request timeout: error sending request for url (" ++ u.text ++ ")"⟩

def unreadable (u : Url) : Failure :=
  ⟨.other, "request failed: error sending request for url (" ++ u.text ++ ")"⟩

def redirectLoop (u : Url) : Failure :=
  ⟨.other, "request failed: error following redirect for url (" ++ u.text ++ ")"⟩

def truncatedBody : Failure :=
  ⟨.body, "failed to read response body: error decoding response body"⟩

end Failure

structure Hop where
  url : Url
  method : Method
  body : Option String
  /-- The headers other than `referer` and `content-length`, sorted. -/
  headers : List (String × String)
  referer : Option String := none

def bodyHeaders : List String := ["content-type", "content-length", "content-encoding", "transfer-encoding"]

def credentialHeaders : List String :=
  ["authorization", "cookie", "cookie2", "proxy-authorization", "www-authenticate"]

def isRedirectStatus (s : Nat) : Bool := s == 301 || s == 302 || s == 303 || s == 307 || s == 308

namespace Hop

/-- The headers on the wire: the hop's own, the referer, and the body length. -/
def wireHeaders (h : Hop) : List (String × String) :=
  let hs := match h.referer with
    | some r => setHeader "referer" r h.headers
    | none => h.headers
  match h.body with
  | some b => if b.isEmpty || hs.any (·.1 == "content-length") then hs
      else setHeader "content-length" (toString b.utf8ByteSize) hs
  | none => hs

def received (h : Hop) : Received :=
  { method := h.method.name, path := (if h.url.pathText.isEmpty then "/" else h.url.pathText),
    query := formPairs (h.url.query.getD ""), headers := h.wireHeaders.filter (·.1 != "host"),
    body := h.body.getD "" }

/-- The next hop after a redirect to `next` with status `status`. -/
def follow (h : Hop) (status : Nat) (next : Url) : Hop :=
  let toGet := status == 303 || ((status == 301 || status == 302) && h.method == .post)
  let headers := if toGet then h.headers.filter fun p => !bodyHeaders.contains p.1 else h.headers
  let sameOrigin := next.host == h.url.host && next.portOrDefault == h.url.portOrDefault
  let headers := if sameOrigin then headers else headers.filter fun p => !credentialHeaders.contains p.1
  let referer := if next.scheme == "http" && h.url.scheme == "https" then none
    else some { h.url with username := "", password := "", fragment := none }.text
  { url := next, method := if toGet then .get else h.method,
    body := if toGet then none else h.body, headers, referer }

end Hop

/-- Runs an exchange from a hop: `origin` is the URL the exchange started at, `redirects` how
many redirects were followed, `elapsed` the time spent waiting. -/
def exchange (origin : Url) (timeoutMs : Nat) :
    Network → Hop → Nat → Nat → Nat → Outcome × Network
  | net, _, _, _, 0 => (.error (Failure.unreadable origin), net)
  | net, hop, redirects, elapsed, fuel + 1 =>
    let port := hop.url.portOrDefault
    match port with
    | none => (.error (Failure.refused origin), net)
    | some p =>
      if hop.url.scheme != "http" || !net.listens hop.url.host port then (.error (Failure.refused origin), net)
      else
        match net.deliver p hop.received with
        | none => (.error (Failure.refused origin), net)
        | some (reply, net) =>
          let elapsed := elapsed + reply.delayMs
          if elapsed > timeoutMs then (.error (Failure.timedOut origin), net)
          else if reply.status == 101 then (.ok ⟨101, ""⟩, net)
          else if reply.status < 200 || reply.status > 999 then (.error (Failure.unreadable origin), net)
          else
            let final : Outcome × Network :=
              if reply.status == 204 || reply.status == 304 then (.ok ⟨reply.status, ""⟩, net)
              else if reply.truncate then (.error Failure.truncatedBody, net)
              else (.ok ⟨reply.status, reply.body⟩, net)
            if !isRedirectStatus reply.status then final
            else match reply.location with
              | none => final
              | some loc =>
                match hop.url.join loc with
                | .error _ => final
                | .ok next =>
                  if redirects + 1 > redirectLimit then (.error (Failure.redirectLoop hop.url), net)
                  else if next.scheme != "http" && next.scheme != "https" then
                    (.error (Failure.builderFor next), net)
                  else exchange origin timeoutMs net (hop.follow reply.status next) (redirects + 1) elapsed fuel

/-- Checks a request before sending: its URL and headers. -/
def prepare (r : Request) : Except Failure (Url × List (String × String)) := do
  let u ← match Url.parse r.fullUrl with
    | .ok u => pure u
    | .error _ => throw Failure.builder
  if !u.hasHost then throw (Failure.builderFor u)
  if !r.headers.all isSendableHeader then throw Failure.builder
  if u.scheme != "http" && u.scheme != "https" then throw (Failure.builderFor u)
  let withDefaults := [("accept", "*/*"), ("user-agent", userAgent)].foldl
    (fun hs (n, v) => if hs.any (·.1 == n) then hs else setHeader n v hs) r.headers
  pure (u, withDefaults)

def execute (r : Request) : StateM Network Outcome := fun net =>
  match prepare r with
  | .error f => (.error f, net)
  | .ok (u, headers) =>
    exchange u r.timeoutMs net ⟨u, r.method, r.body, headers, none⟩ 0 0 (redirectLimit + 2)

end FleetTelemetry.Http
