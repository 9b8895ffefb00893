import FleetTelemetry.Http.Url
import FleetTelemetry.Http.Message

/-!
# Scripted servers

A scripted server listens on one port and answers each request it receives with the next reply
of its script: a status, a body, an optional `Location`, a delay before answering, and whether
the body is cut short (the declared length then exceeds what is sent). When the script is used
up every request gets `500 no scripted response left`.

Every request is recorded as the server saw it: method, path, query pairs (form-decoded: `+` is a
space, then percent-decoding), headers other than `Host`, and body. A network is the set of
servers on the loopback address; a port with no server refuses connections.
-/

namespace FleetTelemetry.Http

structure Reply where
  status : Nat := 200
  body : String := ""
  delayMs : Nat := 0
  truncate : Bool := false
  location : Option String := none
  deriving Repr

def Reply.exhausted : Reply := { status := 500, body := "no scripted response left" }

structure Received where
  method : String
  path : String
  query : List (String × String)
  headers : List (String × String)
  body : String
  deriving Repr

/-- Reads a form-encoded component: `+` is a space, then percent-decoding as UTF-8. -/
def formDecode (s : String) : String :=
  utf8Lossy (percentDecodeBytes (s.toUTF8.toList.map fun b => if b == 43 then 32 else b))

/-- The pairs of a form-encoded query: pieces between `&`, empty ones skipped, each split at its
first `=` (a piece without one has an empty value). -/
def formPairs (query : String) : List (String × String) :=
  (query.splitOn "&").filterMap fun piece =>
    if piece.isEmpty then none
    else match piece.splitOn "=" with
      | [] => none
      | [k] => some (formDecode k, "")
      | k :: rest => some (formDecode k, formDecode ("=".intercalate rest))

structure Server where
  port : Nat
  pending : List Reply
  received : List Received := []
  deriving Repr

def Server.answer (s : Server) (r : Received) : Reply × Server :=
  match s.pending with
  | reply :: rest => (reply, { s with pending := rest, received := s.received ++ [r] })
  | [] => (Reply.exhausted, { s with received := s.received ++ [r] })

structure Network where
  servers : List Server
  deriving Repr

def loopbackAddress : Nat := 0x7F000001

namespace Network

def listens (n : Network) (host : Option Host) (port : Option Nat) : Bool :=
  host == some (.ipv4 loopbackAddress) && n.servers.any fun s => some s.port == port

def deliver (n : Network) (port : Nat) (r : Received) : Option (Reply × Network) :=
  match n.servers.find? (·.port == port) with
  | none => none
  | some s =>
    let (reply, s') := s.answer r
    some (reply, { servers := n.servers.map fun t => if t.port == port then s' else t })

def receivedAt (n : Network) (port : Nat) : List Received :=
  match n.servers.find? (·.port == port) with
  | some s => s.received
  | none => []

end Network

end FleetTelemetry.Http
