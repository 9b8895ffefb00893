import FleetTelemetry.Store.Entry
import FleetTelemetry.Error

/-!
# Device states with expiry

Device states are kept per integration, action and device. An entry may expire: it was written
with a time to live, and from then on it reads as absent, although it stays in the table (and
counts towards its size) until expired entries are cleared. A time to live too long to be
represented means the entry never expires.

A store is anything with a `get` and a `set` in some monad; both may fail with a store fault.
The table here is the in-memory store, given the current instant on every call.
-/

namespace FleetTelemetry

structure StateKey where
  integrationId : String
  actionId : String
  sourceId : String
  deriving BEq, DecidableEq, Repr

structure StateEntry where
  state : DeviceState
  expiresAt : Option Time.Stamp := none
  deriving BEq, Repr

def StateEntry.isLive (e : StateEntry) (now : Time.Stamp) : Bool :=
  match e.expiresAt with
  | some t => decide (now < t)
  | none => true

/-- The expiry of an entry written at `now` with a time to live: none when there is no time to
live or the expiry cannot be represented. -/
def expiryOf (now : Time.Stamp) (ttl : Option Duration) : Option Time.Stamp :=
  ttl.bind now.addDuration?

/-- The in-memory table: one entry per key, in the order keys were first written. -/
structure StateTable where
  entries : List (StateKey × StateEntry) := []
  deriving Repr

namespace StateTable

def get (t : StateTable) (k : StateKey) (now : Time.Stamp) : Option DeviceState :=
  match t.entries.lookup k with
  | some e => if e.isLive now then some e.state else none
  | none => none

def putEntry (k : StateKey) (e : StateEntry) : List (StateKey × StateEntry) → List (StateKey × StateEntry)
  | [] => [(k, e)]
  | (k', e') :: rest => if k' = k then (k, e) :: rest else (k', e') :: putEntry k e rest

/-- Writes a state at `now` with an optional time to live. -/
def put (t : StateTable) (k : StateKey) (s : DeviceState) (ttl : Option Duration) (now : Time.Stamp) :
    StateTable :=
  { entries := putEntry k ⟨s, expiryOf now ttl⟩ t.entries }

def clearExpired (t : StateTable) (now : Time.Stamp) : StateTable :=
  { entries := t.entries.filter fun (_, e) => e.isLive now }

def len (t : StateTable) : Nat := t.entries.length

def records (t : StateTable) : List (StateKey × StateEntry) := t.entries

/-- The table holding records; a later record under a key replaces an earlier one. -/
def fromRecords (rs : List (StateKey × StateEntry)) : StateTable :=
  rs.foldl (fun t r => { entries := putEntry r.1 r.2 t.entries }) {}

end StateTable

structure StateStore (m : Type → Type) where
  get : StateKey → m (Except StoreFault (Option DeviceState))
  set : StateKey → DeviceState → Option Duration → m (Except StoreFault Unit)

/-- The in-memory store over a table, its clock reading `now` at every call; it never fails. -/
def StateTable.store (now : Time.Stamp) : StateStore (StateM StateTable) :=
  ⟨fun k => modifyGet fun t => (.ok (t.get k now), t),
   fun k s ttl => modifyGet fun t => (.ok (), t.put k s ttl now)⟩

/-- A checkpoint store in a monad `m`, keyed by integration and action. -/
structure CheckpointStore (m : Type → Type) where
  get : String → String → m (Except StoreFault (Option Checkpoint))
  set : String → String → Checkpoint → m (Except StoreFault Unit)

def putCheckpoint (k : String × String) (c : Checkpoint) :
    List ((String × String) × Checkpoint) → List ((String × String) × Checkpoint)
  | [] => [(k, c)]
  | (k', c') :: rest => if k' = k then (k, c) :: rest else (k', c') :: putCheckpoint k c rest

end FleetTelemetry
