import FleetTelemetry.Store.State
import FleetTelemetry.Json.ShapeText
import FleetTelemetry.Json.Print

/-!
# Stores kept in a JSON file

A file store keeps device states and checkpoints in memory and writes all of them to one JSON
snapshot after every change: `{"device_states": [...], "checkpoints": [...]}`. Opening reads the
snapshot back (a missing or blank file is an empty store) and drops the expired states. Writing
goes through a temporary file next to the snapshot, which then replaces it; when that fails the
change stays in memory and the call reports the I/O error.

The disk is modelled as what can be at the snapshot's place: nothing, a file with its text, or a
directory; and whether the snapshot's folder has been replaced by a plain file. The operating
system's complaints are those of Linux.
-/

namespace FleetTelemetry

inductive DiskEntry where
  | file (content : String)
  | directory
  deriving BEq, Repr

structure Disk where
  folderIsFile : Bool := false
  entry : Option DiskEntry := none
  deriving Repr

/-- The operating system's texts for the failures a file store meets. -/
def notADirectory : String := "Not a directory (os error 20)"

/-- Reading or replacing a directory as if it were a file. -/
def isADirectory : String := "Is a directory (os error 21)"

def fileExists : String := "File exists (os error 17)"

namespace Disk

/-- The snapshot's text: `none` when there is no file, an error text when it cannot be read. -/
def read (d : Disk) : Except String (Option String) :=
  if d.folderIsFile then .error notADirectory
  else match d.entry with
    | none => .ok none
    | some (.file c) => .ok (some c)
    | some .directory => .error isADirectory

/-- Replaces the snapshot by a text, through a temporary file in the same folder. -/
def replace (d : Disk) (content : String) : Except String Disk :=
  if d.folderIsFile then .error fileExists
  else match d.entry with
    | some .directory => .error isADirectory
    | _ => .ok { d with entry := some (.file content) }

end Disk

def isAsciiBlankText (s : String) : Bool :=
  s.toList.all fun c => c = ' ' || c = '\t' || c = '\n' || c = '\x0C' || c = '\r'

structure FileState where
  states : StateTable := {}
  checkpoints : List ((String × String) × Checkpoint) := []

namespace Snapshot

open Json (Shape)

def stampShape : Shape := .parsed rfc3339Expecting rfc3339Complaint

def stateRecordShape : Shape :=
  .record "StateRecord" [("state", DeviceState.shape, none), ("expires_at", .option stampShape, some .null)]
    [("integration_id", .string, none), ("action_id", .string, none), ("source_id", .string, none)]

def checkpointRecordShape : Shape :=
  .record "CheckpointRecord"
    [("integration_id", .string, none), ("action_id", .string, none), ("checkpoint", Checkpoint.shape, none)] []

def shape : Shape :=
  .record "Snapshot" [("device_states", .list stateRecordShape, some (.arr [])),
    ("checkpoints", .list checkpointRecordShape, some (.arr []))] []

def text (v : Json) (k : String) : String := (v.get? k >>= Json.getStr?).getD ""

def stamp? (v : Json) (k : String) : Option Time.Stamp :=
  (v.get? k >>= Json.getStr?).bind fun s => (Time.parseRfc3339 s).toOption

/-- The store contents a decoded snapshot stands for; a later entry under a key replaces an
earlier one. -/
def contents (v : Json) : FileState :=
  let states := StateTable.fromRecords (((v.get? "device_states" >>= Json.getArr?).getD []).map fun r =>
    (⟨text r "integration_id", text r "action_id", text r "source_id"⟩,
      ⟨DeviceState.ofDecoded ((r.get? "state").getD .null), stamp? r "expires_at"⟩))
  let checkpoints := ((v.get? "checkpoints" >>= Json.getArr?).getD []).foldl (fun acc r =>
    putCheckpoint (text r "integration_id", text r "action_id")
      (Checkpoint.ofDecoded ((r.get? "checkpoint").getD .null)) acc) []
  { states, checkpoints }

def stateRecordJson (k : StateKey) (e : StateEntry) : Except String Json := do
  let expires ← match e.expiresAt with
    | some t => Json.str <$> rfc3339Text t
    | none => pure .null
  pure (.obj [("integration_id", .str k.integrationId), ("action_id", .str k.actionId),
    ("source_id", .str k.sourceId), ("state", e.state.toJson), ("expires_at", expires)])

def checkpointRecordJson (k : String × String) (c : Checkpoint) : Except String Json := do
  let cp ← c.toJson
  pure (.obj [("integration_id", .str k.1), ("action_id", .str k.2), ("checkpoint", cp)])

/-- The snapshot of a store as written; fails when a time has no RFC 3339 text. -/
def ofContents (s : FileState) : Except String Json := do
  let states ← s.states.records.mapM fun (k, e) => stateRecordJson k e
  let checkpoints ← s.checkpoints.mapM fun (k, c) => checkpointRecordJson k c
  pure (.obj [("device_states", .arr states), ("checkpoints", .arr checkpoints)])

end Snapshot

namespace FileState

/-- Opens a store on the disk at `now`: a missing or blank snapshot is an empty store; expired
states are dropped. -/
def openAt (d : Disk) (now : Time.Stamp) : Except StoreFault FileState :=
  match d.read with
  | .error e => .error (.io e)
  | .ok none => .ok {}
  | .ok (some content) =>
    if isAsciiBlankText content then .ok {}
    else match Snapshot.shape.readText content with
      | .error e => .error (.serialization e.message)
      | .ok v =>
        let s := Snapshot.contents v
        .ok { s with states := s.states.clearExpired now }

def persist (s : FileState) (d : Disk) : Except StoreFault Disk :=
  match Snapshot.ofContents s with
  | .error e => .error (.serialization e)
  | .ok j =>
    match d.replace (Json.pretty j) with
    | .ok d => .ok d
    | .error e => .error (.io e)

def getState (s : FileState) (k : StateKey) (now : Time.Stamp) : Option DeviceState :=
  s.states.get k now

/-- Writes a state, drops expired ones and persists; the change stays in memory even when
persisting fails. -/
def setState (s : FileState) (d : Disk) (k : StateKey) (st : DeviceState) (ttl : Option Duration)
    (now : Time.Stamp) : FileState × Disk × Except StoreFault Unit :=
  let s := { s with states := (s.states.put k st ttl now).clearExpired now }
  match s.persist d with
  | .ok d => (s, d, .ok ())
  | .error e => (s, d, .error e)

def getCheckpoint (s : FileState) (integrationId actionId : String) : Option Checkpoint :=
  s.checkpoints.lookup (integrationId, actionId)

/-- Writes a checkpoint and persists; the change stays in memory even when persisting fails. -/
def setCheckpoint (s : FileState) (d : Disk) (integrationId actionId : String) (c : Checkpoint) :
    FileState × Disk × Except StoreFault Unit :=
  let s := { s with checkpoints := putCheckpoint (integrationId, actionId) c s.checkpoints }
  match s.persist d with
  | .ok d => (s, d, .ok ())
  | .error e => (s, d, .error e)

end FileState

end FleetTelemetry
