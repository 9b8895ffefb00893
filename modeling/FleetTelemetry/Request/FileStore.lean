import FleetTelemetry.Request.Poll
import FleetTelemetry.Store.File
import FleetTelemetry.Request.Mask

/-!
# Requests on the file store

A `file_store` request opens a file store on a private snapshot path (optionally with a
snapshot written first, or a directory in its place) and runs steps against it: reads and
writes of states and checkpoints, reopening, overwriting or blocking the snapshot, and dumps of
what the snapshot holds. While the store failed to open, store steps answer `NoStore`.

A dump shows the snapshot's top-level keys and its entries sorted by key; an expiry time far in
the future is shown as written, any other one depends on the wall clock and is shown as
`<now-relative>`.
-/

namespace FleetTelemetry.Request

def snapshotFileName : String := "state.json"

/-- The answer of a store step while the store failed to open. -/
def noStore : Json := .obj [("error", .str "NoStore"), ("message", .str "store failed to open")]

/-- Whether a written expiry is independent of the wall clock: RFC 3339 in year 2200 or later. -/
def isFarExpiry (s : String) : Bool :=
  match Time.parseRfc3339 s with
  | .ok t => decide (2200 ≤ t.reading.year)
  | .error _ => false

def dumpEntry (v : Json) : Json :=
  match v.get? "expires_at" with
  | some (.str s) => if isFarExpiry s then v else v.setSorted "expires_at" (.str nowRelative)
  | _ => v

/-- A string member used as a sort key, empty when absent. -/
def sortText (v : Json) (k : String) : String := (v.get? k >>= Json.getStr?).getD ""

/-- Whether one list of texts comes before or equals another. -/
def textsLe : List String → List String → Bool
  | [], _ => true
  | _ :: _, [] => false
  | a :: as, b :: bs => if a < b then true else if a = b then textsLe as bs else false

/-- Entries sorted by some of their string members, ties kept in order. -/
def sortedBy (keys : List String) (xs : List Json) : List Json :=
  xs.mergeSort fun a b => textsLe (keys.map (sortText a)) (keys.map (sortText b))

def dumpJson (d : Disk) : Json :=
  match d.read with
  | .ok (some text) =>
    match Json.parse text with
    | .error _ => .obj [("raw", .str text)]
    | .ok v =>
      let keys := match v with
        | .obj ms => (ms.map fun (p : String × Json) => p.1).mergeSort (fun a b => decide (a ≤ b))
        | _ => []
      let items (k : String) := (v.get? k >>= Json.getArr?).getD []
      answer [("keys", .arr (keys.map Json.str)),
        ("device_states", .arr ((sortedBy ["integration_id", "action_id", "source_id"]
          (items "device_states")).map dumpEntry)),
        ("checkpoints", .arr (sortedBy ["integration_id", "action_id"] (items "checkpoints")))]
  | _ => .null

structure FileSession where
  disk : Disk
  store : Option FileState

def writeAnswer : Except StoreFault Unit → Json
  | .ok () => answer [("ok", .bool true)]
  | .error e => storeAnswer e

def fileStep (now : Time.Stamp) (s : FileSession) (step : Json) : Json × FileSession :=
  let withStore (k : FileState → Reply (Json × FileSession)) : Reply (Json × FileSession) :=
    match s.store with
    | some st => k st
    | none => pure (noStore, s)
  let outcome : Reply (Json × FileSession) := do
    match ← str step "op" with
    | "state_get" =>
      let k ← keyOf "int-1" step
      withStore fun st => pure (answer [("state", stateJson (st.getState k now))], s)
    | "state_set" =>
      let (k, state, ttl) ← seedOf "int-1" step
      withStore fun st =>
        let (st, d, r) := st.setState s.disk k state ttl now
        pure (writeAnswer r, ⟨d, some st⟩)
    | "cp_get" =>
      let i ← strOr step "integration_id" "int-1"
      let a ← strOr step "action_id" pullActionId
      withStore fun st =>
        pure (answer [("checkpoint", isoOrNull ((st.getCheckpoint i a).map (·.lastUpdatedTime)))], s)
    | "cp_set" =>
      let i ← strOr step "integration_id" "int-1"
      let a ← strOr step "action_id" pullActionId
      let t ← stamp step "time"
      withStore fun st =>
        let (st, d, r) := st.setCheckpoint s.disk i a ⟨t⟩
        pure (writeAnswer r, ⟨d, some st⟩)
    | "reopen" =>
      match FileState.openAt s.disk now with
      | .ok st => pure (answer [("ok", .bool true)], { s with store := some st })
      | .error e => pure (storeAnswer e, { s with store := none })
    | "write_raw" =>
      let content ← str step "content"
      pure (answer [("ok", .bool true)], { s with disk := { s.disk with entry := some (.file content) } })
    | "dump" => pure (answer [("file", dumpJson s.disk)], s)
    | "block_parent" =>
      pure (answer [("ok", .bool true)], { s with disk := { s.disk with folderIsFile := true } })
    | "block_path" =>
      pure (answer [("ok", .bool true)], { s with disk := { s.disk with entry := some .directory } })
    | "path" => pure (answer [("file_name", .str snapshotFileName)], s)
    | other => reject ("unknown file_store op " ++ Json.debugQuote other)
  match outcome with
  | .ok r => r
  | .error a => (a, s)

def fileSteps (now : Time.Stamp) : FileSession → List Json → List Json
  | _, [] => []
  | s, step :: rest =>
    let (a, s) := fileStep now s step
    a :: fileSteps now s rest

/-- `file_store`: steps against a file store on a private path. -/
def fileStore (clock : Clock) (input : Json) : Reply Json := do
  let initial ← str? input "initial"
  let pathIsDir ← boolOr input "path_is_dir" false
  let steps ← arr input "steps"
  let disk : Disk := { entry := if pathIsDir then some .directory else initial.map .file }
  let (opened, store) := match FileState.openAt disk clock.now with
    | .ok st => (Json.str "ok", some st)
    | .error e => (storeAnswer e, none)
  pure (answer [("open", opened), ("steps", .arr (fileSteps clock.now ⟨disk, store⟩ steps))])

end FleetTelemetry.Request
