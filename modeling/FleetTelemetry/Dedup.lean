import FleetTelemetry.Store.State
import FleetTelemetry.Record.Observation
import FleetTelemetry.Text.Lower

/-!
# Forwarding only what is new

A device reports its position over and over; only a change of status is worth forwarding. The
filter remembers, per device, the last status forwarded. An observation is forwarded when its
device is unknown or its status differs from the remembered one, and suppressed when the status
is unchanged.

Quiet statuses (by default `off`, matched ignoring ASCII case) are the exception: a parked
vehicle still reports, and each new report time is forwarded once. For them the filter also
remembers, for a limited time, the last report time under an action of the status's own
(`quiet_period:<status>` in lower case); a report with the same time is a duplicate.

A batch is planned before anything is written: the plan lists the observations to forward and,
for each, the state writes that become due once it is delivered, so a failed delivery leaves the
store unchanged for the observations not delivered. Writes owed by suppressed observations after
the last forwarded one are trailing writes, committed at the end.
-/

namespace FleetTelemetry

/-- How long a quiet report time is remembered: ten minutes. -/
def quietPeriod : Duration := .ofSecs 600

/-- The prefix of the action under which quiet report times are kept. -/
def quietActionPrefix : String := "quiet_period:"

inductive ForwardReason where
  | firstSeen
  | statusChanged
  | quietPeriodNewTimestamp
  deriving BEq, Repr

inductive SuppressReason where
  | statusUnchanged
  | quietPeriodDuplicate
  deriving BEq, Repr

inductive Decision where
  | forward (reason : ForwardReason)
  | suppress (reason : SuppressReason)
  deriving BEq, Repr

def Decision.isForward : Decision → Bool
  | .forward _ => true
  | .suppress _ => false

structure DedupConfig where
  quietStatuses : List String := ["off"]
  quietPeriod : Duration := quietPeriod

/-- ASCII letters upper-cased, every other character kept. -/
def asciiUpper (s : String) : String := s.map fun c => if c.isLower then c.toUpper else c

/-- Whether two texts are equal ignoring ASCII letter case. -/
def equalsIgnoringAsciiCase (a b : String) : Bool := asciiUpper a == asciiUpper b

def DedupConfig.isQuiet (c : DedupConfig) (status : String) : Bool :=
  c.quietStatuses.any fun q => equalsIgnoringAsciiCase q status

/-- The action under which the report times of a quiet status are kept. -/
def quietActionId (status : String) : String := quietActionPrefix ++ Text.toLower status

structure StateWrite where
  actionId : String
  sourceId : String
  state : DeviceState
  ttl : Option Duration
  deriving BEq, Repr

structure DedupPlan where
  forwarded : List Observation := []
  writes : List (List StateWrite) := []
  trailing : List StateWrite := []

namespace DedupPlan

def len (p : DedupPlan) : Nat := p.forwarded.length

def isEmpty (p : DedupPlan) : Bool := p.forwarded.isEmpty

/-- The writes due for the forwarded observations `start` to `stop - 1`; none when the range is
reversed or reaches past the plan. -/
def writesFor (p : DedupPlan) (start stop : Nat) : List StateWrite :=
  if start ≤ stop ∧ stop ≤ p.writes.length then ((p.writes.drop start).take (stop - start)).flatten
  else []

end DedupPlan

/-- Writes planned but not yet made, by action and device; later ones replace earlier ones. -/
abbrev Pending := List ((String × String) × DeviceState)

def Pending.note (p : Pending) (w : StateWrite) : Pending :=
  ((w.actionId, w.sourceId), w.state) :: p.filter (·.1 != (w.actionId, w.sourceId))

structure DedupFilter (m : Type → Type) where
  store : StateStore m
  integrationId : String
  config : DedupConfig := {}

namespace DedupFilter

variable {m : Type → Type} [Monad m]

def call (x : m (Except StoreFault α)) : ExceptT StoreFault m α := ExceptT.mk x

/-- The state of a device under an action: a planned one first, else the stored one. -/
def lookup (f : DedupFilter m) (pending : Pending) (actionId sourceId : String) :
    ExceptT StoreFault m (Option DeviceState) :=
  match pending.lookup (actionId, sourceId) with
  | some s => pure (some s)
  | none => call (f.store.get ⟨f.integrationId, actionId, sourceId⟩)

def quietEntry (f : DedupFilter m) (o : Observation) : StateWrite :=
  { actionId := quietActionId o.status, sourceId := o.source,
    state := { status := o.status, recordedAt := some o.recordedAtIso },
    ttl := some f.config.quietPeriod }

def decide (f : DedupFilter m) (o : Observation) (pending : Pending) :
    ExceptT StoreFault m (Decision × List StateWrite) := do
  let status := o.status
  let stored ← f.lookup pending pullActionId o.source
  let forwardWith (reason : ForwardReason) : Decision × List StateWrite :=
    let main : StateWrite := ⟨pullActionId, o.source, { status }, none⟩
    (.forward reason, if f.config.isQuiet status then [main, f.quietEntry o] else [main])
  match stored with
  | none => pure (forwardWith .firstSeen)
  | some previous =>
    if previous.status != status then pure (forwardWith .statusChanged)
    else if f.config.isQuiet status then
      let seen ← f.lookup pending (quietActionId status) o.source
      let decision := match seen.bind (·.recordedAt) with
        | some t => if t == o.recordedAtIso then Decision.suppress .quietPeriodDuplicate
                    else .forward .quietPeriodNewTimestamp
        | none => .forward .quietPeriodNewTimestamp
      pure (decision, [f.quietEntry o])
    else pure (.suppress .statusUnchanged, [])

/-- Makes writes in order, stopping at the first failure. -/
def apply (f : DedupFilter m) : List StateWrite → ExceptT StoreFault m Unit
  | [] => pure ()
  | w :: ws => do
    call (f.store.set ⟨f.integrationId, w.actionId, w.sourceId⟩ w.state w.ttl)
    f.apply ws

def evaluate (f : DedupFilter m) (o : Observation) : ExceptT StoreFault m Decision := do
  let (d, ws) ← f.decide o []
  f.apply ws
  pure d

/-- Plans the observations from `os` on, given the plan so far, the planned writes and the
writes owed since the last forwarded observation. -/
def planFrom (f : DedupFilter m) (plan : DedupPlan) (pending : Pending) (owed : List StateWrite) :
    List Observation → ExceptT StoreFault m DedupPlan
  | [] => pure { plan with trailing := owed }
  | o :: os => do
    let (d, ws) ← f.decide o pending
    let pending := ws.foldl Pending.note pending
    let owed := owed ++ ws
    if d.isForward then
      f.planFrom { plan with forwarded := plan.forwarded ++ [o], writes := plan.writes ++ [owed] }
        pending [] os
    else f.planFrom plan pending owed os

/-- Plans a batch: which observations to forward and which writes each makes due. -/
def plan (f : DedupFilter m) (os : List Observation) : ExceptT StoreFault m DedupPlan :=
  f.planFrom {} [] [] os

/-- Makes the writes due for the delivered observations `start` to `stop - 1`. -/
def commitBatch (f : DedupFilter m) (p : DedupPlan) (start stop : Nat) : ExceptT StoreFault m Unit :=
  f.apply (p.writesFor start stop)

def commitTrailing (f : DedupFilter m) (p : DedupPlan) : ExceptT StoreFault m Unit :=
  f.apply p.trailing

def filter (f : DedupFilter m) (os : List Observation) : ExceptT StoreFault m (List Observation) := do
  let p ← f.plan os
  f.commitBatch p 0 p.len
  f.commitTrailing p
  pure p.forwarded

end DedupFilter

end FleetTelemetry
