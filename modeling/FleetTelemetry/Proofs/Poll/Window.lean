import FleetTelemetry.Proofs.Poll.Redelivery
import FleetTelemetry.Proofs.Retry.Schedule
import FleetTelemetry.Proofs.Time.Wire

/-!
# Runs ask from their checkpoint

A cycle asks the vendor for the reports since its checkpoint, naming the window start in the
vendor's text as the query parameter `lastGMTUpdateTime`. The world `σ` here logs every request
the cycle's transport sends (`PollCycle.LogsRequests`); the stores and the sink leave that log
alone.

A run that starts with the checkpoint `t` stored, at a time not before `t`, asks the vendor only
with `lastGMTUpdateTime` the wire text of `t`, and asks at least once when it succeeds
(`run_asks_from_checkpoint`). With the round trips of the wire text, the checkpoint a vendor
reported in wire text goes back to the vendor as that text, up to an explicit sign before the
year.
-/

namespace FleetTelemetry

variable {σ : Type}

/-- The transport of a cycle logs each request it sends in `asked`; the stores and the sink
leave the log alone. -/
structure PollCycle.LogsRequests (c : PollCycle (StateM σ)) (asked : σ → List Http.Request) : Prop where
  send (r : Http.Request) (s : σ) : asked ((c.send r).run s).2 = asked s ++ [r]
  get (k : StateKey) : Keeps asked (c.states.get k)
  set (k : StateKey) (d : DeviceState) (t : Option Duration) : Keeps asked (c.states.set k d t)
  sink (os : List Observation) : Keeps asked (c.sink.send os)
  checkpoint_get (i a : String) : Keeps asked (c.checkpoints.get i a)
  checkpoint_set (i a : String) (cp : Checkpoint) : Keeps asked (c.checkpoints.set i a cp)

/-! ### Asking the vendor -/

section Fetch

variable {ρ ε α : Type} {asked : σ → List ρ}

/-- Retrying an attempt that logs `r` logs `r` once per attempt made, and makes at least one,
when waiting logs nothing. -/
theorem retryFrom_logs {op : Nat → ExceptT Halt (StateM σ) (Except ε α)} {r : ρ}
    (hop : ∀ n s, asked ((op n).run.run s).2 = asked s ++ [r]) {pause : Nat → ExceptT Halt (StateM σ) Unit}
    (hpause : ∀ n, Keeps asked (pause n).run) (retry : ε → Bool) :
    ∀ attempt spare s, ∃ n, asked ((retryFrom op retry pause attempt spare).run.run s).2 =
      asked s ++ List.replicate (n + 1) r
  | attempt, 0, s => ⟨0, hop attempt s⟩
  | attempt, spare + 1, s => by
    rcases hrun : (op attempt).run.run s with ⟨res, s₁⟩
    have hlog : asked s₁ = asked s ++ [r] := by
      have h := hop attempt s
      rwa [hrun] at h
    rcases res with x | e | a
    · exact ⟨0, by rw [retryFrom_succ_attempt_halt hrun]; exact hlog⟩
    · cases hretry : retry e with
      | false => exact ⟨0, by rw [retryFrom_succ_stop hrun hretry]; exact hlog⟩
      | true =>
        rcases hp : (pause attempt).run.run s₁ with ⟨w, s₂⟩
        have hwait : asked s₂ = asked s₁ := (hpause attempt).of_run hp
        rcases w with x | ⟨⟩
        · exact ⟨0, by rw [retryFrom_succ_halt hrun hretry hp, hwait, hlog]; rfl⟩
        obtain ⟨n, hn⟩ := retryFrom_logs hop hpause retry (attempt + 1) spare s₂
        refine ⟨n + 1, ?_⟩
        rw [retryFrom_succ_retry hrun hretry hp, hn, hwait, hlog, List.append_assoc,
          List.replicate_succ (n := n + 1)]
        rfl
    · exact ⟨0, by rw [retryFrom_succ_ok hrun]; exact hlog⟩

theorem VendorClient.fetch_logs (client : VendorClient) {send : Http.Request → StateM σ Http.Outcome}
    {asked : σ → List Http.Request} (hsend : ∀ r s, asked ((send r).run s).2 = asked s ++ [r])
    (draws : Nat → Float) (request : Http.Request) (s : σ) :
    ∃ n, asked ((client.fetch send draws request).run.run s).2 = asked s ++ List.replicate (n + 1) request :=
  retryFrom_logs (fun _ s => by rw [ExceptT.run_lift, StateT.run_map, StateT.run_map]; exact hsend request s)
    (fun a => client.retry.keeps_wait (draws a) a) _ 0 _ s

end Fetch

theorem VendorClient.buildRequest_lastGMTUpdateTime (client : VendorClient) (w : Time.Window)
    (creds : Credentials) {start : String} (h : w.start.wire = .ok start) :
    ∃ request, client.buildRequest w creds = .ok request ∧
      request.queryValue "lastGMTUpdateTime" = some start := by
  refine ⟨_, by simp only [VendorClient.buildRequest, Time.Window.startWire, h]; rfl, ?_⟩
  simp only [Http.Request.queryValue, Http.Request.withQuery, Http.Request.withTimeoutMs,
    Http.Request.new, List.nil_append, List.cons_append]
  rfl

theorem VendorClient.buildRequest_error (client : VendorClient) (w : Time.Window) (creds : Credentials)
    {e : Halt} (h : w.start.wire = .error e) : client.buildRequest w creds = .error e := by
  simp only [VendorClient.buildRequest, Time.Window.startWire, h]
  rfl

theorem Time.Window.compute_checkpoint {t now : Time.Stamp} (h : ¬ now < t) (hours : Nat) :
    Time.Window.compute (some t) hours now = .ok ⟨t, now⟩ := by
  simp [Time.Window.compute, Time.Stamp.min, h]
  rfl

/-! ### The requests of a run -/

section Run

variable {α γ : Type} {β : Type} {v : σ → β}

theorem cycle_bind_keeps_right {x : CycleM (StateM σ) α} {k : α → CycleM (StateM σ) γ}
    (hk : ∀ a, Keeps v (k a).run.run) (s : σ) :
    v ((x >>= k).run.run.run s).2 = v (x.run.run.run s).2 := by
  rcases hx : x.run.run.run s with ⟨res, s₁⟩
  rcases res with e | e | a
  · rw [cycle_bind_halt hx]
  · rw [cycle_bind_fault hx]
  · rw [cycle_bind_ok hx]
    exact hk a s₁

theorem cycle_map_ok {x : CycleM (StateM σ) α} {g : α → γ} {a : α} {s s' : σ}
    (h : x.run.run.run s = (.ok (.ok a), s')) : (g <$> x).run.run.run s = (.ok (.ok (g a)), s') := by
  rw [map_eq_pure_bind, cycle_bind_ok h]
  rfl

theorem cycle_map_fault {x : CycleM (StateM σ) α} {g : α → γ} {e : PollFault} {s s' : σ}
    (h : x.run.run.run s = (.ok (.error e), s')) : (g <$> x).run.run.run s = (.ok (.error e), s') := by
  rw [map_eq_pure_bind, cycle_bind_fault h]

end Run

namespace PollCycle

variable {c : PollCycle (StateM σ)} {held : σ → String × String → Option Checkpoint}
  {asked : σ → List Http.Request}

/-- The first steps of a run that starts with the checkpoint `t` stored, at a time not before
`t`: they ask the vendor only with the wire text of `t`, and at least once when they succeed. -/
theorem intake_asks_from_checkpoint (hcp : c.checkpoints.Holds held) (hlog : c.LogsRequests asked)
    {t now : Time.Stamp} (hle : ¬ now < t) {s₀ : σ}
    (hheld : held s₀ (c.integration.id, pullActionId) = some ⟨t⟩) :
    ∃ rs, asked ((c.intake now).run.run.run s₀).2 = asked s₀ ++ rs ∧
      (∀ q ∈ rs, ∃ w, t.wire = .ok w ∧ q.queryValue "lastGMTUpdateTime" = some w) ∧
      (∀ i, ((c.intake now).run.run.run s₀).1 = .ok (.ok i) → rs ≠ []) := by
  unfold intake
  cases hoff : c.pullConfig.utcOffset.mapError PollFault.invalid with
  | error e =>
    rw [cycle_bind_fault (pureFault_run _ _)]
    exact ⟨[], by simp, by simp, fun _ h => by cases h⟩
  | ok offset =>
    rw [cycle_bind_ok (pureFault_run _ _)]
    rcases hget : (c.checkpoints.get c.integration.id pullActionId).run s₀ with ⟨res, s₁⟩
    have hs₁ : asked s₁ = asked s₀ := Keeps.of_run (hlog.checkpoint_get _ _) hget
    cases res with
    | error e =>
      rw [cycle_bind_fault (cycle_map_fault (by rw [step_run, hget]; rfl))]
      exact ⟨[], by simp [hs₁], by simp, fun _ h => by cases h⟩
    | ok cp =>
      have hread : cp = some ⟨t⟩ := (hcp.get_ok _ _ s₀ cp (by rw [hget])).trans hheld
      subst hread
      rw [cycle_bind_ok (cycle_map_ok (by rw [step_run, hget]; rfl))]
      rw [cycle_bind_ok (by
        rw [pureHalt_run, Option.map_some, Time.Window.compute_checkpoint hle]
        rfl)]
      cases hwire : t.wire with
      | error e =>
        have hreq : (pureHalt (c.vendor.buildRequest ⟨t, now⟩ c.credentials) :
            CycleM (StateM σ) Http.Request).run.run.run s₁ = (.error e, s₁) := by
          rw [pureHalt_run, c.vendor.buildRequest_error ⟨t, now⟩ c.credentials hwire]
          rfl
        rw [cycle_bind_halt hreq]
        exact ⟨[], by simp [hs₁], by simp, fun _ h => by cases h⟩
      | ok w =>
        obtain ⟨request, hrequest, hquery⟩ :=
          c.vendor.buildRequest_lastGMTUpdateTime ⟨t, now⟩ c.credentials hwire
        have hreq : (pureHalt (c.vendor.buildRequest ⟨t, now⟩ c.credentials) :
            CycleM (StateM σ) Http.Request).run.run.run s₁ = (.ok (.ok request), s₁) := by
          rw [pureHalt_run, hrequest]
          rfl
        rw [cycle_bind_ok hreq]
        obtain ⟨n, hn⟩ := c.vendor.fetch_logs hlog.send c.draws request s₁
        refine ⟨List.replicate (n + 1) request, ?_, ?_, fun _ _ => by simp⟩
        · -- the fetch logs the request; converting the page logs nothing
          refine (cycle_bind_keeps_right (fun _ => (Keeps.pureHalt _).cycle_bind fun _ =>
            (Keeps.pureFault _).cycle_bind fun _ => Keeps.cycle_pure _) s₁).trans ?_
          rw [haltingStep_run, hn, hs₁]
        · intro q hq
          rw [List.eq_of_mem_replicate hq]
          exact ⟨w, rfl, hquery⟩

/-- After its first steps a run touches a view only by the filter's reads, the sink, the state
writes and the checkpoint write. -/
theorem run_keeps_after_intake {β : Type} {v : σ → β} (hget : ∀ k, Keeps v (c.states.get k))
    (hset : ∀ k d t, Keeps v (c.states.set k d t)) (hsink : ∀ os, Keeps v (c.sink.send os))
    (hcpset : ∀ i a cp, Keeps v (c.checkpoints.set i a cp)) (now : Time.Stamp) (s : σ) :
    v ((c.run now).run.run.run s).2 = v ((c.intake now).run.run.run s).2 := by
  unfold run
  refine cycle_bind_keeps_right (fun i => ?_) s
  refine (Keeps.dedupStep (c.filter.keeps_plan hget _)).cycle_bind fun p => ?_
  refine (c.keeps_deliverPlan hsink hset p).cycle_bind fun counts => ?_
  obtain ⟨extracted, sent⟩ := counts
  exact (keeps_advance hcpset _ _).cycle_bind fun _ => Keeps.cycle_pure _

/-- A run that starts with the checkpoint `t` stored, at a time not before `t`, asks the vendor
only with `lastGMTUpdateTime` the wire text of `t`, and asks at least once when it succeeds. -/
theorem run_asks_from_checkpoint (hcp : c.checkpoints.Holds held) (hlog : c.LogsRequests asked)
    {t now : Time.Stamp} (hle : ¬ now < t) {s₀ s₁ : σ}
    {r : Except Halt (Except PollFault CycleReport)}
    (hheld : held s₀ (c.integration.id, pullActionId) = some ⟨t⟩)
    (hrun : (c.run now).run.run.run s₀ = (r, s₁)) :
    ∃ rs, asked s₁ = asked s₀ ++ rs ∧
      (∀ q ∈ rs, ∃ w, t.wire = .ok w ∧ q.queryValue "lastGMTUpdateTime" = some w) ∧
      (∀ report, r = .ok (.ok report) → rs ≠ []) := by
  obtain ⟨rs, hasked, hquery, hsome⟩ := intake_asks_from_checkpoint hcp hlog hle hheld
  have hrest := run_keeps_after_intake hlog.get hlog.set hlog.sink hlog.checkpoint_set now s₀
  rw [hrun] at hrest
  refine ⟨rs, hrest.trans hasked, hquery, fun report hreport => ?_⟩
  subst hreport
  unfold run at hrun
  obtain ⟨i, sᵢ, hi, -⟩ := cycle_bind_ok_inv hrun
  exact hsome i (by rw [hi])

end PollCycle

/-! ### The checkpoint's text -/

/-- Text that `parseWire` reads as an instant `t` is the wire text of `t`, up to an explicit sign
before the year, and a run that starts with the checkpoint `t` stored, at a time not before `t`,
asks the vendor only with that wire text, at least once when it succeeds. The wire text of an
instant in the years 0 to 9999 is read back as the instant cut to the second below it, in UTC. -/
theorem checkpoint_wire_text_round_trip :
    (∀ (m : String) (t : Time.Stamp), Time.parseWire m = some t →
      ∃ w, t.wire = .ok w ∧
        (Text.trim m = w ∨ Text.trim m = "+" ++ w ∨ Text.trim m = "-" ++ w) ∧
        ∀ (σ : Type) (c : PollCycle (StateM σ)) (held : σ → String × String → Option Checkpoint)
          (asked : σ → List Http.Request), c.checkpoints.Holds held → c.LogsRequests asked →
          ∀ (now : Time.Stamp) (s₀ s₁ : σ) (r : Except Halt (Except PollFault CycleReport)),
            held s₀ (c.integration.id, pullActionId) = some ⟨t⟩ → ¬ now < t →
            (c.run now).run.run.run s₀ = (r, s₁) →
            ∃ rs, asked s₁ = asked s₀ ++ rs ∧
              (∀ q ∈ rs, q.queryValue "lastGMTUpdateTime" = some w) ∧
              (∀ report, r = .ok (.ok report) → rs ≠ [])) ∧
    (∀ u : Time.Stamp, 0 ≤ (Time.Stamp.mk u.utc 0).reading.year →
      (Time.Stamp.mk u.utc 0).reading.year ≤ 9999 →
      ∃ w, u.wire = .ok w ∧ Time.parseWire w = some ⟨u.utc - u.utc % 1000000000, 0⟩) := by
  refine ⟨fun m t hparse => ?_, fun u h0 h9999 => Time.parseWire_wire u ⟨h0, h9999⟩⟩
  obtain ⟨w, hwire, htext⟩ := Time.wire_of_parseWire hparse
  refine ⟨w, hwire, htext, fun σ c held asked hcp hlog now s₀ s₁ r hheld hle hrun => ?_⟩
  obtain ⟨rs, hasked, hquery, hsome⟩ := PollCycle.run_asks_from_checkpoint hcp hlog hle hheld hrun
  refine ⟨rs, hasked, fun q hq => ?_, hsome⟩
  obtain ⟨w', hw', hq'⟩ := hquery q hq
  rw [hwire] at hw'
  cases hw'
  exact hq'

theorem checkpoint_wire_text_march_first :
    Time.parseWire "2024-03-01 12:30:05" = some ⟨1709296205000000000, 0⟩ ∧
      (∃ w, (Time.Stamp.mk 1709296205000000000 0).wire = .ok w ∧
        (Text.trim "2024-03-01 12:30:05" = w ∨ Text.trim "2024-03-01 12:30:05" = "+" ++ w ∨
          Text.trim "2024-03-01 12:30:05" = "-" ++ w)) ∧
      ∃ w, (Time.Stamp.mk 1709296205123456789 0).wire = .ok w ∧
        Time.parseWire w = some ⟨1709296205123456789 - 1709296205123456789 % 1000000000, 0⟩ := by
  have hread : ((Time.parseWire "2024-03-01 12:30:05").map fun s => (s.utc, s.offset)) =
      some (1709296205000000000, 0) := by
    decide +kernel
  have hparse : Time.parseWire "2024-03-01 12:30:05" = some ⟨1709296205000000000, 0⟩ := by
    obtain ⟨⟨utc, offset⟩, hs, hst⟩ := Option.map_eq_some_iff.mp hread
    simp only [Prod.mk.injEq] at hst
    obtain ⟨rfl, rfl⟩ := hst
    exact hs
  obtain ⟨w, hw, htext, -⟩ := checkpoint_wire_text_round_trip.1 _ _ hparse
  exact ⟨hparse, ⟨w, hw, htext⟩, checkpoint_wire_text_round_trip.2 _ (by decide +kernel) (by decide +kernel)⟩

end FleetTelemetry
