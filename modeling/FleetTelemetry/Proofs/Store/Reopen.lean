import FleetTelemetry.Proofs.Store.Snapshot
import FleetTelemetry.Proofs.Store.Recall

/-!
# Reopening a file store

A file store rewrites its whole snapshot after every call that changes it, and opening reads the
snapshot back and drops the states expired at the instant of opening. The tables keep one entry
a key (`FileState.Keyed`): opening gives such tables and every call keeps them so. With that, a
store reopened from the disk its last call wrote is the store itself with the expired states
dropped (`FileState.openAt_persisted`), so after any run of calls that all succeed the reopened
store answers every read as the store does at the instant of reopening
(`reopened_store_agrees`). No order of the instants is needed: the states already expired when
the last call wrote are not in the snapshot, and the others are dropped on both sides alike.
-/

namespace FleetTelemetry

/-! ### Tables with one entry a key -/

section Keys

variable {κ ν : Type} [DecidableEq κ] {put : κ → ν → List (κ × ν) → List (κ × ν)}

/-- `put` replaces the entry under its key in place, or appends one: both `StateTable.putEntry`
and `putCheckpoint` are such. -/
def ReplacesInPlace (put : κ → ν → List (κ × ν) → List (κ × ν)) : Prop :=
  ∀ k v, put k v [] = [(k, v)] ∧
    ∀ k' v' l, put k v ((k', v') :: l) = if k' = k then (k, v) :: l else (k', v') :: put k v l

theorem mem_keys_put (hput : ReplacesInPlace put) (k : κ) (v : ν) :
    ∀ (l : List (κ × ν)) x, x ∈ (put k v l).map (·.1) → x = k ∨ x ∈ l.map (·.1)
  | [], x, hx => by simp [(hput k v).1] at hx; exact .inl hx
  | (k', v') :: l, x, hx => by
    rw [(hput k v).2] at hx
    by_cases hk : k' = k
    · subst hk
      simp only [if_true, List.map_cons, List.mem_cons] at hx ⊢
      rcases hx with hx | hx
      · exact .inl hx
      · exact .inr (.inr hx)
    · simp only [hk, if_false, List.map_cons, List.mem_cons] at hx ⊢
      rcases hx with hx | hx
      · exact .inr (.inl hx)
      · rcases mem_keys_put hput k v l x hx with h | h
        · exact .inl h
        · exact .inr (.inr h)

theorem keys_nodup_put (hput : ReplacesInPlace put) (k : κ) (v : ν) :
    ∀ (l : List (κ × ν)), (l.map (·.1)).Nodup → ((put k v l).map (·.1)).Nodup
  | [], _ => by simp [(hput k v).1]
  | (k', v') :: l, h => by
    rw [(hput k v).2]
    simp only [List.map_cons, List.nodup_cons] at h
    by_cases hk : k' = k
    · subst hk
      simpa using h
    · simp only [hk, if_false, List.map_cons, List.nodup_cons]
      refine ⟨fun hmem => ?_, keys_nodup_put hput k v l h.2⟩
      rcases mem_keys_put hput k v l k' hmem with h' | h'
      · exact hk h'
      · exact h.1 h'

theorem keys_nodup_foldl_put (hput : ReplacesInPlace put) :
    ∀ (l acc : List (κ × ν)), (acc.map (·.1)).Nodup →
      ((l.foldl (fun acc p => put p.1 p.2 acc) acc).map (·.1)).Nodup
  | [], _, h => h
  | p :: l, acc, h => keys_nodup_foldl_put hput l _ (keys_nodup_put hput p.1 p.2 acc h)

end Keys

theorem putEntry_replacesInPlace : ReplacesInPlace StateTable.putEntry :=
  fun _ _ => ⟨rfl, fun _ _ _ => rfl⟩

theorem putCheckpoint_replacesInPlace : ReplacesInPlace putCheckpoint :=
  fun _ _ => ⟨rfl, fun _ _ _ => rfl⟩

namespace FileState

/-- One entry a key in both tables: what opening a store and every call on it keep. -/
def Keyed (s : FileState) : Prop :=
  (s.states.entries.map (·.1)).Nodup ∧ (s.checkpoints.map (·.1)).Nodup

theorem keyed_clearExpired {s : FileState} (h : s.Keyed) (now : Time.Stamp) :
    ({ s with states := s.states.clearExpired now } : FileState).Keyed :=
  ⟨h.1.sublist (List.filter_sublist.map _), h.2⟩

theorem keyed_contents (v : Json) : (Snapshot.contents v).Keyed := by
  refine ⟨?_, ?_⟩
  · rw [Snapshot.contents_entries]
    exact keys_nodup_foldl_put putEntry_replacesInPlace _ [] List.nodup_nil
  · rw [Snapshot.contents_checkpoints]
    exact keys_nodup_foldl_put putCheckpoint_replacesInPlace _ [] List.nodup_nil

theorem keyed_empty : ({} : FileState).Keyed := ⟨List.nodup_nil, List.nodup_nil⟩

theorem keyed_openAt {d : Disk} {now : Time.Stamp} {s : FileState} (h : openAt d now = .ok s) :
    s.Keyed := by
  unfold openAt at h
  cases hread : d.read with
  | error e => rw [hread] at h; cases h
  | ok content =>
    rw [hread] at h
    cases content with
    | none => cases h; exact keyed_empty
    | some text =>
      dsimp only at h
      by_cases hblank : isAsciiBlankText text = true
      · rw [if_pos hblank] at h
        cases h
        exact keyed_empty
      · rw [if_neg hblank] at h
        cases hv : Snapshot.shape.readText text with
        | error e => rw [hv] at h; cases h
        | ok v =>
          rw [hv] at h
          cases h
          exact keyed_clearExpired (keyed_contents v) now

theorem read_replace {d d' : Disk} {content : String} (h : d.replace content = .ok d') :
    d'.read = .ok (some content) := by
  unfold Disk.replace at h
  by_cases hf : d.folderIsFile = true
  · rw [if_pos hf] at h
    cases h
  · rw [if_neg hf] at h
    have hd' : d' = { d with entry := some (.file content) } := by
      cases he : d.entry with
      | none => rw [he] at h; cases h; rfl
      | some x =>
        cases x with
        | file c => rw [he] at h; cases h; rfl
        | directory => rw [he] at h; cases h
    rw [hd', Disk.read, if_neg hf]

theorem persist_ok {s : FileState} {d d' : Disk} (h : s.persist d = .ok d') :
    ∃ j, Snapshot.ofContents s = .ok j ∧ d.replace (Json.pretty j) = .ok d' := by
  unfold persist at h
  cases hj : Snapshot.ofContents s with
  | error e => rw [hj] at h; cases h
  | ok j =>
    rw [hj] at h
    dsimp only at h
    cases hr : d.replace (Json.pretty j) with
    | error e => rw [hr] at h; cases h
    | ok d'' => rw [hr] at h; cases h; exact ⟨j, rfl, hr⟩

/-- Reopening the disk a store was written to gives the store back, with the states expired at
the instant of opening dropped. -/
theorem openAt_persisted {s : FileState} {d d' : Disk} (hkeys : s.Keyed) (h : s.persist d = .ok d')
    (now : Time.Stamp) : openAt d' now = .ok { s with states := s.states.clearExpired now } := by
  obtain ⟨j, hj, hrep⟩ := persist_ok h
  obtain ⟨v, hv, hstates, hcps⟩ := Snapshot.readText_snapshot hj
  have hentries := Snapshot.contents_entries_of_records hstates hkeys.1
  have hcheckpoints := Snapshot.contents_checkpoints_of_records hcps hkeys.2
  unfold openAt
  rw [read_replace hrep]
  dsimp only
  rw [Snapshot.pretty_ofContents_not_blank hj, if_neg Bool.false_ne_true, hv]
  simp only [StateTable.clearExpired, hentries, hcheckpoints]

end FileState

/-! ### Calls on a file store -/

/-- A call that changes a file store: a device state written at an instant with a time to live,
or a checkpoint. -/
inductive StoreWrite where
  | state (k : StateKey) (st : DeviceState) (ttl : Option Duration) (now : Time.Stamp)
  | checkpoint (integrationId actionId : String) (c : Checkpoint)

namespace StoreWrite

/-- Makes the call on a store and its disk: the store and the disk after it, and its outcome. -/
def apply : StoreWrite → FileState → Disk → FileState × Disk × Except StoreFault Unit
  | .state k st ttl now, s, d => s.setState d k st ttl now
  | .checkpoint i a c, s, d => s.setCheckpoint d i a c

theorem keyed_apply (w : StoreWrite) {s : FileState} (hs : s.Keyed) (d : Disk) :
    (w.apply s d).1.Keyed := by
  cases w with
  | state k st ttl now =>
    have hkeys : ({ s with states := (s.states.put k st ttl now).clearExpired now } : FileState).Keyed :=
      FileState.keyed_clearExpired (s := { s with states := s.states.put k st ttl now })
        ⟨keys_nodup_put putEntry_replacesInPlace _ _ _ hs.1, hs.2⟩ now
    cases hp : ({ s with states := (s.states.put k st ttl now).clearExpired now } : FileState).persist d <;>
      simpa [apply, FileState.setState, hp] using hkeys
  | checkpoint i a c =>
    have hkeys : ({ s with checkpoints := putCheckpoint (i, a) c s.checkpoints } : FileState).Keyed :=
      ⟨hs.1, keys_nodup_put putCheckpoint_replacesInPlace _ _ _ hs.2⟩
    cases hp : ({ s with checkpoints := putCheckpoint (i, a) c s.checkpoints } : FileState).persist d <;>
      simpa [apply, FileState.setCheckpoint, hp] using hkeys

theorem persist_of_apply {w : StoreWrite} {s s' : FileState} {d d' : Disk}
    (h : w.apply s d = (s', d', .ok ())) : s'.persist d = .ok d' := by
  cases w with
  | state k st ttl now =>
    cases hp : ({ s with states := (s.states.put k st ttl now).clearExpired now } : FileState).persist d with
    | ok d'' =>
      simp only [apply, FileState.setState, hp, Prod.mk.injEq] at h
      obtain ⟨rfl, rfl, -⟩ := h
      exact hp
    | error e => simp [apply, FileState.setState, hp] at h
  | checkpoint i a c =>
    cases hp : ({ s with checkpoints := putCheckpoint (i, a) c s.checkpoints } : FileState).persist d with
    | ok d'' =>
      simp only [apply, FileState.setCheckpoint, hp, Prod.mk.injEq] at h
      obtain ⟨rfl, rfl, -⟩ := h
      exact hp
    | error e => simp [apply, FileState.setCheckpoint, hp] at h

end StoreWrite

/-- Makes the calls in order: the store and the disk after the last one, when every call
succeeds. -/
def applyWrites : List StoreWrite → FileState → Disk → Option (FileState × Disk)
  | [], s, d => some (s, d)
  | w :: ws, s, d =>
    match w.apply s d with
    | (s', d', .ok ()) => applyWrites ws s' d'
    | (_, _, .error _) => none

/-- After calls that all succeed, the last of them has written the snapshot of the store they
leave, which still has one entry a key. The induction follows the calls. -/
theorem applyWrites_persisted :
    ∀ (w : StoreWrite) (ws : List StoreWrite) {s s' : FileState} {d d' : Disk}, s.Keyed →
      applyWrites (w :: ws) s d = some (s', d') → s'.Keyed ∧ ∃ d₀, s'.persist d₀ = .ok d'
  | w, ws, s, s', d, d', hs, h => by
    rcases hw : w.apply s d with ⟨s₁, d₁, out⟩
    have hkeys : s₁.Keyed := by simpa [hw] using w.keyed_apply hs d
    cases out with
    | error e => simp [applyWrites, hw] at h
    | ok u =>
      simp only [applyWrites, hw] at h
      cases ws with
      | nil =>
        simp only [applyWrites, Option.some.injEq, Prod.mk.injEq] at h
        obtain ⟨rfl, rfl⟩ := h
        exact ⟨hkeys, d, StoreWrite.persist_of_apply hw⟩
      | cons w' ws => exact applyWrites_persisted w' ws hkeys h

/-! ### Reading the reopened store -/

/-- In a table with one entry a key, keeping the entries whose value passes `q` keeps the entry
under each key exactly when it passes. -/
theorem lookup_filter_keys {κ ν : Type} [BEq κ] [LawfulBEq κ] [DecidableEq κ] {q : ν → Bool}
    {p : κ × ν → Bool} (hp : ∀ k v, p (k, v) = q v) (k : κ) :
    ∀ {l : List (κ × ν)}, (l.map (·.1)).Nodup → (l.filter p).lookup k = (l.lookup k).filter q
  | [], _ => rfl
  | (k', v') :: l, h => by
    simp only [List.map_cons, List.nodup_cons] at h
    have ih := lookup_filter_keys hp k h.2
    by_cases hk : k = k'
    · subst hk
      -- the key is not repeated further on, so only its own entry can answer
      have habsent : l.lookup k = none := by
        rw [List.lookup_eq_none_iff]
        intro x hx
        simpa using fun he => h.1 (List.mem_map.mpr ⟨x, hx, he.symm⟩)
      have hself : ((k, v') :: l).lookup k = some v' := by simp
      rw [List.filter_cons, hp, hself]
      cases hq : q v' with
      | true => simp [Option.filter_some, hq]
      | false => simp [ih, habsent, Option.filter_some, hq]
    · cases hq : q v' <;> simp [hp, hq, lookup_cons_ite, hk, ih]

theorem lookup_clearExpired {t : StateTable} (hkeys : (t.entries.map (·.1)).Nodup) (now : Time.Stamp)
    (k : StateKey) : (t.clearExpired now).entries.lookup k = (t.entries.lookup k).filter (·.isLive now) :=
  lookup_filter_keys (fun _ _ => rfl) k hkeys

theorem get_clearExpired {t : StateTable} (hkeys : (t.entries.map (·.1)).Nodup) (now : Time.Stamp)
    (k : StateKey) : (t.clearExpired now).get k now = t.get k now := by
  unfold StateTable.get
  rw [lookup_clearExpired hkeys]
  cases t.entries.lookup k with
  | none => rfl
  | some e => cases hlive : e.isLive now <;> simp [Option.filter, hlive]

/-- After calls that all succeed on a store that was opened, reopening its disk at any instant
gives a store that answers like the store itself at that instant: under every key the entry,
with its state and expiry, when it is still live and nothing otherwise, the same state for every
read, and the same checkpoint for every integration and action. -/
theorem reopened_store_agrees {d₀ d : Disk} {opened now : Time.Stamp} {s₀ s : FileState}
    {w : StoreWrite} {ws : List StoreWrite} (hopen : FileState.openAt d₀ opened = .ok s₀)
    (hrun : applyWrites (w :: ws) s₀ d₀ = some (s, d)) :
    ∃ r, FileState.openAt d now = .ok r ∧
      (∀ k, r.states.entries.lookup k = (s.states.entries.lookup k).filter (·.isLive now)) ∧
      (∀ k, r.getState k now = s.getState k now) ∧
      (∀ i a, r.getCheckpoint i a = s.getCheckpoint i a) := by
  obtain ⟨hkeys, d₁, hpersist⟩ := applyWrites_persisted w ws (FileState.keyed_openAt hopen) hrun
  refine ⟨_, FileState.openAt_persisted hkeys hpersist now, ?_, ?_, ?_⟩
  · exact lookup_clearExpired hkeys.1 now
  · exact get_clearExpired hkeys.1 now
  · intro i a
    rfl

/-- A device state and a checkpoint written on an empty disk, read back after reopening. -/
theorem reopened_store_agrees_after_two_writes :
    ∃ s d, applyWrites [.state ⟨"hub", pullActionId, "truck-7"⟩ ⟨"Moving", none⟩ none ⟨0, 0⟩,
        .checkpoint "hub" pullActionId ⟨⟨0, 0⟩⟩] {} {} = some (s, d) ∧
      ∃ r, FileState.openAt d ⟨0, 0⟩ = .ok r ∧
        (∀ k, r.states.entries.lookup k = (s.states.entries.lookup k).filter (·.isLive ⟨0, 0⟩)) ∧
        (∀ k, r.getState k ⟨0, 0⟩ = s.getState k ⟨0, 0⟩) ∧
        (∀ i a, r.getCheckpoint i a = s.getCheckpoint i a) := by
  obtain ⟨⟨s, d⟩, h⟩ := Option.isSome_iff_exists.mp (by decide +kernel :
    (applyWrites [.state ⟨"hub", pullActionId, "truck-7"⟩ ⟨"Moving", none⟩ none ⟨0, 0⟩,
      .checkpoint "hub" pullActionId ⟨⟨0, 0⟩⟩] {} {}).isSome = true)
  exact ⟨s, d, h, reopened_store_agrees (show FileState.openAt {} ⟨0, 0⟩ = .ok {} from rfl) h⟩

end FleetTelemetry
