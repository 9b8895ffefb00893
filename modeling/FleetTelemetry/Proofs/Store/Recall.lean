import FleetTelemetry.Store.State
import Mathlib.Logic.Function.Basic

/-!
# Stores that remember what was written

The filter and the poll cycle are written against any store in any monad. The results about them
are stated for a world `σ` changed in the state monad, with the store's content read through a
function `read`: a store *recalls* when a read changes nothing and answers the content, and a
write never fails and is read back until it is overwritten. That is a store in which no entry
expires while it is used.

The in-memory table is such a store at one instant, for every time to live but zero: an entry
written with a zero time to live expires at once.
-/

namespace FleetTelemetry

deriving instance ReflBEq, LawfulBEq for StateKey

/-! ### Running failing steps over a state -/

section Run

variable {σ ε α β : Type}

theorem run_bind_ok {x : ExceptT ε (StateM σ) α} {g : α → ExceptT ε (StateM σ) β} {s s' : σ}
    {a : α} (h : x.run.run s = (.ok a, s')) : (x >>= g).run.run s = (g a).run.run s' := by
  simp only [ExceptT.run_bind, StateT.run_bind, h]
  rfl

theorem run_bind_error {x : ExceptT ε (StateM σ) α} {g : α → ExceptT ε (StateM σ) β} {s s' : σ}
    {e : ε} (h : x.run.run s = (.error e, s')) : (x >>= g).run.run s = (.error e, s') := by
  simp only [ExceptT.run_bind, StateT.run_bind, h]
  rfl

@[simp] theorem run_pure_run (a : α) (s : σ) :
    (pure a : ExceptT ε (StateM σ) α).run.run s = (.ok a, s) := rfl

end Run

theorem lookup_cons_ite {α β : Type} [BEq α] [LawfulBEq α] [DecidableEq α] (j k : α) (b : β) (l : List (α × β)) :
    ((j, b) :: l).lookup k = if k = j then some b else l.lookup k := by
  by_cases h : k = j
  · subst h
    simp
  · have hb : (k == j) = false := by simpa using h
    simp only [List.lookup_cons, hb, if_neg h]

/-! ### Stores that recall -/

/-- A store whose content, in the world `σ`, is read through `read`: reads change nothing, writes
never fail, and a write with no time to live or with the time to live `ttl` is read back. -/
structure Recalls {σ : Type} (store : StateStore (StateM σ)) (read : σ → StateKey → Option DeviceState)
    (ttl : Duration) : Prop where
  get_run (k : StateKey) (s : σ) : (store.get k).run s = (.ok (read s k), s)
  set_ok (k : StateKey) (d : DeviceState) (t : Option Duration) (s : σ) :
    ((store.set k d t).run s).1 = .ok ()
  read_set (k : StateKey) (d : DeviceState) (t : Option Duration) (s : σ) (ht : t = none ∨ t = some ttl) :
    read ((store.set k d t).run s).2 = Function.update (read s) k (some d)

/-! ### The in-memory table at one instant -/

namespace StateTable

theorem lookup_putEntry (k k' : StateKey) (e : StateEntry) (l : List (StateKey × StateEntry)) :
    (putEntry k e l).lookup k' = if k' = k then some e else l.lookup k' := by
  induction l with
  | nil => simp only [putEntry, lookup_cons_ite, List.lookup_nil]
  | cons p l ih =>
    obtain ⟨j, e'⟩ := p
    by_cases hj : j = k
    · subst hj
      simp only [putEntry, if_true, lookup_cons_ite]
      by_cases h : k' = j <;> simp [h]
    · simp only [putEntry, hj, if_false, lookup_cons_ite, ih]
      by_cases h : k' = j
      · subst h
        simp [hj]
      · simp [h]

theorem isLive_written (d : DeviceState) (ttl : Option Duration) (now : Time.Stamp)
    (h : ttl ≠ some .zero) : StateEntry.isLive ⟨d, expiryOf now ttl⟩ now = true := by
  cases ttl with
  | none => rfl
  | some q =>
    have hq : 0 < q.nanos := Nat.pos_of_ne_zero fun h0 => h (congrArg some (Duration.ext h0))
    have later : now.utc < now.utc + (q.nanos : Int) := by omega
    simp only [StateEntry.isLive, expiryOf, Option.bind_some, Time.Stamp.addDuration?,
      Time.Stamp.addNanos?]
    by_cases fits : q.secs ≤ Word.i64Max.toNat
    · by_cases inRange : Time.Stamp.inRange ⟨now.utc + (q.nanos : Int), now.offset⟩
      · simp only [fits, inRange, if_true]
        exact decide_eq_true later
      · simp [fits, inRange]
    · simp [fits]

theorem get_put (t : StateTable) (k k' : StateKey) (d : DeviceState) (ttl : Option Duration)
    (now : Time.Stamp) (h : ttl ≠ some .zero) :
    (t.put k d ttl now).get k' now = if k' = k then some d else t.get k' now := by
  simp only [get, put, lookup_putEntry]
  by_cases hk : k' = k
  · simp [hk, isLive_written d ttl now h]
  · simp [hk]

theorem store_recalls (now : Time.Stamp) (ttl : Duration) (hpos : ttl ≠ .zero) :
    Recalls (store now) (fun t k => t.get k now) ttl where
  get_run _ _ := rfl
  set_ok _ _ _ _ := rfl
  read_set k d t s ht := by
    funext k'
    have h : t ≠ some .zero := by
      rcases ht with rfl | rfl
      · simp
      · simpa using hpos
    show (s.put k d t now).get k' now = _
    rw [get_put s k k' d t now h, Function.update_apply]

end StateTable

end FleetTelemetry
