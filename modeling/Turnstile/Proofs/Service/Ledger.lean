import Turnstile.Proofs.Drain.WholeCycle
import Turnstile.Proofs.Meter.Accounting
import Turnstile.Proofs.Access.StatusCache
import Turnstile.Service.World

/-!
# Where the units of a running service are

A session steps the service one call at a time (`AppEvent`): requests through
its guards, calls on its gate, increments callers add to counters themselves,
yields that apply the queued increments, sleeps that run the loops' ticks, moves
of the wall clock and drain cycles called by hand.

The units of a counter key are at any moment in three places: its counter, the
meters' queues (`World.queued`), and the objects the drain cycles wrote into the
drain bucket. `Shifts` says that a change of the world moves units between these
places and adds only what it gives from outside: a request the read its meter
queued, a caller's increment its units. It composes along a run
(`Shifts.trans`). Each kind of event is shown to shift units this way, on a
quiet store and as long as nothing overflows (`AppEvent.Calm`); the run and the
shutdown come in `Turnstile.Proofs.Service.Shutdown`.
-/

namespace Turnstile

open Drainer Archive StoreOp

theorem Backend.Quiet.addSaturating {b : Backend} (hq : b.Quiet) (key : String) (delta : Nat) :
    ({ b with counters := (b.counters.addSaturating key delta).1 } : Backend).Quiet :=
  ⟨hq.memory, hq.faultless, hq.healthy⟩

namespace Meter

variable {b : Backend}

/-- A quiet store takes every increment a flush sends. -/
theorem receive_cons (hq : b.Quiet) (key : String) (keys : List String) :
    receive b (key :: keys) =
      receive { b with counters := (b.counters.addSaturating key 1).1 } keys := by
  simp only [receive, List.foldl_cons, incr_run_of_takes key 1 hq.memory hq.takesIncrement]

theorem receive_quiet (hq : b.Quiet) (keys : List String) : (receive b keys).Quiet := by
  induction keys generalizing b with
  | nil => exact hq
  | cons key keys ih =>
    rw [receive_cons hq]
    exact ih (hq.addSaturating key 1)

/-- Increments write the counters alone. -/
theorem receive_blobs (b : Backend) (keys : List String) : (receive b keys).blobs = b.blobs := by
  induction keys generalizing b with
  | nil => rfl
  | cons key keys ih =>
    show (receive ((incr key 1).run.run b).2 keys).blobs = b.blobs
    rw [ih]
    exact (incr_countersOnly key 1).keeps (fun _ _ => rfl) b

/-- On a quiet store, a flush adds to each key one unit per queued increment of it, as long as
that does not overflow its counter. -/
theorem receive_units (hq : b.Quiet) (keys : List String) (k : String)
    (hfit : b.counters.units k + keys.count k ≤ wordMax) :
    (receive b keys).counters.units k = b.counters.units k + keys.count k := by
  induction keys generalizing b with
  | nil => rfl
  | cons key keys ih =>
    rw [receive_cons hq]
    have hu := Counters.units_addSaturating b.counters key 1 k
    by_cases hk : k = key
    · subst hk
      simp only [↓reduceIte] at hu
      simp only [List.count_cons_self] at hfit ⊢
      rw [ih (hq.addSaturating k 1) (by rw [hu]; omega), hu]
      omega
    · have hne : (key == k) = false := beq_false_of_ne (Ne.symm hk)
      simp only [hk, ↓reduceIte] at hu
      simp only [List.count_cons, hne, Bool.false_eq_true, ↓reduceIte, Nat.add_zero] at hfit ⊢
      rw [ih (hq.addSaturating key 1) (by rw [hu]; omega), hu]

end Meter

/-! ### Calls that leave the units alone -/

/-- What the accounting reads of a store: the counters, the blobs, the engine and the faults. -/
def Backend.ledger (b : Backend) : Counters × Blobs × Engine × Faults :=
  (b.counters, b.blobs, b.engine, b.faults)

theorem Backend.Quiet.of_ledger {b b' : Backend} (hq : b.Quiet) (h : b'.ledger = b.ledger) :
    b'.Quiet := by
  simp only [Backend.ledger, Prod.mk.injEq] at h
  obtain ⟨hc, -, he, hf⟩ := h
  exact ⟨he.trans hq.memory, hf.trans hq.faultless, by rw [hc]; exact hq.healthy⟩

namespace StoreOp

theorem kvSet_keeps_ledger (key value : String) (lifetime : Option Nat) :
    Keeps Backend.ledger (kvSet key value lifetime) := by
  intro b
  rcases kvSet_cases key value lifetime b with h | ⟨expiry, h⟩
  · rw [h]
  · rw [h]
    rfl

theorem recordBlocked_keeps_ledger (address : String) (at_ : Instant) :
    Keeps Backend.ledger (recordBlocked address at_) := by
  intro b
  simp only [recordBlocked, run_bind, run_get]
  split <;> rfl

end StoreOp

/-- The gate writes its cache and counts its lookups, and nothing the accounting reads. -/
theorem Gate.authorizeCredential_ledger (g : Gate) (c : Credential) {b : Backend}
    (hm : b.engine = .memory) : ((g.authorizeCredential c).run.run b).2.ledger = b.ledger := by
  rcases Gate.authorizeCredential_cases g c b hm with ⟨s, -, hrun⟩ | ⟨-, ⟨hb, -⟩ | ⟨d, -, hrun⟩⟩
  · rw [hrun]
  · rw [hb]
    rfl
  · rw [hrun]
    rfl

theorem Gate.authorize_ledger (g : Gate) (raw : Option String) {b : Backend}
    (hm : b.engine = .memory) : ((g.authorize raw).run.run b).2.ledger = b.ledger := by
  unfold Gate.authorize
  split
  · rfl
  · exact g.authorizeCredential_ledger _ hm

namespace App

/-- Admitting a request writes what the gate writes. -/
theorem authorizeRequest_ledger (a : App) (req : Request) {b : Backend} (hm : b.engine = .memory) :
    ((a.authorizeRequest req).run.run b).2.ledger = b.ledger := by
  unfold authorizeRequest
  split
  · rfl
  · rw [run_bind_store]
    · exact a.gate.authorizeCredential_ledger _ hm
    · intro x
      split <;> exact keeps_pure _

/-- Handling a request writes what the gate writes. -/
theorem handle_ledger (a : App) (req : Request) {b : Backend} (hm : b.engine = .memory) :
    ((a.handle req).run.run b).2.ledger = b.ledger := by
  unfold handle handleWith
  rw [run_bind_store]
  · exact a.authorizeRequest_ledger req hm
  · intro x
    split
    · exact keeps_pure _
    · exact fun _ => rfl

/-- A handled request leaves the service as it was, or with a read recorded on its meter. -/
theorem handle_yields (a : App) (req : Request) :
    Yields (fun x : App × Except AppError Status =>
      x.1 = a ∨ ∃ key, x.1 = { a with meter := (a.meter.record key).1 }) (a.handle req) := by
  unfold handle handleWith
  refine Yields.bind fun x => ?_
  split
  · exact yields_pure (.inl rfl)
  · exact Yields.bind fun _ => yields_pure (a.noteRead_cases _ _)

theorem guardBlocked_keeps_ledger (a : App) (req : Request) :
    Keeps Backend.ledger (a.guardBlocked req) := by
  unfold guardBlocked
  split
  · exact a.blocklist.isBlocked_keeps _ fun _ _ => kvSet_keeps_ledger _ _ _
  · exact keeps_pure _

theorem rejectUnknown_keeps_ledger (a : App) (req : Request) (now : Instant) :
    Keeps Backend.ledger (a.rejectUnknown req now) := by
  unfold rejectUnknown
  split
  · exact keeps_pure _
  · exact (a.blocklist.screen_keeps _ (fun _ _ => kvSet_keeps_ledger _ _ _)
      (fun _ => recordBlocked_keeps_ledger _ _) now).bind fun _ => keeps_pure _

end App

theorem Meter.record_queue (m : Meter) (key : CounterKey) :
    (m.record key).1.queue = m.queue ∨ (m.record key).1.queue = m.queue ++ [key.encode] := by
  unfold Meter.record
  split
  · exact .inl rfl
  · exact .inr rfl

namespace World

variable {α β : Type}

@[simp] theorem run_pure (a : α) (w : World) : (pure a : Run α).run.run w = (.ok a, w) :=
  rfl

@[simp] theorem run_get (w : World) : (get : Run World).run.run w = (.ok w, w) :=
  rfl

@[simp] theorem run_modify (f : World → World) (w : World) :
    (modify f : Run PUnit).run.run w = (.ok ⟨⟩, f w) :=
  rfl

@[simp] theorem run_throw (h : Halt) (w : World) : (throw h : Run α).run.run w = (.error h, w) :=
  rfl

/-- A sequence runs its first part, then the rest on the world the first part left, unless the
first part halted. -/
theorem run_bind (x : Run α) (f : α → Run β) (w : World) :
    (x >>= f).run.run w = match x.run.run w with
      | (.ok a, w') => (f a).run.run w'
      | (.error e, w') => (.error e, w') := by
  simp only [ExceptT.run_bind, StateT.run_bind]
  rcases x.run.run w with ⟨_ | _, _⟩ <;> rfl

/-- A sequence that returns returned from its first part, and its rest returned from there. -/
theorem run_bind_ok {x : Run α} {f : α → Run β} {w w' : World} {b : β}
    (h : (x >>= f).run.run w = (.ok b, w')) :
    ∃ a w₁, x.run.run w = (.ok a, w₁) ∧ (f a).run.run w₁ = (.ok b, w') := by
  rw [run_bind] at h
  rcases hx : x.run.run w with ⟨_ | a, w₁⟩
  · rw [hx] at h
    cases h
  · rw [hx] at h
    exact ⟨a, w₁, rfl, h⟩

theorem onStores_run (op : StoreOp α) (w : World) :
    (onStores op).run.run w =
      ((op.run.run w.backend).1, { w with backend := (op.run.run w.backend).2 }) :=
  rfl

/-- The increments queued in a world's meters, in the order a yield applies them: those of
replaced meters, the standalone meter's, then the service's. -/
def queued (w : World) : List String :=
  w.stray ++ (w.meter.map (·.queue)).getD [] ++ (w.app.map (·.meter.queue)).getD []

@[simp] theorem queued_backend (w : World) (b : Backend) :
    ({ w with backend := b } : World).queued = w.queued :=
  rfl

/-- What the loops of the service read besides the stores: the wall clock, the files, and the
service's configuration, drainer and loop deadlines. -/
def loopView (w : World) :
    Instant × FileTree × Option (Config × Drainer × Option Nat × Option Nat) :=
  (w.wall, w.files, w.app.map fun a => (a.config, a.drainer, a.drainDue, a.shipDue))

/-- Increments of one unit, applied key by key, leave the store as `Meter.receive` does; an
increment never halts. -/
theorem forIn_incr_run (keys : List String) (w : World) :
    (forIn keys PUnit.unit fun key _ => do
        let _ ← onStores (StoreOp.incr key 1)
        pure (ForInStep.yield PUnit.unit) : Run PUnit).run.run w =
      (.ok ⟨⟩, { w with backend := Meter.receive w.backend keys }) := by
  induction keys generalizing w with
  | nil => rfl
  | cons key keys ih =>
    obtain ⟨r, b', hr⟩ := Meter.incr_run_ok key 1 w.backend
    have hrec : Meter.receive w.backend (key :: keys) = Meter.receive b' keys := by
      simp only [Meter.receive, List.foldl_cons, hr]
    simp only [List.forIn_cons, run_bind, onStores_run, hr, run_pure]
    rw [ih, hrec]

/-- A yield applies every queued increment in order and leaves the queues empty; the loops see
the world as before. -/
theorem flushAll_run (w : World) :
    ∃ w', flushAll.run.run w = (.ok (), w') ∧ w'.backend = Meter.receive w.backend w.queued ∧
      w'.queued = [] ∧ w'.loopView = w.loopView := by
  have hstray : flushStray.run.run w =
      (.ok (), { w with stray := [], backend := Meter.receive w.backend w.stray }) := by
    simp only [flushStray, run_bind, run_get, run_modify, forIn_incr_run, run_pure]
  -- then the standalone meter's queue, then the service's
  cases hm : w.meter with
  | none =>
    cases ha : w.app with
    | none =>
      simp only [flushAll, run_bind, hstray, run_get, hm, ha, run_pure]
      refine ⟨_, rfl, ?_, rfl, ?_⟩
      · simp [queued, hm, ha]
      · simp [loopView, ha]
    | some a =>
      obtain ⟨m', hflush, hq, -⟩ := Meter.flush_run a.meter (Meter.receive w.backend w.stray)
      simp only [flushAll, run_bind, hstray, run_get, hm, ha, onStores_run, hflush, run_modify]
      refine ⟨_, rfl, ?_, ?_, ?_⟩
      · simp [queued, hm, ha, Meter.receive_append]
      · simp [queued, hq]
      · simp [loopView, ha]
  | some m =>
    obtain ⟨m₁, hflush₁, hq₁, -⟩ := Meter.flush_run m (Meter.receive w.backend w.stray)
    cases ha : w.app with
    | none =>
      simp only [flushAll, run_bind, hstray, run_get, hm, ha, run_pure, onStores_run, hflush₁,
        run_modify]
      refine ⟨_, rfl, ?_, ?_, ?_⟩
      · simp [queued, hm, ha, Meter.receive_append]
      · simp [queued, hq₁]
      · simp [loopView, ha]
    | some a =>
      obtain ⟨m₂, hflush₂, hq₂, -⟩ :=
        Meter.flush_run a.meter (Meter.receive (Meter.receive w.backend w.stray) m.queue)
      simp only [flushAll, run_bind, hstray, run_get, hm, ha, onStores_run, hflush₁, hflush₂,
        run_modify]
      refine ⟨_, rfl, ?_, ?_, ?_⟩
      · simp [queued, hm, ha, Meter.receive_append]
      · simp [queued, hq₁, hq₂]
      · simp [loopView, ha]

end World

/-! ### The events and their bookkeeping -/

/-- What can happen to the running service between its start and its shutdown, one call at a
time. -/
inductive AppEvent where
  /-- A request reaches the service's handler. -/
  | request (req : Request)
  /-- A caller asks whether the client of a request is blocked. -/
  | guard (req : Request)
  /-- A request reaches a route the service does not know. -/
  | unknownRoute (req : Request)
  /-- A caller asks the service's gate about a presented key. -/
  | authorize (credential : Option String)
  /-- A caller adds units to a counter directly. -/
  | incr (key : String) (delta : Nat)
  /-- The session yields, and the queued increments are applied. -/
  | settle
  /-- The monotonic clock moves on, running the loops' ticks that fall due. -/
  | sleep (ms : Nat)
  /-- The wall clock moves by whole seconds. -/
  | wall (secs : Int)
  /-- A caller runs a drain cycle of the service. -/
  | drain

namespace AppEvent

open World

/-- Performs an event; without a running service only the increments, yields, sleeps and moves
of the wall clock do anything. -/
def perform : AppEvent → Run Unit
  | .request req => do
    match (← get).app with
    | none => pure ()
    | some a =>
      let (a', _) ← onStores (a.handle req)
      modify fun w => { w with app := some a' }
  | .guard req => do
    match (← get).app with
    | none => pure ()
    | some a =>
      let _ ← onStores (a.guardBlocked req)
      pure ()
  | .unknownRoute req => do
    match (← get).app with
    | none => pure ()
    | some a =>
      let _ ← onStores (a.rejectUnknown req (← get).wall)
      pure ()
  | .authorize c => do
    match (← get).app with
    | none => pure ()
    | some a =>
      let _ ← onStores (a.gate.authorize c)
      pure ()
  | .incr key delta => do
    let _ ← onStores (StoreOp.incr key delta)
    pure ()
  | .settle => flushAll
  | .sleep ms => World.sleep ms
  | .wall secs => do
    let _ ← advanceWall secs
    pure ()
  | .drain => do
    match (← get).app with
    | none => pure ()
    | some a =>
      let _ ← onStores (a.drainer.cycle (← get).wall)
      pure ()

/-- What an event gives a key from outside, from the world before it to the world after: a
request gives the reads its meter queued, a caller's increment its units. -/
def credit (w w' : World) (key : String) : AppEvent → Nat
  | .request _ => w'.queued.count key - w.queued.count key
  | .incr k delta => if k = key then delta else 0
  | _ => 0

end AppEvent

namespace World

/-- The queued increments fit: applying them overflows no counter key. -/
def QueueFits (w : World) : Prop :=
  ∀ k : CounterKey, w.backend.counters.units k.encode + w.queued.count k.encode ≤ wordMax

/-- Whether the service's drain loop still runs. -/
def draining (w : World) : Bool :=
  (w.app.bind (·.drainDue)).isSome

/-- The units a run of events gives a key from outside, event by event. -/
def credits (key : String) : World → List AppEvent → Nat
  | _, [] => 0
  | w, e :: es => e.credit w (e.perform.run.run w).2 key + credits key (e.perform.run.run w).2 es

/-- A run of the service: the events in order, then its shutdown, which gives the report of the
final drain cycle when there is one. -/
def serve (events : List AppEvent) : Run (Option DrainReport) := do
  events.forM AppEvent.perform
  match (← get).app with
  | some a => stopApp a
  | none => pure none

end World

namespace AppEvent

/-- What a run promises of one event, in the world before it and the world after: an increment
overflows no counter, the queued increments fit when a yield applies them, and no tick of the
drain loop halts, so that the loop still runs after a sleep when it ran before. -/
def Calm (w w' : World) : AppEvent → Prop
  | .incr key delta => w.backend.counters.units key + delta ≤ wordMax
  | .settle => w.QueueFits
  | .sleep _ => w.QueueFits ∧ (w.draining = true → w'.draining = true)
  | _ => True

end AppEvent

namespace World

/-- The run keeps its promise at every event, and the queued increments fit at the end, when
the shutdown applies them. -/
def CalmFrom : World → List AppEvent → Prop
  | w, [] => w.QueueFits
  | w, e :: es => e.Calm w (e.perform.run.run w).2 ∧ CalmFrom (e.perform.run.run w).2 es

/-- A world of the service started as `a₀`, as the accounting needs it: a quiet store whose
counter keys fit a word, and the service running with its configuration and drainer, shipping
logs into another bucket than the drain bucket while its shipping loop runs. -/
structure Serving (a₀ : App) (w : World) : Prop where
  quiet : w.backend.Quiet
  bounded : ∀ k : CounterKey, w.backend.counters.units k.encode ≤ wordMax
  running : ∃ a, w.app = some a ∧ a.config = a₀.config ∧ a.drainer = a₀.drainer ∧
    (a.shipDue.isSome = true → a₀.config.shipping.bucket ≠ a₀.drainer.settings.bucket)

/-- A change of the world that loses no unit of a counter key: what its counter held, what the
meters queued for it and what the change gave it from outside are afterwards in its counter, in
the meters' queues, or in objects written into the bucket, one after another under names that
were free. -/
def Shifts (bucket : String) (w w' : World) (given : String → Nat) : Prop :=
  ∃ written, Grows (w.backend.blobs.objects bucket) written (w'.backend.blobs.objects bucket) ∧
    ∀ k : CounterKey, w.backend.counters.units k.encode + w.queued.count k.encode +
        given k.encode =
      w'.backend.counters.units k.encode + w'.queued.count k.encode + archivedUnits written k

section Shifts

variable {bucket : String} {w w₁ w₂ : World}

theorem Shifts.trans {g₁ g₂ : String → Nat} (h₁ : Shifts bucket w w₁ g₁)
    (h₂ : Shifts bucket w₁ w₂ g₂) : Shifts bucket w w₂ fun key => g₁ key + g₂ key := by
  obtain ⟨l₁, hg₁, hu₁⟩ := h₁
  obtain ⟨l₂, hg₂, hu₂⟩ := h₂
  refine ⟨l₁ ++ l₂, hg₁.append hg₂, fun k => ?_⟩
  have e₁ := hu₁ k
  have e₂ := hu₂ k
  rw [archivedUnits_append]
  dsimp only
  omega

/-- A change that writes no count, no queue and no object of the bucket shifts nothing. -/
theorem shifts_still (hc : w₁.backend.counters = w.backend.counters)
    (ho : w₁.backend.blobs.objects bucket = w.backend.blobs.objects bucket)
    (hq : w₁.queued = w.queued) : Shifts bucket w w₁ fun _ => 0 :=
  ⟨[], ho, fun k => by simp [hc, hq, archivedUnits]⟩

end Shifts

variable {a₀ : App} {w w' : World}

/-- The service keeps running as it was when the loops see the world as before. -/
theorem Serving.running_of_loopView (hs : Serving a₀ w) (hv : w'.loopView = w.loopView) :
    ∃ a, w'.app = some a ∧ a.config = a₀.config ∧ a.drainer = a₀.drainer ∧
      (a.shipDue.isSome = true → a₀.config.shipping.bucket ≠ a₀.drainer.settings.bucket) := by
  obtain ⟨a, ha, hc, hd, hship⟩ := hs.running
  simp only [loopView, ha, Prod.mk.injEq] at hv
  obtain ⟨-, -, hv⟩ := hv
  cases ha' : w'.app with
  | none => rw [ha'] at hv; cases hv
  | some a' =>
    rw [ha'] at hv
    simp only [Option.map_some, Option.some.injEq, Prod.mk.injEq] at hv
    obtain ⟨hc', hd', -, hs'⟩ := hv
    exact ⟨a', rfl, hc'.trans hc, hd'.trans hd, by rw [hs']; exact hship⟩

/-- A change of the stores that keeps what the accounting reads, and of nothing else the
service reads, keeps the world serving and shifts nothing. -/
theorem Serving.of_ledger (hs : Serving a₀ w) {b : Backend} (hl : b.ledger = w.backend.ledger) :
    Serving a₀ { w with backend := b } ∧
      Shifts a₀.drainer.settings.bucket w { w with backend := b } fun _ => 0 := by
  have hc : b.counters = w.backend.counters := congrArg (·.1) hl
  have hb : b.blobs = w.backend.blobs := congrArg (·.2.1) hl
  refine ⟨⟨hs.quiet.of_ledger hl, fun k => ?_, hs.running⟩, shifts_still hc (by rw [hb]) rfl⟩
  rw [hc]
  exact hs.bounded k

/-- A yield on a serving world whose queue fits applies every queued increment exactly: the
units move from the queues into the counters. -/
theorem flushAll_shifts (hs : Serving a₀ w) (hfit : w.QueueFits)
    (h : flushAll.run.run w = (.ok (), w')) :
    Serving a₀ w' ∧ w'.queued = [] ∧ w'.loopView = w.loopView ∧
      Shifts a₀.drainer.settings.bucket w w' fun _ => 0 := by
  obtain ⟨w₁, hrun, hb, hq, hv⟩ := flushAll_run w
  rw [hrun] at h
  obtain ⟨-, rfl⟩ := Prod.mk.inj h
  have hunits : ∀ k : CounterKey, w₁.backend.counters.units k.encode =
      w.backend.counters.units k.encode + w.queued.count k.encode := fun k => by
    rw [hb, Meter.receive_units hs.quiet _ _ (hfit k)]
  refine ⟨⟨?_, fun k => ?_, hs.running_of_loopView hv⟩, hq, hv, [], ?_, fun k => ?_⟩
  · rw [hb]
    exact Meter.receive_quiet hs.quiet _
  · rw [hunits k]
    exact hfit k
  · show w₁.backend.blobs.objects _ = _
    rw [hb, Meter.receive_blobs]
  · rw [hunits k, hq]
    simp [archivedUnits]

/-- A drain cycle of the service that returns, on a serving world, moves units from the
counters into objects of the drain bucket and keeps the world serving. -/
theorem cycle_shifts (hs : Serving a₀ w) (now : Instant) {r : DrainReport} {b : Backend}
    (h : (a₀.drainer.cycle now).run.run w.backend = (.ok r, b)) :
    Serving a₀ { w with backend := b } ∧
      Shifts a₀.drainer.settings.bucket w { w with backend := b } (fun _ => 0) ∧
      (b.namespaceKeys = [] ∨ 0 < r.batchesRestored ∨ r.skipped.isSome) := by
  obtain ⟨hq, hns, written, hgrow, hunits⟩ := cycle_moves_units a₀.drainer now hs.quiet hs.bounded h
  refine ⟨⟨hq, fun k => ?_, hs.running⟩, ⟨written, hgrow, fun k => ?_⟩, hns⟩
  · have h₁ := hunits k
    have h₂ := hs.bounded k
    dsimp only
    omega
  · have h₁ := hunits k
    simp only [queued_backend]
    omega

end World

end Turnstile
