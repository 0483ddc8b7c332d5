import Turnstile.Proofs.Drain.Holdings

/-!
# Drain cycles among other tasks

The counter store and the blob store are shared by many tasks: meter workers
and other callers add to counters, and any number of drainers run cycles. Each
store operation is atomic, and tasks interleave between operations. `Traffic`
is that shared state: the stores, the cycles in flight (each a `Flight` at some
`Drainer.Phase`), and two records kept of the run, the units callers added to
each counter and the objects the cycles wrote, with the batch each one holds.

An `Event` is one atomic thing that can happen next: a caller's increment, a
call of a drain cycle on a drainer, one store operation of a cycle in flight,
the clock moving on, or the fault switches being set. A call on a drainer that
already runs a cycle is answered at once, as the drainer's cycle mutex does;
a cycle that finishes or halts leaves the flights, and whatever it did before
a halt stays done.
-/

namespace Turnstile

open Drainer Archive

/-- A drain cycle in flight: the position of its drainer, the wall-clock moment it stamps its
entries with, where it stands, and the present moment of the store when it took its lease. -/
structure Flight where
  drainer : Nat
  now : Instant
  phase : Phase
  leasedAt : Nat := 0

/-- One atomic step of the shared stores. -/
inductive Event where
  /-- A meter worker or another caller adds to a counter. -/
  | incr (key : String) (delta : Nat)
  /-- A drain cycle is called on the drainer at a position, at a wall-clock moment. -/
  | call (drainer : Nat) (now : Instant)
  /-- The cycle in flight at a position performs its next store operation. -/
  | step (flight : Nat)
  /-- The monotonic clock moves on by some milliseconds. -/
  | tick (ms : Nat)
  /-- The fault switches of the stores are set. -/
  | faults (f : Faults)

/-- The flight moved on to a phase; taking the lease records the present moment. -/
def Flight.moveTo (f : Flight) (p : Phase) (present : Nat) : Flight :=
  { f with
    phase := p
    leasedAt := match f.phase with
      | .acquire => present
      | _ => f.leasedAt }

/-- The shared stores, the cycles in flight, the units callers added to each counter, and the
objects cycles wrote with the batch each one holds. -/
structure Traffic where
  store : Backend
  flights : List Flight := []
  added : String → Nat := fun _ => 0
  written : List (String × Batch) := []

@[simp] theorem Flight.moveTo_phase (f : Flight) (p : Phase) (t : Nat) :
    (f.moveTo p t).phase = p :=
  rfl

@[simp] theorem Flight.moveTo_drainer (f : Flight) (p : Phase) (t : Nat) :
    (f.moveTo p t).drainer = f.drainer :=
  rfl

namespace Traffic

/-- The stores before anything happened. -/
def start (b : Backend) : Traffic := { store := b }

/-- Whether the drainer at a position runs a cycle. -/
def busy (s : Traffic) (i : Nat) : Bool := s.flights.any (·.drainer == i)

/-- A caller adds to a counter; the units count as added when the store takes them. -/
def incr (s : Traffic) (key : String) (delta : Nat) : Traffic :=
  match (StoreOp.incr key delta).run.run s.store with
  | (.ok (.ok _), b) =>
    { s with store := b, added := fun k => if k = key then s.added k + delta else s.added k }
  | (_, b) => { s with store := b }

/-- A cycle is called on the drainer at a position: a busy drainer answers at once that a
cycle is in progress, and otherwise a new cycle starts before its ping. -/
def call (ds : List Drainer) (s : Traffic) (i : Nat) (now : Instant) :
    Traffic × Option DrainReport :=
  if s.busy i then (s, some (.skip .cycleInProgress))
  else if i < ds.length then ({ s with flights := s.flights ++ [⟨i, now, .ping, 0⟩] }, none)
  else (s, none)

/-- The stores after the cycle in flight at a position reached an outcome with a backend. A
cycle that finishes leaves with its report, one that halts leaves with none, and one that moves
on stays at its place with the objects it just wrote recorded. -/
def settle (s : Traffic) (j : Nat) (f : Flight) :
    Except Halt Phase × Backend → Traffic × Option DrainReport
  | (.ok (.done r), b) => ({ s with store := b, flights := s.flights.eraseIdx j }, some r)
  | (.ok p, b) =>
    ({ s with
        store := b
        flights := s.flights.set j (f.moveTo p s.store.now)
        written := s.written ++ p.stores }, none)
  | (.error _, b) => ({ s with store := b, flights := s.flights.eraseIdx j }, none)

/-- The cycle in flight at a position performs its next store operation. -/
def stepFlight (ds : List Drainer) (s : Traffic) (j : Nat) : Traffic × Option DrainReport :=
  match s.flights[j]? with
  | none => (s, none)
  | some f =>
    match ds[f.drainer]? with
    | none => (s, none)
    | some d => s.settle j f ((d.advance f.now f.phase).run.run s.store)

/-- The stores after one event. -/
def step (ds : List Drainer) (s : Traffic) : Event → Traffic
  | .incr key delta => s.incr key delta
  | .call i now => (s.call ds i now).1
  | .step j => (s.stepFlight ds j).1
  | .tick ms => { s with store := { s.store with clock := s.store.clock + ms } }
  | .faults f => { s with store := { s.store with faults := f } }

/-- The stores after a run of events. -/
def run (ds : List Drainer) (s : Traffic) (events : List Event) : Traffic :=
  events.foldl (step ds) s

theorem run_nil (ds : List Drainer) (s : Traffic) : s.run ds [] = s :=
  rfl

theorem run_cons (ds : List Drainer) (s : Traffic) (e : Event) (events : List Event) :
    s.run ds (e :: events) = (s.step ds e).run ds events :=
  rfl

/-- After a step, the cycle has left the flights, or it stays in place at the phase it
reached. -/
theorem settle_cases (s : Traffic) (j : Nat) (f : Flight) (x : Except Halt Phase) (b : Backend) :
    (s.settle j f (x, b)).1 = { s with store := b, flights := s.flights.eraseIdx j } ∨
    ∃ p, x = .ok p ∧ (s.settle j f (x, b)).1 =
      { s with
        store := b
        flights := s.flights.set j (f.moveTo p s.store.now)
        written := s.written ++ p.stores } := by
  rcases x with e | p
  · exact .inl rfl
  · cases p with
    | done r => exact .inl rfl
    | _ => exact .inr ⟨_, rfl, rfl⟩

/-- A cycle that moves on short of the end stays in place at the phase it reached, with the
object it just wrote recorded. -/
theorem settle_moved (s : Traffic) (j : Nat) (f : Flight) {p : Phase} (b : Backend)
    (hp : ∀ r, p ≠ .done r) :
    s.settle j f (.ok p, b) =
      ({ s with
          store := b
          flights := s.flights.set j (f.moveTo p s.store.now)
          written := s.written ++ p.stores }, none) := by
  cases p with
  | done r => exact absurd rfl (hp r)
  | _ => rfl

/-- A step leaves the store its operation left. -/
theorem settle_store (s : Traffic) (j : Nat) (f : Flight) (xb : Except Halt Phase × Backend) :
    (s.settle j f xb).1.store = xb.2 := by
  obtain ⟨x, b⟩ := xb
  rcases settle_cases s j f x b with he | ⟨p, -, he⟩ <;> rw [he]

/-- A step of a cycle changes nothing when no cycle is at the position or its drainer is
unknown; otherwise it settles the run of that drainer's next operation. -/
theorem stepFlight_cases (ds : List Drainer) (s : Traffic) (j : Nat) :
    (s.stepFlight ds j).1 = s ∨ ∃ f d, s.flights[j]? = some f ∧ ds[f.drainer]? = some d ∧
      s.stepFlight ds j = s.settle j f ((d.advance f.now f.phase).run.run s.store) := by
  cases hj : s.flights[j]? with
  | none => exact .inl (by simp only [stepFlight, hj])
  | some f =>
    cases hd : ds[f.drainer]? with
    | none => exact .inl (by simp only [stepFlight, hj, hd])
    | some d => exact .inr ⟨f, d, rfl, hd, by simp only [stepFlight, hj, hd]⟩

theorem incr_flights (s : Traffic) (key : String) (delta : Nat) :
    (s.incr key delta).flights = s.flights := by
  unfold Traffic.incr
  split <;> rfl

theorem incr_store (s : Traffic) (key : String) (delta : Nat) :
    (s.incr key delta).store = ((StoreOp.incr key delta).run.run s.store).2 := by
  unfold Traffic.incr
  split <;> simp_all

theorem incr_written (s : Traffic) (key : String) (delta : Nat) :
    (s.incr key delta).written = s.written := by
  unfold Traffic.incr
  split <;> rfl

/-- An increment the counters take adds its delta under its key, and counts it as added. -/
theorem incr_of_takes (s : Traffic) (key : String) (delta : Nat) (hm : s.store.engine = .memory)
    (ht : s.store.takesIncrement) :
    s.incr key delta =
      { s with
        store := { s.store with counters := (s.store.counters.addSaturating key delta).1 }
        added := fun k => if k = key then s.added k + delta else s.added k } := by
  unfold Traffic.incr
  rw [StoreOp.incr_run_of_takes key delta hm ht]

/-- An increment the counters do not take changes nothing. -/
theorem incr_of_not_takes (s : Traffic) (key : String) (delta : Nat)
    (ht : ¬ s.store.takesIncrement) : s.incr key delta = s := by
  obtain ⟨e, he⟩ := StoreOp.incr_run_of_not_takes key delta ht
  unfold Traffic.incr
  rw [he]

/-- A call writes no store and records no object. -/
theorem call_store_written (ds : List Drainer) (s : Traffic) (i : Nat) (now : Instant) :
    (s.call ds i now).1.store = s.store ∧ (s.call ds i now).1.written = s.written := by
  unfold Traffic.call
  split
  · exact ⟨rfl, rfl⟩
  · split <;> exact ⟨rfl, rfl⟩

end Traffic

end Turnstile
