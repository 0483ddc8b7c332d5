import Turnstile.Service.World
import Turnstile.Meter.Pool

/-!
# Stopping the service while requests still arrive

A session stops its service in one call (`World.stopApp`), since the session's own steps do not
overlap. The service is stopped by one task while others still run, though: requests keep
reaching it through its guards, and the meter's record calls and workers go on. `Closing` is the
service while it stops, with its meter as its tasks (`Meter.Pool`), and `Closing.Event` is one
atomic step of any of these tasks.

The shutdown runs in stages. It tells the loops to stop and waits for them; a loop stops between
two ticks, and no tick is in flight as the shutdown begins. It calls the meter's shutdown and
follows that call to its return. Then, when the settings ask for it, it runs one last drain
cycle and returns that cycle's report. A request is admitted or refused on the stores at once; an
admitted read with a counter key starts a record call on the meter, which sends its increment in
a step of its own.
-/

namespace Turnstile

/-- Where the service's shutdown stands. -/
inductive Closing.Stage where
  /-- The loops are to be told to stop. -/
  | loops
  /-- The meter's shutdown is to be called. -/
  | meter
  /-- The meter's shutdown runs, as the call at a position among the meter's shutdown calls. -/
  | flushing (call : Nat)
  /-- The meter's shutdown returned; the final drain is next. -/
  | draining
  /-- The shutdown returned, with the report of the final drain cycle when one ran. -/
  | stopped (report : Option DrainReport)
  /-- The final drain cycle halted, and the shutdown with it. -/
  | halted
  deriving DecidableEq

/-- The service while it stops: its parts, its stores, the wall clock, its meter's tasks, and
where the shutdown stands. -/
structure Closing where
  app : App
  backend : Backend
  wall : Instant
  pool : Meter.Pool
  stage : Closing.Stage := .loops

/-- One atomic step while the service stops. -/
inductive Closing.Event where
  /-- A request reaches the service through a guard. -/
  | request (req : Request)
  /-- The meter's record call in flight at a position tries to queue its increment. -/
  | send (call : Nat)
  /-- The meter's worker at a position takes the next job. -/
  | take (worker : Nat)
  /-- The meter's worker at a position sends the increment it holds. -/
  | apply (worker : Nat)
  /-- The shutdown takes its next step. -/
  | shutdown

namespace Closing

/-- The service of a session as its shutdown begins: the meter's queue waits for its workers. -/
def begin (w : World) (a : App) : Closing :=
  { app := a, backend := w.backend, wall := w.wall, pool := .ofMeter a.config.meter a.meter }

/-- One step of the meter's tasks on the stores, with what it tells. -/
def meterStep (c : Closing) (e : Meter.Pool.Event) : Closing × Option Meter.Note :=
  match (c.pool.step e).run.run c.backend with
  | (.ok (p, note), b) => ({ c with pool := p, backend := b }, note)
  | (.error _, b) => ({ c with backend := b }, none)

/-- A request through a guard: it is admitted or refused on the stores, and an admitted read
with a counter key starts a record call on the meter. -/
def request (c : Closing) (req : Request) : Closing × Option Meter.Note :=
  match (c.app.authorizeRequest req).run.run c.backend with
  | (.ok (.ok (cred, _)), b) =>
    match c.app.readKey? req.path cred with
    | some key => { c with backend := b }.meterStep (.record key)
    | none => ({ c with backend := b }, none)
  | (_, b) => ({ c with backend := b }, none)

/-- The shutdown's next step. -/
def advance (c : Closing) : Closing × Option Meter.Note :=
  match c.stage with
  | .loops =>
    ({ c with app := { c.app with drainDue := none, shipDue := none }, stage := .meter }, none)
  | .meter =>
    match c.pool.beginShutdown with
    | (p, some (.returned true)) =>
      ({ c with pool := p, stage := .draining }, some (.returned true))
    | (p, note) => ({ c with pool := p, stage := .flushing c.pool.stopping.length }, note)
  | .flushing j =>
    match c.meterStep (.stop j) with
    | (c', some (.returned false)) => ({ c' with stage := .draining }, some (.returned false))
    | (c', note) => (c', note)
  | .draining =>
    if c.app.config.drain.drainOnShutdown then
      match (c.app.drainer.cycle c.wall).run.run c.backend with
      | (.ok r, b) => ({ c with backend := b, stage := .stopped (some r) }, none)
      | (.error _, b) => ({ c with backend := b, stage := .halted }, none)
    else ({ c with stage := .stopped none }, none)
  | .stopped _ => (c, none)
  | .halted => (c, none)

/-- One step while the service stops, with what the meter told. -/
def step (c : Closing) : Event → Closing × Option Meter.Note
  | .request req => c.request req
  | .send i => c.meterStep (.send i)
  | .take i => c.meterStep (.take i)
  | .apply i => c.meterStep (.apply i)
  | .shutdown => c.advance

/-- The service and what the meter told so far, after one more step. -/
def after (st : Closing × List Meter.Note) (e : Event) : Closing × List Meter.Note :=
  ((st.1.step e).1, st.2 ++ (st.1.step e).2.toList)

/-- The service and what the meter told, after steps in order. -/
def run (events : List Event) (c : Closing) : Closing × List Meter.Note :=
  events.foldl after (c, [])

end Closing

end Turnstile
