import Turnstile.Meter

/-!
# The meter's tasks side by side

`Meter` is the meter as one task sees it: a record call queues or drops at once, and a flush
applies the whole queue. Here the meter runs as its tasks do, interleaved one atomic step at a
time over the shared `Pool`: record calls from any number of callers, a pool of workers sharing
one bounded queue, and shutdown calls.

A record call first reads the closed flag, then tries to put its increment on the queue, which
fails when the queue is full or its receiver is closed. A worker takes the next job, and either
sends the increment it took to the counter store or, for a stop job, exits; on a closed and empty
queue it exits too. A shutdown call swaps the closed flag: a call that finds the meter already
closed returns at once. The first call sends one stop job per worker, waits for every worker to
exit, closes the receiver and applies the increments still queued before it returns. A step that
would wait (a worker on an empty open queue, a stop job meeting a full queue, a join of a worker
still running) changes nothing.

Each step tells its caller what happened, as a `Note`: a record call's answer, an increment sent
to the store with whether the store took it, or a shutdown call's return.
-/

namespace Turnstile

namespace Meter

/-- A job on the queue: an increment of an encoded counter key, or the stop job of a worker. -/
inductive Job where
  | increment (key : String)
  | stop
  deriving DecidableEq, Repr

/-- A worker waits for a job, holds an increment it is about to send, or has exited. -/
inductive Worker where
  | idle
  | holding (key : String)
  | exited
  deriving DecidableEq, Repr

/-- Where the shutdown call that found the meter open stands: sending stop jobs (so many still
to send), joining the workers, applying what they left on the closed queue, or returned. -/
inductive Stopper where
  | sending (left : Nat)
  | joining
  | draining
  | returned
  deriving DecidableEq, Repr

/-- What a step tells: a record call's answer, an increment sent to the store and whether the
store took it, or the return of a shutdown call, `early` when it found the meter closed. -/
inductive Note where
  | answered (key : CounterKey) (dispatch : Dispatch)
  | sent (key : String) (taken : Bool)
  | returned (early : Bool)
  deriving DecidableEq

/-- The meter's shared state: the queue bound, the closed flag, the queue and whether its
receiver is open, the workers, the record calls past the closed flag with their keys, the
shutdown calls that found the meter open, and the tally. -/
structure Pool where
  capacity : Nat
  closed : Bool := false
  jobs : List Job := []
  receiverOpen : Bool := true
  workers : List Worker
  recording : List CounterKey := []
  stopping : List Stopper := []
  applied : Nat := 0
  dropped : Nat := 0
  failed : Nat := 0
  deriving DecidableEq

/-- One atomic step of one task of the meter. -/
inductive Pool.Event where
  /-- A record call of a key reads the closed flag. -/
  | record (key : CounterKey)
  /-- The record call in flight at a position tries to queue its increment. -/
  | send (call : Nat)
  /-- The worker at a position takes the next job. -/
  | take (worker : Nat)
  /-- The worker at a position sends the increment it holds. -/
  | apply (worker : Nat)
  /-- A shutdown call swaps the closed flag. -/
  | shutdown
  /-- The shutdown call in flight at a position takes its next step. -/
  | stop (call : Nat)

namespace Pool

/-- A fresh meter: at least one worker, and room for at least one job. -/
def start (s : MeterSettings) : Pool :=
  { capacity := max s.queueCapacity 1, workers := List.replicate (max s.workers 1) .idle }

/-- The tasks of a meter so far run one call at a time: its queue waits for its workers, all
waiting, and its tally stands. -/
def ofMeter (s : MeterSettings) (m : Meter) : Pool :=
  { capacity := m.capacity
    closed := m.closed
    jobs := m.queue.map .increment
    workers := List.replicate (max s.workers 1) .idle
    applied := m.applied
    dropped := m.dropped
    failed := m.failed }

/-- Tallies an increment sent to the store as applied or failed. -/
def count (p : Pool) (taken : Bool) : Pool :=
  if taken then { p with applied := p.applied + 1 } else { p with failed := p.failed + 1 }

/-- Sends an increment to the store and tallies it. -/
def tally (p : Pool) (key : String) : StoreOp (Pool × Option Note) := do
  let taken ← increment key
  pure (p.count taken, some (.sent key taken))

/-- A record call reads the closed flag: on a closed meter its read is dropped, otherwise it
goes on to queue its increment. -/
def beginRecord (p : Pool) (key : CounterKey) : Pool × Option Note :=
  if p.closed then ({ p with dropped := p.dropped + 1 }, some (.answered key .dropped))
  else ({ p with recording := p.recording ++ [key] }, none)

/-- The record call in flight at a position puts its increment on the queue, or drops its
read when the receiver is closed or the queue is full. -/
def sendJob (p : Pool) (i : Nat) : Pool × Option Note :=
  match p.recording[i]? with
  | none => (p, none)
  | some key =>
    if p.receiverOpen ∧ p.jobs.length < p.capacity then
      ({ p with recording := p.recording.eraseIdx i, jobs := p.jobs ++ [.increment key.encode] },
        some (.answered key .queued))
    else
      ({ p with recording := p.recording.eraseIdx i, dropped := p.dropped + 1 },
        some (.answered key .dropped))

/-- The worker at a position takes the next job: it holds an increment, or exits on a stop job
or on a closed and empty queue; on an empty open queue it waits. -/
def takeJob (p : Pool) (i : Nat) : Pool × Option Note :=
  match p.workers[i]?, p.jobs with
  | some .idle, .increment key :: rest =>
    ({ p with jobs := rest, workers := p.workers.set i (.holding key) }, none)
  | some .idle, .stop :: rest => ({ p with jobs := rest, workers := p.workers.set i .exited }, none)
  | some .idle, [] =>
    if p.receiverOpen then (p, none) else ({ p with workers := p.workers.set i .exited }, none)
  | _, _ => (p, none)

/-- The worker at a position sends the increment it holds and waits again. -/
def applyJob (p : Pool) (i : Nat) : StoreOp (Pool × Option Note) :=
  match p.workers[i]? with
  | some (.holding key) => { p with workers := p.workers.set i .idle }.tally key
  | _ => pure (p, none)

/-- A shutdown call swaps the closed flag: it returns at once when the meter was closed, and
otherwise goes on to stop one worker for each of them. -/
def beginShutdown (p : Pool) : Pool × Option Note :=
  if p.closed then (p, some (.returned true))
  else ({ p with closed := true, stopping := p.stopping ++ [.sending p.workers.length] }, none)

/-- The shutdown call in flight at a position takes its next step: it sends a stop job when
the queue has room (giving up on a closed receiver), then waits for every worker to exit and
closes the receiver, then applies the queued increments one by one and returns. -/
def advanceStop (p : Pool) (i : Nat) : StoreOp (Pool × Option Note) :=
  match p.stopping[i]? with
  | some (.sending 0) => pure ({ p with stopping := p.stopping.set i .joining }, none)
  | some (.sending (n + 1)) =>
    if !p.receiverOpen then pure ({ p with stopping := p.stopping.set i .joining }, none)
    else if p.jobs.length < p.capacity then
      pure ({ p with jobs := p.jobs ++ [.stop], stopping := p.stopping.set i (.sending n) }, none)
    else pure (p, none)
  | some .joining =>
    if p.workers.all (· = .exited) then
      pure ({ p with receiverOpen := false, stopping := p.stopping.set i .draining }, none)
    else pure (p, none)
  | some .draining =>
    match p.jobs with
    | [] => pure ({ p with stopping := p.stopping.set i .returned }, some (.returned false))
    | .stop :: rest => pure ({ p with jobs := rest }, none)
    | .increment key :: rest => { p with jobs := rest }.tally key
  | _ => pure (p, none)

/-- One step of the meter's tasks, with what it tells. -/
def step (p : Pool) : Event → StoreOp (Pool × Option Note)
  | .record key => pure (p.beginRecord key)
  | .send i => pure (p.sendJob i)
  | .take i => pure (p.takeJob i)
  | .apply i => p.applyJob i
  | .shutdown => pure p.beginShutdown
  | .stop i => p.advanceStop i

/-- The meter, its counter store and the notes so far, after one more event. -/
def after (st : Pool × Backend × List Note) (e : Event) : Pool × Backend × List Note :=
  match (st.1.step e).run.run st.2.1 with
  | (.ok (p, note), b) => (p, b, st.2.2 ++ note.toList)
  | (.error _, b) => (st.1, b, st.2.2)

/-- The meter, its counter store and what the steps told, after events in order. -/
def run (events : List Event) (p : Pool) (b : Backend) : Pool × Backend × List Note :=
  events.foldl after (p, b, [])

end Pool

end Meter

end Turnstile
