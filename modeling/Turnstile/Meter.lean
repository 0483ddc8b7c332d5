import Turnstile.Store.Backend
import Turnstile.Ident.CounterKey
import Turnstile.Service.Config

/-!
# The access meter

The meter counts reads without making the reader wait. Recording a read puts
an increment of its counter key on a bounded queue, or drops it when the
queue is full or the meter is shut down; the answer says which. The queued
increments are applied to the counter store later, in order, each adding 1;
an increment the store refuses counts as failed. Shutting down closes the
meter and applies what is still queued.

The tally keeps three numbers: applied, dropped and failed increments. Every
recorded read is dropped, or queued and then applied or failed once the
queue has been flushed.
-/

namespace Turnstile

/-- What happened to a recorded read. -/
inductive Dispatch where
  | queued
  | dropped
  deriving DecidableEq, Repr

/-- The name of a dispatch. -/
def Dispatch.name : Dispatch → String
  | .queued => "Queued"
  | .dropped => "Dropped"

/-- A meter: its queue bound, its queued keys, whether it is closed, and its tally. -/
structure Meter where
  capacity : Nat
  queue : List String := []
  closed : Bool := false
  applied : Nat := 0
  dropped : Nat := 0
  failed : Nat := 0
  deriving DecidableEq, Repr, Inhabited

namespace Meter

/-- A fresh meter; its queue holds at least one increment. -/
def start (s : MeterSettings) : Meter := { capacity := max s.queueCapacity 1 }

/-- Records a read of a counter key. -/
def record (m : Meter) (key : CounterKey) : Meter × Dispatch :=
  if m.closed ∨ m.queue.length ≥ m.capacity then ({ m with dropped := m.dropped + 1 }, .dropped)
  else ({ m with queue := m.queue ++ [key.encode] }, .queued)

/-- Sends one increment of a key to the counter store: whether the store took it. -/
def increment (key : String) : StoreOp Bool := do
  match ← StoreOp.incr key 1 with
  | .ok _ => pure true
  | .error _ => pure false

/-- Applies one queued increment and tallies it. -/
def applyOne (m : Meter) (key : String) : StoreOp Meter := do
  if ← increment key then pure { m with applied := m.applied + 1 }
  else pure { m with failed := m.failed + 1 }

/-- Applies every queued increment, in order. -/
def flush (m : Meter) : StoreOp Meter :=
  m.queue.foldlM applyOne { m with queue := [] }

/-- Closes the meter and applies what is queued. -/
def shutdown (m : Meter) : StoreOp Meter :=
  flush { m with closed := true }

/-- Every recorded read is either queued or dropped. -/
theorem record_tally (m : Meter) (key : CounterKey) :
    (m.record key).1.queue.length + (m.record key).1.dropped = m.queue.length + m.dropped + 1 := by
  unfold record
  split <;> simp <;> omega

end Meter

end Turnstile
