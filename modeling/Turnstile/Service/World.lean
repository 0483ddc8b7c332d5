import Turnstile.Service.App
import Turnstile.Ship

/-!
# A session of the service

`World` is everything a session of the service holds: its backend (how it was
opened, its stores and the monotonic clock), the wall clock, the parts made
so far (a gate, a blocklist, a meter, named drainers, at most one running
service), the scratch file tree the service reads log files from, and the
number of drainers made, which tells their lease holders apart.

Queued meter increments are applied only when the session yields: the
steps that sleep, settle or shut something down. Increments still queued in
a meter that was replaced are applied then too. Sleeping moves the monotonic
clock; on the way it runs every tick of the service's loops that falls due,
in deadline order, each to completion and followed by the queued increments.
A single sleep moves the clock by at most `sleepBound` milliseconds. A halt
inside a loop's tick ends that loop only; its work so far stays done.
-/

namespace Turnstile

/-- How the backend of a session was opened. -/
inductive Flavor where
  | memory
  | shared
  | durable
  | durableFile
  deriving DecidableEq, Repr, Inhabited

/-- The engine a flavor runs on. -/
def Flavor.engine : Flavor → Engine
  | .memory | .shared => .memory
  | .durable | .durableFile => .durable

/-- Everything a session holds. -/
structure World where
  flavor : Flavor
  backend : Backend
  wall : Instant
  gate : Option Gate := none
  blocklist : Option Blocklist := none
  meter : Option Meter := none
  stray : List String := []
  drainers : List (String × Drainer) := []
  app : Option App := none
  files : FileTree := {}
  serial : Nat := 0

/-- A step of a session: it changes the world and may halt the service. -/
abbrev Run := ExceptT Halt (StateM World)

/-- The longest a single sleep moves the monotonic clock, in milliseconds. -/
def sleepBound : Nat := 68719476734

namespace World

/-- A fresh session on a flavor of backend, its wall clock at a moment. -/
def fresh (flavor : Flavor) (start : Instant) : World :=
  { flavor, backend := { engine := flavor.engine }, wall := start }

/-- Runs a store operation on the session's backend. -/
def onStores {α : Type} (op : StoreOp α) : Run α :=
  ExceptT.mk fun w =>
    let (r, b) := (ExceptT.run op).run w.backend
    (r, { w with backend := b })

/-- Applies the increments of replaced meters. -/
def flushStray : Run Unit := do
  let keys := (← get).stray
  modify fun w => { w with stray := [] }
  for key in keys do
    let _ ← onStores (StoreOp.incr key 1)

/-- Applies every queued increment of every meter. -/
def flushAll : Run Unit := do
  flushStray
  if let some m := (← get).meter then
    let m ← onStores m.flush
    modify fun w => { w with meter := some m }
  if let some a := (← get).app then
    let m ← onStores a.meter.flush
    modify fun w => { w with app := some { a with meter := m } }

/-- Puts a new standalone meter in place; the old one's queue is still applied later. -/
def replaceMeter (m : Meter) : Run Unit :=
  modify fun w => { w with
    stray := w.stray ++ (w.meter.map (·.queue)).getD []
    meter := some m }

/-- A new drainer's lease holder. -/
def newHolder : Run Holder := do
  let w ← get
  set { w with serial := w.serial + 1 }
  pure (.drainer w.serial)

/-- Runs the drain tick of the service that fell due at a moment. -/
def drainTick (due : Nat) : Run Unit := do
  let w ← get
  match w.app with
  | none => pure ()
  | some a =>
    let alive ← tryCatch (do let _ ← onStores (a.drainer.cycle w.wall); pure true)
      (fun _ => pure false)
    modify fun w => { w with app := w.app.map fun a => { a with
      drainDue := if alive then some (due + a.config.drain.interval * 1000) else none } }

/-- Runs the log-shipping tick of the service that fell due at a moment. -/
def shipTick (due : Nat) : Run Unit := do
  let w ← get
  match w.app with
  | none => pure ()
  | some a =>
    let s := a.config.shipping
    let _ ← onStores (shipFile w.files s.file s.bucket w.wall)
    modify fun w => { w with app := w.app.map fun a => { a with
      shipDue := some (due + s.interval * 1000) } }

/-- The next tick due by a moment: whether it is the drain loop's, and its deadline. -/
def nextTick (w : World) (target : Nat) : Option (Bool × Nat) :=
  match w.app with
  | none => none
  | some a =>
    match a.drainDue.filter (· ≤ target), a.shipDue.filter (· ≤ target) with
    | some d, some s => if s < d then some (false, s) else some (true, d)
    | some d, none => some (true, d)
    | none, some s => some (false, s)
    | none, none => none

/-- Runs the ticks due by a moment, at most `fuel` of them. -/
def runTicks (target : Nat) : Nat → Run Unit
  | 0 => pure ()
  | fuel + 1 => do
    match nextTick (← get) target with
    | none => pure ()
    | some (isDrain, due) =>
      modify fun w => { w with backend := { w.backend with clock := due } }
      if isDrain then drainTick due else shipTick due
      flushAll
      runTicks target fuel

/-- Sleeps for a number of milliseconds, running what falls due; each loop ticks at most once
a second, which bounds the ticks. -/
def sleep (ms : Nat) : Run Unit := do
  flushAll
  let start := (← get).backend.clock
  let target := start + min ms sleepBound
  runTicks target (2 * ((target - start) / 1000 + 1))
  modify fun w => { w with backend := { w.backend with clock := target } }

/-- Stops the service: its loops end, the queued increments are applied, and it drains once
more when its settings ask for it. -/
def stopApp (a : App) : Run (Option DrainReport) := do
  modify fun w => { w with app := some { a with drainDue := none, shipDue := none } }
  flushAll
  let report ← if a.config.drain.drainOnShutdown then
      some <$> onStores (a.drainer.cycle (← get).wall)
    else pure none
  modify fun w => { w with app := none }
  pure report

/-- Moves the wall clock by whole seconds, halting outside the span or the instant range. -/
def advanceWall (secs : Int) : Run Instant := do
  if secs.natAbs > 9223372036854775 then throw .spanOutOfRange
  match (← get).wall.addSeconds secs with
  | none => throw .wallOverflow
  | some t =>
    modify fun w => { w with wall := t }
    pure t

end World

end Turnstile
