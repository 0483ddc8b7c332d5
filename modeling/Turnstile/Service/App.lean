import Turnstile.Access.Gate
import Turnstile.Access.Blocklist
import Turnstile.Meter
import Turnstile.Drain.Cycle
import Turnstile.Service.Error
import Turnstile.Request
import Turnstile.Ident.DetailPath

/-!
# The running service

`App` is the service as it runs on a backend: its configuration, a gate, a
blocklist, a meter, a drainer, and the deadlines of its two background loops
on the monotonic clock (the drain loop, and the log-shipping loop when
shipping is on). A loop whose first deadline cannot be represented never
runs.

Starting checks that the counter store answers (a failure is only noted) and
provisions the drain bucket and, with shipping on, the log bucket; a failed
provisioning stops the start. A request is handled in a fixed order: the
credential from the configured header (first match, ASCII case ignored,
empty counts as missing), then the gate, then registration, then the
entitlement when required. Only an admitted request reaches its handler;
after the handler, a read of a detail path under the version root is metered
when the credential is a valid subject.
-/

namespace Turnstile

/-- The service running on a backend. -/
structure App where
  config : Config
  gate : Gate
  blocklist : Blocklist
  meter : Meter
  drainer : Drainer
  drainDue : Option Nat := none
  shipDue : Option Nat := none

namespace App

open StoreOp

/-- Provisions buckets in order, stopping at the first failure. -/
def provision : List String → StoreOp (Except String Unit)
  | [] => pure (.ok ())
  | b :: rest => do
    match ← ensureBucket b with
    | .error e => pure (.error ("failed to provision bucket " ++ b ++ ": " ++ e.message))
    | .ok _ => provision rest

/-- The first deadline of a loop with an interval in seconds, if it can be represented. -/
def firstDue (b : Backend) (interval : Nat) : Option Nat :=
  match b.deadline (interval * 1000) with
  | .ok t => some t
  | .error _ => none

/-- Starts the service with a configuration, its drainer holding leases as `holder`. -/
def start (config : Config) (holder : Holder) : StoreOp (Except String App) := do
  let _ ← ping .counters
  let buckets := config.drain.bucket ::
    (if config.shipping.enabled then [config.shipping.bucket] else [])
  match ← provision buckets with
  | .error e => pure (.error e)
  | .ok () =>
    let b ← get
    pure <| .ok {
      config
      gate := ⟨config.gate.statusTtl⟩
      blocklist := ⟨config.blocklist.cacheTtl⟩
      meter := Meter.start config.meter
      drainer := ⟨config.drain, holder⟩
      drainDue := firstDue b config.drain.interval
      shipDue := if config.shipping.enabled then firstDue b config.shipping.interval else none }

/-- The verdict on a caller whose status the gate answered: an unregistered subject is refused,
and so is one without the entitlement when the service requires it. -/
def verdict (a : App) (c : Credential) (s : Status) : Except AppError (Credential × Status) :=
  if !s.registered then .error .subjectUnknown
  else if a.config.gate.requireEntitlement && !s.entitled then .error .notEntitled
  else .ok (c, s)

/-- Admits a request: its credential and the status of its caller, or why the caller is
refused. -/
def authorizeRequest (a : App) (req : Request) : StoreOp (Except AppError (Credential × Status)) := do
  match Credential.parse (req.header? a.config.gate.header) with
  | .error _ => pure (.error .credentialMissing)
  | .ok c =>
    match ← a.gate.authorizeCredential c with
    | .error e => pure (.error (.auth e))
    | .ok s => pure (a.verdict c s)

/-- The counter key a read of a path under a credential is metered under: the path is a detail
path under the version root, and the credential is a valid subject. -/
def readKey? (a : App) (path : String) (c : Credential) : Option CounterKey :=
  match detailResource path a.config.gate.versionRoot, c.subject with
  | some r, .ok subj => some ⟨r, subj⟩
  | _, _ => none

/-- Meters a read of a path under a credential, when it has a counter key. -/
def noteRead (a : App) (path : String) (c : Credential) : App :=
  match a.readKey? path c with
  | some key => { a with meter := (a.meter.record key).1 }
  | none => a

/-- Metering a read records one read on the meter, or nothing. -/
theorem noteRead_cases (a : App) (path : String) (c : Credential) :
    a.noteRead path c = a ∨ ∃ key, a.noteRead path c = { a with meter := (a.meter.record key).1 } := by
  unfold noteRead
  split
  · exact .inr ⟨_, rfl⟩
  · exact .inl rfl

/-- Handles a request with a handler: the handler's output for an admitted caller, or why the
caller is refused; an admitted read is metered after the handler ran. -/
def handleWith {α : Type} (a : App) (req : Request) (handler : Status → StoreOp α) :
    StoreOp (App × Except AppError α) := do
  match ← a.authorizeRequest req with
  | .error e => pure (a, .error e)
  | .ok (c, s) =>
    let out ← handler s
    pure (a.noteRead req.path c, .ok out)

/-- Handles a request whose handler answers the caller's status. -/
def handle (a : App) (req : Request) : StoreOp (App × Except AppError Status) :=
  a.handleWith req pure

/-- Whether the client of a request is blocked; without a client address it is not. -/
def guardBlocked (a : App) (req : Request) : StoreOp Bool :=
  match req.clientIp with
  | some ip => a.blocklist.isBlocked ip
  | none => pure false

/-- Screens the client of a request that reached an unknown route. -/
def rejectUnknown (a : App) (req : Request) (now : Instant) : StoreOp (Except AppError Verdict) :=
  match req.clientIp with
  | none => pure (.error .clientAddressMissing)
  | some ip => do
    pure ((← a.blocklist.screen ip now).mapError .auth)

end App

end Turnstile
