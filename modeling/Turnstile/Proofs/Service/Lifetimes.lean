import Turnstile.Proofs.Access.Blocks
import Turnstile.Proofs.Drain.Sums
import Turnstile.Service.App

/-!
# Lifetimes that halt the service

Every duration of the configuration becomes, somewhere, a moment on the
monotonic clock: the status and block caches write entries that lapse a
lifetime from now, a drain takes its lease until a lifetime from now, and the
loops set their first tick an interval after the start. On the memory engine
that moment must be one the clock can represent, or the service halts
(`Backend.deadline`). The configuration check asks only that some durations
be positive, so it bounds none of them.

`Backend.Spans b secs` says that a lifetime of `secs` seconds, started at the
backend's present moment, ends at a moment that can be represented. When the
durations of a started service span, nothing it does halts on a deadline: its
gate authorizes, its blocklist checks and blocks addresses, its drainer runs a
cycle over a namespace holding at most a word, and both loops get their first
tick (`spanning_durations_never_halt`). The bound is the whole story: a gate
whose lifetime does not span halts the first authorization that caches a
status (`authorizeCredential_halts`), and the check accepts a status lifetime
of the largest word (`largest_status_lifetime_halts`).
-/

namespace Turnstile

open StoreOp

namespace Backend

/-- Whether a lifetime of `secs` seconds, started at the present moment of the monotonic clock,
ends at a moment that clock can represent. -/
def Spans (b : Backend) (secs : Nat) : Prop :=
  (monotonicStart + b.clock + secs * 1000) / 1000 ≤ signedMax

instance (b : Backend) (secs : Nat) : Decidable (b.Spans secs) :=
  inferInstanceAs (Decidable ((monotonicStart + b.clock + secs * 1000) / 1000 ≤ signedMax))

theorem deadline_of_spans {b : Backend} {secs : Nat} (h : b.Spans secs) :
    ∃ t, b.deadline (secs * 1000) = .ok t := by
  unfold deadline
  split
  · rw [if_neg (Nat.not_lt.2 h)]
    exact ⟨_, rfl⟩
  · exact ⟨_, rfl⟩

theorem deadline_of_not_spans {b : Backend} {secs : Nat} (he : b.engine = .memory)
    (h : ¬ b.Spans secs) : b.deadline (secs * 1000) = .error .deadlineOverflow := by
  unfold deadline
  rw [he, if_pos (Nat.lt_of_not_le h)]

end Backend

/-! ## Each part of the service -/

namespace Gate

theorem remember_returns (g : Gate) (c : Credential) (s : Status) {b : Backend}
    (hs : b.Spans g.lifetime) : ∃ r, ((g.remember c s).run.run b).1 = .ok r := by
  obtain ⟨t, ht⟩ := Backend.deadline_of_spans hs
  simp only [remember, run_bind, kvSet_run]
  cases b.available .kv with
  | error e => exact ⟨_, rfl⟩
  | ok u =>
    dsimp only
    rw [ht]
    exact ⟨_, rfl⟩

/-- An authorization returns when the gate's lifetime spans: a hit writes nothing, and after a
miss the status is cached until a moment that can be represented. -/
theorem authorizeCredential_returns (g : Gate) (c : Credential) {b : Backend}
    (hs : b.Spans g.lifetime) : ∃ r, ((g.authorizeCredential c).run.run b).1 = .ok r := by
  rcases cached_cases c b with ⟨s, hhit⟩ | hmiss
  · exact ⟨_, by rw [authorizeCredential_hit g hhit]⟩
  · rw [authorizeCredential_miss g hmiss]
    cases hrec : b.available .records with
    | error e =>
      rw [fetchSubject_error _ hrec]
      exact ⟨_, rfl⟩
    | ok u =>
      rw [fetchSubject_ok _ hrec]
      dsimp only
      -- the lookup count moved, the clock did not
      obtain ⟨r, hr⟩ := remember_returns g c (resolveDocument (b.records.subjects.get? c.text))
        (b := { b with records := { b.records with lookups := b.records.lookups + 1 } }) hs
      rcases hrem : (g.remember c (resolveDocument (b.records.subjects.get? c.text))).run.run
          { b with records := { b.records with lookups := b.records.lookups + 1 } } with
        ⟨_ | _, b₂⟩
      · rw [hrem] at hr
        cases hr
      · exact ⟨_, rfl⟩

theorem authorize_returns (g : Gate) (raw : Option String) {b : Backend}
    (hs : b.Spans g.lifetime) : ∃ r, ((g.authorize raw).run.run b).1 = .ok r := by
  unfold authorize
  split
  · exact ⟨_, rfl⟩
  · exact g.authorizeCredential_returns _ hs

/-- A gate whose lifetime does not span halts an authorization on the memory engine exactly
when it comes to cache a status: the cache misses, and both stores answer. -/
theorem authorizeCredential_halts (g : Gate) (c : Credential) {b : Backend}
    (he : b.engine = .memory) (hs : ¬ b.Spans g.lifetime)
    (hmiss : (cached c).run.run b = (.ok .miss, b))
    (hkv : b.available .kv = .ok ()) (hrec : b.available .records = .ok ()) :
    ((g.authorizeCredential c).run.run b).1 = .error .deadlineOverflow := by
  rw [authorizeCredential_miss g hmiss, fetchSubject_ok _ hrec]
  dsimp only
  -- the lookup count moved; the clock and the key-value store did not
  have hkv' : ({ b with records := { b.records with lookups := b.records.lookups + 1 } } :
      Backend).available .kv = .ok () := hkv
  have hd : ({ b with records := { b.records with lookups := b.records.lookups + 1 } } :
      Backend).deadline (g.lifetime * 1000) = .error .deadlineOverflow :=
    Backend.deadline_of_not_spans he hs
  simp only [remember, run_bind, kvSet_run, hkv', hd]

end Gate

namespace Blocklist

theorem remember_returns (bl : Blocklist) (address : String) {b : Backend}
    (hs : b.Spans bl.lifetime) : ((bl.remember address).run.run b).1 = .ok () := by
  obtain ⟨t, ht⟩ := Backend.deadline_of_spans hs
  rw [remember_run]
  split
  · rfl
  · rw [ht]

theorem isBlocked_returns (bl : Blocklist) (address : String) {b : Backend}
    (hs : b.Spans bl.lifetime) : ∃ r, ((bl.isBlocked address).run.run b).1 = .ok r := by
  rw [isBlocked_run]
  split
  · exact ⟨_, rfl⟩
  · split
    · exact ⟨true, by rw [Prod.map_fst, bl.remember_returns address hs]; rfl⟩
    · exact ⟨_, rfl⟩

theorem block_returns (bl : Blocklist) (address : String) (now : Instant) {b : Backend}
    (hs : b.Spans bl.lifetime) : ∃ r, ((bl.block address now).run.run b).1 = .ok r := by
  rw [block_run]
  split
  · exact ⟨_, rfl⟩
  -- recording the block leaves the clock where it was
  · exact ⟨.ok (), by rw [Prod.map_fst, bl.remember_returns address (b := { b with
      records := b.records.block address now }) hs]; rfl⟩

end Blocklist

namespace Drainer

/-- A cycle over a namespace holding at most a word returns when its lease lifetime spans: the
lease is granted until a moment that can be represented, and the rest never halts. -/
theorem cycle_returns (d : Drainer) (now : Instant) {b : Backend}
    (hs : b.Spans d.settings.leaseTtl) (hfit : b.namespaceUnits ≤ wordMax) :
    ∃ r, ((d.cycle now).run.run b).1 = .ok r := by
  rcases cycle_within_lease d now le_rfl b hfit with ⟨⟨h, hdl⟩, -⟩ | ⟨r, hr, -⟩
  · -- the lease's end is represented, so taking it does not halt
    obtain ⟨t, ht⟩ := Backend.deadline_of_spans hs
    rw [ht] at hdl
    cases hdl
  · exact ⟨r, hr⟩

end Drainer

namespace App

theorem firstDue_isSome {b : Backend} {interval : Nat} (hs : b.Spans interval) :
    (firstDue b interval).isSome := by
  obtain ⟨t, ht⟩ := Backend.deadline_of_spans hs
  rw [firstDue, ht]
  rfl

/-- A started service is made of the parts its configuration describes, with the first ticks of
its loops counted from the backend it started on. -/
theorem start_eq {c : Config} {holder : Holder} {b₀ b₁ : Backend} {a : App}
    (h : (start c holder).run.run b₀ = (.ok (.ok a), b₁)) :
    a = { config := c
          gate := ⟨c.gate.statusTtl⟩
          blocklist := ⟨c.blocklist.cacheTtl⟩
          meter := Meter.start c.meter
          drainer := ⟨c.drain, holder⟩
          drainDue := firstDue b₁ c.drain.interval
          shipDue := if c.shipping.enabled then firstDue b₁ c.shipping.interval else none } := by
  simp only [start, run_bind, ping_run] at h
  rcases hp : (provision (c.drain.bucket ::
      if c.shipping.enabled then [c.shipping.bucket] else [])).run.run b₀ with ⟨_ | _ | _, b'⟩
  · rw [hp] at h
    cases h
  · rw [hp] at h
    cases h
  · rw [hp] at h
    obtain ⟨ha, rfl⟩ := Prod.mk.inj h
    exact (Except.ok.inj (Except.ok.inj ha)).symm

end App

/-! ## The whole service -/

/-- A service started from any configuration halts on none of its durations while they span:
from every later backend on which the cache lifetimes and the lease lifetime span, its gate
authorizes and its blocklist checks and blocks without halting, and its drainer runs a cycle
over a namespace holding at most a word without halting; and each loop whose interval spans on
the backend it started on gets its first tick. -/
theorem spanning_durations_never_halt {c : Config} {holder : Holder} {b₀ b₁ : Backend} {a : App}
    (hstart : (App.start c holder).run.run b₀ = (.ok (.ok a), b₁)) (b : Backend)
    (hgate : b.Spans c.gate.statusTtl) (hblock : b.Spans c.blocklist.cacheTtl)
    (hlease : b.Spans c.drain.leaseTtl) (hsum : b.namespaceUnits ≤ wordMax) :
    (∀ raw, ∃ r, ((a.gate.authorize raw).run.run b).1 = .ok r) ∧
    (∀ address, ∃ r, ((a.blocklist.isBlocked address).run.run b).1 = .ok r) ∧
    (∀ address now, ∃ r, ((a.blocklist.block address now).run.run b).1 = .ok r) ∧
    (∀ now, ∃ r, ((a.drainer.cycle now).run.run b).1 = .ok r) ∧
    (b₁.Spans c.drain.interval → a.drainDue.isSome) ∧
    (c.shipping.enabled → b₁.Spans c.shipping.interval → a.shipDue.isSome) := by
  obtain rfl := App.start_eq hstart
  refine ⟨fun raw => Gate.authorize_returns _ raw hgate,
    fun address => Blocklist.isBlocked_returns _ address hblock,
    fun address now => Blocklist.block_returns _ address now hblock,
    fun now => Drainer.cycle_returns _ now hlease hsum,
    App.firstDue_isSome, fun hon hs => ?_⟩
  simp only [hon, ↓reduceIte]
  exact App.firstDue_isSome hs

theorem default_durations_never_halt :
    let c : Config := {}
    let b₀ : Backend := { engine := .memory }
    let b₁ := ((App.start c (.drainer 1)).run.run b₀).2
    ∃ a, (App.start c (.drainer 1)).run.run b₀ = (.ok (.ok a), b₁) ∧
      b₁.Spans c.gate.statusTtl ∧ b₁.Spans c.blocklist.cacheTtl ∧
      b₁.Spans c.drain.leaseTtl ∧ b₁.namespaceUnits ≤ wordMax ∧
      (∀ raw, ∃ r, ((a.gate.authorize raw).run.run b₁).1 = .ok r) ∧
      (∀ address, ∃ r, ((a.blocklist.isBlocked address).run.run b₁).1 = .ok r) ∧
      (∀ address now, ∃ r, ((a.blocklist.block address now).run.run b₁).1 = .ok r) ∧
      (∀ now, ∃ r, ((a.drainer.cycle now).run.run b₁).1 = .ok r) ∧
      (b₁.Spans c.drain.interval → a.drainDue.isSome) ∧
      (c.shipping.enabled → b₁.Spans c.shipping.interval → a.shipDue.isSome) := by
  intro c b₀ b₁
  obtain ⟨a, ha⟩ : ∃ a, (App.start c (.drainer 1)).run.run b₀ = (.ok (.ok a), b₁) :=
    ⟨_, rfl⟩
  have hgate : b₁.Spans c.gate.statusTtl := by decide
  have hblock : b₁.Spans c.blocklist.cacheTtl := by decide
  have hlease : b₁.Spans c.drain.leaseTtl := by decide
  have hsum : b₁.namespaceUnits ≤ wordMax := by decide
  exact ⟨a, ha, hgate, hblock, hlease, hsum,
    spanning_durations_never_halt ha b₁ hgate hblock hlease hsum⟩

/-- The check accepts a status lifetime of the largest word, and the service started with it
halts on the first authorization of a registered credential. -/
theorem largest_status_lifetime_halts :
    let c : Config := { gate := { statusTtl := wordMax } }
    let b₀ : Backend :=
      { engine := .memory, records := { subjects := ({} : Table Json).insert "U1" (.object []) } }
    c.check = none ∧ ∃ a b₁, (App.start c (.drainer 1)).run.run b₀ = (.ok (.ok a), b₁) ∧
      ((a.gate.authorize (some "U1")).run.run b₁).1 = .error .deadlineOverflow := by
  intro c b₀
  exact ⟨rfl, _, _, rfl, by decide +kernel⟩

end Turnstile
