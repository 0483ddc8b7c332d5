import Turnstile.Proofs.Access.StatusCache
import Turnstile.Proofs.Store.TableSums

/-!
# The memory and durable engines agree

From fresh backends the two engines reply alike to every call (`engines_agree`) while increments
stay in the signed range, lifetimes fit the run and no prefix holds NUL; a NUL prefix does split
them (`nul_prefix_splits_engines`). The proof is a simulation, `Backend.Agree`, that every call
keeps (`Agree.step`).
-/

namespace Turnstile

open StoreOp

variable {α β : Type}

namespace Table

/-- The table with every value mapped; keys and order stay. -/
def map (f : α → β) (t : Table α) : Table β :=
  ⟨t.entries.map fun e => (e.1, f e.2), List.pairwise_map.2 t.ascending⟩

theorem get?_map (f : α → β) (t : Table α) (k : String) :
    (t.map f).get? k = (t.get? k).map f := by
  simp only [get?, map, List.find?_map, Option.map_map]
  rfl

theorem place_map (f : α → β) (k : String) (v : α) (l : List (String × α)) :
    (place k v l).map (fun e => (e.1, f e.2)) = place k (f v) (l.map fun e => (e.1, f e.2)) := by
  induction l with
  | nil => simp [place]
  | cons e rest ih =>
    obtain ⟨k', v'⟩ := e
    simp only [place, List.map_cons]
    split
    · simp
    · split
      · simp
      · simp [ih]

/-- Mapping commutes with writing a key. -/
theorem map_insert (f : α → β) (t : Table α) (k : String) (v : α) :
    (t.insert k v).map f = (t.map f).insert k (f v) := by
  simp only [map, insert, place_map]

/-- Mapping commutes with erasing a key. -/
theorem map_erase (f : α → β) (t : Table α) (k : String) :
    (t.erase k).map f = (t.map f).erase k := by
  simp only [map, erase, List.filter_map]
  rfl

/-- Two maps that agree on the values of a table map it alike. -/
theorem map_congr {f g : α → β} (t : Table α) (h : ∀ e ∈ t.entries, f e.2 = g e.2) :
    t.map f = t.map g := by
  simp only [map, Table.mk.injEq]
  exact List.map_congr_left fun e he => by rw [h e he]

end Table

/-! ## What a backend shows at a moment -/

/-- How an entry of the key-value store looks at a moment: its text, and whether it is live. -/
def KvEntry.seen (now : Nat) (e : KvEntry) : String × Bool := (e.value, e.isLive now)

/-- How a lease looks at a moment: its holder, and whether it has lapsed. -/
def Lease.seen (now : Nat) (l : Lease) : Holder × Bool := (l.holder, decide (l.expiresAt ≤ now))

/-- A lookup reads only how the entries look at the moment. -/
theorem Kv.lookup_eq_seen (kv : Kv) (now : Nat) (key : String) :
    kv.lookup now key = ((kv.entries.map (KvEntry.seen now)).get? key).bind
      fun e => if e.2 then some e.1 else none := by
  simp only [Kv.lookup, Table.get?_map]
  cases kv.entries.get? key with
  | none => rfl
  | some e => simp [KvEntry.seen]

namespace Counters

/-- Whether a lease may be taken reads only how the leases look at the moment. -/
theorem mayLease_eq_seen (c : Counters) (name : String) (holder : Holder) (now : Nat) :
    c.mayLease name holder now = match (c.leases.map (Lease.seen now)).get? name with
      | some (h, lapsed) => h == holder || lapsed
      | none => true := by
  simp only [mayLease, Table.get?_map]
  cases c.leases.get? name with
  | none => rfl
  | some l => simp [Lease.seen]

/-- Giving a lease up, as seen at a moment: it goes when its holder gives it up. -/
theorem release_seen (c : Counters) (name : String) (holder : Holder) (now : Nat) :
    ((c.release name holder).1.leases.map (Lease.seen now), (c.release name holder).2) =
      match (c.leases.map (Lease.seen now)).get? name with
      | some (h, _) =>
        if h = holder then ((c.leases.map (Lease.seen now)).erase name, true)
        else (c.leases.map (Lease.seen now), false)
      | none => (c.leases.map (Lease.seen now), false) := by
  simp only [release, Table.get?_map]
  cases c.leases.get? name with
  | none => rfl
  | some l =>
    by_cases hl : l.holder = holder
    · simp [hl, Lease.seen, Table.map_erase]
    · simp [hl, Lease.seen]

theorem release_counts (c : Counters) (name : String) (holder : Holder) :
    (c.release name holder).1.counts = c.counts := by
  unfold release
  split
  · split <;> rfl
  · rfl

theorem release_poisoned (c : Counters) (name : String) (holder : Holder) :
    (c.release name holder).1.poisoned = c.poisoned := by
  unfold release
  split
  · split <;> rfl
  · rfl

/-- Within the signed range, saturating addition adds exactly. -/
theorem addSaturating_of_fits {c : Counters} {key : String} {delta : Nat}
    (hfit : c.units key + delta ≤ wordMax) :
    c.addSaturating key delta =
      ({ c with counts := c.counts.insert key (.exact (c.units key + delta)) },
        c.units key + delta) := by
  have hsum : c.addSaturating key delta =
      ({ c with counts := c.counts.insert key (.exact (min (c.units key + delta) wordMax)) },
        min (c.units key + delta) wordMax) := rfl
  rw [hsum, Nat.min_eq_left hfit]

/-- Within the signed range, checked addition adds exactly, as saturating addition does. -/
theorem addChecked_of_fits {c : Counters} {key : String} {delta : Nat}
    (hx : c.counts.get? key ≠ some .inexact) (hfit : c.units key + delta ≤ signedMax) :
    c.addChecked key delta =
      ({ c with counts := c.counts.insert key (.exact (c.units key + delta)) },
        .ok (c.units key + delta)) := by
  have hd : ¬ delta > signedMax := by omega
  unfold addChecked units at *
  simp only [hd, ↓reduceIte]
  cases hk : c.counts.get? key with
  | none => simp
  | some n =>
    cases n with
    | exact n =>
      simp only [hk] at hfit
      simp [hfit]
    | inexact => exact absurd hk hx

end Counters

theorem signedMax_pos : 0 < signedMax := by
  decide

theorem signedMax_le_wordMax : signedMax ≤ wordMax :=
  Nat.sub_le_sub_right (Nat.pow_le_pow_right (by decide) (by decide)) 1

/-! ## Store operations on a backend without faults -/

theorem Engine.memory_or_durable (e : Engine) : e = .memory ∨ e = .durable := by
  cases e
  · exact .inl rfl
  · exact .inr rfl

namespace Backend

theorem counterGuard_quiet {b : Backend} (h : b.faults = {}) (op : CounterOp) :
    b.counterGuard op = .ok () := by
  simp [counterGuard, available, h]

theorem available_quiet {b : Backend} (h : b.faults = {}) (r : StoreRole) :
    b.available r = .ok () := by
  simp [available, h]

theorem stateGuard_healthy {b : Backend} (h : b.counters.poisoned = false) (what : String) :
    b.stateGuard what = .ok () := by
  simp [stateGuard, h]

/-- On the memory engine a lifetime whose end can be represented ends that long after now. -/
theorem deadline_memory {b : Backend} {l : Nat} (he : b.engine = .memory)
    (h : (monotonicStart + b.clock + l) / 1000 ≤ signedMax) : b.deadline l = .ok (b.clock + l) := by
  simp [deadline, he, Nat.not_lt.2 h]

/-- On the durable engine a lifetime ends at its length, capped, from the fixed present. -/
theorem deadline_durable {b : Backend} (he : b.engine = .durable) (l : Nat) :
    b.deadline l = .ok (min l signedMax) := by
  simp [deadline, he]

end Backend

namespace StoreOp

theorem run_map (f : α → β) (x : StoreOp α) (b : Backend) :
    (f <$> x).run.run b = ((x.run.run b).1.map f, (x.run.run b).2) := by
  rw [← bind_pure_comp, run_bind]
  rcases x.run.run b with ⟨_ | a, b'⟩ <;> rfl

section Quiet

variable {b : Backend} (hq : b.faults = {}) (hh : b.counters.poisoned = false)
include hq hh

theorem peek_quiet (key : String) :
    (peek key).run.run b = (.ok (match b.counters.counts.get? key with
      | some c => some <$> c.read
      | none => .ok none), b) := by
  simp only [peek, run_bind, run_get, run_pure, Backend.counterGuard_quiet hq,
    Backend.stateGuard_healthy hh]
  rfl

theorem scan_quiet (pre : String) :
    (scan pre).run.run b = (.ok (.ok (b.counters.counts.keys.filter (b.matchesPrefix pre))), b) := by
  rw [scan_run, Backend.counterGuard_quiet hq, Backend.stateGuard_healthy hh]
  rfl

theorem getDel_quiet (key : String) :
    (getDel key).run.run b =
      (.ok (match b.counters.counts.get? key with
        | some n => some <$> n.read
        | none => .ok none),
        { b with counters := { b.counters with counts := b.counters.counts.erase key } }) := by
  rw [getDel_run, Backend.counterGuard_quiet hq, Backend.stateGuard_healthy hh]
  rfl

/-- An increment that keeps its count within the signed range adds exactly, on either engine. -/
theorem incr_quiet {key : String} {delta : Nat}
    (hx : b.counters.counts.get? key ≠ some .inexact)
    (hfit : b.counters.units key + delta ≤ signedMax) :
    (incr key delta).run.run b =
      (.ok (.ok (b.counters.units key + delta)),
        { b with counters := { b.counters with
          counts := b.counters.counts.insert key (.exact (b.counters.units key + delta)) } }) := by
  rcases Engine.memory_or_durable b.engine with he | he
  · have ht : b.takesIncrement :=
      ⟨by simp [Backend.counterGuard_quiet hq, Except.toBool], by simp [hq], hh⟩
    rw [incr_run_of_takes key delta he ht,
      Counters.addSaturating_of_fits (hfit.trans signedMax_le_wordMax)]
  · have hr : b.faults.rejectIncrements = false := by simp [hq]
    simp only [incr, run_bind, run_get, Backend.counterGuard_quiet hq, hr,
      Backend.stateGuard_healthy hh, he, Counters.addChecked_of_fits hx hfit]
    rfl

theorem acquire_quiet (name : String) (holder : Holder) (lifetime : Nat) :
    (acquire name holder lifetime).run.run b =
      if b.counters.mayLease name holder b.now then
        match b.deadline lifetime with
        | .ok t => (.ok (.ok true), { b with counters := b.counters.grant name holder t })
        | .error h => (.error h, { b with counters := { b.counters with poisoned := true } })
      else (.ok (.ok false), b) := by
  rw [acquire_run, Backend.counterGuard_quiet hq, Backend.stateGuard_healthy hh]
  rfl

theorem release_quiet (name : String) (holder : Holder) :
    (release name holder).run.run b =
      (.ok (.ok (b.counters.release name holder).2),
        { b with counters := (b.counters.release name holder).1 }) := by
  rw [release_run, Backend.counterGuard_quiet hq, Backend.stateGuard_healthy hh]
  rfl

end Quiet

section Up

variable {b : Backend} (hq : b.faults = {})
include hq

theorem kvGet_quiet (key : String) :
    (kvGet key).run.run b = (.ok (.ok (b.kv.lookup b.now key)), b) := by
  rw [kvGet_run, Backend.available_quiet hq]
  rfl

theorem kvExists_quiet (key : String) :
    (kvExists key).run.run b = (.ok (.ok (b.kv.lookup b.now key).isSome), b) := by
  simp only [kvExists, run_bind, kvGet_quiet hq, run_pure]
  rfl

theorem kvSet_quiet (key value : String) (lifetime : Option Nat) :
    (kvSet key value lifetime).run.run b =
      match lifetime with
      | none => (.ok (.ok ()), { b with kv := b.kv.put key value none })
      | some l =>
        match b.deadline l with
        | .ok t => (.ok (.ok ()), { b with kv := b.kv.put key value (some t) })
        | .error h => (.error h, b) := by
  cases lifetime with
  | none =>
    simp only [kvSet, run_bind, run_get, Backend.available_quiet hq]
    rfl
  | some l =>
    have h := kvSet_run key value l b
    rw [Backend.available_quiet hq] at h
    exact h

theorem ensureBucket_quiet (bucket : String) :
    (ensureBucket bucket).run.run b =
      (.ok (.ok (b.blobs.ensure bucket).2), { b with blobs := (b.blobs.ensure bucket).1 }) := by
  simp only [ensureBucket, run_bind, run_get, Backend.available_quiet hq]
  rfl

/-- An upload counts its attempt, then writes its object when the bucket exists and the name is
free. -/
theorem putObject_quiet (bucket name : String) (blob : Blob) :
    (putObject bucket name blob).run.run b =
      let b' : Backend := { b with blobs := { b.blobs with putAttempts := b.blobs.putAttempts + 1 } }
      match b.blobs.buckets.get? bucket with
      | none => (.ok (.error (.bucketNotFound bucket)), b')
      | some objs =>
        if objs.contains name then (.ok (.error (.objectExists bucket name)), b')
        else (.ok (.ok ()), { b' with blobs := b'.blobs.add bucket name blob }) := by
  have hr : b.faults.rejectPuts = false := by simp [hq]
  have ha : ({ b with blobs := { b.blobs with putAttempts := b.blobs.putAttempts + 1 } } :
      Backend).available .blobs = .ok () := Backend.available_quiet hq .blobs
  rw [putObject_run]
  dsimp only
  rw [ha, hr]
  cases b.blobs.buckets.get? bucket with
  | none => rfl
  | some objs =>
    by_cases hc : objs.contains name = true
    · simp only [hc, ↓reduceIte]
      rfl
    · simp only [hc]
      rfl

theorem getObject_quiet (bucket name : String) :
    (getObject bucket name).run.run b = (.ok (.ok ((b.blobs.objects bucket).get? name)), b) := by
  simp only [getObject, run_bind, run_get, run_pure, Backend.available_quiet hq]
  rfl

theorem listObjects_quiet (bucket pre : String) :
    (listObjects bucket pre).run.run b =
      (.ok (.ok ((b.blobs.objects bucket).keys.filter (b.matchesPrefix pre))), b) := by
  simp only [listObjects, run_bind, run_get, run_pure, Backend.available_quiet hq]
  rfl

theorem isAddressBlocked_quiet (address : String) :
    (isAddressBlocked address).run.run b =
      (.ok (.ok (b.records.blocked.contains address)), b) := by
  simp only [isAddressBlocked, run_bind, run_get, run_pure, Backend.available_quiet hq]
  rfl

theorem recordBlocked_quiet (address : String) (at_ : Instant) :
    (recordBlocked address at_).run.run b =
      (.ok (.ok ()), { b with records := b.records.block address at_ }) := by
  simp only [recordBlocked, run_bind, run_get, Backend.available_quiet hq]
  rfl

end Up

end StoreOp

/-! ## Calls on the stores -/

/-- One call on the stores, with its arguments; lifetimes are in milliseconds. -/
inductive StoreCall where
  | incr (key : String) (delta : Nat)
  | peek (key : String)
  | scan (pre : String)
  | getDel (key : String)
  | acquire (name : String) (holder : Holder) (lifetime : Nat)
  | release (name : String) (holder : Holder)
  | kvGet (key : String)
  | kvSet (key value : String) (lifetime : Option Nat)
  | kvExists (key : String)
  | ensureBucket (bucket : String)
  | putObject (bucket name : String) (blob : Blob)
  | getObject (bucket name : String)
  | listObjects (bucket pre : String)
  | insertSubject (credential : String) (doc : Json)
  | fetchSubject (credential : String)
  | isAddressBlocked (address : String)
  | recordBlocked (address : String) (at_ : Instant)
  | sleep (ms : Nat)

/-- What a call answers. -/
inductive Reply where
  | count (r : Except StoreError Nat)
  | maybeCount (r : Except StoreError (Option Nat))
  | names (r : Except StoreError (List String))
  | flag (r : Except StoreError Bool)
  | text (r : Except StoreError (Option String))
  | done (r : Except StoreError Unit)
  | blob (r : Except StoreError (Option Blob))
  | document (r : Except StoreError (Option Json))

namespace StoreCall

/-- Runs a call on the stores; a sleep moves the monotonic clock on. -/
def run : StoreCall → StoreOp Reply
  | .incr key delta => .count <$> StoreOp.incr key delta
  | .peek key => .maybeCount <$> StoreOp.peek key
  | .scan pre => .names <$> StoreOp.scan pre
  | .getDel key => .maybeCount <$> StoreOp.getDel key
  | .acquire name holder l => .flag <$> StoreOp.acquire name holder l
  | .release name holder => .flag <$> StoreOp.release name holder
  | .kvGet key => .text <$> StoreOp.kvGet key
  | .kvSet key value l => .done <$> StoreOp.kvSet key value l
  | .kvExists key => .flag <$> StoreOp.kvExists key
  | .ensureBucket bucket => .flag <$> StoreOp.ensureBucket bucket
  | .putObject bucket name blob => .done <$> StoreOp.putObject bucket name blob
  | .getObject bucket name => .blob <$> StoreOp.getObject bucket name
  | .listObjects bucket pre => .names <$> StoreOp.listObjects bucket pre
  | .insertSubject c doc => (fun _ => .done (.ok ())) <$> StoreOp.insertSubject c doc
  | .fetchSubject c => .document <$> StoreOp.fetchSubject c
  | .isAddressBlocked a => .flag <$> StoreOp.isAddressBlocked a
  | .recordBlocked a t => .done <$> StoreOp.recordBlocked a t
  | .sleep ms => (fun _ => .done (.ok ())) <$> modify fun b => { b with clock := b.clock + ms }

/-- How long a call lets time pass, in milliseconds. -/
def duration : StoreCall → Nat
  | .sleep ms => ms
  | _ => 0

/-- How long a run of calls lasts, in milliseconds. -/
def totalDuration (calls : List StoreCall) : Nat := (calls.map duration).sum

/-- The lifetime a call gives what it writes, if it gives one. -/
def lifetime? : StoreCall → Option Nat
  | .acquire _ _ l => some l
  | .kvSet _ _ l => l
  | _ => none

/-- The text a call matches names against from their start, if it matches any. -/
def pattern? : StoreCall → Option String
  | .scan pre => some pre
  | .listObjects _ pre => some pre
  | _ => none

/-- The replies to calls made in order on a fresh backend of an engine, or the halt that
stopped them. -/
def replies (engine : Engine) (calls : List StoreCall) : Except Halt (List Reply) :=
  ((calls.mapM run).run.run { engine }).1

end StoreCall

/-- A call made on a backend keeps the count it writes, if any, within the signed 64-bit
range. -/
def StoreCall.countFits (b : Backend) : StoreCall → Prop
  | .incr key delta => b.counters.units key + delta ≤ signedMax
  | _ => True

/-- The increments among calls made in order from a backend keep every count they write within
the signed 64-bit range. -/
def IncrementsFit : Backend → List StoreCall → Prop
  | _, [] => True
  | b, c :: cs => c.countFits b ∧ IncrementsFit (c.run.run.run b).2 cs

/-- A lifetime fits a run that lasts `T` milliseconds: it is zero or outlasts the run, and its
end can be represented wherever in the run it starts. -/
def LifetimeFits (T l : Nat) : Prop :=
  (l = 0 ∨ T < l) ∧ (Backend.monotonicStart + T + l) / 1000 ≤ signedMax

instance (T l : Nat) : Decidable (LifetimeFits T l) :=
  inferInstanceAs (Decidable ((l = 0 ∨ T < l) ∧ (Backend.monotonicStart + T + l) / 1000 ≤ signedMax))

/-- A prefix without NUL is matched alike by both engines: from the start of the name. -/
theorem Backend.matchesPrefix_of_nul_free (b : Backend) {pre : String}
    (h : '\x00' ∉ pre.toList) :
    b.matchesPrefix pre = fun key => pre.toList.isPrefixOf key.toList := by
  funext key
  unfold matchesPrefix
  cases b.engine <;> simp [h]

/-! ## Lifetimes that end outside the run -/

/-- The present moment `now` has not passed `T`, and no lifetime of the entries or the leases
ends after `now` but no later than `T`: until `T`, moving the clock on changes nothing that is
seen. -/
structure Settled (T now : Nat) (kv : Table KvEntry) (leases : Table Lease) : Prop where
  now_le : now ≤ T
  kv_ends : ∀ e ∈ kv.entries, ∀ x, e.2.expiresAt = some x → x ≤ now ∨ T < x
  lease_ends : ∀ e ∈ leases.entries, e.2.expiresAt ≤ now ∨ T < e.2.expiresAt

namespace Settled

variable {T now : Nat} {kv : Table KvEntry} {leases : Table Lease}

/-- Until `T`, the entries look as they do now. -/
theorem kv_seen (h : Settled T now kv leases) {t : Nat} (h1 : now ≤ t) (h2 : t ≤ T) :
    kv.map (KvEntry.seen t) = kv.map (KvEntry.seen now) := by
  refine Table.map_congr kv fun e he => ?_
  simp only [KvEntry.seen, KvEntry.isLive, Prod.mk.injEq, true_and]
  cases hx : e.2.expiresAt with
  | none => rfl
  | some x =>
    rcases h.kv_ends e he x hx with hle | hlt
    · simp only [decide_eq_decide]
      omega
    · simp only [decide_eq_decide]
      omega

/-- Until `T`, the leases look as they do now. -/
theorem leases_seen (h : Settled T now kv leases) {t : Nat} (h1 : now ≤ t) (h2 : t ≤ T) :
    leases.map (Lease.seen t) = leases.map (Lease.seen now) := by
  refine Table.map_congr leases fun e he => ?_
  simp only [Lease.seen, Prod.mk.injEq, true_and, decide_eq_decide]
  rcases h.lease_ends e he with hle | hlt <;> omega

/-- The clock moving on within the run keeps the lifetimes settled. -/
theorem tick (h : Settled T now kv leases) {ms : Nat} (hle : now + ms ≤ T) :
    Settled T (now + ms) kv leases where
  now_le := hle
  kv_ends e he x hx := (h.kv_ends e he x hx).imp (fun hx => by omega) id
  lease_ends e he := (h.lease_ends e he).imp (fun hx => by omega) id

/-- A lifetime that fits the run ends now or after the run. -/
theorem end_of_fits {l : Nat} (hl : l = 0 ∨ T < l) : now + l ≤ now ∨ T < now + l := by
  omega

/-- Writing an entry whose lifetime ends now, after the run, or never keeps the lifetimes
settled. -/
theorem put (h : Settled T now kv leases) (key value : String) {e : Option Nat}
    (he : ∀ x, e = some x → x ≤ now ∨ T < x) :
    Settled T now (kv.insert key ⟨value, e⟩) leases where
  now_le := h.now_le
  kv_ends p hp x hx := by
    rcases Table.mem_place hp with rfl | hp
    · exact he x hx
    · exact h.kv_ends p hp x hx
  lease_ends := h.lease_ends

/-- Granting a lease that lapses now or after the run keeps the lifetimes settled. -/
theorem grant (h : Settled T now kv leases) (name : String) (holder : Holder) {x : Nat}
    (hx : x ≤ now ∨ T < x) : Settled T now kv (leases.insert name ⟨holder, x⟩) where
  now_le := h.now_le
  kv_ends := h.kv_ends
  lease_ends p hp := by
    rcases Table.mem_place hp with rfl | hp
    · exact hx
    · exact h.lease_ends p hp

/-- Giving a lease up keeps the lifetimes settled. -/
theorem release (h : Settled T now kv leases) (c : Counters) (hc : c.leases = leases)
    (name : String) (holder : Holder) : Settled T now kv (c.release name holder).1.leases where
  now_le := h.now_le
  kv_ends := h.kv_ends
  lease_ends p hp := by
    unfold Counters.release at hp
    split at hp
    · split at hp
      · exact h.lease_ends p (hc ▸ (List.mem_filter.1 hp).1)
      · exact h.lease_ends p (hc ▸ hp)
    · exact h.lease_ends p (hc ▸ hp)

end Settled

/-! ## Backends that no call can tell apart -/

/-- A memory backend and a durable one that no call of a run lasting `T` milliseconds can tell
apart: neither has faults or poisoned counters, they hold the same counts (all exact), records
and objects, their entries and leases look the same, each at its engine's present moment, and
the memory lifetimes are settled for the rest of the run. -/
structure Backend.Agree (T : Nat) (m d : Backend) : Prop where
  memory : m.engine = .memory
  durable : d.engine = .durable
  quiet_m : m.faults = {}
  quiet_d : d.faults = {}
  healthy_m : m.counters.poisoned = false
  healthy_d : d.counters.poisoned = false
  counts : m.counters.counts = d.counters.counts
  exact : ∀ k, m.counters.counts.get? k ≠ some .inexact
  leases : m.counters.leases.map (Lease.seen m.clock) = d.counters.leases.map (Lease.seen 0)
  kv : m.kv.entries.map (KvEntry.seen m.clock) = d.kv.entries.map (KvEntry.seen 0)
  records : m.records = d.records
  blobs : m.blobs = d.blobs
  settled : Settled T m.clock m.kv.entries m.counters.leases

/-- An operation answers alike on two backends, halting on neither, leaves two backends that
still agree, and moves the memory clock on by `elapsed` milliseconds. -/
def StoreOp.Alike {α : Type} (T elapsed : Nat) (op : StoreOp α) (m d : Backend) : Prop :=
  ∃ a m' d', op.run.run m = (.ok a, m') ∧ op.run.run d = (.ok a, d') ∧ m'.Agree T d' ∧
    m'.clock = m.clock + elapsed

theorem StoreOp.Alike.map {α β : Type} {T k : Nat} {op : StoreOp α} {m d : Backend} (f : α → β)
    (h : op.Alike T k m d) : (f <$> op).Alike T k m d := by
  obtain ⟨a, m', d', hm, hd, ha, hc⟩ := h
  exact ⟨f a, m', d', by rw [run_map, hm]; rfl, by rw [run_map, hd]; rfl, ha, hc⟩

/-- Two fresh backends agree. -/
theorem agree_fresh (T : Nat) : Backend.Agree T { engine := .memory } { engine := .durable } where
  memory := rfl
  durable := rfl
  quiet_m := rfl
  quiet_d := rfl
  healthy_m := rfl
  healthy_d := rfl
  counts := rfl
  exact k := by simp [Table.get?]
  leases := rfl
  kv := rfl
  records := rfl
  blobs := rfl
  settled := ⟨Nat.zero_le T, by simp, by simp⟩

namespace Backend.Agree

variable {T : Nat} {m d : Backend}

theorem now_m (h : m.Agree T d) : m.now = m.clock := by
  simp [Backend.now, h.memory]

theorem now_d (h : m.Agree T d) : d.now = 0 := by
  simp [Backend.now, h.durable]

theorem units_eq (h : m.Agree T d) (key : String) : d.counters.units key = m.counters.units key := by
  simp only [Counters.units, h.counts]

/-- Both sides read the same live text under a key. -/
theorem lookup_eq (h : m.Agree T d) (key : String) :
    m.kv.lookup m.now key = d.kv.lookup d.now key := by
  rw [Kv.lookup_eq_seen, Kv.lookup_eq_seen, h.now_m, h.now_d, h.kv]

/-- Both sides decide alike whether a lease may be taken. -/
theorem mayLease_eq (h : m.Agree T d) (name : String) (holder : Holder) :
    m.counters.mayLease name holder m.now = d.counters.mayLease name holder d.now := by
  rw [Counters.mayLease_eq_seen, Counters.mayLease_eq_seen, h.now_m, h.now_d, h.leases]

/-- Writing the same counts, all exact, on both sides keeps them agreeing. -/
theorem with_counts (h : m.Agree T d) (t : Table Count) (hx : ∀ k, t.get? k ≠ some .inexact) :
    Backend.Agree T { m with counters := { m.counters with counts := t } }
      { d with counters := { d.counters with counts := t } } :=
  { h with counts := rfl, exact := hx }

/-- Writing the same records on both sides keeps them agreeing. -/
theorem with_records (h : m.Agree T d) (r : Records) :
    Backend.Agree T { m with records := r } { d with records := r } :=
  { h with records := rfl }

/-- Writing the same objects on both sides keeps them agreeing. -/
theorem with_blobs (h : m.Agree T d) (bs : Blobs) :
    Backend.Agree T { m with blobs := bs } { d with blobs := bs } :=
  { h with blobs := rfl }

/-- A call that reads and writes nothing but gives one answer on both sides answers alike. -/
theorem alike_of_reads {α : Type} (h : m.Agree T d) {op : StoreOp α} {a : α}
    (hm : op.run.run m = (.ok a, m)) (hd : op.run.run d = (.ok a, d)) : op.Alike T 0 m d :=
  ⟨a, m, d, hm, hd, h, rfl⟩

/-- Writing an entry on both sides that ends now, after the run or never on the memory side, and
looks the same on both, keeps them agreeing. -/
theorem put (h : m.Agree T d) (key value : String) (em ed : Option Nat)
    (hend : ∀ x, em = some x → x ≤ m.clock ∨ T < x)
    (hseen : KvEntry.seen m.clock ⟨value, em⟩ = KvEntry.seen 0 ⟨value, ed⟩) :
    Backend.Agree T { m with kv := m.kv.put key value em } { d with kv := d.kv.put key value ed } :=
  { h with
    kv := by simp only [Kv.put, Table.map_insert, h.kv, hseen]
    settled := h.settled.put key value hend }

/-- Granting a lease for a lifetime that fits the run on both sides keeps them agreeing. -/
theorem grant (h : m.Agree T d) (name : String) (holder : Holder) {l : Nat} (hl : l = 0 ∨ T < l) :
    Backend.Agree T { m with counters := m.counters.grant name holder (m.clock + l) }
      { d with counters := d.counters.grant name holder (min l signedMax) } :=
  have hseen : Lease.seen m.clock ⟨holder, m.clock + l⟩ = Lease.seen 0 ⟨holder, min l signedMax⟩ := by
    have := signedMax_pos
    simp only [Lease.seen, Prod.mk.injEq, true_and, decide_eq_decide]
    omega
  { h with
    leases := by simp only [Counters.grant, Table.map_insert, h.leases, hseen]
    settled := h.settled.grant name holder (Settled.end_of_fits hl) }

/-- Letting time pass within the run changes nothing either side shows. -/
theorem tick (h : m.Agree T d) {ms : Nat} (hle : m.clock + ms ≤ T) :
    Backend.Agree T { m with clock := m.clock + ms } { d with clock := d.clock + ms } :=
  { h with
    leases := by rw [← h.leases]; exact h.settled.leases_seen (Nat.le_add_right _ _) hle
    kv := by rw [← h.kv]; exact h.settled.kv_seen (Nat.le_add_right _ _) hle
    settled := h.settled.tick hle }

end Backend.Agree

/-! ## Each call answers alike -/

namespace Backend.Agree

variable {T : Nat} {m d : Backend}

theorem incr (h : m.Agree T d) {key : String} {delta : Nat}
    (hfit : m.counters.units key + delta ≤ signedMax) : (StoreOp.incr key delta).Alike T 0 m d := by
  have hd := incr_quiet h.quiet_d h.healthy_d (h.counts ▸ h.exact key) (h.units_eq key ▸ hfit)
  rw [h.units_eq key, ← h.counts] at hd
  refine ⟨_, _, _, incr_quiet h.quiet_m h.healthy_m (h.exact key) hfit, hd,
    h.with_counts _ fun k => ?_, rfl⟩
  by_cases hk : key = k
  · subst hk
    simp
  · rw [Table.get?_insert_of_ne _ _ hk]
    exact h.exact k

theorem peek (h : m.Agree T d) (key : String) : (StoreOp.peek key).Alike T 0 m d :=
  h.alike_of_reads (peek_quiet h.quiet_m h.healthy_m key)
    (by rw [peek_quiet h.quiet_d h.healthy_d key, ← h.counts])

theorem scan (h : m.Agree T d) {pre : String} (hnul : '\x00' ∉ pre.toList) :
    (StoreOp.scan pre).Alike T 0 m d :=
  h.alike_of_reads (scan_quiet h.quiet_m h.healthy_m pre)
    (by rw [scan_quiet h.quiet_d h.healthy_d pre, ← h.counts, d.matchesPrefix_of_nul_free hnul,
      m.matchesPrefix_of_nul_free hnul])

theorem getDel (h : m.Agree T d) (key : String) : (StoreOp.getDel key).Alike T 0 m d := by
  refine ⟨_, _, _, getDel_quiet h.quiet_m h.healthy_m key, ?_, h.with_counts _ fun k => ?_, rfl⟩
  · rw [getDel_quiet h.quiet_d h.healthy_d key, ← h.counts]
  · rw [Table.get?_erase]
    split
    · simp
    · exact h.exact k

theorem acquire (h : m.Agree T d) (name : String) (holder : Holder) {l : Nat}
    (hl : LifetimeFits T l) : (StoreOp.acquire name holder l).Alike T 0 m d := by
  have hend : (Backend.monotonicStart + m.clock + l) / 1000 ≤ signedMax :=
    le_trans (Nat.div_le_div_right (by have := h.settled.now_le; omega)) hl.2
  rw [StoreOp.Alike, acquire_quiet h.quiet_m h.healthy_m, acquire_quiet h.quiet_d h.healthy_d,
    ← h.mayLease_eq]
  by_cases hmay : m.counters.mayLease name holder m.now = true
  · rw [if_pos hmay, if_pos hmay, Backend.deadline_memory h.memory hend,
      Backend.deadline_durable h.durable]
    exact ⟨_, _, _, rfl, rfl, h.grant name holder hl.1, rfl⟩
  · rw [if_neg hmay, if_neg hmay]
    exact ⟨_, _, _, rfl, rfl, h, rfl⟩

theorem release (h : m.Agree T d) (name : String) (holder : Holder) :
    (StoreOp.release name holder).Alike T 0 m d := by
  have hseen := (Counters.release_seen m.counters name holder m.clock).trans
    (h.leases ▸ (Counters.release_seen d.counters name holder 0).symm)
  obtain ⟨hview, hheld⟩ := Prod.mk.inj hseen
  refine ⟨_, _, _, release_quiet h.quiet_m h.healthy_m name holder,
    by rw [release_quiet h.quiet_d h.healthy_d name holder, hheld], ?_, rfl⟩
  exact { h with
    healthy_m := by rw [Counters.release_poisoned]; exact h.healthy_m
    healthy_d := by rw [Counters.release_poisoned]; exact h.healthy_d
    counts := by rw [Counters.release_counts, Counters.release_counts, h.counts]
    exact := by rw [Counters.release_counts]; exact h.exact
    leases := hview
    settled := h.settled.release m.counters rfl name holder }

theorem kvGet (h : m.Agree T d) (key : String) : (StoreOp.kvGet key).Alike T 0 m d :=
  h.alike_of_reads (kvGet_quiet h.quiet_m key) (by rw [kvGet_quiet h.quiet_d key, h.lookup_eq])

theorem kvExists (h : m.Agree T d) (key : String) : (StoreOp.kvExists key).Alike T 0 m d :=
  h.alike_of_reads (kvExists_quiet h.quiet_m key) (by rw [kvExists_quiet h.quiet_d key, h.lookup_eq])

theorem kvSet (h : m.Agree T d) (key value : String) {l : Option Nat}
    (hl : ∀ x ∈ l, LifetimeFits T x) : (StoreOp.kvSet key value l).Alike T 0 m d := by
  rw [StoreOp.Alike, kvSet_quiet h.quiet_m, kvSet_quiet h.quiet_d]
  cases l with
  | none => exact ⟨_, _, _, rfl, rfl, h.put key value none none (fun x hx => by cases hx) rfl, rfl⟩
  | some l =>
    have hfit := hl l rfl
    have hend : (Backend.monotonicStart + m.clock + l) / 1000 ≤ signedMax :=
      le_trans (Nat.div_le_div_right (by have := h.settled.now_le; omega)) hfit.2
    dsimp only
    rw [Backend.deadline_memory h.memory hend, Backend.deadline_durable h.durable]
    have hseen : KvEntry.seen m.clock ⟨value, some (m.clock + l)⟩ =
        KvEntry.seen 0 ⟨value, some (min l signedMax)⟩ := by
      have := signedMax_pos
      simp only [KvEntry.seen, KvEntry.isLive, Prod.mk.injEq, true_and, decide_eq_decide]
      omega
    exact ⟨_, _, _, rfl, rfl, h.put key value _ _ (fun x hx => by
      cases hx
      exact Settled.end_of_fits hfit.1) hseen, rfl⟩

theorem ensureBucket (h : m.Agree T d) (bucket : String) :
    (StoreOp.ensureBucket bucket).Alike T 0 m d :=
  ⟨_, _, _, ensureBucket_quiet h.quiet_m bucket,
    by rw [ensureBucket_quiet h.quiet_d bucket, ← h.blobs], h.with_blobs _, rfl⟩

theorem putObject (h : m.Agree T d) (bucket name : String) (blob : Blob) :
    (StoreOp.putObject bucket name blob).Alike T 0 m d := by
  rw [StoreOp.Alike, putObject_quiet h.quiet_m, putObject_quiet h.quiet_d, ← h.blobs]
  dsimp only
  split
  · exact ⟨_, _, _, rfl, rfl, h.with_blobs _, rfl⟩
  · split
    · exact ⟨_, _, _, rfl, rfl, h.with_blobs _, rfl⟩
    · exact ⟨_, _, _, rfl, rfl, h.with_blobs _, rfl⟩

theorem getObject (h : m.Agree T d) (bucket name : String) :
    (StoreOp.getObject bucket name).Alike T 0 m d :=
  h.alike_of_reads (getObject_quiet h.quiet_m bucket name)
    (by rw [getObject_quiet h.quiet_d bucket name, h.blobs])

theorem listObjects (h : m.Agree T d) (bucket : String) {pre : String}
    (hnul : '\x00' ∉ pre.toList) : (StoreOp.listObjects bucket pre).Alike T 0 m d :=
  h.alike_of_reads (listObjects_quiet h.quiet_m bucket pre)
    (by rw [listObjects_quiet h.quiet_d bucket pre, ← h.blobs, d.matchesPrefix_of_nul_free hnul,
      m.matchesPrefix_of_nul_free hnul])

theorem insertSubject (h : m.Agree T d) (credential : String) (doc : Json) :
    (StoreOp.insertSubject credential doc).Alike T 0 m d :=
  ⟨_, _, _, rfl, by rw [h.records]; rfl, h.with_records _, rfl⟩

theorem fetchSubject (h : m.Agree T d) (credential : String) :
    (StoreOp.fetchSubject credential).Alike T 0 m d :=
  ⟨_, _, _, fetchSubject_ok credential (Backend.available_quiet h.quiet_m .records),
    by rw [fetchSubject_ok credential (Backend.available_quiet h.quiet_d .records), ← h.records],
    h.with_records _, rfl⟩

theorem isAddressBlocked (h : m.Agree T d) (address : String) :
    (StoreOp.isAddressBlocked address).Alike T 0 m d :=
  h.alike_of_reads (isAddressBlocked_quiet h.quiet_m address)
    (by rw [isAddressBlocked_quiet h.quiet_d address, h.records])

theorem recordBlocked (h : m.Agree T d) (address : String) (at_ : Instant) :
    (StoreOp.recordBlocked address at_).Alike T 0 m d :=
  ⟨_, _, _, recordBlocked_quiet h.quiet_m address at_,
    by rw [recordBlocked_quiet h.quiet_d address at_, ← h.records], h.with_records _, rfl⟩

/-- Every call that keeps within what both engines do alike answers alike on agreeing
backends, leaves them agreeing, and moves the memory clock by its duration. -/
theorem step (h : m.Agree T d) (c : StoreCall) (hT : m.clock + c.duration ≤ T)
    (hinc : c.countFits m)
    (hlife : ∀ l ∈ c.lifetime?, LifetimeFits T l)
    (hnul : ∀ pre ∈ c.pattern?, '\x00' ∉ pre.toList) :
    ∃ r m' d', c.run.run.run m = (.ok r, m') ∧ c.run.run.run d = (.ok r, d') ∧ m'.Agree T d' ∧
      m'.clock = m.clock + c.duration := by
  show c.run.Alike T c.duration m d
  cases c with
  | incr key delta => exact (h.incr hinc).map _
  | peek key => exact (h.peek key).map _
  | scan pre => exact (h.scan (hnul pre rfl)).map _
  | getDel key => exact (h.getDel key).map _
  | acquire name holder l => exact (h.acquire name holder (hlife l rfl)).map _
  | release name holder => exact (h.release name holder).map _
  | kvGet key => exact (h.kvGet key).map _
  | kvSet key value l => exact (h.kvSet key value hlife).map _
  | kvExists key => exact (h.kvExists key).map _
  | ensureBucket bucket => exact (h.ensureBucket bucket).map _
  | putObject bucket name blob => exact (h.putObject bucket name blob).map _
  | getObject bucket name => exact (h.getObject bucket name).map _
  | listObjects bucket pre => exact (h.listObjects bucket (hnul pre rfl)).map _
  | insertSubject credential doc => exact (h.insertSubject credential doc).map _
  | fetchSubject credential => exact (h.fetchSubject credential).map _
  | isAddressBlocked address => exact (h.isAddressBlocked address).map _
  | recordBlocked address at_ => exact (h.recordBlocked address at_).map _
  | sleep ms => exact ⟨.done (.ok ()), _, _, rfl, rfl, h.tick hT, rfl⟩

/-- A run of calls that keeps within what both engines do alike answers alike, call by call,
on agreeing backends. -/
theorem mapM (calls : List StoreCall) (h : m.Agree T d)
    (hT : m.clock + StoreCall.totalDuration calls ≤ T) (hinc : IncrementsFit m calls)
    (hlife : ∀ c ∈ calls, ∀ l ∈ c.lifetime?, LifetimeFits T l)
    (hnul : ∀ c ∈ calls, ∀ pre ∈ c.pattern?, '\x00' ∉ pre.toList) :
    ∃ rs m' d', (calls.mapM StoreCall.run).run.run m = (.ok rs, m') ∧
      (calls.mapM StoreCall.run).run.run d = (.ok rs, d') ∧ m'.Agree T d' := by
  induction calls generalizing m d with
  | nil => exact ⟨[], m, d, rfl, rfl, h⟩
  | cons c cs ih =>
    obtain ⟨hinc1, hinc2⟩ := hinc
    have hT' : m.clock + c.duration + StoreCall.totalDuration cs ≤ T := by
      simpa [StoreCall.totalDuration, Nat.add_assoc] using hT
    obtain ⟨r, m', d', hm, hd, h', hclock⟩ := h.step c (by omega) hinc1
      (hlife c List.mem_cons_self) (hnul c List.mem_cons_self)
    rw [hm] at hinc2
    obtain ⟨rs, m'', d'', hm', hd', h''⟩ := ih h' (by omega) hinc2
      (fun c' hc' => hlife c' (List.mem_cons_of_mem _ hc'))
      (fun c' hc' => hnul c' (List.mem_cons_of_mem _ hc'))
    refine ⟨r :: rs, m'', d'', ?_, ?_, h''⟩
    · rw [List.mapM_cons, run_bind, hm]
      dsimp only
      rw [run_bind, hm']
      rfl
    · rw [List.mapM_cons, run_bind, hd]
      dsimp only
      rw [run_bind, hd']
      rfl

end Backend.Agree

/-- The memory and durable engines give the same reply to every call of a run made from fresh
backends, provided every increment keeps its count within the signed 64-bit range, every
lifetime is zero or outlasts the run with an end that can be represented, and no scan or
listing matches by a prefix that holds NUL. -/
theorem engines_agree (calls : List StoreCall)
    (hinc : IncrementsFit { engine := .memory } calls)
    (hlife : ∀ c ∈ calls, ∀ l ∈ c.lifetime?, LifetimeFits (StoreCall.totalDuration calls) l)
    (hnul : ∀ c ∈ calls, ∀ pre ∈ c.pattern?, '\x00' ∉ pre.toList) :
    ∃ rs, StoreCall.replies .memory calls = .ok rs ∧ StoreCall.replies .durable calls = .ok rs := by
  obtain ⟨rs, m', d', hm, hd, -⟩ :=
    (agree_fresh (StoreCall.totalDuration calls)).mapM calls (by simp) hinc hlife hnul
  exact ⟨rs, by rw [StoreCall.replies, hm], by rw [StoreCall.replies, hd]⟩

theorem engines_agree_sample :
    IncrementsFit { engine := .memory } [.incr "k" 2, .scan "k", .kvSet "s" "v" (some 0),
      .acquire "L" (.named "h") 5000, .sleep 1000, .kvGet "s", .getDel "k"] ∧
    (∀ c ∈ [StoreCall.incr "k" 2, .scan "k", .kvSet "s" "v" (some 0),
      .acquire "L" (.named "h") 5000, .sleep 1000, .kvGet "s", .getDel "k"], ∀ l ∈ c.lifetime?,
      LifetimeFits 1000 l) ∧
    (∀ c ∈ [StoreCall.incr "k" 2, .scan "k", .kvSet "s" "v" (some 0),
      .acquire "L" (.named "h") 5000, .sleep 1000, .kvGet "s", .getDel "k"], ∀ pre ∈ c.pattern?,
      '\x00' ∉ pre.toList) ∧
    ∃ rs, StoreCall.replies .memory [.incr "k" 2, .scan "k", .kvSet "s" "v" (some 0),
      .acquire "L" (.named "h") 5000, .sleep 1000, .kvGet "s", .getDel "k"] = .ok rs ∧
      StoreCall.replies .durable [.incr "k" 2, .scan "k", .kvSet "s" "v" (some 0),
        .acquire "L" (.named "h") 5000, .sleep 1000, .kvGet "s", .getDel "k"] = .ok rs := by
  have hinc : IncrementsFit { engine := .memory } [.incr "k" 2, .scan "k", .kvSet "s" "v" (some 0),
      .acquire "L" (.named "h") 5000, .sleep 1000, .kvGet "s", .getDel "k"] := by
    simp only [IncrementsFit, StoreCall.countFits, and_true]
    decide
  have hlife : ∀ c ∈ [StoreCall.incr "k" 2, .scan "k", .kvSet "s" "v" (some 0),
      .acquire "L" (.named "h") 5000, .sleep 1000, .kvGet "s", .getDel "k"], ∀ l ∈ c.lifetime?,
      LifetimeFits 1000 l := by
    decide
  have hnul : ∀ c ∈ [StoreCall.incr "k" 2, .scan "k", .kvSet "s" "v" (some 0),
      .acquire "L" (.named "h") 5000, .sleep 1000, .kvGet "s", .getDel "k"], ∀ pre ∈ c.pattern?,
      '\x00' ∉ pre.toList := by
    decide
  exact ⟨hinc, hlife, hnul, engines_agree _ hinc hlife hnul⟩

/-- A scan by a prefix that holds NUL finds its key on the memory engine and nothing on the
durable one, in a run whose increment fits and which sets no lifetime. -/
theorem nul_prefix_splits_engines :
    IncrementsFit { engine := .memory } [.incr "a\x00b" 1, .scan "a\x00"] ∧
    StoreCall.replies .memory [.incr "a\x00b" 1, .scan "a\x00"] =
      .ok [.count (.ok 1), .names (.ok ["a\x00b"])] ∧
    StoreCall.replies .durable [.incr "a\x00b" 1, .scan "a\x00"] =
      .ok [.count (.ok 1), .names (.ok [])] := by
  refine ⟨?_, rfl, rfl⟩
  simp only [IncrementsFit, StoreCall.countFits, and_true]
  decide

end Turnstile
