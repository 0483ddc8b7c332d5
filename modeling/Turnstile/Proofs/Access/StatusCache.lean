import Mathlib.Data.String.Basic
import Turnstile.Access.Blocklist
import Turnstile.Access.Gate
import Turnstile.Proofs.Store.Run

/-!
# The status cache

The gate caches the status of each credential under its status key,
`apikey:` followed by the key, and the blocklist caches blocks under
`blocked-ip:` keys of the same store. This module states what one call of
the gate does to the stores (`Gate.authorizeCredential_hit`,
`Gate.authorizeCredential_miss`): a live entry that reads as a status is the
answer, and anything else, a missing or lapsed entry or a cache that cannot
be reached, costs one lookup in the system of record, whose result is cached
when the cache can be written.

`Access` runs the gate among blocklist calls, document changes, outages and
clock moves. Its invariant (`Access.Sound`) is that every entry under a status
key holds the status of a document one of the gate's lookups found, and
lapses one lifetime after that lookup.
-/

namespace Turnstile

open StoreOp

namespace Credential

/-- Status keys name their credential. -/
theorem text_eq_of_statusKey {c c' : Credential} (h : c.statusKey = c'.statusKey) :
    c.text = c'.text := by
  have hl := congrArg String.toList h
  simp only [statusKey, String.toList_append, List.append_cancel_left_eq] at hl
  exact String.toList_inj.1 hl

/-- A status key is never a blocklist key: the two start differently. -/
theorem statusKey_ne_cacheKey (c : Credential) (address : String) :
    c.statusKey ≠ Blocklist.cacheKey address := by
  intro h
  have hhead := congrArg (fun s => s.toList.head?) h
  simp [statusKey, Blocklist.cacheKey, String.toList_append] at hhead

end Credential

/-- The wire text of a status reads back as that status. -/
theorem Status.ofText_toText (s : Status) : Status.ofText s.toText = .ok s := by
  obtain ⟨registered, entitled⟩ := s
  cases registered <;> cases entitled <;> rfl

namespace StoreOp

/-- A cache read reads the live text under a key, when the store answers. -/
theorem kvGet_run (key : String) (b : Backend) :
    (kvGet key).run.run b = (.ok (do b.available .kv; pure (b.kv.lookup b.now key)), b) :=
  rfl

/-- A cache write with a lifetime puts the text under its key, lapsing a lifetime from now, when
the store answers; it halts, writing nothing, when that moment cannot be represented. -/
theorem kvSet_run (key value : String) (lifetime : Nat) (b : Backend) :
    (kvSet key value (some lifetime)).run.run b =
      match b.available .kv with
      | .error e => (.ok (.error e), b)
      | .ok () =>
        match b.deadline lifetime with
        | .ok t => (.ok (.ok ()), { b with kv := b.kv.put key value (some t) })
        | .error h => (.error h, b) := by
  simp only [kvSet, run_bind, run_get]
  cases b.available .kv with
  | error e => rfl
  | ok u =>
    cases b.deadline lifetime with
    | ok t => rfl
    | error h => rfl

/-- A cache write leaves the backend as it was, or puts its entry into the cache with some
expiry; it writes nothing else. -/
theorem kvSet_cases (key value : String) (lifetime : Option Nat) (b : Backend) :
    ((kvSet key value lifetime).run.run b).2 = b ∨
      ∃ expiry, ((kvSet key value lifetime).run.run b).2 =
        { b with kv := b.kv.put key value expiry } := by
  cases lifetime with
  | none =>
    simp only [kvSet, run_bind, run_get]
    split
    · exact .inl rfl
    · exact .inr ⟨none, rfl⟩
  | some l =>
    rw [kvSet_run]
    split
    · exact .inl rfl
    · split
      · exact .inr ⟨_, rfl⟩
      · exact .inl rfl

/-- A lookup counts itself and reads the document, when the system of record answers. -/
theorem fetchSubject_run (credential : String) (b : Backend) :
    (fetchSubject credential).run.run b =
      (.ok (do b.available .records; pure (b.records.subjects.get? credential)),
        { b with records := { b.records with lookups := b.records.lookups + 1 } }) :=
  rfl

theorem fetchSubject_ok {b : Backend} (credential : String) (hr : b.available .records = .ok ()) :
    (fetchSubject credential).run.run b =
      (.ok (.ok (b.records.subjects.get? credential)),
        { b with records := { b.records with lookups := b.records.lookups + 1 } }) := by
  rw [fetchSubject_run, hr]
  rfl

theorem fetchSubject_error {b : Backend} {e : StoreError} (credential : String)
    (hr : b.available .records = .error e) :
    (fetchSubject credential).run.run b =
      (.ok (.error e), { b with records := { b.records with lookups := b.records.lookups + 1 } }) := by
  rw [fetchSubject_run, hr]
  rfl

/-- A cache write leaves the entries under other keys as they were. -/
theorem kvSet_keeps_entry {key k : String} (hk : key ≠ k) (value : String)
    (lifetime : Option Nat) : Keeps (·.kv.entries.get? k) (kvSet key value lifetime) := by
  intro b
  rcases kvSet_cases key value lifetime b with h | ⟨expiry, h⟩ <;> rw [h]
  exact Table.get?_insert_of_ne _ _ hk

/-- Reads and the system of record leave the cache as it was. -/
theorem keeps_kvExists {γ : Type} {view : Backend → γ} (key : String) :
    Keeps view (kvExists key) := fun _ => rfl

theorem keeps_isAddressBlocked {γ : Type} {view : Backend → γ} (address : String) :
    Keeps view (isAddressBlocked address) := fun _ => rfl

theorem recordBlocked_keeps_entry (address : String) (at_ : Instant) (k : String) :
    Keeps (·.kv.entries.get? k) (recordBlocked address at_) := by
  intro b
  simp only [recordBlocked, run_bind, run_get]
  split <;> rfl

/-- The cache and the system of record keep the engine. -/
theorem kvSet_keeps_engine (key value : String) (lifetime : Option Nat) :
    Keeps (·.engine) (kvSet key value lifetime) := by
  intro b
  rcases kvSet_cases key value lifetime b with h | ⟨expiry, h⟩ <;> rw [h]

theorem recordBlocked_keeps_engine (address : String) (at_ : Instant) :
    Keeps (·.engine) (recordBlocked address at_) := by
  intro b
  simp only [recordBlocked, run_bind, run_get]
  split <;> rfl

end StoreOp

namespace Blocklist

/-! The blocklist writes the cache only under its own key of the address, and the system of
record only to block it; so it keeps every view of the stores that those two writes keep. -/

variable (bl : Blocklist) {γ : Type} {view : Backend → γ} (address : String)
  (hset : ∀ value lifetime, Keeps view (kvSet (cacheKey address) value lifetime))

include hset in
theorem remember_keeps : Keeps view (bl.remember address) :=
  (hset _ _).bind fun _ => keeps_pure _

include hset in
theorem isBlocked_keeps : Keeps view (bl.isBlocked address) :=
  (keeps_kvExists _).bind fun x => by
    split
    · exact keeps_pure _
    · refine (keeps_isAddressBlocked _).bind fun y => ?_
      split
      · exact (bl.remember_keeps address hset).bind fun _ => keeps_pure _
      · exact keeps_pure _

variable (hrec : ∀ now, Keeps view (recordBlocked address now))

include hset hrec in
theorem block_keeps (now : Instant) : Keeps view (bl.block address now) :=
  (hrec now).bind fun x => by
    split
    · exact keeps_pure _
    · exact (bl.remember_keeps address hset).bind fun _ => keeps_pure _

include hset hrec in
theorem screen_keeps (now : Instant) : Keeps view (bl.screen address now) :=
  (bl.isBlocked_keeps address hset).bind fun x => by
    split
    · exact keeps_pure _
    · refine (bl.block_keeps address hset hrec now).bind fun y => ?_
      split <;> exact keeps_pure _

end Blocklist

namespace Gate

/-- The cache read changes nothing; it hits when the store answers and the live entry under the
credential's key reads as a status. -/
theorem cached_run (c : Credential) (b : Backend) :
    (cached c).run.run b =
      (.ok (match b.available .kv, b.kv.lookup b.now c.statusKey with
        | .ok (), some raw =>
          match Status.ofText raw with
          | .ok s => .hit s
          | .error _ => .miss
        | _, _ => .miss), b) := by
  simp only [cached, run_bind, kvGet_run]
  cases b.available .kv with
  | error e => rfl
  | ok u =>
    obtain ⟨⟩ := u
    cases b.kv.lookup b.now c.statusKey with
    | none => rfl
    | some raw =>
      cases hs : Status.ofText raw <;>
        simp only [hs, bind, Except.bind, pure, Except.pure, StateT.run, ExceptT.run] <;> rfl

theorem cached_cases (c : Credential) (b : Backend) :
    (∃ s, (cached c).run.run b = (.ok (.hit s), b)) ∨ (cached c).run.run b = (.ok .miss, b) := by
  rw [cached_run]
  split
  · split
    · exact .inl ⟨_, rfl⟩
    · exact .inr rfl
  · exact .inr rfl

/-- A hit is the answer, and nothing is looked up or written. -/
theorem authorizeCredential_hit (g : Gate) {c : Credential} {b : Backend} {s : Status}
    (h : (cached c).run.run b = (.ok (.hit s), b)) :
    (g.authorizeCredential c).run.run b = (.ok (.ok s), b) := by
  simp only [authorizeCredential, run_bind, h]
  rfl

/-- After a miss the credential is looked up; a document found, or its absence, is resolved,
cached and answered, and a failed lookup is reported with nothing cached. -/
theorem authorizeCredential_miss (g : Gate) {c : Credential} {b : Backend}
    (h : (cached c).run.run b = (.ok .miss, b)) :
    (g.authorizeCredential c).run.run b =
      match (fetchSubject c.text).run.run b with
      | (.ok (.ok d), b1) =>
        match (g.remember c (resolveDocument d)).run.run b1 with
        | (.ok _, b2) => (.ok (.ok (resolveDocument d)), b2)
        | (.error e, b2) => (.error e, b2)
      | (.ok (.error e), b1) => (.ok (.error (.lookupFailed e)), b1)
      | (.error e, b1) => (.error e, b1) := by
  simp only [authorizeCredential, run_bind, h]
  rcases (fetchSubject c.text).run.run b with ⟨_ | _ | d, b1⟩
  · rfl
  · rfl
  · simp only [run_bind]
    rcases (g.remember c (resolveDocument d)).run.run b1 with ⟨_ | _, b2⟩ <;> rfl

/-- Caching a status writes it under the credential's key, lapsing a lifetime from now; or it
fails or halts and writes nothing. -/
theorem remember_cases (g : Gate) (c : Credential) (s : Status) (b : Backend)
    (hm : b.engine = .memory) :
    (∃ x, (g.remember c s).run.run b = (x, b)) ∨
      (g.remember c s).run.run b = (.ok (.ok ()),
        { b with kv := b.kv.put c.statusKey s.toText (some (b.now + g.lifetime * 1000)) }) := by
  simp only [remember, run_bind, kvSet_run]
  cases b.available .kv with
  | error e => exact .inl ⟨_, rfl⟩
  | ok u =>
    dsimp only
    cases hd : b.deadline (g.lifetime * 1000) with
    | error h => exact .inl ⟨_, rfl⟩
    | ok t =>
      have ht : t = b.now + g.lifetime * 1000 := by
        simp only [Backend.deadline, hm] at hd
        split at hd
        · cases hd
        · cases hd
          simp [Backend.now, hm]
      subst ht
      exact .inr rfl

/-- What one call does, on the memory engine: after a hit nothing changes and the cached status
is the answer. After a miss the lookup is counted; then either the cache is left as it was, and
any answer is the status of the document the lookup found, or the status of that document is
the answer and is cached under the credential's key, lapsing a lifetime from now. -/
theorem authorizeCredential_cases (g : Gate) (c : Credential) (b : Backend)
    (hm : b.engine = .memory) :
    let b1 : Backend := { b with records := { b.records with lookups := b.records.lookups + 1 } }
    (∃ s, (cached c).run.run b = (.ok (.hit s), b) ∧
      (g.authorizeCredential c).run.run b = (.ok (.ok s), b)) ∨
    ((cached c).run.run b = (.ok .miss, b) ∧
      ((((g.authorizeCredential c).run.run b).2 = b1 ∧
        ∀ st, ((g.authorizeCredential c).run.run b).1 = .ok (.ok st) →
          ∃ d, ((fetchSubject c.text).run.run b).1 = .ok (.ok d) ∧ st = resolveDocument d) ∨
      ∃ d, ((fetchSubject c.text).run.run b).1 = .ok (.ok d) ∧
        (g.authorizeCredential c).run.run b = (.ok (.ok (resolveDocument d)),
          { b1 with
            kv := (b.kv.put c.statusKey (resolveDocument d).toText
              (some (b.now + g.lifetime * 1000))) }))) := by
  intro b1
  rcases cached_cases c b with ⟨s, hs⟩ | hmiss
  · exact .inl ⟨s, hs, authorizeCredential_hit g hs⟩
  · refine .inr ⟨hmiss, ?_⟩
    rw [authorizeCredential_miss g hmiss]
    cases hr : b.available .records with
    -- a failed lookup answers with the failure
    | error e =>
      rw [fetchSubject_error c.text hr]
      exact .inl ⟨rfl, fun st hst => by cases hst⟩
    | ok u =>
      obtain ⟨⟩ := u
      rw [fetchSubject_ok c.text hr]
      dsimp only
      rcases remember_cases g c (resolveDocument (b.records.subjects.get? c.text)) b1 hm with
        ⟨x, hkeep⟩ | hput
      -- the cache was not written: the answer, if any, is the document's status
      · rw [hkeep]
        refine .inl ⟨?_, fun st hst => ⟨_, rfl, ?_⟩⟩
        · rcases x with _ | _ <;> rfl
        · rcases x with _ | _
          · cases hst
          · cases hst
            rfl
      · rw [hput]
        exact .inr ⟨_, rfl, rfl⟩

end Gate

/-- The stores the gate and the blocklist share, with the lookups the gate made: for each one
that succeeded, the credential, the document found or its absence, and the present moment. -/
structure Access where
  store : Backend
  fetched : List (String × Option Json × Nat) := []

/-- One call on the shared stores, or a change of the world around them. -/
inductive AccessEvent where
  /-- The gate authorizes a presented key. -/
  | authorize (credential : Option String)
  /-- The blocklist is asked about an address. -/
  | isBlocked (address : String)
  /-- The blocklist blocks an address at a wall-clock moment. -/
  | block (address : String) (now : Instant)
  /-- The blocklist screens an address that reached an unknown route. -/
  | screen (address : String) (now : Instant)
  /-- The document of a credential is registered or replaced. -/
  | insertSubject (credential : String) (doc : Json)
  /-- The fault switches of the stores are set. -/
  | faults (f : Faults)
  /-- The monotonic clock moves on by some milliseconds. -/
  | tick (ms : Nat)

namespace Access

/-- The stores before any call. -/
def start (b : Backend) : Access := { store := b }

/-- The lookup a call of the gate makes, when the cache misses and the lookup succeeds. -/
def lookupOf (s : Access) (raw : Option String) : List (String × Option Json × Nat) :=
  match Credential.parse raw with
  | .error _ => []
  | .ok c =>
    match (Gate.cached c).run.run s.store, (fetchSubject c.text).run.run s.store with
    | (.ok .miss, _), (.ok (.ok d), _) => [(c.text, d, s.store.now)]
    | _, _ => []

/-- The stores after one event. -/
def step (g : Gate) (bl : Blocklist) (s : Access) : AccessEvent → Access
  | .authorize raw =>
    { store := ((g.authorize raw).run.run s.store).2, fetched := s.fetched ++ s.lookupOf raw }
  | .isBlocked a => { s with store := ((bl.isBlocked a).run.run s.store).2 }
  | .block a now => { s with store := ((bl.block a now).run.run s.store).2 }
  | .screen a now => { s with store := ((bl.screen a now).run.run s.store).2 }
  | .insertSubject c doc => { s with store := ((insertSubject c doc).run.run s.store).2 }
  | .faults f => { s with store := { s.store with faults := f } }
  | .tick ms => { s with store := { s.store with clock := s.store.clock + ms } }

/-- The stores after a run of events. -/
def run (g : Gate) (bl : Blocklist) (s : Access) (events : List AccessEvent) : Access :=
  events.foldl (step g bl) s

/-- Every entry under a status key holds the wire text of the status of a document one of the
gate's lookups found, and lapses a lifetime after that lookup. The stores stay on the memory
engine. -/
structure Sound (g : Gate) (s : Access) : Prop where
  memory : s.store.engine = .memory
  entries : ∀ (c : Credential) e, s.store.kv.entries.get? c.statusKey = some e →
    ∃ d t, (c.text, d, t) ∈ s.fetched ∧
      e = ⟨(resolveDocument d).toText, some (t + g.lifetime * 1000)⟩

section Soundness

variable {g : Gate} {bl : Blocklist} {s : Access}

theorem sound_start {b : Backend} (hm : b.engine = .memory) (hkv : b.kv.entries.entries = []) :
    Sound g (start b) := by
  refine ⟨hm, fun c e he => ?_⟩
  simp [start, Table.get?, hkv] at he

/-- A change that keeps the engine, the entries under status keys and the lookups made keeps
the invariant. -/
theorem Sound.of_entries (h : Sound g s) {s' : Access} (hm : s'.store.engine = s.store.engine)
    (he : ∀ c : Credential, s'.store.kv.entries.get? c.statusKey = s.store.kv.entries.get? c.statusKey)
    (hf : s.fetched ⊆ s'.fetched) : Sound g s' := by
  refine ⟨hm.trans h.memory, fun c e hce => ?_⟩
  rw [he c] at hce
  obtain ⟨d, t, hmem, rfl⟩ := h.entries c e hce
  exact ⟨d, t, hf hmem, rfl⟩

/-- A live entry under a status key reads back as the status of a document a lookup found. -/
theorem Sound.lookup_eq (h : Sound g s) {c : Credential} {raw : String}
    (hl : s.store.kv.lookup s.store.now c.statusKey = some raw) :
    ∃ d t, (c.text, d, t) ∈ s.fetched ∧ Status.ofText raw = .ok (resolveDocument d) := by
  unfold Kv.lookup at hl
  split at hl
  · next e he =>
    split at hl
    · obtain ⟨d, t, hmem, rfl⟩ := h.entries c e he
      cases hl
      exact ⟨d, t, hmem, Status.ofText_toText _⟩
    · cases hl
  · cases hl

/-- On a sound store the cache misses exactly when the cache store is down or holds no live
entry under the credential's key. -/
theorem Sound.cached_miss_iff (h : Sound g s) (c : Credential) :
    (Gate.cached c).run.run s.store = (.ok .miss, s.store) ↔
      (StoreRole.kv ∈ s.store.faults.down ∨ s.store.kv.lookup s.store.now c.statusKey = none) := by
  rw [Gate.cached_run]
  by_cases hd : StoreRole.kv ∈ s.store.faults.down
  · have hav : s.store.available .kv = .error (.unavailable (StoreRole.kv.title ++ " is down")) := by
      simp [Backend.available, hd]
    simp only [hav, hd, true_or]
  · have hav : s.store.available .kv = .ok () := by
      simp [Backend.available, hd]
    simp only [hav, hd, false_or]
    cases hl : s.store.kv.lookup s.store.now c.statusKey with
    | none => simp
    | some raw =>
      obtain ⟨d, t, -, hread⟩ := h.lookup_eq hl
      simp only [hread]
      exact iff_of_false (fun hc => by cases hc) (fun hc => by cases hc)

/-- A call that misses and whose lookup succeeds records that lookup. -/
theorem lookupOf_of_miss {raw : Option String} {c : Credential} {d : Option Json}
    (hp : Credential.parse raw = .ok c) (hmiss : (Gate.cached c).run.run s.store = (.ok .miss, s.store))
    (hd : ((fetchSubject c.text).run.run s.store).1 = .ok (.ok d)) :
    s.lookupOf raw = [(c.text, d, s.store.now)] := by
  unfold lookupOf
  rw [hp]
  dsimp only
  rw [hmiss]
  generalize (fetchSubject c.text).run.run s.store = o at hd
  obtain ⟨x, b'⟩ := o
  dsimp only at hd
  subst hd
  rfl

theorem authorize_of_parse {raw : Option String} {c : Credential}
    (hp : Credential.parse raw = .ok c) (b : Backend) :
    (g.authorize raw).run.run b = (g.authorizeCredential c).run.run b := by
  simp only [Gate.authorize, hp]

/-- A call of the gate keeps the invariant: it writes only under its own credential's key, the
status of the document its own lookup found. -/
theorem Sound.authorize (h : Sound g s) (raw : Option String) :
    Sound g (s.step g bl (.authorize raw)) := by
  simp only [step]
  cases hp : Credential.parse raw with
  -- a missing key touches no store
  | error e =>
    have hrun : (g.authorize raw).run.run s.store = (.ok (.error .credentialMissing), s.store) := by
      simp only [Gate.authorize, hp]
      rfl
    exact h.of_entries (by rw [hrun]) (fun c => by rw [hrun]) (List.subset_append_left _ _)
  | ok c =>
    rw [authorize_of_parse hp]
    rcases Gate.authorizeCredential_cases g c s.store h.memory with
      ⟨st, -, hrun⟩ | ⟨hmiss, ⟨hst, -⟩ | ⟨d, hd, hrun⟩⟩
    · exact h.of_entries (by rw [hrun]) (fun c => by rw [hrun]) (List.subset_append_left _ _)
    · exact h.of_entries (by rw [hst]) (fun c => by rw [hst]) (List.subset_append_left _ _)
    -- the new entry is the status of the document this call's lookup found
    · rw [hrun, lookupOf_of_miss hp hmiss hd]
      refine ⟨h.memory, fun c' e he => ?_⟩
      dsimp only at he
      by_cases hk : c.statusKey = c'.statusKey
      · rw [← hk, Kv.put, Table.get?_insert_self] at he
        cases he
        refine ⟨d, s.store.now, ?_, rfl⟩
        rw [← Credential.text_eq_of_statusKey hk]
        exact List.mem_append_right _ (List.mem_singleton_self _)
      · rw [Kv.put, Table.get?_insert_of_ne _ _ hk] at he
        obtain ⟨d', t', hmem, rfl⟩ := h.entries c' e he
        exact ⟨d', t', List.mem_append_left _ hmem, rfl⟩

/-- A call of the blocklist keeps the invariant: whatever keeps a view under its cache writes for
the address and its blocking writes keeps the engine and every status key's entry. -/
theorem Sound.of_blocklist (h : Sound g s) (address : String) {α : Type} {op : StoreOp α}
    (hop : ∀ {γ : Type} (view : Backend → γ),
      (∀ value lifetime, Keeps view (kvSet (Blocklist.cacheKey address) value lifetime)) →
      (∀ now, Keeps view (recordBlocked address now)) → Keeps view op) :
    Sound g { s with store := (op.run.run s.store).2 } :=
  h.of_entries (hop _ (kvSet_keeps_engine _) (recordBlocked_keeps_engine address) s.store)
    (fun c => hop _ (kvSet_keeps_entry (Ne.symm (c.statusKey_ne_cacheKey address)))
      (fun now => recordBlocked_keeps_entry address now _) s.store)
    (List.Subset.refl _)

/-- Every event keeps the invariant: the blocklist writes only its own keys, and the other
events write no cache entry. -/
theorem Sound.step (h : Sound g s) (e : AccessEvent) : Sound g (s.step g bl e) := by
  have hsub : s.fetched ⊆ s.fetched := List.Subset.refl _
  cases e with
  | authorize raw => exact h.authorize raw
  | isBlocked a => exact h.of_blocklist a fun _ hset _ => bl.isBlocked_keeps a hset
  | block a now => exact h.of_blocklist a fun _ hset hrec => bl.block_keeps a hset hrec now
  | screen a now => exact h.of_blocklist a fun _ hset hrec => bl.screen_keeps a hset hrec now
  | insertSubject c doc => exact h.of_entries rfl (fun _ => rfl) hsub
  | faults f => exact h.of_entries rfl (fun _ => rfl) hsub
  | tick ms => exact h.of_entries rfl (fun _ => rfl) hsub

theorem Sound.run (es : List AccessEvent) : ∀ s, Sound g s → Sound g (s.run g bl es) := by
  induction es with
  | nil => exact fun s h => h
  | cons e es ih => exact fun s h => ih _ (h.step e)

/-- On a sound store a hit answers the status of a document a lookup found. -/
theorem Sound.cached_hit (h : Sound g s) {c : Credential} {st : Status}
    (hs : (Gate.cached c).run.run s.store = (.ok (.hit st), s.store)) :
    ∃ d t, (c.text, d, t) ∈ s.fetched ∧ st = resolveDocument d := by
  rw [Gate.cached_run] at hs
  revert hs
  cases s.store.available .kv with
  | error e => exact fun hs => by cases hs
  | ok u =>
    obtain ⟨⟩ := u
    cases hl : s.store.kv.lookup s.store.now c.statusKey with
    | none => exact fun hs => by cases hs
    | some raw =>
      obtain ⟨d, t, hmem, hread⟩ := h.lookup_eq hl
      simp only [hread]
      intro hs
      cases hs
      exact ⟨d, t, hmem, rfl⟩

/-- On a sound store, a call of the gate looks its credential up exactly when the cache store is
down or holds no live entry under the credential's key, and then once; any status it answers is
that of a document its own lookup or an earlier one found. -/
theorem Sound.authorize_spec (h : Sound g s) {raw : Option String} {c : Credential}
    (hp : Credential.parse raw = .ok c) :
    (((g.authorize raw).run.run s.store).2.records.lookups = s.store.records.lookups + 1 ↔
      (StoreRole.kv ∈ s.store.faults.down ∨ s.store.kv.lookup s.store.now c.statusKey = none)) ∧
    (((g.authorize raw).run.run s.store).2.records.lookups = s.store.records.lookups ∨
      ((g.authorize raw).run.run s.store).2.records.lookups = s.store.records.lookups + 1) ∧
    (∀ st, ((g.authorize raw).run.run s.store).1 = .ok (.ok st) →
      ∃ d t, (c.text, d, t) ∈ s.fetched ++ s.lookupOf raw ∧ st = resolveDocument d) := by
  rw [authorize_of_parse hp]
  have hown : ∀ {d}, ((fetchSubject c.text).run.run s.store).1 = .ok (.ok d) →
      (Gate.cached c).run.run s.store = (.ok .miss, s.store) →
      (c.text, d, s.store.now) ∈ s.fetched ++ s.lookupOf raw := fun hd hmiss => by
    rw [lookupOf_of_miss hp hmiss hd]
    exact List.mem_append_right _ (List.mem_singleton_self _)
  rcases Gate.authorizeCredential_cases g c s.store h.memory with
    ⟨st, hs, hrun⟩ | ⟨hmiss, ⟨hst, hans⟩ | ⟨d, hd, hrun⟩⟩
  -- a hit looks nothing up, and the cached status is that of a document found before
  · have hnot : ¬ (StoreRole.kv ∈ s.store.faults.down ∨
        s.store.kv.lookup s.store.now c.statusKey = none) := fun hc => by
      have hm := (h.cached_miss_iff c).2 hc
      rw [hs] at hm
      cases hm
    rw [hrun]
    refine ⟨iff_of_false (by simp) hnot, .inl rfl, fun st' hst' => ?_⟩
    cases hst'
    obtain ⟨d, t, hmem, rfl⟩ := h.cached_hit hs
    exact ⟨d, t, List.mem_append_left _ hmem, rfl⟩
  -- a miss looks up once, and answers the status of what it found
  · rw [hst]
    refine ⟨iff_of_true rfl ((h.cached_miss_iff c).1 hmiss), .inr rfl, fun st' hst' => ?_⟩
    obtain ⟨d, hd, rfl⟩ := hans st' hst'
    exact ⟨d, s.store.now, hown hd hmiss, rfl⟩
  · rw [hrun]
    refine ⟨iff_of_true rfl ((h.cached_miss_iff c).1 hmiss), .inr rfl, fun st' hst' => ?_⟩
    cases hst'
    exact ⟨d, s.store.now, hown hd hmiss, rfl⟩

end Soundness

/-- The status cache is sound and bounded by its lifetime, over every run of the gate among
blocklist calls, document changes, outages and clock moves that starts from an empty cache on
the memory engine. Every entry under a credential's status key holds the status of a document
(or its absence) that a lookup of that credential found, and lapses one lifetime after that
lookup. A call of the gate looks its credential up exactly when the cache store is down or holds
no live entry for it, and then once; any status it answers is that of a document its own lookup
or an earlier one found. -/
theorem status_cache_sound (g : Gate) (bl : Blocklist) (b : Backend) (hm : b.engine = .memory)
    (hkv : b.kv.entries.entries = []) (es : List AccessEvent) :
    let s := (start b).run g bl es
    (∀ (c : Credential) e, s.store.kv.entries.get? c.statusKey = some e →
      ∃ d t, (c.text, d, t) ∈ s.fetched ∧
        e = ⟨(resolveDocument d).toText, some (t + g.lifetime * 1000)⟩) ∧
    ∀ (raw : Option String) (c : Credential), Credential.parse raw = .ok c →
      (((g.authorize raw).run.run s.store).2.records.lookups = s.store.records.lookups + 1 ↔
        (StoreRole.kv ∈ s.store.faults.down ∨ s.store.kv.lookup s.store.now c.statusKey = none)) ∧
      (((g.authorize raw).run.run s.store).2.records.lookups = s.store.records.lookups ∨
        ((g.authorize raw).run.run s.store).2.records.lookups = s.store.records.lookups + 1) ∧
      (∀ st, ((g.authorize raw).run.run s.store).1 = .ok (.ok st) →
        ∃ d t, (c.text, d, t) ∈ s.fetched ++ s.lookupOf raw ∧ st = resolveDocument d) := by
  intro s
  have h : Sound g s := Sound.run es _ (sound_start hm hkv)
  exact ⟨h.entries, fun raw c hp => h.authorize_spec hp⟩

/-- An entitled subject is registered and authorized, an address is checked, and a second
later the subject is authorized again from the cache: one lookup in all. -/
theorem status_cache_sound_run :
    let b : Backend := { engine := .memory }
    let es : List AccessEvent := [.insertSubject "U1" (.object [("premium-status", .bool true)]),
      .authorize (some "U1"), .isBlocked "10.0.0.1", .tick 1000, .authorize (some "U1")]
    b.engine = .memory ∧ b.kv.entries.entries = [] ∧ ((start b).run {} {} es).fetched.length = 1 ∧
      ∀ (c : Credential) e, ((start b).run {} {} es).store.kv.entries.get? c.statusKey = some e →
        ∃ d t, (c.text, d, t) ∈ ((start b).run {} {} es).fetched ∧
          e = ⟨(resolveDocument d).toText, some (t + ({} : Gate).lifetime * 1000)⟩ := by
  intro b es
  have hm : b.engine = .memory := rfl
  have hkv : b.kv.entries.entries = [] := rfl
  have hlen : ((start b).run {} {} es).fetched.length = 1 := by decide
  exact ⟨hm, hkv, hlen, (status_cache_sound {} {} b hm hkv es).1⟩

/-- While the cache store is down, a call looks its credential up again although a live entry
for it is stored. -/
theorem outage_lookup_despite_live_entry :
    let g : Gate := {}
    let s := (start { engine := .memory }).run g {} [.authorize (some "U1"), .faults { down := [.kv] }]
    s.store.kv.lookup s.store.now "apikey:U1" ≠ none ∧
      ((g.authorize (some "U1")).run.run s.store).2.records.lookups =
        s.store.records.lookups + 1 := by
  decide

end Access

end Turnstile
