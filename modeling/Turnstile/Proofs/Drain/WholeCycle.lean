import Turnstile.Proofs.Drain.Conservation
import Turnstile.Proofs.Store.Engines

/-!
# A whole cycle on a quiet store

Inside a session of the service a drain cycle runs from its first store
operation to its last with nothing else in between. This module follows such a
cycle to its end on a quiet store (`Backend.Quiet`: the memory engine, no fault
switched on, counters not poisoned). When the cycle returns, every unit it took
from a counter key is in an object it wrote into its bucket or back in the
counter, and the objects went in one after another under names that were free
(`Archive.Grows`). When the cycle was not skipped and put no batch back, the
counter namespace is empty afterwards (`cycle_moves_units`).

The cycle runs as its steps (`resume_eq_advance_bind`), so the proof is an
induction over the steps left, bounded by `Phase.rank`, which every step lowers
(`advance_rank_lt`). Three things hold at every phase on the way: the store
stays quiet (`advance_quiet`), no counter key together with what the cycle holds
of it exceeds a word, so that a batch put back never saturates (`Phase.Fits`),
and the namespace holds no key the cycle has passed (`Phase.Clears`).
-/

namespace Turnstile

open Drainer Archive StoreOp

/-- A store on which drain cycles and increments meet no failure of the store itself: the memory
engine, no fault switched on, and counters that are not poisoned. -/
structure Backend.Quiet (b : Backend) : Prop where
  memory : b.engine = .memory
  faultless : b.faults = {}
  healthy : b.counters.poisoned = false

theorem Backend.Quiet.takesIncrement {b : Backend} (h : b.Quiet) : b.takesIncrement :=
  ⟨by simp [Backend.counterGuard_quiet h.faultless, Except.toBool], by simp [h.faultless],
    h.healthy⟩

/-- The keys of the counter namespace in a store, as a scan finds them. -/
def Backend.namespaceKeys (b : Backend) : List String :=
  b.counters.counts.keys.filter (b.matchesPrefix CounterKey.namespaceText)

namespace Table

variable {α : Type}

theorem mem_keys_erase {t : Table α} {k key : String} (h : key ∈ (t.erase k).keys) :
    key ∈ t.keys ∧ key ≠ k := by
  simp only [keys, erase, List.mem_map, List.mem_filter, bne_iff_ne, ne_eq] at h
  obtain ⟨e, ⟨he, hne⟩, rfl⟩ := h
  exact ⟨List.mem_map_of_mem he, hne⟩

theorem mem_keys_insert {t : Table α} {k key : String} {v : α} (h : key ∈ (t.insert k v).keys) :
    key = k ∨ key ∈ t.keys := by
  obtain ⟨e, he, rfl⟩ := List.mem_map.1 h
  rcases mem_place he with rfl | he
  · exact .inl rfl
  · exact .inr (List.mem_map_of_mem he)

end Table

namespace Backend

variable {b : Backend}

/-- Taking a key leaves the namespace with its other keys. -/
theorem mem_namespaceKeys_erase {key raw : String}
    (h : key ∈ ({ b with counters := { b.counters with
      counts := b.counters.counts.erase raw } } : Backend).namespaceKeys) :
    key ∈ b.namespaceKeys ∧ key ≠ raw := by
  obtain ⟨hk, hp⟩ := List.mem_filter.1 h
  obtain ⟨hk, hne⟩ := Table.mem_keys_erase hk
  exact ⟨List.mem_filter.2 ⟨hk, hp⟩, hne⟩

/-- A quarantine key lies outside the namespace, so adding under it adds no key to it. -/
theorem mem_namespaceKeys_quarantine (hm : b.engine = .memory) {key raw : String} {c : Nat}
    (h : key ∈ ({ b with counters := (b.counters.addSaturating (quarantineTag ++ raw) c).1 } :
      Backend).namespaceKeys) : key ∈ b.namespaceKeys := by
  obtain ⟨hk, hp⟩ := List.mem_filter.1 h
  rcases Table.mem_keys_insert hk with rfl | hk
  · simp only [matchesPrefix, hm] at hp
    exact absurd (List.isPrefixOf_iff_prefix.1 hp) (CounterKey.not_prefix_quarantine raw)
  · exact List.mem_filter.2 ⟨hk, hp⟩

/-- The namespace is read off the counts alone. -/
theorem namespaceKeys_of_counts {b' : Backend} (hc : b'.counters.counts = b.counters.counts)
    (he : b'.engine = b.engine) : b'.namespaceKeys = b.namespaceKeys := by
  unfold namespaceKeys matchesPrefix
  rw [hc, he]

end Backend

namespace Archive

/-- The objects of a bucket grow into others by the bodies of batches written one after another,
each under a name that was free. -/
def Grows : Table Blob → List (String × Batch) → Table Blob → Prop
  | t, [], t' => t' = t
  | t, (name, bt) :: rest, t' =>
    t.get? name = none ∧ Grows (t.insert name ⟨archiveContentType, bt.body⟩) rest t'

theorem Grows.append {t t₁ t₂ : Table Blob} {w₁ w₂ : List (String × Batch)}
    (h₁ : Grows t w₁ t₁) (h₂ : Grows t₁ w₂ t₂) : Grows t (w₁ ++ w₂) t₂ := by
  induction w₁ generalizing t with
  | nil =>
    obtain rfl : t₁ = t := h₁
    exact h₂
  | cons e w ih =>
    obtain ⟨name, bt⟩ := e
    exact ⟨h₁.1, ih h₁.2⟩

end Archive

end Turnstile

namespace Turnstile

namespace Drainer

open StoreOp Archive

/-- A bound on the steps that archiving batches takes: for each batch a hundred upload attempts,
a step per entry put back, and the step after. -/
def archiveCost (l : List (String × Batch)) : Nat :=
  (l.map fun e => e.2.entries.length + 102).sum

/-- A bound on the steps a cycle at a phase has left, on a store of `stored` keys: a key left to
drain takes up to three steps and adds at most one entry, or one batch, to archive. -/
def Phase.rank (stored : Nat) : Phase → Nat
  | .ping => 108 * stored + 5
  | .acquire => 108 * stored + 4
  | .scan => 108 * stored + 3
  | .drain keys acc => 108 * keys.length + archiveCost acc.2.entries + 2
  | .quarantine _ _ keys acc => 108 * keys.length + archiveCost acc.2.entries + 4
  | .putBack _ _ keys acc => 108 * keys.length + archiveCost acc.2.entries + 3
  | .upload bt _ left rest _ => left + bt.entries.length + archiveCost rest + 3
  | .stored _ _ rest _ => archiveCost rest + 2
  | .restore _ es rest _ => es.length + archiveCost rest + 2
  | .release _ => 1
  | .done _ => 0

theorem rank_archiveFrom (n : Nat) (l : List (String × Batch)) (r : DrainReport) :
    (archiveFrom l r).rank n = archiveCost l + 1 := by
  cases l with
  | nil => rfl
  | cons e rest =>
    obtain ⟨name, bt⟩ := e
    simp only [archiveFrom, Phase.rank, archiveCost, List.map_cons, List.sum_cons]
    omega

/-- Adding an entry to a cycle's batches adds an entry to one batch, or a new batch. -/
theorem archiveCost_addEntry (t : Table Batch) (key : CounterKey) (c : Nat)
    (now : Instant) : archiveCost (addEntry t key c now).entries ≤ archiveCost t.entries + 103 := by
  have hsum := Table.sum_insert (fun e => e.2.entries.length + 102) t key.subject.text
    (((t.get? key.subject.text).getD (Batch.empty key.subject now)).push ⟨key.resource, c, now⟩)
  simp only [archiveCost, addEntry]
  cases hg : t.get? key.subject.text <;>
    simp [hg, Batch.push, Batch.empty] at hsum ⊢ <;> omega

/-- Draining a key leaves the batches as they were or adds one entry to them. -/
theorem drainKey_batches (now : Instant) (acc : DrainReport × Table Batch) (raw : String) :
    Yields (fun acc' : DrainReport × Table Batch => acc'.2 = acc.2 ∨
      ∃ key c, acc'.2 = addEntry acc.2 key c now) (drainKey now acc raw) := by
  obtain ⟨r, batches⟩ := acc
  unfold drainKey
  dsimp only
  split
  · exact Yields.bind fun _ => Yields.bind fun _ => yields_pure (.inl rfl)
  · refine Yields.bind fun x => ?_
    split
    · split
      · exact yields_pure (.inl rfl)
      · exact Yields.bind fun _ => yields_pure (.inr ⟨_, _, rfl⟩)
    · exact yields_pure (.inl rfl)
    · exact yields_pure (.inl rfl)

/-- Every step but the last lowers the rank: the keys scanned are the store's, and draining a
key adds at most one batch or entry. -/
theorem advance_rank_lt {d : Drainer} {now : Instant} {p p' : Phase} {b b' : Backend}
    (hq : b.Quiet) (hw : p.WellFormed) (hp : ∀ r, p ≠ .done r)
    (h : (d.advance now p).run.run b = (.ok p', b')) :
    p'.rank b'.counters.counts.keys.length < p.rank b.counters.counts.keys.length := by
  cases p with
  | ping =>
    rw [advance_ping_run] at h
    obtain ⟨hx, rfl⟩ := Prod.mk.inj h
    cases hx
    split <;> simp [Phase.rank]
  | acquire =>
    rcases advance_acquire_cases h with ⟨r, rfl, rfl⟩ | ⟨t, rfl, rfl⟩
    · simp [Phase.rank]
    · simp [Phase.rank, Counters.grant]
  | scan =>
    simp only [advance, run_bind, scan_quiet hq.faultless hq.healthy] at h
    obtain ⟨hp', hb⟩ := eq_of_run_pure h
    rw [hp', hb]
    have hle := List.length_filter_le (b.matchesPrefix CounterKey.namespaceText)
      b.counters.counts.keys
    simp only [Phase.rank, archiveCost]
    simp
    omega
  | drain keys acc =>
    obtain ⟨r, batches⟩ := acc
    cases keys with
    | nil =>
      obtain ⟨rfl, rfl⟩ := eq_of_run_pure h
      rw [rank_archiveFrom]
      simp [Phase.rank]
    | cons raw keys =>
      cases hd : CounterKey.decode raw with
      | ok key =>
        obtain ⟨acc', hrun, rfl⟩ := advance_drain_counter hd h
        have hc : archiveCost acc'.2.entries ≤ archiveCost batches.entries + 103 := by
          rcases drainKey_batches now (r, batches) raw b acc' b' hrun with he | ⟨key', c, he⟩
          · rw [he]
            exact Nat.le_add_right _ _
          · rw [he]
            exact archiveCost_addEntry batches key' c now
        simp only [Phase.rank, List.length_cons]
        omega
      | error e =>
        rcases (advance_drain_malformed hd h).2 with ⟨c, rfl⟩ | ⟨r', rfl⟩ <;>
          simp only [Phase.rank, List.length_cons] <;> omega
  | quarantine raw c keys acc =>
    rcases (advance_quarantine h).2 with ⟨r', rfl⟩ | ⟨e, -, rfl⟩ <;> simp only [Phase.rank] <;> omega
  | putBack raw c keys acc =>
    obtain ⟨-, r', rfl⟩ := advance_putBack h
    simp only [Phase.rank]
    omega
  | upload bt attempt left rest r =>
    cases left with
    | zero =>
      obtain ⟨rfl, rfl⟩ := eq_of_run_pure h
      simp only [Phase.rank]
      omega
    | succ left =>
      rcases (advance_upload h).2 with rfl | rfl | rfl <;> simp only [Phase.rank] <;> omega
  | stored name bt rest r =>
    obtain ⟨rfl, r', -, rfl⟩ := advance_stored h
    rw [rank_archiveFrom]
    simp [Phase.rank]
  | restore bt es rest r =>
    cases es with
    | nil =>
      obtain ⟨rfl, rfl⟩ := eq_of_run_pure h
      rw [rank_archiveFrom]
      simp [Phase.rank]
    | cons e es =>
      obtain ⟨r', -, rfl⟩ := advance_restore h
      simp only [Phase.rank, List.length_cons]
      omega
  | release r =>
    rw [advance_release_run] at h
    obtain ⟨hx, rfl⟩ := Prod.mk.inj h
    cases hx
    simp [Phase.rank]
  | done r => exact absurd rfl (hp r)

/-! ### The store stays quiet -/

theorem putObject_keeps_of_blobs {γ : Type} {view : Backend → γ}
    (hv : ∀ b (bs : Blobs), view { b with blobs := bs } = view b) (bucket name : String)
    (blob : Blob) : Keeps view (putObject bucket name blob) := by
  intro b
  rw [putObject_run]
  dsimp only
  split
  · exact hv _ _
  · exact (hv _ _).trans (hv _ _)

theorem Counters.addChecked_poisoned (c : Counters) (key : String) (delta : Nat) :
    (c.addChecked key delta).1.poisoned = c.poisoned := by
  rcases Counters.addChecked_cases c key delta with h | ⟨v, h⟩ <;> rw [h]

theorem incr_keeps_poisoned (key : String) (delta : Nat) :
    Keeps (·.counters.poisoned) (incr key delta) := by
  intro b
  rcases incr_cases key delta b with ⟨e, h⟩ | ⟨-, h⟩ | ⟨-, h⟩
  · rw [h]
  · rw [h]
    rfl
  · rw [h]
    exact Counters.addChecked_poisoned _ _ _

theorem getDel_keeps_poisoned (key : String) : Keeps (·.counters.poisoned) (getDel key) := by
  intro b
  rw [getDel_run]
  split <;> rfl

/-- No step touches the fault switches. -/
theorem advance_keeps_faults (d : Drainer) (now : Instant) (p : Phase) :
    Keeps (·.faults) (d.advance now p) :=
  advance_keeps_of_countersOnly (fun _ _ => rfl) d now
    fun _ _ _ _ _ _ _ _ _ => putObject_keeps_of_blobs (fun _ _ => rfl) _ _ _

/-- A step that returns leaves a quiet store quiet: no step touches the engine or the faults,
and the one step that poisons the counters halts. -/
theorem advance_quiet {d : Drainer} {now : Instant} {p p' : Phase} {b b' : Backend}
    (hq : b.Quiet) (h : (d.advance now p).run.run b = (.ok p', b')) : b'.Quiet := by
  have hb : b' = ((d.advance now p).run.run b).2 := by rw [h]
  refine ⟨?_, ?_, ?_⟩
  · rw [hb]
    exact (advance_keeps_engine d now p b).trans hq.memory
  · rw [hb]
    exact (advance_keeps_faults d now p b).trans hq.faultless
  by_cases ha : p = .acquire
  · subst ha
    rcases advance_acquire_cases h with ⟨r, -, rfl⟩ | ⟨t, -, rfl⟩ <;> exact hq.healthy
  by_cases hr : ∃ r, p = .release r
  · obtain ⟨r, rfl⟩ := hr
    rw [advance_release_run] at h
    rw [← (Prod.mk.inj h).2, release_run]
    split
    · exact hq.healthy
    · exact (Counters.release_poisoned _ _ _).trans hq.healthy
  rw [hb]
  exact (advance_keeps incr_keeps_poisoned getDel_keeps_poisoned d now ha (fun r h => hr ⟨r, h⟩)
    (fun _ _ _ _ _ _ => putObject_keeps_of_blobs (fun _ _ => rfl)) b).trans hq.healthy

/-! ### What a cycle holds fits a word -/

/-- No counter key, together with what a cycle at a phase holds of it, exceeds a word; so
putting a batch back never saturates. -/
def Phase.Fits (b : Backend) (p : Phase) : Prop :=
  ∀ k : CounterKey, b.counters.units k.encode + p.held k ≤ wordMax

theorem Phase.Fits.restoreFits {b : Backend} {p : Phase} (hq : b.Quiet) (h : p.Fits b) :
    p.RestoreFits b := by
  intro inc hinc
  cases p with
  | restore bt es rest r =>
    cases es with
    | nil => cases hinc
    | cons e es =>
      cases hinc
      have hk := h ⟨e.resource, bt.subject⟩
      simp only [Phase.held, Batch.unitsOf_cons, and_self, ↓reduceIte] at hk
      exact ⟨hq.takesIncrement, by dsimp only; omega⟩
  | _ => cases hinc

theorem Phase.Fits.of_balanced {b b' : Backend} {p p' : Phase} (h : p.Fits b)
    (hb : Balanced b p b' p') : p'.Fits b' := by
  intro k
  have h1 := h k
  have h2 := hb k
  omega

/-! ### The namespace empties -/

/-- The namespace holds no key the cycle has passed: while it drains, only keys still to drain;
once it archives, none unless it put a batch back. A skipped cycle may leave anything, and the
step that puts a quarantined count back is never reached on a quiet store. -/
def Phase.Clears (b : Backend) : Phase → Prop
  | .drain keys _ | .quarantine _ _ keys _ => ∀ key ∈ b.namespaceKeys, key ∈ keys
  | .putBack .. => False
  | .upload _ _ _ _ r | .stored _ _ _ r | .release r =>
    b.namespaceKeys = [] ∨ 0 < r.batchesRestored
  | .done r => b.namespaceKeys = [] ∨ 0 < r.batchesRestored ∨ r.skipped.isSome
  | _ => True

theorem clears_archiveFrom {b : Backend} (l : List (String × Batch)) {r : DrainReport}
    (h : b.namespaceKeys = [] ∨ 0 < r.batchesRestored) : (archiveFrom l r).Clears b := by
  cases l with
  | nil => exact h
  | cons e rest =>
    obtain ⟨name, bt⟩ := e
    exact h

/-- A continuation that touches no store leaves the store where the first part left it. -/
theorem run_bind_store {α β : Type} {x : StoreOp α} {f : α → StoreOp β}
    (hf : ∀ a, Keeps id (f a)) (b : Backend) : ((x >>= f).run.run b).2 = (x.run.run b).2 := by
  rw [run_bind]
  rcases x.run.run b with ⟨_ | a, b'⟩
  · rfl
  · exact hf a b'

/-- Counting a stored batch leaves the count of batches put back as it was. -/
theorem tally_batchesRestored (r : DrainReport) (bt : Batch) (name : String) :
    Yields (fun r' : DrainReport => r'.batchesRestored = r.batchesRestored) (tally r bt name) := by
  unfold tally
  dsimp only
  split <;> exact Yields.bind fun _ => Yields.bind fun _ => yields_pure rfl

/-- On a quiet store, draining a counter key takes the key and writes nothing else. -/
theorem drainKey_store {now : Instant} {acc : DrainReport × Table Batch} {raw : String}
    {key : CounterKey} {b : Backend} (hq : b.Quiet) (hd : CounterKey.decode raw = .ok key) :
    ((drainKey now acc raw).run.run b).2 =
      { b with counters := { b.counters with counts := b.counters.counts.erase raw } } := by
  obtain ⟨r, batches⟩ := acc
  simp only [drainKey, hd]
  rw [run_bind_store, getDel_quiet hq.faultless hq.healthy]
  intro x
  split
  · split
    · exact keeps_pure _
    · exact (keeps_wordSum _ _).bind fun _ => keeps_pure _
  · exact keeps_pure _
  · exact keeps_pure _

/-- A step on a quiet store keeps the namespace clear of the keys the cycle has passed: a key is
taken when it is passed, and a quarantine key lies outside the namespace. -/
theorem advance_clears {d : Drainer} {now : Instant} {p p' : Phase} {b b' : Backend}
    (hq : b.Quiet) (hc : p.Clears b) (h : (d.advance now p).run.run b = (.ok p', b')) :
    p'.Clears b' := by
  cases p with
  | ping =>
    rw [advance_ping_run] at h
    obtain ⟨hx, rfl⟩ := Prod.mk.inj h
    cases hx
    split
    · exact .inr (.inr rfl)
    · trivial
  | acquire =>
    rcases advance_acquire_cases h with ⟨r, rfl, -⟩ | ⟨t, rfl, -⟩
    · exact .inr (.inr rfl)
    · trivial
  | scan =>
    -- the keys to drain are those of the namespace
    simp only [advance, run_bind, scan_quiet hq.faultless hq.healthy] at h
    obtain ⟨hp', hb⟩ := eq_of_run_pure h
    rw [hp', hb]
    exact fun key hk => hk
  | drain keys acc =>
    obtain ⟨r, batches⟩ := acc
    cases keys with
    | nil =>
      obtain ⟨hp', hb⟩ := eq_of_run_pure h
      rw [hp', hb]
      exact clears_archiveFrom _
        (.inl (List.eq_nil_iff_forall_not_mem.2 fun key hk => List.not_mem_nil (hc key hk)))
    | cons raw keys =>
      -- the key is taken, whatever it holds
      have hpass : ∀ key ∈ ({ b with counters := { b.counters with
          counts := b.counters.counts.erase raw } } : Backend).namespaceKeys, key ∈ keys := by
        intro key hk
        obtain ⟨hk, hne⟩ := Backend.mem_namespaceKeys_erase hk
        exact (List.mem_cons.1 (hc key hk)).resolve_left hne
      cases hd : CounterKey.decode raw with
      | ok key =>
        obtain ⟨acc', hrun, rfl⟩ := advance_drain_counter hd h
        have hs : ((drainKey now (r, batches) raw).run.run b).2 = _ := drainKey_store hq hd
        rw [hrun] at hs
        dsimp only at hs
        rw [hs]
        exact hpass
      | error e =>
        obtain ⟨hb, hnext⟩ := advance_drain_malformed hd h
        rw [getDel_quiet hq.faultless hq.healthy] at hb
        rcases hnext with ⟨c, rfl⟩ | ⟨r', rfl⟩ <;> rw [hb] <;> exact hpass
  | quarantine raw c keys acc =>
    obtain ⟨hb, hnext⟩ := advance_quarantine h
    rw [incr_run_of_takes _ _ hq.memory hq.takesIncrement] at hb hnext
    rcases hnext with ⟨r', rfl⟩ | ⟨e, he, -⟩
    · rw [hb]
      exact fun key hk => hc key (Backend.mem_namespaceKeys_quarantine hq.memory hk)
    · cases he
  | putBack => exact hc.elim
  | upload bt attempt left rest r =>
    cases left with
    | zero =>
      obtain ⟨hp', -⟩ := eq_of_run_pure h
      rw [hp']
      trivial
    | succ left =>
      -- an upload writes the blob store alone
      have hkc : Keeps (·.counters) (putObject d.settings.bucket (bt.objectName attempt)
          ⟨archiveContentType, bt.body⟩) := putObject_keeps_of_blobs (fun _ _ => rfl) _ _ _
      have hke : Keeps (·.engine) (putObject d.settings.bucket (bt.objectName attempt)
          ⟨archiveContentType, bt.body⟩) := putObject_keeps_of_blobs (fun _ _ => rfl) _ _ _
      have hns := Backend.namespaceKeys_of_counts (congrArg Counters.counts (hkc b)) (hke b)
      obtain ⟨rfl, rfl | rfl | rfl⟩ := advance_upload h
      · simp only [Phase.Clears, hns]
        exact hc
      · simp only [Phase.Clears, hns]
        exact hc
      · trivial
  | stored name bt rest r =>
    obtain ⟨rfl, r', htally, rfl⟩ := advance_stored h
    exact clears_archiveFrom _ (by rw [tally_batchesRestored r bt name _ r' _ htally]; exact hc)
  | restore bt es rest r =>
    cases es with
    | nil =>
      obtain ⟨hp', -⟩ := eq_of_run_pure h
      rw [hp']
      exact clears_archiveFrom _ (.inr (Nat.succ_pos _))
    | cons e es =>
      obtain ⟨r', -, rfl⟩ := advance_restore h
      trivial
  | release r =>
    rw [advance_release_run] at h
    obtain ⟨hx, rfl⟩ := Prod.mk.inj h
    cases hx
    -- giving the lease up writes the leases alone
    have hns : ((release d.settings.leaseName d.holder).run.run b).2.namespaceKeys =
        b.namespaceKeys := by
      rw [release_quiet hq.faultless hq.healthy]
      exact Backend.namespaceKeys_of_counts (Counters.release_counts _ _ _) rfl
    simp only [Phase.Clears, hns]
    rcases hc with hc | hc
    · exact .inl hc
    · exact .inr (.inl hc)
  | done r =>
    obtain ⟨hp', hb⟩ := eq_of_run_pure h
    rw [hp', hb]
    exact hc

/-! ### A whole cycle -/

/-- The rest of a cycle, run to its end on a quiet store from a phase whose holdings fit: the
store stays quiet, the namespace is cleared unless a batch went back or the cycle was skipped,
and every unit the counters and the cycle held is in a counter or in an object written under a
free name. The induction is on a bound of the rank, which every step lowers. -/
theorem resume_moves_units (d : Drainer) (now : Instant) (n : Nat) :
    ∀ (p : Phase) (b b' : Backend) (r : DrainReport), p.rank b.counters.counts.keys.length < n →
      b.Quiet → p.WellFormed → p.Fits b → p.Clears b →
      (d.resume now p).run.run b = (.ok r, b') →
      b'.Quiet ∧ (b'.namespaceKeys = [] ∨ 0 < r.batchesRestored ∨ r.skipped.isSome) ∧
        ∃ written, Grows (b.blobs.objects d.settings.bucket) written
            (b'.blobs.objects d.settings.bucket) ∧
          ∀ k : CounterKey, b.counters.units k.encode + p.held k =
            b'.counters.units k.encode + archivedUnits written k := by
  induction n with
  | zero => exact fun p b _ _ hn => absurd hn (Nat.not_lt_zero _)
  | succ n ih =>
    intro p b b' r hn hq hw hf hc h
    -- a finished cycle gives its report and changes nothing
    by_cases hd : ∃ r₀, p = .done r₀
    · obtain ⟨r₀, rfl⟩ := hd
      obtain ⟨rfl, rfl⟩ := eq_of_run_pure h
      exact ⟨hq, hc, [], rfl, fun k => by simp [Phase.held, archivedUnits]⟩
    -- otherwise one step, and the rest from the phase it reaches
    rw [resume_eq_advance_bind] at h
    obtain ⟨p₁, b₁, hstep, h⟩ := run_bind_eq_ok.mp h
    obtain ⟨hw₁, hbal⟩ := advance_balanced hq.memory hw (hf.restoreFits hq) hstep
    have hlt := advance_rank_lt hq hw (fun r₀ h₀ => hd ⟨r₀, h₀⟩) hstep
    obtain ⟨hq', hns, written, hgrow, hunits⟩ := ih p₁ b₁ b' r (by omega)
      (advance_quiet hq hstep) hw₁ (hf.of_balanced hbal) (advance_clears hq hc hstep) h
    refine ⟨hq', hns, p₁.stores ++ written, ?_, fun k => ?_⟩
    -- the step stored its batch, if any, under a name that was free
    · rcases advance_objects d now p b with ⟨hobj, hnil⟩ | ⟨name, bt, rest, r', hx, hfree, hobj⟩
      · rw [hstep] at hobj hnil
        rw [hnil p₁ rfl, List.nil_append, ← hobj]
        exact hgrow
      · rw [hstep] at hx hobj
        cases hx
        exact ⟨hfree, by rw [← hobj]; exact hgrow⟩
    · have h₁ := hbal k
      have h₂ := hunits k
      rw [archivedUnits_append]
      omega

/-- A whole drain cycle on a quiet store whose counter keys fit a word: when it returns, the
store is still quiet, every unit it took from a counter key is in an object it wrote into its
bucket, one after another under names that were free, or back in the counter; and unless it put
a batch back or was skipped, the counter namespace is empty. -/
theorem cycle_moves_units (d : Drainer) (now : Instant) {b b' : Backend} {r : DrainReport}
    (hq : b.Quiet) (hfit : ∀ k : CounterKey, b.counters.units k.encode ≤ wordMax)
    (h : (d.cycle now).run.run b = (.ok r, b')) :
    b'.Quiet ∧ (b'.namespaceKeys = [] ∨ 0 < r.batchesRestored ∨ r.skipped.isSome) ∧
      ∃ written, Grows (b.blobs.objects d.settings.bucket) written
          (b'.blobs.objects d.settings.bucket) ∧
        ∀ k : CounterKey, b.counters.units k.encode =
          b'.counters.units k.encode + archivedUnits written k := by
  rw [← resume_ping] at h
  obtain ⟨hq', hns, written, hgrow, hunits⟩ := resume_moves_units d now _ .ping b b' r
    (Nat.lt_succ_self _) hq trivial (fun k => by simpa [Phase.held] using hfit k) trivial h
  exact ⟨hq', hns, written, hgrow, fun k => by simpa [Phase.held] using hunits k⟩

end Drainer

end Turnstile
