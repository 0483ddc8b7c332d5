import Turnstile.Proofs.Drain.Storing
import Turnstile.Proofs.Archive.RoundTrip

/-!
# What one drain cycle does to the stores

`cycle_outcome` says key by key and object by object what a cycle that runs alone on an
answering store leaves: keys outside the namespace unchanged, malformed keys quarantined (or
lost when increments are refused), and each subject's batch stored under its first free name
with its keys removed, or its keys given back when no name is free.
-/

namespace Turnstile

open Drainer Archive StoreOp

namespace Table

variable {α : Type}

/-- A key read from a table is one of its entries. -/
theorem mem_of_get? {t : Table α} {k : String} {v : α} (h : t.get? k = some v) :
    (k, v) ∈ t.entries := by
  obtain ⟨p, hp, rfl⟩ := Option.map_eq_some_iff.1 h
  have hk : p.1 = k := by simpa using List.find?_some hp
  subst hk
  exact List.mem_of_find?_eq_some hp

end Table

/-- The first of a batch's names for attempts 0 to 99 that is free in a bucket taking uploads. -/
def Backend.FirstFree (b : Backend) (bucket : String) (bt : Batch) (a : Nat) : Prop :=
  b.takesUploads bucket ∧ a < 100 ∧ (b.blobs.objects bucket).contains (bt.objectName a) = false ∧
    ∀ a' < a, (b.blobs.objects bucket).contains (bt.objectName a') = true

instance (b : Backend) (bucket : String) (bt : Batch) (a : Nat) :
    Decidable (b.FirstFree bucket bt a) :=
  inferInstanceAs (Decidable (b.takesUploads bucket ∧ a < 100 ∧
    (b.blobs.objects bucket).contains (bt.objectName a) = false ∧
    ∀ a' < a, (b.blobs.objects bucket).contains (bt.objectName a') = true))

namespace StoreOp

/-- On an answering store the scan of the counter namespace gives the namespace's keys. -/
theorem scan_answering {b : Backend} (h : b.Answering) :
    (scan CounterKey.namespaceText).run.run b = (.ok (.ok b.namespaceKeys), b) := by
  rw [scan_run, h.counterGuard, h.stateGuard]
  rfl

/-- Giving a lease up leaves the counts and the blob store as they were. -/
theorem release_counts_blobs (b : Backend) (name : String) (holder : Holder) :
    ((release name holder).run.run b).2.counters.counts = b.counters.counts ∧
      ((release name holder).run.run b).2.blobs = b.blobs := by
  rw [release_run]
  split
  · exact ⟨rfl, rfl⟩
  · exact ⟨Counters.release_counts _ _ _, rfl⟩

end StoreOp

namespace Drainer

/-- The attempt a store gives a batch is the batch's first free name. -/
theorem storeAttempt_eq_some_iff {b : Backend} {bucket : String} {bt : Batch} {a : Nat} :
    storeAttempt (decide (b.takesUploads bucket)) (b.blobs.objects bucket) bt = some a ↔
      b.FirstFree bucket bt a := by
  unfold storeAttempt Backend.FirstFree
  by_cases ht : b.takesUploads bucket
  · rw [decide_eq_true ht, if_pos rfl, Batch.freeAttempt_eq_some_iff]
    simp [ht]
  · rw [decide_eq_false ht]
    simp [ht]

/-- The counters and the bucket's objects after a cycle stamped `now` took the keys and archived
the batches they made. -/
def drainAll (takes accepts : Bool) (now : Instant) (keys : List String) (x : Counters × Table Blob) :
    Counters × Table Blob :=
  archiveAll takes accepts (takeAll takes now keys (x.1, {})).2.entries
    ((takeAll takes now keys (x.1, {})).1, x.2)

theorem takeAll_poisoned (takes : Bool) (now : Instant) :
    ∀ (keys : List String) (c : Counters) (bt : Table Batch),
      (takeAll takes now keys (c, bt)).1.poisoned = c.poisoned
  | [], _, _ => rfl
  | _ :: keys, _, _ =>
    (takeAll_poisoned takes now keys _ _).trans (Counters.afterTake_poisoned _ _ _)

/-- On an answering store, draining the namespace, when it returns, does what `drainAll` says. -/
theorem drainNamespace_answering (d : Drainer) (now : Instant) {b b' : Backend} (h : b.Answering)
    {r : DrainReport} (hrun : (d.drainNamespace now).run.run b = (.ok r, b')) :
    ∃ bs, b' = { b with
        counters := (drainAll (!b.faults.rejectIncrements) (decide (b.takesUploads d.settings.bucket))
          now b.namespaceKeys (b.counters, b.blobs.objects d.settings.bucket)).1,
        blobs := bs } ∧
      bs.objects d.settings.bucket = (drainAll (!b.faults.rejectIncrements)
        (decide (b.takesUploads d.settings.bucket)) now b.namespaceKeys
        (b.counters, b.blobs.objects d.settings.bucket)).2 := by
  simp only [drainNamespace, run_bind, scan_answering h] at hrun
  rcases hkeys : (b.namespaceKeys.foldlM (drainKey now)
      ({ keysScanned := b.namespaceKeys.length }, {})).run.run b with ⟨_ | ⟨r1, bt1⟩, b1⟩
  · rw [hkeys] at hrun
    cases hrun
  · rw [hkeys] at hrun
    obtain ⟨hb1, rfl⟩ := foldlM_drainKey_answering now _ h hkeys
    have h1 : b1.Answering := by
      rw [hb1]
      exact h.with_counters ((takeAll_poisoned _ _ _ _ _).trans h.healthy)
    obtain ⟨bs, rfl, hobj⟩ := foldlM_archive_answering d _ h1 hrun
    subst hb1
    exact ⟨bs, rfl, hobj⟩

/-- On an answering store, a cycle that returns a report it did not skip left the counts and the
bucket's objects that `drainAll` gives, from counters that hold the store's counts. -/
theorem cycle_answering (d : Drainer) (now : Instant) {b : Backend} (h : b.Answering)
    {r : DrainReport} (hrun : ((d.cycle now).run.run b).1 = .ok r) (hskip : r.skipped = none) :
    ∃ c : Counters, c.counts = b.counters.counts ∧
      ((d.cycle now).run.run b).2.counters.counts = (drainAll (!b.faults.rejectIncrements)
        (decide (b.takesUploads d.settings.bucket)) now b.namespaceKeys
        (c, b.blobs.objects d.settings.bucket)).1.counts ∧
      ((d.cycle now).run.run b).2.blobs.objects d.settings.bucket = (drainAll
        (!b.faults.rejectIncrements) (decide (b.takesUploads d.settings.bucket)) now b.namespaceKeys
        (c, b.blobs.objects d.settings.bucket)).2 := by
  have hg : (b.counterGuard .tryAcquireLease >>= fun _ => b.stateGuard "leases") = .ok () := by
    rw [h.counterGuard, h.stateGuard]
    rfl
  rw [← resume_ping, resume_eq_advance_bind, run_bind, advance_ping_run, h.counterGuard] at hrun ⊢
  dsimp only at hrun ⊢
  rw [resume_eq_advance_bind, run_bind, advance_acquire_run, hg] at hrun ⊢
  dsimp only at hrun ⊢
  by_cases hm : b.counters.mayLease d.settings.leaseName d.holder b.now = true
  · rw [if_pos hm] at hrun ⊢
    cases hdl : b.deadline (d.settings.leaseTtl * 1000) with
    | error e =>
      rw [hdl] at hrun
      cases hrun
    | ok t =>
      -- the lease is granted, which leaves the counts as they were; then the namespace is
      -- drained and the lease given up
      rw [hdl] at hrun
      dsimp only at hrun ⊢
      simp only [resume, run_bind] at hrun ⊢
      have h2 : ({ b with counters := b.counters.grant d.settings.leaseName d.holder t } :
          Backend).Answering := h.with_counters h.healthy
      rcases hdn : (d.drainNamespace now).run.run
          { b with counters := b.counters.grant d.settings.leaseName d.holder t } with ⟨_ | r1, b3⟩
      · rw [hdn] at hrun
        cases hrun
      · obtain ⟨bs, hb3, hobj⟩ := drainNamespace_answering d now h2 hdn
        obtain ⟨hcounts, hblobs⟩ := release_counts_blobs b3 d.settings.leaseName d.holder
        dsimp only
        generalize (release d.settings.leaseName d.holder).run.run b3 = y at hcounts hblobs ⊢
        obtain ⟨x, b4⟩ := y
        dsimp only at hcounts hblobs
        refine ⟨b.counters.grant d.settings.leaseName d.holder t, rfl, ?_, ?_⟩
        · cases x <;> simp only [run_pure, hcounts, hb3] <;> rfl
        · cases x <;> simp only [run_pure, hblobs, hb3] <;> exact hobj
  · rw [if_neg hm] at hrun
    simp only [resume, run_pure] at hrun
    cases hrun
    cases hskip


section DrainAll

/-! The keys a cycle takes are distinct, and none of them is a quarantine key. -/

variable {takes accepts : Bool} {now : Instant} {keys : List String} {c : Counters}
  {objs : Table Blob}

/-- Every entry of a batch a cycle makes is the positive count of a key it takes. -/
theorem entry_of_mem_batches (hnd : keys.Nodup) (hq : ∀ k ∈ keys, ∀ raw, k ≠ quarantineTag ++ raw)
    {p : String × Batch} (hp : p ∈ (takeAll takes now keys (c, {})).2.entries) {e : Entry}
    (he : e ∈ p.2.entries) :
    CounterKey.encode ⟨e.resource, p.2.subject⟩ ∈ keys ∧
      c.counts.get? (CounterKey.encode ⟨e.resource, p.2.subject⟩) = some (.exact e.count) ∧
      e.count ≠ 0 := by
  obtain ⟨hb, -⟩ := takeAll_mem_batches hnd hq c hp
  rw [hb] at he
  obtain ⟨raw, hraw, hentry⟩ := List.mem_filterMap.1 he
  obtain ⟨rfl, hget, hpos, -⟩ := entryOf_eq_some hentry
  exact ⟨hraw, hget, hpos⟩

/-- A subject's batch with entries is among the batches a cycle makes. -/
theorem batchOf_mem_batches (hnd : keys.Nodup) (hq : ∀ k ∈ keys, ∀ raw, k ≠ quarantineTag ++ raw)
    {s : Segment} (hs : (batchOf c now keys s).entries ≠ []) :
    (s.text, batchOf c now keys s) ∈ (takeAll takes now keys (c, {})).2.entries := by
  apply Table.mem_of_get?
  rw [takeAll_get?_batch_empty hnd hq c s]
  exact if_neg hs

/-- The batches a cycle makes hold entries of distinct resources. -/
theorem resources_nodup_of_mem_batches (hnd : keys.Nodup)
    (hq : ∀ k ∈ keys, ∀ raw, k ≠ quarantineTag ++ raw) :
    ∀ p ∈ (takeAll takes now keys (c, {})).2.entries, (p.2.entries.map (·.resource)).Nodup := by
  intro p hp
  rw [(takeAll_mem_batches hnd hq c hp).1]
  exact batchOf_resources_nodup hnd c _

/-- A key that is not taken with a positive count and a decoding ends as the fold over the keys
left it. -/
theorem drainAll_get?_of_not_entry (hnd : keys.Nodup)
    (hq : ∀ k ∈ keys, ∀ raw, k ≠ quarantineTag ++ raw) (k : String)
    (hk : k ∈ keys → ∀ key n, CounterKey.decode k = .ok key →
      c.counts.get? k = some (.exact n) → n = 0) :
    (drainAll takes accepts now keys (c, objs)).1.counts.get? k =
      (takeAll takes now keys (c, {})).1.counts.get? k := by
  refine archiveAll_counts_of_not_key (fun p hp e he hek => ?_) _
  obtain ⟨hmem, hget, hpos⟩ := entry_of_mem_batches hnd hq hp he
  rw [hek] at hmem hget
  exact hpos (hk hmem ⟨e.resource, p.2.subject⟩ e.count
    (by rw [← hek]; exact CounterKey.decode_encode _) hget)

/-- A key outside the taken keys and their quarantine keys ends as it was. -/
theorem drainAll_get?_outside (hnd : keys.Nodup) (hq : ∀ k ∈ keys, ∀ raw, k ≠ quarantineTag ++ raw)
    {k : String} (hk : k ∉ keys) (hkq : ∀ raw ∈ keys, k ≠ quarantineTag ++ raw) :
    (drainAll takes accepts now keys (c, objs)).1.counts.get? k = c.counts.get? k := by
  rw [drainAll_get?_of_not_entry hnd hq k fun hmem => absurd hmem hk]
  exact takeAll_get?_of_not_mem c {} fun raw hraw =>
    ⟨fun he => hk (by rw [he]; exact hraw), hkq raw hraw⟩

/-- A taken key that does not decode ends empty, and its positive count goes under its
quarantine key when increments are taken. -/
theorem drainAll_get?_malformed (hnd : keys.Nodup)
    (hq : ∀ k ∈ keys, ∀ raw, k ≠ quarantineTag ++ raw) {raw : String} (hraw : raw ∈ keys)
    {e : CoreError} {n : Nat} (hd : CounterKey.decode raw = .error e)
    (hg : c.counts.get? raw = some (.exact n)) (hn : n ≠ 0) :
    (drainAll takes accepts now keys (c, objs)).1.counts.get? raw = none ∧
      (drainAll takes accepts now keys (c, objs)).1.counts.get? (quarantineTag ++ raw) =
        if takes then some (.exact (min (c.units (quarantineTag ++ raw) + n) wordMax))
        else c.counts.get? (quarantineTag ++ raw) := by
  constructor
  · rw [drainAll_get?_of_not_entry hnd hq raw (fun _ _ _ hd' _ => (by cases hd.symm.trans hd')),
      takeAll_get?_mem hnd hq c {} hraw]
  · rw [drainAll_get?_of_not_entry hnd hq (quarantineTag ++ raw) fun hmem => absurd rfl (hq _ hmem raw),
      takeAll_get?_quarantine hnd hq c {} hraw, Counters.afterTake_get?_quarantine takes c hd hg hn]

/-- A taken key without a positive count ends empty, and its quarantine key as it was. -/
theorem drainAll_get?_emptied (hnd : keys.Nodup)
    (hq : ∀ k ∈ keys, ∀ raw, k ≠ quarantineTag ++ raw) {raw : String} (hraw : raw ∈ keys)
    (hz : ∀ n, c.counts.get? raw = some (.exact n) → n = 0) :
    (drainAll takes accepts now keys (c, objs)).1.counts.get? raw = none ∧
      (drainAll takes accepts now keys (c, objs)).1.counts.get? (quarantineTag ++ raw) =
        c.counts.get? (quarantineTag ++ raw) := by
  rw [drainAll_get?_of_not_entry hnd hq raw fun _ _ n _ hg => hz n hg,
    drainAll_get?_of_not_entry hnd hq (quarantineTag ++ raw) fun hmem => absurd rfl (hq _ hmem raw),
    takeAll_get?_mem hnd hq c {} hraw, takeAll_get?_quarantine hnd hq c {} hraw,
    Counters.afterTake_get?_quarantine_of_not takes c fun _ n _ hg => hz n hg]
  exact ⟨rfl, rfl⟩

/-- A taken key that decodes, with a positive count, ends empty unless its subject's batch has no
store attempt and increments are taken, when it holds its count again (up to the largest word);
its quarantine key ends as it was. -/
theorem drainAll_get?_decoded (hnd : keys.Nodup)
    (hq : ∀ k ∈ keys, ∀ raw, k ≠ quarantineTag ++ raw) {raw : String} (hraw : raw ∈ keys)
    {key : CounterKey} {n : Nat} (hd : CounterKey.decode raw = .ok key)
    (hg : c.counts.get? raw = some (.exact n)) (hn : n ≠ 0) :
    (drainAll takes accepts now keys (c, objs)).1.counts.get? raw =
        (if storeAttempt accepts objs (batchOf c now keys key.subject) = none ∧ takes = true then
          some (.exact (min n wordMax)) else none) ∧
      (drainAll takes accepts now keys (c, objs)).1.counts.get? (quarantineTag ++ raw) =
        c.counts.get? (quarantineTag ++ raw) := by
  have hentry : entryOf c now key.subject raw = some ⟨key.resource, n, now⟩ := by
    unfold entryOf
    rw [hd, hg]
    exact if_pos ⟨rfl, hn⟩
  have he : (⟨key.resource, n, now⟩ : Entry) ∈ (batchOf c now keys key.subject).entries :=
    List.mem_filterMap.2 ⟨raw, hraw, hentry⟩
  have hB : (key.subject.text, batchOf c now keys key.subject) ∈
      (takeAll takes now keys (c, {})).2.entries :=
    batchOf_mem_batches hnd hq (List.ne_nil_of_mem he)
  have hnone : (takeAll takes now keys (c, {})).1.counts.get? raw = none :=
    takeAll_get?_mem hnd hq c {} hraw
  have hunits : (takeAll takes now keys (c, {})).1.units raw = 0 := by
    simp only [Counters.units, hnone]
  constructor
  · unfold drainAll
    rw [archiveAll_counts_entry (takeAll_subjects_nodup c) (resources_nodup_of_mem_batches hnd hq) hB
      he (CounterKey.encode_of_decode hd)]
    simp only [hunits, hnone, Nat.zero_add]
  · rw [drainAll_get?_of_not_entry hnd hq (quarantineTag ++ raw) fun hmem => absurd rfl (hq _ hmem raw),
      takeAll_get?_quarantine hnd hq c {} hraw,
      Counters.afterTake_get?_quarantine_of_not takes c fun _ _ hd' _ => (by cases hd.symm.trans hd')]

/-- A subject's batch with entries and a store attempt is found under that name afterwards. -/
theorem drainAll_get?_stored (hnd : keys.Nodup) (hq : ∀ k ∈ keys, ∀ raw, k ≠ quarantineTag ++ raw)
    {s : Segment} (hs : (batchOf c now keys s).entries ≠ []) {a : Nat}
    (ha : storeAttempt accepts objs (batchOf c now keys s) = some a) :
    (drainAll takes accepts now keys (c, objs)).2.get? ((batchOf c now keys s).objectName a) =
      some ⟨archiveContentType, (batchOf c now keys s).body⟩ :=
  archiveAll_get?_stored (takeAll_subjects_nodup c) (batchOf_mem_batches hnd hq hs) ha

/-- A subject's batch without a store attempt leaves every object under its names as it was. -/
theorem drainAll_get?_unstored (hnd : keys.Nodup)
    (hq : ∀ k ∈ keys, ∀ raw, k ≠ quarantineTag ++ raw) {s : Segment}
    (hs : storeAttempt accepts objs (batchOf c now keys s) = none) (a : Nat) :
    (drainAll takes accepts now keys (c, objs)).2.get? ((batchOf c now keys s).objectName a) =
      objs.get? ((batchOf c now keys s).objectName a) := by
  by_contra hne
  obtain ⟨p, hp, a', ha', hname⟩ := archiveAll_get?_changed (takeAll_subjects_nodup c) hne
  -- the batch stored under that name is of the same subject, so it is this batch
  have hsub : (batchOf c now keys s).subject = p.2.subject := Batch.subject_eq_of_objectName_eq hname
  have hp2 : p.2 = batchOf c now keys s := by
    rw [(takeAll_mem_batches hnd hq c hp).1, ← hsub]
    rfl
  rw [hp2] at ha'
  exact absurd (ha'.symm.trans hs) nofun

/-- An object whose name changes is the body of a subject's batch stored under its store
attempt. -/
theorem drainAll_get?_changed (hnd : keys.Nodup) (hq : ∀ k ∈ keys, ∀ raw, k ≠ quarantineTag ++ raw)
    {name : String} (h : (drainAll takes accepts now keys (c, objs)).2.get? name ≠ objs.get? name) :
    ∃ s a, (batchOf c now keys s).entries ≠ [] ∧
      storeAttempt accepts objs (batchOf c now keys s) = some a ∧
      name = (batchOf c now keys s).objectName a := by
  obtain ⟨p, hp, a, ha, rfl⟩ := archiveAll_get?_changed (takeAll_subjects_nodup c) h
  obtain ⟨hb, hne⟩ := takeAll_mem_batches hnd hq c hp
  rw [hb] at ha hne ⊢
  exact ⟨p.2.subject, a, hne, ha, rfl⟩

end DrainAll

/-- The batch a cycle stamped `now` makes for a subject from a store's namespace keys. -/
def batchAt (b : Backend) (now : Instant) (s : Segment) : Batch :=
  batchOf b.counters now b.namespaceKeys s

/-- What a drain cycle stamped `now` did to the stores, from `b` before it to `b'` after it. -/
structure Outcome (d : Drainer) (now : Instant) (b b' : Backend) : Prop where
  /-- Keys outside the namespace, other than the quarantine keys of namespace keys, are
  unchanged. -/
  outside : ∀ k, k ∉ b.namespaceKeys → (∀ raw ∈ b.namespaceKeys, k ≠ quarantineTag ++ raw) →
    b'.counters.counts.get? k = b.counters.counts.get? k
  /-- A namespace key that does not decode is removed, and its positive count goes under its
  quarantine key, up to the largest word, unless increments are refused. -/
  malformed : ∀ raw ∈ b.namespaceKeys, ∀ e n, CounterKey.decode raw = .error e →
    b.counters.counts.get? raw = some (.exact n) → n ≠ 0 →
    b'.counters.counts.get? raw = none ∧
      b'.counters.counts.get? (quarantineTag ++ raw) =
        if b.faults.rejectIncrements then b.counters.counts.get? (quarantineTag ++ raw)
        else some (.exact (min (b.counters.units (quarantineTag ++ raw) + n) wordMax))
  /-- A namespace key without a positive count is removed, and its quarantine key unchanged. -/
  emptied : ∀ raw ∈ b.namespaceKeys, (∀ n, b.counters.counts.get? raw = some (.exact n) → n = 0) →
    b'.counters.counts.get? raw = none ∧
      b'.counters.counts.get? (quarantineTag ++ raw) = b.counters.counts.get? (quarantineTag ++ raw)
  /-- A namespace key that decodes, with a positive count, keeps its quarantine key unchanged; it
  is removed when its subject's batch is stored or increments are refused, and otherwise holds its
  count again. -/
  decoded : ∀ raw ∈ b.namespaceKeys, ∀ key n, CounterKey.decode raw = .ok key →
    b.counters.counts.get? raw = some (.exact n) → n ≠ 0 →
    b'.counters.counts.get? (quarantineTag ++ raw) = b.counters.counts.get? (quarantineTag ++ raw) ∧
      ((∃ a, b.FirstFree d.settings.bucket (batchAt b now key.subject) a) ∨
          b.faults.rejectIncrements = true → b'.counters.counts.get? raw = none) ∧
      ((∀ a, ¬b.FirstFree d.settings.bucket (batchAt b now key.subject) a) →
          b.faults.rejectIncrements = false → b'.counters.counts.get? raw = some (.exact n))
  /-- A subject's batch with entries and a first free name is stored under that name. -/
  stored : ∀ s a, (batchAt b now s).entries ≠ [] →
    b.FirstFree d.settings.bucket (batchAt b now s) a →
    (b'.blobs.objects d.settings.bucket).get? ((batchAt b now s).objectName a) =
      some ⟨archiveContentType, (batchAt b now s).body⟩
  /-- A subject's batch without a first free name leaves the objects under its names as they
  were. -/
  unstored : ∀ s, (∀ a, ¬b.FirstFree d.settings.bucket (batchAt b now s) a) → ∀ a,
    (b'.blobs.objects d.settings.bucket).get? ((batchAt b now s).objectName a) =
      (b.blobs.objects d.settings.bucket).get? ((batchAt b now s).objectName a)
  /-- No other object of the bucket changes. -/
  objects : ∀ name, (b'.blobs.objects d.settings.bucket).get? name ≠
      (b.blobs.objects d.settings.bucket).get? name →
    ∃ s a, (batchAt b now s).entries ≠ [] ∧ b.FirstFree d.settings.bucket (batchAt b now s) a ∧
      name = (batchAt b now s).objectName a
  /-- A batch's body reads back as its entries cut to the whole second, when the cycle's moment
  has a four-digit year. -/
  readable : now.LeapAtMinuteEnd → now.HasFourDigitYear → ∀ s,
    parseBody (batchAt b now s).body = .ok ((batchAt b now s).entries.map Entry.wholeSecond)

/-- The batch of a subject reads only the counts. -/
theorem batchOf_congr {c c' : Counters} (h : c.counts = c'.counts) (now : Instant)
    (keys : List String) (s : Segment) : batchOf c now keys s = batchOf c' now keys s := by
  have hf : keys.filterMap (entryOf c now s) = keys.filterMap (entryOf c' now s) :=
    filterMap_entryOf_congr s fun raw _ => by rw [h]
  simp only [batchOf, hf]

/-- The entries a cycle makes from counts that fit a word are storable when its moment is. -/
theorem storable_of_mem_batchOf {c : Counters} {now : Instant} {keys : List String} {s : Segment}
    (hwords : ∀ k n, c.counts.get? k = some (.exact n) → n ≤ wordMax) (hleap : now.LeapAtMinuteEnd)
    (hyear : now.HasFourDigitYear) {e : Entry} (he : e ∈ (batchOf c now keys s).entries) :
    e.Storable := by
  obtain ⟨raw, -, hentry⟩ := List.mem_filterMap.1 he
  obtain ⟨-, hget, -, hnow⟩ := entryOf_eq_some hentry
  have hfit := hwords raw e.count hget
  have hlt := wordMax_lt_wordBound
  refine ⟨⟨by omega, ?_⟩, ?_⟩
  · rw [hnow]
    exact hleap
  · rw [hnow]
    exact hyear

/-- Stores whose counts and objects are what `drainAll` gives, from counters holding the counts of
an answering store, are what a cycle leaves. -/
theorem outcome_of_drainAll (d : Drainer) (now : Instant) {b b' : Backend}
    (hwords : ∀ k n, b.counters.counts.get? k = some (.exact n) → n ≤ wordMax)
    {c : Counters} (hc : c.counts = b.counters.counts)
    (hcounts : b'.counters.counts = (drainAll (!b.faults.rejectIncrements)
      (decide (b.takesUploads d.settings.bucket)) now b.namespaceKeys
      (c, b.blobs.objects d.settings.bucket)).1.counts)
    (hobjs : b'.blobs.objects d.settings.bucket = (drainAll (!b.faults.rejectIncrements)
      (decide (b.takesUploads d.settings.bucket)) now b.namespaceKeys
      (c, b.blobs.objects d.settings.bucket)).2) :
    Outcome d now b b' := by
  have hnd : b.namespaceKeys.Nodup := (Table.keys_nodup b.counters.counts).filter _
  have hq : ∀ k ∈ b.namespaceKeys, ∀ raw, k ≠ quarantineTag ++ raw :=
    fun _ hk raw => Backend.ne_quarantine_of_mem_namespaceKeys hk raw
  have hbatch : ∀ s, batchOf c now b.namespaceKeys s = batchAt b now s :=
    batchOf_congr hc now b.namespaceKeys
  have hunits : c.units = b.counters.units := by
    funext k
    simp only [Counters.units, hc]
  -- a batch's store attempt is its first free name
  have hsome : ∀ s a, storeAttempt (decide (b.takesUploads d.settings.bucket))
      (b.blobs.objects d.settings.bucket) (batchOf c now b.namespaceKeys s) = some a ↔
      b.FirstFree d.settings.bucket (batchAt b now s) a := fun s a => by
    rw [hbatch, storeAttempt_eq_some_iff]
  have hnone : ∀ s, storeAttempt (decide (b.takesUploads d.settings.bucket))
      (b.blobs.objects d.settings.bucket) (batchOf c now b.namespaceKeys s) = none ↔
      ∀ a, ¬b.FirstFree d.settings.bucket (batchAt b now s) a := fun s => by
    simp only [Option.eq_none_iff_forall_ne_some, ne_eq, hsome]
  refine ⟨fun k hk hkq => ?_, fun raw hraw e n hd hg hn => ?_, fun raw hraw hz => ?_,
    fun raw hraw key n hd hg hn => ?_, fun s a hs ha => ?_, fun s hs a => ?_, fun name h => ?_,
    fun hleap hyear s => ?_⟩
  case refine_1 =>
    rw [hcounts, drainAll_get?_outside hnd hq hk hkq, hc]
  case refine_2 =>
    rw [← hc] at hg
    rw [hcounts, (drainAll_get?_malformed hnd hq hraw hd hg hn).1,
      (drainAll_get?_malformed hnd hq hraw hd hg hn).2, hunits, hc]
    cases b.faults.rejectIncrements <;> exact ⟨rfl, rfl⟩
  case refine_3 =>
    rw [← hc] at hz
    rw [hcounts, (drainAll_get?_emptied hnd hq hraw hz).1,
      (drainAll_get?_emptied hnd hq hraw hz).2, hc]
    exact ⟨rfl, rfl⟩
  case refine_4 =>
    rw [← hc] at hg
    have hn' : min n wordMax = n := Nat.min_eq_left (hwords raw n (hc ▸ hg))
    rw [hcounts, (drainAll_get?_decoded hnd hq hraw hd hg hn).1,
      (drainAll_get?_decoded hnd hq hraw hd hg hn).2, hc, hn']
    refine ⟨rfl, fun hout => ?_, fun hfree hrej => ?_⟩
    · rw [if_neg]
      rintro ⟨hs, ht⟩
      rcases hout with ⟨a, ha⟩ | hrej
      · rw [(hsome _ a).2 ha] at hs
        cases hs
      · rw [hrej] at ht
        cases ht
    · rw [if_pos ⟨(hnone _).2 hfree, by rw [hrej]; rfl⟩]
  case refine_5 =>
    rw [← hbatch] at hs ⊢
    rw [hobjs, drainAll_get?_stored hnd hq hs ((hsome s a).2 ha)]
  case refine_6 =>
    rw [← hbatch]
    rw [hobjs, drainAll_get?_unstored hnd hq ((hnone s).2 hs)]
  case refine_7 =>
    rw [hobjs] at h
    obtain ⟨s, a, hs, ha, rfl⟩ := drainAll_get?_changed hnd hq h
    rw [hbatch] at hs ⊢
    exact ⟨s, a, hs, (hsome s a).1 ha, rfl⟩
  case refine_8 =>
    exact parseBody_bodyText _ fun e he => storable_of_mem_batchOf hwords hleap hyear he

/-- A drain cycle on an answering store, from counts that fit a word, that returns a report it
did not skip, does to the counters and the drain bucket what `Outcome` says. -/
theorem cycle_outcome (d : Drainer) (now : Instant) (b : Backend) (h : b.Answering)
    (hwords : ∀ k n, b.counters.counts.get? k = some (.exact n) → n ≤ wordMax)
    {r : DrainReport} (hrun : ((d.cycle now).run.run b).1 = .ok r) (hskip : r.skipped = none) :
    Outcome d now b ((d.cycle now).run.run b).2 := by
  obtain ⟨c, hc, hcounts, hobjs⟩ := cycle_answering d now h hrun hskip
  exact outcome_of_drainAll d now hwords hc hcounts hobjs

/-- A cycle over an empty key and a key that does not decode meets the conditions of
`cycle_outcome`. -/
theorem cycle_outcome_empty_and_malformed :
    let counts := (({} : Table Count).insert "endpoint:/detail/news:R1/user:U1" (.exact 0)).insert
      "endpoint:/detail/news:R1" (.exact 5)
    let b : Backend := { engine := .memory, counters := { counts := counts } }
    let d : Drainer := ⟨{}, .drainer 1⟩
    let r : DrainReport :=
      { keysScanned := 2, emptyKeys := 1, malformedKeys := 1, unitsQuarantined := 5 }
    b.Answering ∧
      (∀ k n, b.counters.counts.get? k = some (.exact n) → n ≤ wordMax) ∧
      ((d.cycle Instant.fixed).run.run b).1 = .ok r ∧ r.skipped = none ∧
      Outcome d Instant.fixed b ((d.cycle Instant.fixed).run.run b).2 := by
  intro counts b d r
  have h : b.Answering := ⟨rfl, rfl, by decide, rfl⟩
  have hwords : ∀ k n, b.counters.counts.get? k = some (.exact n) → n ≤ wordMax := by
    intro k n hk
    have hsmall : ∀ p ∈ counts.entries, p.2 = .exact 0 ∨ p.2 = .exact 5 := by decide
    rcases hsmall _ (Table.mem_of_get? hk) with he | he <;> cases he <;> decide
  have hrun : ((d.cycle Instant.fixed).run.run b).1 = .ok r := by decide
  exact ⟨h, hwords, hrun, rfl, cycle_outcome d Instant.fixed b h hwords hrun rfl⟩

/-- With increments refused, the positive count of a key that does not decode is taken and goes
nowhere: after a cycle neither the key nor its quarantine key holds it. -/
theorem refused_increments_lose_malformed_count :
    let counts := ({} : Table Count).insert "endpoint:/detail/news:R1" (.exact 5)
    let blobs : Blobs := { buckets := ({} : Table (Table Blob)).insert "user-logs" {} }
    let faults : Faults := { rejectIncrements := true }
    let b : Backend :=
      { engine := .memory, counters := { counts := counts }, faults := faults, blobs := blobs }
    let d : Drainer := ⟨{}, .drainer 1⟩
    ((d.cycle Instant.fixed).run.run b).1 = .ok { keysScanned := 1, malformedKeys := 1 } ∧
      ((d.cycle Instant.fixed).run.run b).2.counters.counts.get? "endpoint:/detail/news:R1" = none ∧
      ((d.cycle Instant.fixed).run.run b).2.counters.counts.get?
        "quarantine:endpoint:/detail/news:R1" = none := by
  intro counts blobs faults b d
  decide

end Drainer

end Turnstile
