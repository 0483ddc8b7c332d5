import Turnstile.Drain.Cycle
import Turnstile.Proofs.Store.Run

/-!
# A drain cycle, one store operation at a time

`Drainer.cycle` is a sequence of store operations. Other tasks reach the same
stores between any two of them, so to reason about cycles that run side by
side the cycle is cut at every operation: a `Phase` says what a running cycle
has gathered and which operation comes next, and `Drainer.advance` performs
that one operation (with the bookkeeping up to the next one).

The cut loses nothing. `Drainer.resume p` is what is left of the cycle's code at
phase `p`; it is the cycle itself at `.ping` (`resume_ping`), and at every phase
it is one step followed by the rest (`resume_eq_advance_bind`). So running the
steps one after another is running `Drainer.cycle`.

The steps around the lease get their run equations here (`advance_ping_run`,
`advance_acquire_run`, `advance_release_run`): what they read, and the one row
they write. Every other phase gets one lemma saying what its step can do, in
terms of the one store operation it performs (`advance_scan`, `advance_upload`,
`advance_restore`, ...); the invariants of a running cycle are proved from
these, one case per phase.
-/

namespace Turnstile

namespace Drainer

open StoreOp Archive

/-- Where a running cycle stands: the store operation it performs next, with what it has
gathered so far. -/
inductive Phase where
  /-- Before the counter store is pinged. -/
  | ping
  /-- Before the lease is taken. -/
  | acquire
  /-- Holding the lease, before the namespace is scanned. -/
  | scan
  /-- Draining the scanned keys that are left, into the report and the batches. -/
  | drain (keys : List String) (acc : DrainReport × Table Batch)
  /-- A positive count taken from a malformed key, before it is added under its quarantine key. -/
  | quarantine (raw : String) (count : Nat) (keys : List String) (acc : DrainReport × Table Batch)
  /-- The quarantine write failed, before the count goes back under the malformed key. -/
  | putBack (raw : String) (count : Nat) (keys : List String) (acc : DrainReport × Table Batch)
  /-- Uploading a batch with `left` attempts from `attempt`; the later batches wait. -/
  | upload (b : Batch) (attempt left : Nat) (rest : List (String × Batch)) (r : DrainReport)
  /-- A batch stored under a name, before it is counted into the report. -/
  | stored (name : String) (b : Batch) (rest : List (String × Batch)) (r : DrainReport)
  /-- Putting the entries of a batch whose upload failed back into their counters. -/
  | restore (b : Batch) (entries : List Entry) (rest : List (String × Batch)) (r : DrainReport)
  /-- Before the lease is given up. -/
  | release (r : DrainReport)
  /-- Finished, with the cycle's report. -/
  | done (r : DrainReport)

/-- Whether a cycle at this phase holds the drain lease: it took it and has not yet given it up. -/
def Phase.holding : Phase → Bool
  | .ping | .acquire | .done _ => false
  | _ => true

/-- The object a phase has just written: the batch stored under its name. -/
def Phase.stores : Phase → List (String × Batch)
  | .stored name b _ _ => [(name, b)]
  | _ => []

/-- The phase that archives batches in order, then gives the lease up. -/
def archiveFrom : List (String × Batch) → DrainReport → Phase
  | [], r => .release r
  | (_, b) :: rest, r => .upload b 0 100 rest r

/-- The drain phase after a malformed key whose quarantine moved `q` units. -/
def afterQuarantine (q : Nat) (keys : List String) :
    DrainReport × Table Batch → StoreOp Phase
  | (r, batches) => do
    let units ← wordSum r.unitsQuarantined q
    pure (.drain keys ({ r with malformedKeys := r.malformedKeys + 1, unitsQuarantined := units },
      batches))

/-- Performs the next store operation of a cycle stamped `now`, and gives the phase after it. -/
def advance (d : Drainer) (now : Instant) : Phase → StoreOp Phase
  | .ping => do
    if (← ping .counters) matches .error _ then return .done (.skip .storeUnreachable)
    pure .acquire
  | .acquire => do
    match ← acquire d.settings.leaseName d.holder (d.settings.leaseTtl * 1000) with
    | .error _ => pure (.done (.skip .storeUnreachable))
    | .ok false => pure (.done (.skip .leaseHeld))
    | .ok true => pure .scan
  | .scan => do
    match ← scan CounterKey.namespaceText with
    | .error _ => pure (.release {})
    | .ok keys => pure (.drain keys ({ keysScanned := keys.length }, {}))
  | .drain [] (r, batches) => pure (archiveFrom batches.entries r)
  | .drain (raw :: keys) acc =>
    match CounterKey.decode raw with
    | .ok _ => do pure (.drain keys (← drainKey now acc raw))
    | .error _ => do
      match ← getDel raw with
      | .ok (some c) => if c = 0 then afterQuarantine 0 keys acc else pure (.quarantine raw c keys acc)
      | _ => afterQuarantine 0 keys acc
  | .quarantine raw c keys acc => do
    match ← incr (quarantineTag ++ raw) c with
    | .ok _ => afterQuarantine c keys acc
    | .error _ => pure (.putBack raw c keys acc)
  | .putBack raw c keys acc => do
    let _ ← incr raw c
    afterQuarantine 0 keys acc
  | .upload b _ 0 rest r => pure (.restore b b.entries rest r)
  | .upload b attempt (left + 1) rest r => do
    match ← putObject d.settings.bucket (b.objectName attempt) ⟨archiveContentType, b.body⟩ with
    | .ok () => pure (.stored (b.objectName attempt) b rest r)
    | .error (.objectExists _ _) => pure (.upload b (attempt + 1) left rest r)
    | .error _ => pure (.restore b b.entries rest r)
  | .stored name b rest r => do pure (archiveFrom rest (← tally r b name))
  | .restore _ [] rest r => pure (archiveFrom rest { r with batchesRestored := r.batchesRestored + 1 })
  | .restore b (e :: es) rest r => do pure (.restore b es rest (← restoreEntry b r e))
  | .release r => do
    let _ ← release d.settings.leaseName d.holder
    pure (.done r)
  | .done r => pure (.done r)

/-- The rest of a cycle once its keys are drained: the batches left, then the release. -/
def finishFrom (d : Drainer) (rest : List (String × Batch)) (r : DrainReport) :
    StoreOp DrainReport := do
  let r ← rest.foldlM (fun r e => d.archive r e.2) r
  let _ ← release d.settings.leaseName d.holder
  pure r

/-- The rest of a cycle from the keys left to drain. -/
def drainFrom (d : Drainer) (now : Instant) (keys : List String) (acc : DrainReport × Table Batch) :
    StoreOp DrainReport := do
  let (r, batches) ← keys.foldlM (drainKey now) acc
  d.finishFrom batches.entries r

/-- What is left of the code of a cycle at a phase. -/
def resume (d : Drainer) (now : Instant) : Phase → StoreOp DrainReport
  | .ping => d.cycle now
  | .acquire => do
    match ← acquire d.settings.leaseName d.holder (d.settings.leaseTtl * 1000) with
    | .error _ => pure (.skip .storeUnreachable)
    | .ok false => pure (.skip .leaseHeld)
    | .ok true =>
      let r ← d.drainNamespace now
      let _ ← release d.settings.leaseName d.holder
      pure r
  | .scan => do
    let r ← d.drainNamespace now
    let _ ← release d.settings.leaseName d.holder
    pure r
  | .drain keys acc => d.drainFrom now keys acc
  | .quarantine raw c keys (r, batches) => do
    let q ← moveToQuarantine raw c
    let units ← wordSum r.unitsQuarantined q
    d.drainFrom now keys
      ({ r with malformedKeys := r.malformedKeys + 1, unitsQuarantined := units }, batches)
  | .putBack raw c keys (r, batches) => do
    let _ ← incr raw c
    let units ← wordSum r.unitsQuarantined 0
    d.drainFrom now keys
      ({ r with malformedKeys := r.malformedKeys + 1, unitsQuarantined := units }, batches)
  | .upload b attempt left rest r => do
    let r ← match ← d.uploadFrom b left attempt with
      | .ok name => tally r b name
      | .error _ => restore b r
    d.finishFrom rest r
  | .stored name b rest r => do d.finishFrom rest (← tally r b name)
  | .restore b es rest r => do
    let r ← es.foldlM (restoreEntry b) r
    d.finishFrom rest { r with batchesRestored := r.batchesRestored + 1 }
  | .release r => do
    let _ ← release d.settings.leaseName d.holder
    pure r
  | .done r => pure r

/-- The cycle is its own rest before its first step. -/
theorem resume_ping (d : Drainer) (now : Instant) : d.resume now .ping = d.cycle now :=
  rfl

/-- Once the keys are drained, the rest of a cycle archives the batches left and releases. -/
theorem resume_archiveFrom (d : Drainer) (now : Instant) (rest : List (String × Batch))
    (r : DrainReport) : d.resume now (archiveFrom rest r) = d.finishFrom rest r := by
  cases rest with
  | nil => simp [archiveFrom, resume, finishFrom]
  | cons e rest =>
    obtain ⟨s, b⟩ := e
    simp only [archiveFrom, resume, finishFrom, List.foldlM_cons, archive, upload, bind_assoc]
    congr 1
    funext x
    cases x <;> rfl

/-- At every phase, the rest of a cycle is its next step followed by the rest from the phase
that step reaches. -/
theorem resume_eq_advance_bind (d : Drainer) (now : Instant) (p : Phase) :
    d.resume now p = d.advance now p >>= d.resume now := by
  cases p with
  | ping =>
    simp only [resume, advance, cycle, bind_assoc]
    congr 1
    funext x
    cases x with
    | error e => simp [resume]
    | ok u =>
      simp only [Bool.false_eq_true, ↓reduceIte, pure_bind]
      rfl
  | acquire =>
    simp only [resume, advance, bind_assoc]
    congr 1
    funext x
    split <;> simp [resume]
  | scan =>
    simp only [resume, advance, drainNamespace, bind_assoc]
    congr 1
    funext x
    split <;> simp [resume, drainFrom, finishFrom, bind_assoc]
  | drain keys acc =>
    cases keys with
    | nil =>
      obtain ⟨r, batches⟩ := acc
      rw [show d.advance now (.drain [] (r, batches)) = pure (archiveFrom batches.entries r) from rfl,
        pure_bind, resume_archiveFrom]
      simp [resume, drainFrom]
    | cons raw keys =>
      cases hd : CounterKey.decode raw with
      | ok key =>
        simp only [resume, advance, hd, drainFrom, List.foldlM_cons, bind_assoc, pure_bind]
      | error e =>
        -- a malformed key: its quarantine is up to three operations, so up to three steps
        obtain ⟨r, batches⟩ := acc
        simp only [resume, advance, hd, drainFrom, List.foldlM_cons, drainKey, quarantine,
          bind_assoc]
        congr 1
        funext x
        rcases x with _ | _ | c
        · simp [afterQuarantine, resume, drainFrom]
        · simp [afterQuarantine, resume, drainFrom]
        · by_cases hc : c = 0
          · simp [hc, afterQuarantine, resume, drainFrom]
          · simp [hc, resume, drainFrom]
  | quarantine raw c keys acc =>
    obtain ⟨r, batches⟩ := acc
    simp only [resume, advance, moveToQuarantine, bind_assoc]
    congr 1
    funext x
    cases x <;> simp [afterQuarantine, resume, drainFrom]
  | putBack raw c keys acc =>
    obtain ⟨r, batches⟩ := acc
    simp [resume, advance, afterQuarantine, drainFrom]
  | upload b attempt left rest r =>
    cases left with
    | zero => simp [resume, advance, uploadFrom, restore]
    | succ left =>
      simp only [resume, advance, uploadFrom, bind_assoc]
      congr 1
      funext x
      rcases x with e | u
      -- a taken name moves to the next attempt, any other failure puts the batch back
      · cases e <;> simp [resume, restore]
      · simp [resume]
  | stored name b rest r =>
    simp only [advance, bind_assoc, pure_bind, resume_archiveFrom]
    rfl
  | restore b es rest r =>
    cases es with
    | nil =>
      simp only [advance, pure_bind, resume_archiveFrom]
      simp [resume]
    | cons e es => simp [resume, advance]
  | release r => simp [resume, advance]
  | done r => simp [resume, advance]

/-- The lease step: the counters refuse it when they do not answer or the lease is not free
to take; otherwise it is granted until the engine's end of the lifetime, unless that end cannot
be represented, which halts with the counters poisoned. -/
theorem advance_acquire_run (d : Drainer) (now : Instant) (b : Backend) :
    (d.advance now .acquire).run.run b =
      match b.counterGuard .tryAcquireLease >>= fun _ => b.stateGuard "leases" with
      | .error _ => (.ok (.done (.skip .storeUnreachable)), b)
      | .ok () =>
        if b.counters.mayLease d.settings.leaseName d.holder b.now then
          match b.deadline (d.settings.leaseTtl * 1000) with
          | .ok t =>
            (.ok .scan, { b with counters := b.counters.grant d.settings.leaseName d.holder t })
          | .error h => (.error h, { b with counters := { b.counters with poisoned := true } })
        else (.ok (.done (.skip .leaseHeld)), b) := by
  simp only [advance, run_bind, acquire_run]
  cases hg : (b.counterGuard .tryAcquireLease >>= fun _ => b.stateGuard "leases") with
  | error e => rfl
  | ok u =>
    by_cases hm : b.counters.mayLease d.settings.leaseName d.holder b.now = true
    · cases hdl : b.deadline (d.settings.leaseTtl * 1000) with
      | ok t => simp only [hm, ↓reduceIte]; rfl
      | error h => simp only [hm, ↓reduceIte]
    · simp only [hm, Bool.false_eq_true, ↓reduceIte]
      rfl

/-- A lease step that returns either skips the cycle, leaving the store as it was, or takes the
lease until some end and moves on to the scan. -/
theorem advance_acquire_cases {d : Drainer} {now : Instant} {p' : Phase} {b b' : Backend}
    (h : (d.advance now .acquire).run.run b = (.ok p', b')) :
    (∃ reason, p' = .done (.skip reason) ∧ b' = b) ∨
      ∃ t, p' = .scan ∧
        b' = { b with counters := b.counters.grant d.settings.leaseName d.holder t } := by
  rw [advance_acquire_run] at h
  split at h
  · obtain ⟨hx, rfl⟩ := Prod.mk.inj h
    cases hx
    exact .inl ⟨_, rfl, rfl⟩
  · split at h
    · split at h
      · obtain ⟨hx, rfl⟩ := Prod.mk.inj h
        cases hx
        exact .inr ⟨_, rfl, rfl⟩
      · cases (Prod.mk.inj h).1
    · obtain ⟨hx, rfl⟩ := Prod.mk.inj h
      cases hx
      exact .inl ⟨_, rfl, rfl⟩

/-- A lease step that finishes the cycle leaves the store as it was. -/
theorem advance_acquire_store_of_done {d : Drainer} {now : Instant} {b b' : Backend}
    {r : DrainReport} (h : (d.advance now .acquire).run.run b = (.ok (.done r), b')) : b' = b := by
  rcases advance_acquire_cases h with ⟨_, -, hb⟩ | ⟨_, hp, -⟩
  · exact hb
  · cases hp

/-- The release step always finishes the cycle, whatever the release did. -/
theorem advance_release_run (d : Drainer) (now : Instant) (r : DrainReport) (b : Backend) :
    (d.advance now (.release r)).run.run b =
      (.ok (.done r), ((release d.settings.leaseName d.holder).run.run b).2) := by
  simp only [advance, run_bind, release_run]
  cases (b.counterGuard .releaseLease >>= fun _ => b.stateGuard "leases") <;> rfl

/-- The ping step changes nothing: it moves on to the lease step, or finishes when the counters
do not answer. -/
theorem advance_ping_run (d : Drainer) (now : Instant) (b : Backend) :
    (d.advance now .ping).run.run b =
      (.ok (match b.counterGuard .ping with
        | .error _ => .done (.skip .storeUnreachable)
        | .ok () => .acquire), b) := by
  simp only [advance, run_bind, ping_run]
  cases b.counterGuard .ping <;> rfl

/-- A cycle ends in one of three ways before it scans: it skips, leaving the store as it was; it
halts because the lease's end cannot be represented; or it takes the lease until some end `t`
and runs the rest of the cycle from the scan on the store with the lease granted. -/
theorem cycle_run_cases (d : Drainer) (now : Instant) (b : Backend) :
    (∃ reason, (d.cycle now).run.run b = (.ok (.skip reason), b)) ∨
      (∃ h, b.deadline (d.settings.leaseTtl * 1000) = .error h ∧
        ((d.cycle now).run.run b).1 = .error h) ∨
      ∃ t, (d.cycle now).run.run b = (d.resume now .scan).run.run
        { b with counters := b.counters.grant d.settings.leaseName d.holder t } := by
  rw [← resume_ping, resume_eq_advance_bind, run_bind, advance_ping_run]
  cases hp : b.counterGuard .ping with
  | error e => exact .inl ⟨_, rfl⟩
  | ok u =>
    dsimp only
    rw [resume_eq_advance_bind, run_bind, advance_acquire_run]
    cases hg : (b.counterGuard .tryAcquireLease >>= fun _ => b.stateGuard "leases") with
    | error e => exact .inl ⟨_, rfl⟩
    | ok v =>
      dsimp only
      by_cases hm : b.counters.mayLease d.settings.leaseName d.holder b.now = true
      · rw [if_pos hm]
        cases hdl : b.deadline (d.settings.leaseTtl * 1000) with
        | error h => exact .inr (.inl ⟨h, rfl, rfl⟩)
        | ok t => exact .inr (.inr ⟨t, rfl⟩)
      · rw [if_neg hm]
        exact .inl ⟨_, rfl⟩

/-- Report sums and the tally of a stored batch touch no store. -/
theorem keeps_wordSum {γ : Type} {view : Backend → γ} (a b : Nat) : Keeps view (wordSum a b) := by
  unfold wordSum
  split
  · exact keeps_throw _
  · exact keeps_pure _

theorem afterQuarantine_keeps {γ : Type} {view : Backend → γ} (q : Nat) (keys : List String)
    (acc : DrainReport × Table Batch) : Keeps view (afterQuarantine q keys acc) := by
  obtain ⟨r, batches⟩ := acc
  exact (keeps_wordSum _ _).bind fun _ => keeps_pure _

theorem tally_keeps {γ : Type} {view : Backend → γ} (r : DrainReport) (b : Batch) (name : String) :
    Keeps view (tally r b name) := by
  unfold tally
  dsimp only
  split
  · exact (keeps_pure _).bind fun _ => (keeps_wordSum _ _).bind fun _ => keeps_pure _
  · exact (keeps_throw _).bind fun _ => (keeps_wordSum _ _).bind fun _ => keeps_pure _

section Frame

/-! Most steps only increment and take counters, so they keep whatever view of the backend
increments and takes keep; which views those are is stated per operation. -/

variable {γ : Type} {view : Backend → γ}

theorem moveToQuarantine_keeps (hincr : ∀ key delta, Keeps view (incr key delta))
    (raw : String) (c : Nat) : Keeps view (moveToQuarantine raw c) :=
  (hincr _ _).bind fun x => by
    split
    · exact keeps_pure _
    · exact (hincr _ _).bind fun _ => keeps_pure _

theorem quarantine_keeps (hincr : ∀ key delta, Keeps view (incr key delta))
    (hget : ∀ key, Keeps view (getDel key)) (raw : String) : Keeps view (quarantine raw) :=
  (hget raw).bind fun x => by
    split
    · split
      · exact keeps_pure _
      · exact moveToQuarantine_keeps hincr _ _
    · exact keeps_pure _

theorem drainKey_keeps (hincr : ∀ key delta, Keeps view (incr key delta))
    (hget : ∀ key, Keeps view (getDel key)) (now : Instant) (acc : DrainReport × Table Batch)
    (raw : String) : Keeps view (drainKey now acc raw) := by
  obtain ⟨r, batches⟩ := acc
  unfold drainKey
  dsimp only
  split
  · exact (quarantine_keeps hincr hget raw).bind fun _ =>
      (keeps_wordSum _ _).bind fun _ => keeps_pure _
  · refine (hget raw).bind fun x => ?_
    split
    · split
      · exact keeps_pure _
      · exact (keeps_wordSum _ _).bind fun _ => keeps_pure _
    · exact keeps_pure _
    · exact keeps_pure _

theorem restoreEntry_keeps (hincr : ∀ key delta, Keeps view (incr key delta)) (b : Batch)
    (r : DrainReport) (e : Archive.Entry) : Keeps view (restoreEntry b r e) :=
  (hincr _ _).bind fun x => by
    split
    · exact keeps_pure _
    · exact keeps_pure _

/-- A step other than the two around the lease keeps a view that increments and takes keep,
and uploads too when it is an upload. -/
theorem advance_keeps (hincr : ∀ key delta, Keeps view (incr key delta))
    (hget : ∀ key, Keeps view (getDel key)) (d : Drainer) (now : Instant) {p : Phase}
    (ha : p ≠ .acquire) (hr : ∀ r, p ≠ .release r)
    (hput : ∀ b attempt left rest r, p = .upload b attempt (left + 1) rest r →
      ∀ bucket name blob, Keeps view (putObject bucket name blob)) :
    Keeps view (d.advance now p) := by
  cases p with
  | ping => exact (keeps_ping _).bind fun _ => by split <;> exact keeps_pure _
  | acquire => exact absurd rfl ha
  | scan => exact (keeps_scan _).bind fun x => by split <;> exact keeps_pure _
  | drain keys acc =>
    cases keys with
    | nil => obtain ⟨r, batches⟩ := acc; exact keeps_pure _
    | cons raw keys =>
      simp only [advance]
      split
      · exact (drainKey_keeps hincr hget _ _ _).bind fun _ => keeps_pure _
      · refine (hget raw).bind fun x => ?_
        split
        · split
          · exact afterQuarantine_keeps _ _ _
          · exact keeps_pure _
        · exact afterQuarantine_keeps _ _ _
  | quarantine raw c keys acc =>
    exact (hincr _ _).bind fun x => by
      split
      · exact afterQuarantine_keeps _ _ _
      · exact keeps_pure _
  | putBack raw c keys acc =>
    exact (hincr _ _).bind fun _ => afterQuarantine_keeps _ _ _
  | upload b attempt left rest r =>
    cases left with
    | zero => exact keeps_pure _
    | succ left =>
      exact (hput b attempt left rest r rfl _ _ _).bind fun x => by
        split <;> exact keeps_pure _
  | stored name b rest r => exact (tally_keeps _ _ _).bind fun _ => keeps_pure _
  | restore b es rest r =>
    cases es with
    | nil => exact keeps_pure _
    | cons e es => exact (restoreEntry_keeps hincr _ _ _).bind fun _ => keeps_pure _
  | release r => exact absurd rfl (hr r)
  | done r => exact keeps_pure _

/-- Only taking and giving up the lease touch the leases, and no step touches the engine or the
clock. -/
theorem advance_keeps_leaseView (d : Drainer) (now : Instant) {p : Phase} (ha : p ≠ .acquire)
    (hr : ∀ r, p ≠ .release r) : Keeps Backend.leaseView (d.advance now p) :=
  advance_keeps incr_keeps_leaseView getDel_keeps_leaseView d now ha hr
    fun _ _ _ _ _ _ => putObject_keeps_leaseView

end Frame

/-! ### Each step, phase by phase

What the step at each phase can do, guards included: the phase it reaches and the backend it
leaves, in terms of the one store operation it performs. The invariants of a running cycle are
proved from these, one case per phase, without opening `advance` again. -/

/-- A sum of report words halts exactly when it leaves the word range, and changes nothing. -/
theorem wordSum_run (a c : Nat) (b : Backend) :
    (wordSum a c).run.run b =
      if a + c > wordMax then (.error .sumOverflow, b) else (.ok (a + c), b) := by
  unfold wordSum
  split <;> rfl

/-- After a malformed key the cycle drains on, with its batches as they were. -/
theorem afterQuarantine_run {q : Nat} {keys : List String} {acc : DrainReport × Table Batch}
    {b b' : Backend} {p' : Phase} (h : (afterQuarantine q keys acc).run.run b = (.ok p', b')) :
    ∃ r', p' = .drain keys (r', acc.2) ∧ b' = b := by
  obtain ⟨r, batches⟩ := acc
  simp only [afterQuarantine, run_bind, wordSum_run] at h
  by_cases hov : r.unitsQuarantined + q > wordMax
  · simp only [hov, ↓reduceIte] at h
    cases h
  · simp only [hov, ↓reduceIte] at h
    obtain ⟨rfl, rfl⟩ := eq_of_run_pure h
    exact ⟨_, rfl, rfl⟩

/-- The scan step changes nothing: it releases with an empty report when the scan fails, and
otherwise drains the keys the scan gave. -/
theorem advance_scan {d : Drainer} {now : Instant} {p' : Phase} {b b' : Backend}
    (h : (d.advance now .scan).run.run b = (.ok p', b')) :
    b' = b ∧ (p' = .release {} ∨ ∃ keys, (scan CounterKey.namespaceText).run.run b =
      (.ok (.ok keys), b) ∧ p' = .drain keys ({ keysScanned := keys.length }, {})) := by
  simp only [advance] at h
  obtain ⟨x, b₁, hx, h⟩ := run_bind_eq_ok.mp h
  obtain ⟨-, rfl⟩ := Prod.mk.inj ((scan_run b _).symm.trans hx)
  rcases x with e | keys
  · obtain ⟨rfl, rfl⟩ := eq_of_run_pure h
    exact ⟨rfl, .inl rfl⟩
  · obtain ⟨rfl, rfl⟩ := eq_of_run_pure h
    exact ⟨rfl, .inr ⟨keys, hx, rfl⟩⟩

/-- The step at a counter key drains it into the report and the batches. -/
theorem advance_drain_counter {d : Drainer} {now : Instant} {raw : String} {keys : List String}
    {acc : DrainReport × Table Batch} {key : CounterKey} {p' : Phase} {b b' : Backend}
    (hd : CounterKey.decode raw = .ok key)
    (h : (d.advance now (.drain (raw :: keys) acc)).run.run b = (.ok p', b')) :
    ∃ acc', (drainKey now acc raw).run.run b = (.ok acc', b') ∧ p' = .drain keys acc' := by
  simp only [advance, hd] at h
  obtain ⟨acc', b₁, hrun, h⟩ := run_bind_eq_ok.mp h
  obtain ⟨rfl, rfl⟩ := eq_of_run_pure h
  exact ⟨acc', hrun, rfl⟩

/-- The step at a malformed key takes it; a positive count is quarantined next, and an empty or
unreadable one is passed over. -/
theorem advance_drain_malformed {d : Drainer} {now : Instant} {raw : String} {keys : List String}
    {acc : DrainReport × Table Batch} {e : CoreError} {p' : Phase} {b b' : Backend}
    (hd : CounterKey.decode raw = .error e)
    (h : (d.advance now (.drain (raw :: keys) acc)).run.run b = (.ok p', b')) :
    b' = ((getDel raw).run.run b).2 ∧
      ((∃ c, p' = .quarantine raw c keys acc) ∨ ∃ r', p' = .drain keys (r', acc.2)) := by
  simp only [advance, hd] at h
  obtain ⟨x, b₁, hx, h⟩ := run_bind_eq_ok.mp h
  rw [hx]
  split at h
  · split at h
    · obtain ⟨r', rfl, rfl⟩ := afterQuarantine_run h
      exact ⟨rfl, .inr ⟨r', rfl⟩⟩
    · obtain ⟨rfl, rfl⟩ := eq_of_run_pure h
      exact ⟨rfl, .inl ⟨_, rfl⟩⟩
  · obtain ⟨r', rfl, rfl⟩ := afterQuarantine_run h
    exact ⟨rfl, .inr ⟨r', rfl⟩⟩

/-- The quarantine step adds the count under the quarantine key and drains on, or, when the
store refuses the addition, puts the count back next. -/
theorem advance_quarantine {d : Drainer} {now : Instant} {raw : String} {c : Nat}
    {keys : List String} {acc : DrainReport × Table Batch} {p' : Phase} {b b' : Backend}
    (h : (d.advance now (.quarantine raw c keys acc)).run.run b = (.ok p', b')) :
    b' = ((incr (quarantineTag ++ raw) c).run.run b).2 ∧
      ((∃ r', p' = .drain keys (r', acc.2)) ∨
        (∃ e, ((incr (quarantineTag ++ raw) c).run.run b).1 = .ok (.error e) ∧
          p' = .putBack raw c keys acc)) := by
  simp only [advance] at h
  obtain ⟨x, b₁, hx, h⟩ := run_bind_eq_ok.mp h
  rw [hx]
  split at h
  · obtain ⟨r', rfl, rfl⟩ := afterQuarantine_run h
    exact ⟨rfl, .inl ⟨r', rfl⟩⟩
  · obtain ⟨rfl, rfl⟩ := eq_of_run_pure h
    exact ⟨rfl, .inr ⟨_, rfl, rfl⟩⟩

/-- The put-back step increments the malformed key, whatever that gives, and drains on. -/
theorem advance_putBack {d : Drainer} {now : Instant} {raw : String} {c : Nat}
    {keys : List String} {acc : DrainReport × Table Batch} {p' : Phase} {b b' : Backend}
    (h : (d.advance now (.putBack raw c keys acc)).run.run b = (.ok p', b')) :
    b' = ((incr raw c).run.run b).2 ∧ ∃ r', p' = .drain keys (r', acc.2) := by
  simp only [advance] at h
  obtain ⟨x, b₁, hx, h⟩ := run_bind_eq_ok.mp h
  obtain ⟨r', rfl, rfl⟩ := afterQuarantine_run h
  rw [hx]
  exact ⟨rfl, r', rfl⟩

/-- An upload attempt writes through the blob store, then stores the batch under its name, tries
the next name when this one is taken, or puts the batch back. -/
theorem advance_upload {d : Drainer} {now : Instant} {bt : Batch} {attempt left : Nat}
    {rest : List (String × Batch)} {r : DrainReport} {p' : Phase} {b b' : Backend}
    (h : (d.advance now (.upload bt attempt (left + 1) rest r)).run.run b = (.ok p', b')) :
    b' = ((putObject d.settings.bucket (bt.objectName attempt)
        ⟨archiveContentType, bt.body⟩).run.run b).2 ∧
      (p' = .stored (bt.objectName attempt) bt rest r ∨ p' = .upload bt (attempt + 1) left rest r ∨
        p' = .restore bt bt.entries rest r) := by
  simp only [advance] at h
  obtain ⟨x, b₁, hx, h⟩ := run_bind_eq_ok.mp h
  rw [hx]
  split at h <;> obtain ⟨rfl, rfl⟩ := eq_of_run_pure h
  · exact ⟨rfl, .inl rfl⟩
  · exact ⟨rfl, .inr (.inl rfl)⟩
  · exact ⟨rfl, .inr (.inr rfl)⟩

/-- The step after a stored batch counts it into the report, touching no store, and archives the
batches left. -/
theorem advance_stored {d : Drainer} {now : Instant} {name : String} {bt : Batch}
    {rest : List (String × Batch)} {r : DrainReport} {p' : Phase} {b b' : Backend}
    (h : (d.advance now (.stored name bt rest r)).run.run b = (.ok p', b')) :
    b' = b ∧ ∃ r', (tally r bt name).run.run b = (.ok r', b) ∧ p' = archiveFrom rest r' := by
  simp only [advance] at h
  obtain ⟨r', b₁, hx, hrest⟩ := run_bind_eq_ok.mp h
  obtain rfl : b₁ = b := by
    have hsame := (tally_keeps r bt name : Keeps id _) b
    rwa [hx] at hsame
  obtain ⟨rfl, rfl⟩ := eq_of_run_pure hrest
  exact ⟨rfl, r', hx, rfl⟩

/-- A restore step puts the next entry back and goes on with the entries after it. -/
theorem advance_restore {d : Drainer} {now : Instant} {bt : Batch} {e : Entry} {es : List Entry}
    {rest : List (String × Batch)} {r : DrainReport} {p' : Phase} {b b' : Backend}
    (h : (d.advance now (.restore bt (e :: es) rest r)).run.run b = (.ok p', b')) :
    ∃ r', (restoreEntry bt r e).run.run b = (.ok r', b') ∧ p' = .restore bt es rest r' := by
  simp only [advance] at h
  obtain ⟨r', b₁, hx, h⟩ := run_bind_eq_ok.mp h
  obtain ⟨rfl, rfl⟩ := eq_of_run_pure h
  exact ⟨r', hx, rfl⟩

end Drainer

end Turnstile
