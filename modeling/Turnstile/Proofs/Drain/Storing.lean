import Turnstile.Proofs.Drain.Taking

/-!
# What a drain cycle does while it stores batches

After the keys, a cycle uploads each batch under the first free of its names for attempts 0 to
99, and puts the batch back into its counter keys when no upload is stored. On an answering store
the loop over the batches, when it returns, is a pure fold of one step per batch (`archiveAll`):
the step stores the batch's body under its first free name (`Batch.freeAttempt`) when the blob
store takes uploads into the bucket, and otherwise puts the entries back, unless increments are
refused. Batches of distinct subjects never share a name, so each batch is stored or put back as
if it were alone; the lemmas below read off the fold what each object and each counter holds.
-/

namespace Turnstile

open Drainer Archive StoreOp

namespace Archive.Batch

/-- The first of `left` upload attempts from `attempt` whose object name is free among `objs`. -/
def freeAttempt (bt : Batch) (objs : Table Blob) : Nat → Nat → Option Nat
  | 0, _ => none
  | left + 1, attempt =>
    if objs.contains (bt.objectName attempt) then bt.freeAttempt objs left (attempt + 1)
    else some attempt

variable {bt : Batch} {objs : Table Blob}

/-- The attempt found is the first free one of those tried. -/
theorem freeAttempt_eq_some_iff {a : Nat} (left : Nat) : ∀ attempt,
    bt.freeAttempt objs left attempt = some a ↔
      attempt ≤ a ∧ a < attempt + left ∧ objs.contains (bt.objectName a) = false ∧
        ∀ a', attempt ≤ a' → a' < a → objs.contains (bt.objectName a') = true := by
  induction left with
  | zero =>
    intro attempt
    refine ⟨nofun, ?_⟩
    rintro ⟨h1, h2, -⟩
    omega
  | succ left ih =>
    intro attempt
    rw [freeAttempt]
    cases hc : objs.contains (bt.objectName attempt) with
    | true =>
      -- the attempt is taken, so the free one found lies past it
      rw [if_pos rfl, ih]
      constructor
      · rintro ⟨hle, hlt, hfree, htaken⟩
        refine ⟨by omega, by omega, hfree, fun a' h1 h2 => ?_⟩
        rcases Nat.eq_or_lt_of_le h1 with rfl | h1
        · exact hc
        · exact htaken a' h1 h2
      · rintro ⟨hle, hlt, hfree, htaken⟩
        have hne : attempt ≠ a := by
          rintro rfl
          rw [hc] at hfree
          cases hfree
        exact ⟨by omega, by omega, hfree, fun a' h1 h2 => htaken a' (by omega) h2⟩
    | false =>
      rw [if_neg Bool.false_ne_true, Option.some.injEq]
      constructor
      · rintro rfl
        exact ⟨le_refl _, by omega, hc, fun a' h1 h2 => absurd h2 (by omega)⟩
      · rintro ⟨hle, -, -, htaken⟩
        by_contra hne
        have htaken' := htaken attempt (le_refl _) (by omega)
        rw [hc] at htaken'
        cases htaken'

/-- No attempt is found exactly when every name tried is taken. -/
theorem freeAttempt_eq_none_iff (left : Nat) : ∀ attempt,
    bt.freeAttempt objs left attempt = none ↔
      ∀ a, attempt ≤ a → a < attempt + left → objs.contains (bt.objectName a) = true := by
  induction left with
  | zero =>
    intro attempt
    refine ⟨fun _ a h1 h2 => absurd h2 (by omega), fun _ => rfl⟩
  | succ left ih =>
    intro attempt
    rw [freeAttempt]
    cases hc : objs.contains (bt.objectName attempt) with
    | true =>
      rw [if_pos rfl, ih]
      constructor
      · intro htaken a h1 h2
        rcases Nat.eq_or_lt_of_le h1 with rfl | h1
        · exact hc
        · exact htaken a h1 (by omega)
      · intro htaken a h1 h2
        exact htaken a (by omega) (by omega)
    | false =>
      rw [if_neg Bool.false_ne_true]
      refine ⟨nofun, fun htaken => ?_⟩
      have htaken' := htaken attempt (le_refl _) (by omega)
      rw [hc] at htaken'
      cases htaken'

/-- An object under a name the batch never uses leaves its free attempt as it was. -/
theorem freeAttempt_insert {name : String} (hname : ∀ a, bt.objectName a ≠ name) (blob : Blob)
    (left : Nat) : ∀ attempt,
    bt.freeAttempt (objs.insert name blob) left attempt = bt.freeAttempt objs left attempt := by
  have hc : ∀ a, (objs.insert name blob).contains (bt.objectName a) =
      objs.contains (bt.objectName a) := fun a => by
    simp only [Table.contains, Table.get?_insert_of_ne _ _ (Ne.symm (hname a))]
  induction left with
  | zero => intro attempt; rfl
  | succ left ih => intro attempt; simp only [freeAttempt, hc, ih]

/-- Batches share an object name only when they are of one subject. -/
theorem subject_eq_of_objectName_eq {bt' : Batch} {a a' : Nat}
    (h : bt.objectName a = bt'.objectName a') : bt.subject = bt'.subject := by
  have hp : (bt'.subject.text ++ "/").toList <+: (bt.objectName a).toList := by
    rw [h]
    exact (prefix_objectName_iff bt' a' bt'.subject).2 rfl
  exact (prefix_objectName_iff bt a bt'.subject).1 hp

end Archive.Batch

/-- The blob store takes uploads into a bucket: it is up, it does not refuse writes and the
bucket exists. -/
def Backend.takesUploads (b : Backend) (bucket : String) : Prop :=
  StoreRole.blobs ∉ b.faults.down ∧ b.faults.rejectPuts = false ∧
    b.blobs.buckets.contains bucket = true

instance (b : Backend) (bucket : String) : Decidable (b.takesUploads bucket) :=
  inferInstanceAs (Decidable (StoreRole.blobs ∉ b.faults.down ∧ b.faults.rejectPuts = false ∧
    b.blobs.buckets.contains bucket = true))

/-- An object written into an existing bucket joins its objects. -/
theorem Blobs.get?_add {bs : Blobs} {bucket : String} {objs : Table Blob}
    (h : bs.buckets.get? bucket = some objs) (name : String) (blob : Blob) :
    (bs.add bucket name blob).buckets.get? bucket = some (objs.insert name blob) := by
  simp [Blobs.add, Table.modify, h]

/-- The objects of a bucket read the bucket alone. -/
theorem Blobs.objects_of_buckets {bs bs' : Blobs} (h : bs'.buckets = bs.buckets) (bucket : String) :
    bs'.objects bucket = bs.objects bucket := by
  simp only [Blobs.objects, h]

namespace StoreOp

variable {b : Backend} {bucket name : String}

/-- Into a bucket that takes uploads, an upload under a taken name is refused as such, and only
counted. -/
theorem putObject_taken (ht : b.takesUploads bucket)
    (hc : (b.blobs.objects bucket).contains name = true) (blob : Blob) :
    (putObject bucket name blob).run.run b =
      (.ok (.error (.objectExists bucket name)),
        { b with blobs := { b.blobs with putAttempts := b.blobs.putAttempts + 1 } }) := by
  obtain ⟨hd, hr, hk⟩ := ht
  obtain ⟨objs, hobjs⟩ := Option.isSome_iff_exists.1 hk
  have hc' : objs.contains name = true := by simpa [Blobs.objects, hobjs] using hc
  rw [putObject_run]
  simp [Backend.available, hd, hr, hobjs, hc']
  rfl

/-- Into a bucket that takes uploads, an upload under a free name is written. -/
theorem putObject_free (ht : b.takesUploads bucket)
    (hc : (b.blobs.objects bucket).contains name = false) (blob : Blob) :
    ∃ bs, (putObject bucket name blob).run.run b = (.ok (.ok ()), { b with blobs := bs }) ∧
      bs.buckets.get? bucket = some ((b.blobs.objects bucket).insert name blob) := by
  obtain ⟨hd, hr, hk⟩ := ht
  obtain ⟨objs, hobjs⟩ := Option.isSome_iff_exists.1 hk
  have hc' : objs.contains name = false := by simpa [Blobs.objects, hobjs] using hc
  have hobj : b.blobs.objects bucket = objs := by simp [Blobs.objects, hobjs]
  refine ⟨({ b.blobs with putAttempts := b.blobs.putAttempts + 1 }).add bucket name blob, ?_, ?_⟩
  · rw [putObject_run]
    simp [Backend.available, hd, hr, hobjs, hc']
  · rw [hobj]
    exact Blobs.get?_add hobjs name blob

/-- An upload into a bucket that does not take uploads is refused, for a reason other than a
taken name, and only counted. -/
theorem putObject_refused (ht : ¬b.takesUploads bucket) (blob : Blob) :
    ∃ e, (putObject bucket name blob).run.run b =
      (.ok (.error e), { b with blobs := { b.blobs with putAttempts := b.blobs.putAttempts + 1 } }) ∧
      ∀ x y, e ≠ .objectExists x y := by
  rw [putObject_run]
  by_cases hd : StoreRole.blobs ∈ b.faults.down
  · refine ⟨_, by simp [Backend.available, hd]; rfl, fun x y => by simp⟩
  · cases hr : b.faults.rejectPuts with
    | true => refine ⟨_, by simp [Backend.available, hd, hr]; rfl, fun x y => by simp⟩
    | false =>
      have hk : b.blobs.buckets.get? bucket = none := by
        cases hk : b.blobs.buckets.get? bucket with
        | none => rfl
        | some objs => exact absurd ⟨hd, hr, by simp [Table.contains, hk]⟩ ht
      refine ⟨_, by simp [Backend.available, hd, hr, hk]; rfl, fun x y => by simp⟩

end StoreOp

namespace Counters

/-- The counters with an entry of a subject's batch put back under its counter key. -/
def putBack (s : Segment) (c : Counters) (e : Entry) : Counters :=
  (c.addSaturating (CounterKey.encode ⟨e.resource, s⟩) e.count).1

/-- The counters after a batch is put back entry by entry, when increments are taken. -/
def restoreBatch (takes : Bool) (c : Counters) (bt : Batch) : Counters :=
  if takes then bt.entries.foldl (putBack bt.subject) c else c

theorem restoreBatch_poisoned (takes : Bool) (c : Counters) (bt : Batch) :
    (c.restoreBatch takes bt).poisoned = c.poisoned := by
  unfold restoreBatch
  split
  · generalize c = c0
    induction bt.entries generalizing c0 with
    | nil => rfl
    | cons e es ih => exact ih _
  · rfl

/-- Putting entries back leaves every other key as it was. -/
theorem foldl_putBack_get?_of_ne (s : Segment) {k : String} :
    ∀ (es : List Entry) (c : Counters), (∀ e ∈ es, CounterKey.encode ⟨e.resource, s⟩ ≠ k) →
      (es.foldl (putBack s) c).counts.get? k = c.counts.get? k
  | [], _, _ => rfl
  | e :: es, c, h => by
    rw [List.foldl_cons, foldl_putBack_get?_of_ne s es _ fun e' he' => h e' (List.mem_cons_of_mem _ he'),
      putBack, addSaturating_counts, Table.get?_insert_of_ne _ _ (h e List.mem_cons_self)]

/-- Putting entries of distinct resources back adds each entry's count to its key, up to the
largest word. -/
theorem foldl_putBack_get?_entry (s : Segment) {e : Entry} :
    ∀ (es : List Entry) (c : Counters), (es.map (·.resource)).Nodup → e ∈ es →
      (es.foldl (putBack s) c).counts.get? (CounterKey.encode ⟨e.resource, s⟩) =
        some (.exact (min (c.units (CounterKey.encode ⟨e.resource, s⟩) + e.count) wordMax))
  | [], _, _, he => by cases he
  | e' :: es, c, hnd, he => by
    rw [List.map_cons, List.nodup_cons] at hnd
    rw [List.foldl_cons]
    rcases List.mem_cons.1 he with rfl | he
    -- the entry's own step adds its count, and the later entries are of other resources
    · rw [foldl_putBack_get?_of_ne s es _ fun e'' he'' hk => hnd.1 ?_, putBack, addSaturating_counts,
        Table.get?_insert_self]
      have hr := congrArg CounterKey.resource (CounterKey.encode_injective hk)
      exact List.mem_map.2 ⟨e'', he'', hr⟩
    · have hne : CounterKey.encode ⟨e'.resource, s⟩ ≠ CounterKey.encode ⟨e.resource, s⟩ := by
        intro hk
        have hr := congrArg CounterKey.resource (CounterKey.encode_injective hk)
        exact hnd.1 (List.mem_map.2 ⟨e, he, hr.symm⟩)
      have hu : (putBack s c e').units (CounterKey.encode ⟨e.resource, s⟩) =
          c.units (CounterKey.encode ⟨e.resource, s⟩) := by
        rw [putBack, units_addSaturating, if_neg (Ne.symm hne)]
      rw [foldl_putBack_get?_entry s es _ hnd.2 he, hu]

/-- Putting a batch back leaves the keys of no entry as they were. -/
theorem restoreBatch_get?_of_not_key (takes : Bool) (c : Counters) {bt : Batch} {k : String}
    (h : ∀ e ∈ bt.entries, CounterKey.encode ⟨e.resource, bt.subject⟩ ≠ k) :
    (c.restoreBatch takes bt).counts.get? k = c.counts.get? k := by
  unfold restoreBatch
  split
  · exact foldl_putBack_get?_of_ne bt.subject bt.entries c h
  · rfl

end Counters

namespace Drainer

/-- The attempt a cycle stores a batch under: the first free of its names for attempts 0 to 99,
when the blob store takes uploads. -/
def storeAttempt (accepts : Bool) (objs : Table Blob) (bt : Batch) : Option Nat :=
  if accepts then bt.freeAttempt objs 100 0 else none

/-- The counters and the bucket's objects after a cycle archives one batch: stored under its
store attempt, or put back. -/
def archiveStep (takes accepts : Bool) (x : Counters × Table Blob) (bt : Batch) :
    Counters × Table Blob :=
  match storeAttempt accepts x.2 bt with
  | some a => (x.1, x.2.insert (bt.objectName a) ⟨archiveContentType, bt.body⟩)
  | none => (x.1.restoreBatch takes bt, x.2)

/-- The counters and the bucket's objects after a cycle archived batches one after another. -/
def archiveAll (takes accepts : Bool) (l : List (String × Batch)) (x : Counters × Table Blob) :
    Counters × Table Blob :=
  l.foldl (fun x p => archiveStep takes accepts x p.2) x

theorem archiveAll_cons (takes accepts : Bool) (p : String × Batch) (l : List (String × Batch))
    (x : Counters × Table Blob) :
    archiveAll takes accepts (p :: l) x = archiveAll takes accepts l (archiveStep takes accepts x p.2) :=
  rfl

variable (d : Drainer) (bt : Batch)

/-- Into a bucket that takes uploads, the upload from an attempt on stores the batch's body under
the first free name it tries. -/
theorem uploadFrom_stored (left : Nat) : ∀ (attempt : Nat) {b : Backend} {a : Nat},
    b.takesUploads d.settings.bucket →
    bt.freeAttempt (b.blobs.objects d.settings.bucket) left attempt = some a →
    ∃ bs, (d.uploadFrom bt left attempt).run.run b =
        (.ok (.ok (bt.objectName a)), { b with blobs := bs }) ∧
      bs.buckets.get? d.settings.bucket = some ((b.blobs.objects d.settings.bucket).insert
        (bt.objectName a) ⟨archiveContentType, bt.body⟩) := by
  induction left with
  | zero => intro attempt b a _ hfree; cases hfree
  | succ left ih =>
    intro attempt b a ht hfree
    rw [Batch.freeAttempt] at hfree
    simp only [uploadFrom, run_bind]
    cases hc : (b.blobs.objects d.settings.bucket).contains (bt.objectName attempt) with
    | true =>
      -- the name is taken: the next attempt sees the same bucket
      rw [hc, if_pos rfl] at hfree
      rw [putObject_taken ht hc]
      exact ih (attempt + 1) ht hfree
    | false =>
      rw [hc, if_neg Bool.false_ne_true, Option.some.injEq] at hfree
      subst hfree
      obtain ⟨bs, hrun, hget⟩ := putObject_free ht hc ⟨archiveContentType, bt.body⟩
      rw [hrun]
      exact ⟨bs, rfl, hget⟩

/-- When the bucket does not take uploads, or no name tried is free, the upload stores nothing
and leaves the buckets as they were. -/
theorem uploadFrom_kept (left : Nat) : ∀ (attempt : Nat) {b : Backend},
    (b.takesUploads d.settings.bucket →
      bt.freeAttempt (b.blobs.objects d.settings.bucket) left attempt = none) →
    ∃ e bs, (d.uploadFrom bt left attempt).run.run b = (.ok (.error e), { b with blobs := bs }) ∧
      bs.buckets = b.blobs.buckets := by
  induction left with
  | zero => intro attempt b _; exact ⟨_, b.blobs, rfl, rfl⟩
  | succ left ih =>
    intro attempt b hnone
    simp only [uploadFrom, run_bind]
    by_cases ht : b.takesUploads d.settings.bucket
    · have hfree := hnone ht
      rw [Batch.freeAttempt] at hfree
      cases hc : (b.blobs.objects d.settings.bucket).contains (bt.objectName attempt) with
      | true =>
        rw [hc, if_pos rfl] at hfree
        rw [putObject_taken ht hc]
        exact ih (attempt + 1) fun _ => hfree
      | false =>
        rw [hc, if_neg Bool.false_ne_true] at hfree
        cases hfree
    · obtain ⟨e, hrun, he⟩ := putObject_refused ht ⟨archiveContentType, bt.body⟩
      rw [hrun]
      -- a refusal other than a taken name ends the upload
      cases e with
      | objectExists x y => exact absurd rfl (he x y)
      | _ => exact ⟨_, _, rfl, rfl⟩

/-- On an answering store that refuses increments, putting entries back changes nothing. -/
theorem foldlM_restoreEntry_refused {b : Backend} (h : b.Answering)
    (hrej : b.faults.rejectIncrements = true) :
    ∀ (es : List Entry) (r : DrainReport), ∃ r', (es.foldlM (restoreEntry bt) r).run.run b = (.ok r', b)
  | [], r => ⟨r, rfl⟩
  | e :: es, r => by
    have hincr := incr_answering h (CounterKey.encode ⟨e.resource, bt.subject⟩) e.count
    rw [hrej, if_pos rfl] at hincr
    rw [List.foldlM_cons, run_bind]
    simp only [restoreEntry, run_bind, hincr, run_pure]
    exact foldlM_restoreEntry_refused h hrej es _

/-- On an answering store that takes increments, putting entries back adds each under its key. -/
theorem foldlM_restoreEntry_taken : ∀ (es : List Entry) {b : Backend} (r : DrainReport),
    b.Answering → b.faults.rejectIncrements = false →
    ∃ r', (es.foldlM (restoreEntry bt) r).run.run b =
      (.ok r', { b with counters := es.foldl (Counters.putBack bt.subject) b.counters })
  | [], _, r, _, _ => ⟨r, rfl⟩
  | e :: es, b, r, h, hrej => by
    have ht : b.takesIncrement := ⟨by rw [h.counterGuard]; rfl, hrej, h.healthy⟩
    rw [List.foldlM_cons, run_bind, restoreEntry_run h.memory ht]
    exact foldlM_restoreEntry_taken es r (h.with_counters h.healthy) hrej

/-- On an answering store, putting a batch back does what `restoreBatch` says. -/
theorem restore_answering {b : Backend} (h : b.Answering) (r : DrainReport) :
    ∃ r', (restore bt r).run.run b =
      (.ok r', { b with counters := b.counters.restoreBatch (!b.faults.rejectIncrements) bt }) := by
  simp only [restore, run_bind]
  cases hrej : b.faults.rejectIncrements with
  | true =>
    obtain ⟨r', hr'⟩ := foldlM_restoreEntry_refused bt h hrej bt.entries r
    rw [hr']
    exact ⟨_, rfl⟩
  | false =>
    obtain ⟨r', hr'⟩ := foldlM_restoreEntry_taken bt bt.entries r h hrej
    rw [hr']
    exact ⟨_, rfl⟩

/-- On an answering store, archiving a batch that returns does what `archiveStep` says, and keeps
whether the bucket exists. -/
theorem archive_answering {b b' : Backend} (h : b.Answering) {r r' : DrainReport}
    (hrun : (d.archive r bt).run.run b = (.ok r', b')) :
    ∃ bs, b' = { b with
        counters := (archiveStep (!b.faults.rejectIncrements) (decide (b.takesUploads d.settings.bucket))
          (b.counters, b.blobs.objects d.settings.bucket) bt).1,
        blobs := bs } ∧
      bs.objects d.settings.bucket = (archiveStep (!b.faults.rejectIncrements)
        (decide (b.takesUploads d.settings.bucket)) (b.counters, b.blobs.objects d.settings.bucket) bt).2 ∧
      bs.buckets.contains d.settings.bucket = b.blobs.buckets.contains d.settings.bucket := by
  unfold archive upload at hrun
  rw [run_bind] at hrun
  cases hs : storeAttempt (decide (b.takesUploads d.settings.bucket))
      (b.blobs.objects d.settings.bucket) bt with
  | some a =>
    have ht : b.takesUploads d.settings.bucket := by
      by_contra ht
      simp [storeAttempt, ht] at hs
    have hf : bt.freeAttempt (b.blobs.objects d.settings.bucket) 100 0 = some a := by
      simpa [storeAttempt, ht] using hs
    obtain ⟨bs, hup, hget⟩ := uploadFrom_stored d bt 100 0 ht hf
    rw [hup] at hrun
    -- the tally of a stored batch touches no store
    have hkeep : Keeps id (tally r bt (bt.objectName a)) := tally_keeps r bt _
    have hb' : b' = { b with blobs := bs } := by simpa [hrun] using hkeep { b with blobs := bs }
    have hstep : archiveStep (!b.faults.rejectIncrements) (decide (b.takesUploads d.settings.bucket))
        (b.counters, b.blobs.objects d.settings.bucket) bt = (b.counters,
          (b.blobs.objects d.settings.bucket).insert (bt.objectName a) ⟨archiveContentType, bt.body⟩) := by
      simp only [archiveStep, hs]
    refine ⟨bs, by rw [hb', hstep], ?_, ?_⟩
    · rw [hstep, Blobs.objects, hget, Option.getD_some]
    · rw [Table.contains, hget, ht.2.2]
      rfl
  | none =>
    have hnone : b.takesUploads d.settings.bucket →
        bt.freeAttempt (b.blobs.objects d.settings.bucket) 100 0 = none := fun ht => by
      simpa [storeAttempt, ht] using hs
    obtain ⟨e, bs, hup, hbk⟩ := uploadFrom_kept d bt 100 0 hnone
    rw [hup] at hrun
    -- the upload failed: the batch goes back, on the blob store the failed upload left
    obtain ⟨r1, hr1⟩ := restore_answering bt (h.with_blobs bs) r
    simp only [hr1] at hrun
    obtain ⟨-, rfl⟩ := Prod.mk.inj hrun
    refine ⟨bs, by simp only [archiveStep, hs], ?_, by rw [hbk]⟩
    simp only [archiveStep, hs]
    exact Blobs.objects_of_buckets hbk _

theorem archiveStep_poisoned (takes accepts : Bool) (x : Counters × Table Blob) (bt : Batch) :
    (archiveStep takes accepts x bt).1.poisoned = x.1.poisoned := by
  unfold archiveStep
  split
  · rfl
  · exact Counters.restoreBatch_poisoned takes x.1 bt

/-- On an answering store, the loop over the batches, when it returns, leaves the counters and the
bucket's objects that `archiveAll` gives. -/
theorem foldlM_archive_answering : ∀ (l : List (String × Batch)) {b b' : Backend}
    {r r' : DrainReport}, b.Answering →
    (l.foldlM (fun r e => d.archive r e.2) r).run.run b = (.ok r', b') →
    ∃ bs, b' = { b with
        counters := (archiveAll (!b.faults.rejectIncrements) (decide (b.takesUploads d.settings.bucket))
          l (b.counters, b.blobs.objects d.settings.bucket)).1,
        blobs := bs } ∧
      bs.objects d.settings.bucket = (archiveAll (!b.faults.rejectIncrements)
        (decide (b.takesUploads d.settings.bucket)) l (b.counters, b.blobs.objects d.settings.bucket)).2
  | [], b, b', r, r', _, hrun => by
    obtain ⟨-, rfl⟩ := eq_of_run_pure hrun
    exact ⟨_, rfl, rfl⟩
  | p :: l, b, b', r, r', h, hrun => by
    rw [List.foldlM_cons, run_bind] at hrun
    rcases hstep : (d.archive r p.2).run.run b with ⟨_ | r1, b1⟩
    · rw [hstep] at hrun
      cases hrun
    · rw [hstep] at hrun
      obtain ⟨bs1, hb1, hobj1, hbk1⟩ := archive_answering d p.2 h hstep
      -- the next batches see the store the first one left: same faults, same buckets present
      have h1 : b1.Answering := by
        rw [hb1]
        exact ⟨h.memory, h.scripted, h.up, (archiveStep_poisoned _ _ _ _).trans h.healthy⟩
      have hf : b1.faults = b.faults := by rw [hb1]
      have hacc : decide (b1.takesUploads d.settings.bucket) =
          decide (b.takesUploads d.settings.bucket) := by
        rw [hb1]
        exact decide_eq_decide.2 (by simp only [Backend.takesUploads, hbk1])
      have hx : (b1.counters, b1.blobs.objects d.settings.bucket) = archiveStep
          (!b.faults.rejectIncrements) (decide (b.takesUploads d.settings.bucket))
          (b.counters, b.blobs.objects d.settings.bucket) p.2 := by
        rw [hb1]
        exact Prod.ext rfl hobj1
      obtain ⟨bs, rfl, hobj⟩ := foldlM_archive_answering l h1 hrun
      refine ⟨bs, ?_, ?_⟩
      · rw [hacc, hf, hx, archiveAll_cons, hb1]
      · rw [hobj, hacc, hf, hx, archiveAll_cons]

section ArchiveAll

/-! Batches archived in one loop are of distinct subjects, and each holds entries of distinct
resources. -/

variable {takes accepts : Bool} {l : List (String × Batch)}

/-- A batch's step touches only the batch's names. -/
theorem archiveStep_get?_of_not_name {name : String} {bt : Batch} (h : ∀ a, bt.objectName a ≠ name)
    (x : Counters × Table Blob) : (archiveStep takes accepts x bt).2.get? name = x.2.get? name := by
  unfold archiveStep
  split
  · next a _ => exact Table.get?_insert_of_ne _ _ (h a)
  · rfl

/-- A batch's step leaves the keys of none of its entries as they were. -/
theorem archiveStep_counts_of_not_key {k : String} {bt : Batch}
    (h : ∀ e ∈ bt.entries, CounterKey.encode ⟨e.resource, bt.subject⟩ ≠ k) (x : Counters × Table Blob) :
    (archiveStep takes accepts x bt).1.counts.get? k = x.1.counts.get? k := by
  unfold archiveStep
  split
  · rfl
  · exact Counters.restoreBatch_get?_of_not_key takes x.1 h

/-- A batch's step leaves the store attempt of a batch of another subject as it was. -/
theorem storeAttempt_archiveStep {bt bt' : Batch} (hs : bt.subject ≠ bt'.subject)
    (x : Counters × Table Blob) :
    storeAttempt accepts (archiveStep takes accepts x bt').2 bt = storeAttempt accepts x.2 bt := by
  unfold archiveStep
  split
  · simp only [storeAttempt]
    rw [Batch.freeAttempt_insert fun a' he => hs (Batch.subject_eq_of_objectName_eq he)]
  · rfl

/-- Objects under the names of no batch archived are left as they were. -/
theorem archiveAll_get?_of_not_name {name : String} (h : ∀ p ∈ l, ∀ a, p.2.objectName a ≠ name)
    (x : Counters × Table Blob) : (archiveAll takes accepts l x).2.get? name = x.2.get? name := by
  induction l generalizing x with
  | nil => rfl
  | cons p l ih =>
    rw [archiveAll_cons, ih fun p' hp' => h p' (List.mem_cons_of_mem _ hp'),
      archiveStep_get?_of_not_name (h p List.mem_cons_self)]

/-- A batch with a store attempt is found under that name afterwards. -/
theorem archiveAll_get?_stored (hnd : (l.map (·.2.subject)).Nodup) {p : String × Batch} (hp : p ∈ l)
    {x : Counters × Table Blob} {a : Nat} (ha : storeAttempt accepts x.2 p.2 = some a) :
    (archiveAll takes accepts l x).2.get? (p.2.objectName a) = some ⟨archiveContentType, p.2.body⟩ := by
  induction l generalizing x with
  | nil => cases hp
  | cons q l ih =>
    rw [List.map_cons, List.nodup_cons] at hnd
    rw [archiveAll_cons]
    rcases List.mem_cons.1 hp with rfl | hp
    -- its own step stores it, and the later batches are of other subjects
    · have hother : ∀ p' ∈ l, ∀ a', p'.2.objectName a' ≠ p.2.objectName a := fun p' hp' a' he =>
        hnd.1 (List.mem_map.2 ⟨p', hp', Batch.subject_eq_of_objectName_eq he⟩)
      rw [archiveAll_get?_of_not_name hother]
      simp only [archiveStep, ha, Table.get?_insert_self]
    · have hs : p.2.subject ≠ q.2.subject := fun he => hnd.1 (List.mem_map.2 ⟨p, hp, he⟩)
      exact ih hnd.2 hp (by rw [storeAttempt_archiveStep hs, ha])

/-- An object whose name changes is the body of a batch stored under that name. -/
theorem archiveAll_get?_changed (hnd : (l.map (·.2.subject)).Nodup) {x : Counters × Table Blob}
    {name : String} (h : (archiveAll takes accepts l x).2.get? name ≠ x.2.get? name) :
    ∃ p ∈ l, ∃ a, storeAttempt accepts x.2 p.2 = some a ∧ name = p.2.objectName a := by
  induction l generalizing x with
  | nil => exact absurd rfl h
  | cons q l ih =>
    rw [List.map_cons, List.nodup_cons] at hnd
    rw [archiveAll_cons] at h
    by_cases hrest : (archiveAll takes accepts l (archiveStep takes accepts x q.2)).2.get? name =
        (archiveStep takes accepts x q.2).2.get? name
    -- the change was the first batch's step
    · rw [hrest] at h
      unfold archiveStep at h
      split at h
      · next a ha =>
        by_cases hn : q.2.objectName a = name
        · exact ⟨q, List.mem_cons_self, a, ha, hn.symm⟩
        · exact absurd (Table.get?_insert_of_ne _ _ hn) h
      · exact absurd rfl h
    · obtain ⟨p, hp, a, ha, rfl⟩ := ih hnd.2 hrest
      have hs : p.2.subject ≠ q.2.subject := fun he => hnd.1 (List.mem_map.2 ⟨p, hp, he⟩)
      exact ⟨p, List.mem_cons_of_mem _ hp, a, by rwa [storeAttempt_archiveStep hs] at ha, rfl⟩

/-- Keys that are no entry's key of a batch archived are left as they were. -/
theorem archiveAll_counts_of_not_key {k : String}
    (h : ∀ p ∈ l, ∀ e ∈ p.2.entries, CounterKey.encode ⟨e.resource, p.2.subject⟩ ≠ k)
    (x : Counters × Table Blob) :
    (archiveAll takes accepts l x).1.counts.get? k = x.1.counts.get? k := by
  induction l generalizing x with
  | nil => rfl
  | cons p l ih =>
    rw [archiveAll_cons, ih fun p' hp' => h p' (List.mem_cons_of_mem _ hp')]
    exact archiveStep_counts_of_not_key (h p List.mem_cons_self) x

/-- The key of an entry of an archived batch is left as it was when the batch is stored, and
gets the entry's count back, up to the largest word, when the batch is put back with increments
taken. -/
theorem archiveAll_counts_entry (hnd : (l.map (·.2.subject)).Nodup)
    (hres : ∀ p ∈ l, (p.2.entries.map (·.resource)).Nodup) {p : String × Batch} (hp : p ∈ l)
    {e : Entry} (he : e ∈ p.2.entries) {k : String}
    (hk : CounterKey.encode ⟨e.resource, p.2.subject⟩ = k) (x : Counters × Table Blob) :
    (archiveAll takes accepts l x).1.counts.get? k =
      if storeAttempt accepts x.2 p.2 = none ∧ takes = true then
        some (.exact (min (x.1.units k + e.count) wordMax))
      else x.1.counts.get? k := by
  subst hk
  induction l generalizing x with
  | nil => cases hp
  | cons q l ih =>
    rw [List.map_cons, List.nodup_cons] at hnd
    rw [archiveAll_cons]
    rcases List.mem_cons.1 hp with rfl | hp
    -- its own step, then batches of other subjects, whose keys are others
    · have hother : ∀ p' ∈ l, ∀ e' ∈ p'.2.entries,
          CounterKey.encode ⟨e'.resource, p'.2.subject⟩ ≠ CounterKey.encode ⟨e.resource, p.2.subject⟩ :=
        fun p' hp' e' _ hk => hnd.1 (List.mem_map.2
          ⟨p', hp', congrArg CounterKey.subject (CounterKey.encode_injective hk)⟩)
      rw [archiveAll_counts_of_not_key hother]
      unfold archiveStep
      cases hs : storeAttempt accepts x.2 p.2 with
      | some a => simp
      | none =>
        cases takes
        · simp [Counters.restoreBatch]
        · simp [Counters.restoreBatch,
            Counters.foldl_putBack_get?_entry p.2.subject _ _ (hres p List.mem_cons_self) he]
    · have hs : p.2.subject ≠ q.2.subject := fun he => hnd.1 (List.mem_map.2 ⟨p, hp, he⟩)
      have hk : ∀ e' ∈ q.2.entries,
          CounterKey.encode ⟨e'.resource, q.2.subject⟩ ≠ CounterKey.encode ⟨e.resource, p.2.subject⟩ :=
        fun e' _ hk => hs (congrArg CounterKey.subject (CounterKey.encode_injective hk)).symm
      have hu : (archiveStep takes accepts x q.2).1.units (CounterKey.encode ⟨e.resource, p.2.subject⟩) =
          x.1.units (CounterKey.encode ⟨e.resource, p.2.subject⟩) := by
        simp only [Counters.units, archiveStep_counts_of_not_key hk]
      rw [ih hnd.2 (fun p' hp' => hres p' (List.mem_cons_of_mem _ hp')) hp, storeAttempt_archiveStep hs,
        archiveStep_counts_of_not_key hk, hu]

end ArchiveAll

end Drainer

end Turnstile
