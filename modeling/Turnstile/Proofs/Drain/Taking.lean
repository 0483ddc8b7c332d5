import Turnstile.Proofs.Drain.Sums

/-!
# What a drain cycle does while it takes keys

A cycle runs with nothing else in between, on the memory engine, and its counter operations
answer (`Backend.Answering`): no counter operation is made to fail, the counter store is up and
the counters are not poisoned. Increments may still be refused as a whole. Under that, the loop of
the cycle over the scanned keys, when it returns, is a pure fold of one step per key (`takeAll`):
each key is taken, the positive count of a key that does not decode goes under its quarantine key
(or nowhere when increments are refused), and the positive count of a key that decodes becomes an
entry of its subject's batch. The lemmas read off that fold what each key holds afterwards, and
show that the batches it leaves are one per subject with entries (`batchOf`).
-/

namespace Turnstile

open Drainer Archive StoreOp

/-- An entry of a table is what its key reads. -/
theorem Table.get?_of_mem {α : Type} {t : Table α} {p : String × α}
    (hp : p ∈ t.entries) : t.get? p.1 = some p.2 := by
  obtain ⟨entries, ht⟩ := t
  simp only [Table.get?] at hp ⊢
  induction entries with
  | nil => cases hp
  | cons e rest ih =>
    obtain ⟨hlt, hrest⟩ := List.pairwise_cons.1 ht
    rcases List.mem_cons.1 hp with rfl | hp
    · simp
    -- an earlier key is smaller, so it is another key
    · have hne : (e.1 == p.1) = false := by
        simpa using ne_of_lt (hlt p hp)
      simp only [List.find?_cons, hne]
      exact ih hrest hp

/-- A store whose counter operations answer within a cycle: the memory engine, no counter
operation made to fail, the counter store up and counters that are not poisoned. Increments may
be refused as a whole, and the other stores may be down. -/
structure Backend.Answering (b : Backend) : Prop where
  memory : b.engine = .memory
  scripted : b.faults.failing = []
  up : StoreRole.counters ∉ b.faults.down
  healthy : b.counters.poisoned = false

namespace Backend.Answering

variable {b : Backend}

theorem counterGuard (h : b.Answering) (op : CounterOp) : b.counterGuard op = .ok () := by
  simp [Backend.counterGuard, h.scripted, Backend.available, h.up]

theorem stateGuard (h : b.Answering) (what : String) : b.stateGuard what = .ok () := by
  simp [Backend.stateGuard, h.healthy]

theorem with_counters (h : b.Answering) {c : Counters} (hc : c.poisoned = false) :
    ({ b with counters := c } : Backend).Answering :=
  ⟨h.memory, h.scripted, h.up, hc⟩

theorem with_blobs (h : b.Answering) (bs : Blobs) : ({ b with blobs := bs } : Backend).Answering :=
  ⟨h.memory, h.scripted, h.up, h.healthy⟩

end Backend.Answering

namespace StoreOp

variable {b : Backend}

/-- On an answering store a key is taken and its count read. -/
theorem getDel_answering (h : b.Answering) (key : String) :
    (getDel key).run.run b =
      (.ok ((b.counters.counts.get? key).mapM Count.read),
        { b with counters := { b.counters with counts := b.counters.counts.erase key } }) := by
  rw [getDel_run, h.counterGuard, h.stateGuard]
  cases b.counters.counts.get? key <;> rfl

/-- On an answering store an increment is taken, with saturation, unless increments are refused
as a whole, which changes nothing. -/
theorem incr_answering (h : b.Answering) (key : String) (delta : Nat) :
    (incr key delta).run.run b =
      if b.faults.rejectIncrements then (.ok (.error (.unavailable "counter increments rejected")), b)
      else (.ok (.ok (b.counters.addSaturating key delta).2),
        { b with counters := (b.counters.addSaturating key delta).1 }) := by
  simp only [incr, run_bind, run_get, h.counterGuard, h.stateGuard, h.memory]
  cases b.faults.rejectIncrements <;> rfl

end StoreOp

/-- A quarantine key is not the key it quarantines. -/
theorem quarantine_ne_self (raw : String) : raw ≠ quarantineTag ++ raw := by
  intro h
  have hl := congrArg String.length h
  rw [String.length_append] at hl
  have hq : quarantineTag.length = 11 := by decide
  omega

/-- Distinct keys have distinct quarantine keys. -/
theorem quarantine_inj {raw raw' : String} (h : quarantineTag ++ raw = quarantineTag ++ raw') :
    raw = raw' := by
  have hl := congrArg String.toList h
  simp only [String.toList_append, List.append_cancel_left_eq] at hl
  exact String.toList_inj.1 hl

namespace Counters

/-- The counters after a cycle takes a key: the key is gone, and the positive count of a key that
does not decode goes under its quarantine key when increments are taken. -/
def afterTake (takes : Bool) (c : Counters) (raw : String) : Counters :=
  let rest : Counters := { c with counts := c.counts.erase raw }
  match CounterKey.decode raw, c.counts.get? raw with
  | .error _, some (.exact n) =>
    if n ≠ 0 ∧ takes = true then (rest.addSaturating (quarantineTag ++ raw) n).1 else rest
  | _, _ => rest

theorem afterTake_poisoned (takes : Bool) (c : Counters) (raw : String) :
    (c.afterTake takes raw).poisoned = c.poisoned := by
  unfold afterTake
  split
  · split <;> rfl
  · rfl

theorem addSaturating_counts (c : Counters) (key : String) (delta : Nat) :
    (c.addSaturating key delta).1.counts =
      c.counts.insert key (.exact (min (c.units key + delta) wordMax)) :=
  rfl

/-- Taking a key leaves every other key but its quarantine key as it was. -/
theorem afterTake_get?_of_ne (takes : Bool) (c : Counters) {raw k : String} (hk : k ≠ raw)
    (hq : k ≠ quarantineTag ++ raw) : (c.afterTake takes raw).counts.get? k = c.counts.get? k := by
  unfold afterTake
  split
  · split
    · rw [addSaturating_counts, Table.get?_insert_of_ne _ _ (Ne.symm hq), Table.get?_erase,
        if_neg (Ne.symm hk)]
    · rw [Table.get?_erase, if_neg (Ne.symm hk)]
  · rw [Table.get?_erase, if_neg (Ne.symm hk)]

/-- Taking a key empties it. -/
theorem afterTake_get?_self (takes : Bool) (c : Counters) (raw : String) :
    (c.afterTake takes raw).counts.get? raw = none := by
  unfold afterTake
  split
  · split
    · rw [addSaturating_counts, Table.get?_insert_of_ne _ _ (Ne.symm (quarantine_ne_self raw)),
        Table.get?_erase, if_pos rfl]
    · rw [Table.get?_erase, if_pos rfl]
  · rw [Table.get?_erase, if_pos rfl]

/-- The positive count of a key that does not decode goes under its quarantine key when
increments are taken. -/
theorem afterTake_get?_quarantine (takes : Bool) (c : Counters) {raw : String} {e : CoreError}
    {n : Nat} (hd : CounterKey.decode raw = .error e) (hg : c.counts.get? raw = some (.exact n))
    (hn : n ≠ 0) :
    (c.afterTake takes raw).counts.get? (quarantineTag ++ raw) =
      if takes then some (.exact (min (c.units (quarantineTag ++ raw) + n) wordMax))
      else c.counts.get? (quarantineTag ++ raw) := by
  have hne := quarantine_ne_self raw
  have hunits : ({ c with counts := c.counts.erase raw } : Counters).units (quarantineTag ++ raw) =
      c.units (quarantineTag ++ raw) := by
    rw [units_erase, if_neg (Ne.symm hne)]
  simp only [afterTake, hd, hg, ne_eq, hn, not_false_eq_true, true_and]
  cases takes
  · simp only [Bool.false_eq_true, ↓reduceIte]
    rw [Table.get?_erase, if_neg hne]
  · simp only [↓reduceIte, addSaturating_counts, Table.get?_insert_self, hunits]

/-- Taking a key that holds no positive count, or that decodes, leaves its quarantine key as it
was. -/
theorem afterTake_get?_quarantine_of_not (takes : Bool) (c : Counters) {raw : String}
    (h : ∀ e n, CounterKey.decode raw = .error e → c.counts.get? raw = some (.exact n) → n = 0) :
    (c.afterTake takes raw).counts.get? (quarantineTag ++ raw) =
      c.counts.get? (quarantineTag ++ raw) := by
  have hne := quarantine_ne_self raw
  unfold afterTake
  split
  · next e n hd hg =>
    rw [if_neg (fun hc => hc.1 (h e n hd hg)), Table.get?_erase, if_neg hne]
  · rw [Table.get?_erase, if_neg hne]

/-- What taking a key puts under its quarantine key depends on the key and the quarantine key
alone. -/
theorem afterTake_get?_quarantine_congr (takes : Bool) {c c' : Counters} {raw : String}
    (hraw : c.counts.get? raw = c'.counts.get? raw)
    (hq : c.counts.get? (quarantineTag ++ raw) = c'.counts.get? (quarantineTag ++ raw)) :
    (c.afterTake takes raw).counts.get? (quarantineTag ++ raw) =
      (c'.afterTake takes raw).counts.get? (quarantineTag ++ raw) := by
  have hne := quarantine_ne_self raw
  have hunits : c.units (quarantineTag ++ raw) = c'.units (quarantineTag ++ raw) := by
    simp only [units, hq]
  unfold afterTake
  rw [hraw]
  split
  · split
    · simp only [addSaturating_counts, Table.get?_insert_self, units_erase, if_neg (Ne.symm hne),
        hunits]
    · rw [Table.get?_erase, Table.get?_erase, if_neg hne, if_neg hne, hq]
  · rw [Table.get?_erase, Table.get?_erase, if_neg hne, if_neg hne, hq]

end Counters

namespace Drainer

/-- The batches after a cycle stamped `now` takes a key: a positive count of a key that decodes
becomes an entry of its subject's batch. -/
def batchTake (now : Instant) (c : Counters) (batches : Table Batch) (raw : String) : Table Batch :=
  match CounterKey.decode raw, c.counts.get? raw with
  | .ok key, some (.exact n) => if n = 0 then batches else addEntry batches key n now
  | _, _ => batches

/-- The counters and batches after a cycle took keys one after another. -/
def takeAll (takes : Bool) (now : Instant) :
    List String → Counters × Table Batch → Counters × Table Batch
  | [], x => x
  | raw :: keys, (c, bt) => takeAll takes now keys (c.afterTake takes raw, batchTake now c bt raw)

/-- The entry a cycle stamped `now` makes for a subject from a key: the key's positive count,
when the key decodes to a key of that subject. -/
def entryOf (c : Counters) (now : Instant) (s : Segment) (raw : String) : Option Entry :=
  match CounterKey.decode raw, c.counts.get? raw with
  | .ok key, some (.exact n) => if key.subject = s ∧ n ≠ 0 then some ⟨key.resource, n, now⟩ else none
  | _, _ => none

/-- The batch a cycle stamped `now` makes for a subject from the keys it takes: one entry per
positive count of a key of the subject, in the order of the keys. -/
def batchOf (c : Counters) (now : Instant) (keys : List String) (s : Segment) : Batch :=
  ⟨s, now, keys.filterMap (entryOf c now s)⟩

/-- On an answering store, quarantining a key that does not decode returns and does what
`afterTake` says. -/
theorem quarantine_answering {b : Backend} (h : b.Answering) {raw : String} {e : CoreError}
    (hd : CounterKey.decode raw = .error e) :
    ∃ q, (quarantine raw).run.run b =
      (.ok q, { b with counters := b.counters.afterTake (!b.faults.rejectIncrements) raw }) := by
  have h1 : ({ b with counters := { b.counters with counts := b.counters.counts.erase raw } } :
      Backend).Answering := h.with_counters h.healthy
  simp only [quarantine, run_bind, getDel_answering h]
  cases hg : b.counters.counts.get? raw with
  | none => exact ⟨0, by simp only [Counters.afterTake, hd, hg]; rfl⟩
  | some n =>
    cases n with
    | inexact => exact ⟨0, by simp only [Counters.afterTake, hd, hg]; rfl⟩
    | exact n =>
      by_cases hn : n = 0
      · subst hn
        exact ⟨0, by simp only [Counters.afterTake, hd, hg]; rfl⟩
      -- a positive count goes under the quarantine key, or nowhere when increments are refused
      · simp only [Option.mapM_some, Count.read, Functor.map, Except.map, hn, ↓reduceIte,
          moveToQuarantine, run_bind, incr_answering h1]
        cases hr : b.faults.rejectIncrements
        · refine ⟨n, ?_⟩
          simp only [Bool.false_eq_true, ↓reduceIte, run_pure, Counters.afterTake, hd, hg, hn,
            Bool.not_false, ne_eq, not_false_eq_true, and_self]
        · refine ⟨0, ?_⟩
          simp only [hr, ↓reduceIte, run_bind, incr_answering h1, run_pure, Counters.afterTake, hd,
            hg, Bool.not_true, Bool.false_eq_true, and_false]

/-- On an answering store, draining a key that returns does what `afterTake` and `batchTake`
say. -/
theorem drainKey_answering {b b' : Backend} (h : b.Answering) {now : Instant} {r r' : DrainReport}
    {bt bt' : Table Batch} {raw : String}
    (hrun : (drainKey now (r, bt) raw).run.run b = (.ok (r', bt'), b')) :
    b' = { b with counters := b.counters.afterTake (!b.faults.rejectIncrements) raw } ∧
      bt' = batchTake now b.counters bt raw := by
  cases hd : CounterKey.decode raw with
  | error e =>
    obtain ⟨q, hq⟩ := quarantine_answering h hd
    simp only [drainKey, hd, run_bind, hq, wordSum_run] at hrun
    by_cases hov : r.unitsQuarantined + q > wordMax
    · simp only [hov, ↓reduceIte] at hrun
      cases hrun
    · simp only [hov, ↓reduceIte, run_pure] at hrun
      obtain ⟨hx, rfl⟩ := Prod.mk.inj hrun
      cases hx
      exact ⟨rfl, by simp only [batchTake, hd]⟩
  | ok key =>
    -- the key is taken whatever it held; only a positive count is batched
    have hrest : ({ b with counters := { b.counters with counts := b.counters.counts.erase raw } } :
        Backend) = { b with counters := b.counters.afterTake (!b.faults.rejectIncrements) raw } := by
      unfold Counters.afterTake
      split
      · next hd' _ => rw [hd] at hd'; cases hd'
      · rfl
    simp only [drainKey, hd, run_bind, getDel_answering h] at hrun
    cases hg : b.counters.counts.get? raw with
    | none =>
      simp only [hg, Option.mapM_none] at hrun
      obtain ⟨hx, rfl⟩ := Prod.mk.inj hrun
      cases hx
      exact ⟨hrest, by simp only [batchTake, hd, hg]⟩
    | some n =>
      cases n with
      | inexact =>
        simp only [hg, Option.mapM_some, Count.read, Functor.map, Except.map, run_pure] at hrun
        obtain ⟨hx, rfl⟩ := Prod.mk.inj hrun
        cases hx
        exact ⟨hrest, by simp only [batchTake, hd, hg]⟩
      | exact n =>
        by_cases hn : n = 0
        · subst hn
          simp only [hg, Option.mapM_some, Count.read, Functor.map, Except.map, ↓reduceIte, run_pure] at hrun
          obtain ⟨hx, rfl⟩ := Prod.mk.inj hrun
          cases hx
          exact ⟨hrest, by simp only [batchTake, hd, hg, ↓reduceIte]⟩
        · simp only [hg, Option.mapM_some, Count.read, Functor.map, Except.map, hn, ↓reduceIte, run_bind,
            wordSum_run] at hrun
          by_cases hov : r.unitsDrained + n > wordMax
          · simp only [hov, ↓reduceIte] at hrun
            cases hrun
          · simp only [hov, ↓reduceIte, run_pure] at hrun
            obtain ⟨hx, rfl⟩ := Prod.mk.inj hrun
            cases hx
            exact ⟨hrest, by simp only [batchTake, hd, hg, hn, ↓reduceIte]⟩

/-- On an answering store, the loop over the keys, when it returns, leaves the counters and the
batches that `takeAll` gives. -/
theorem foldlM_drainKey_answering (now : Instant) : ∀ (keys : List String) {b b' : Backend}
    {r r' : DrainReport} {bt bt' : Table Batch}, b.Answering →
    (keys.foldlM (drainKey now) (r, bt)).run.run b = (.ok (r', bt'), b') →
    b' = { b with counters := (takeAll (!b.faults.rejectIncrements) now keys (b.counters, bt)).1 } ∧
      bt' = (takeAll (!b.faults.rejectIncrements) now keys (b.counters, bt)).2 := by
  intro keys
  induction keys with
  | nil =>
    intro b b' r r' bt bt' _ hrun
    obtain ⟨hx, rfl⟩ := Prod.mk.inj hrun
    cases hx
    exact ⟨rfl, rfl⟩
  | cons raw keys ih =>
    intro b b' r r' bt bt' h hrun
    rw [List.foldlM_cons, run_bind] at hrun
    rcases hstep : (drainKey now (r, bt) raw).run.run b with ⟨_ | ⟨r1, bt1⟩, b1⟩
    · rw [hstep] at hrun
      cases hrun
    · rw [hstep] at hrun
      obtain ⟨rfl, rfl⟩ := drainKey_answering h hstep
      exact ih (h.with_counters ((Counters.afterTake_poisoned _ _ _).trans h.healthy)) hrun

section TakeAll

/-! The keys a cycle takes are distinct, and none of them is a quarantine key. -/

variable {takes : Bool} {now : Instant} {keys : List String}

/-- A key that is neither taken nor the quarantine key of one taken is left as it was. -/
theorem takeAll_get?_of_not_mem (c : Counters) (bt : Table Batch) {k : String}
    (hk : ∀ raw ∈ keys, k ≠ raw ∧ k ≠ quarantineTag ++ raw) :
    (takeAll takes now keys (c, bt)).1.counts.get? k = c.counts.get? k := by
  induction keys generalizing c bt with
  | nil => rfl
  | cons raw keys ih =>
    obtain ⟨hne, hq⟩ := hk raw List.mem_cons_self
    rw [takeAll, ih _ _ fun raw' h' => hk raw' (List.mem_cons_of_mem _ h')]
    exact Counters.afterTake_get?_of_ne takes c hne hq

/-- Every key taken is empty afterwards. -/
theorem takeAll_get?_mem (hnd : keys.Nodup) (hq : ∀ k ∈ keys, ∀ raw, k ≠ quarantineTag ++ raw)
    (c : Counters) (bt : Table Batch) {k : String} (hk : k ∈ keys) :
    (takeAll takes now keys (c, bt)).1.counts.get? k = none := by
  induction keys generalizing c bt with
  | nil => cases hk
  | cons raw keys ih =>
    obtain ⟨hraw, hnd⟩ := List.nodup_cons.1 hnd
    have hq' : ∀ k ∈ keys, ∀ raw, k ≠ quarantineTag ++ raw :=
      fun k hk => hq k (List.mem_cons_of_mem _ hk)
    rw [takeAll]
    rcases List.mem_cons.1 hk with rfl | hk
    -- the key is taken first, and the later keys are other keys
    · rw [takeAll_get?_of_not_mem _ _ fun raw' h' =>
        ⟨fun he => hraw (by rw [he]; exact h'), hq _ List.mem_cons_self raw'⟩]
      exact Counters.afterTake_get?_self takes c k
    · exact ih hnd hq' _ _ hk

/-- What a cycle leaves under the quarantine key of a key it takes is what taking that key puts
there. -/
theorem takeAll_get?_quarantine (hnd : keys.Nodup)
    (hq : ∀ k ∈ keys, ∀ raw, k ≠ quarantineTag ++ raw) (c : Counters) (bt : Table Batch)
    {raw : String} (hraw : raw ∈ keys) :
    (takeAll takes now keys (c, bt)).1.counts.get? (quarantineTag ++ raw) =
      (c.afterTake takes raw).counts.get? (quarantineTag ++ raw) := by
  induction keys generalizing c bt with
  | nil => cases hraw
  | cons raw' keys ih =>
    obtain ⟨hnot, hnd⟩ := List.nodup_cons.1 hnd
    have hq' : ∀ k ∈ keys, ∀ raw, k ≠ quarantineTag ++ raw :=
      fun k hk => hq k (List.mem_cons_of_mem _ hk)
    rw [takeAll]
    rcases List.mem_cons.1 hraw with rfl | hraw
    -- the quarantine key is none of the later keys, nor the quarantine key of one
    · refine takeAll_get?_of_not_mem _ _ fun k hk => ⟨fun he => hq' k hk raw he.symm, fun he => ?_⟩
      exact hnot (by rw [quarantine_inj he]; exact hk)
    -- the earlier key touches neither this key nor its quarantine key
    · have hne : raw ≠ raw' := fun he => hnot (he ▸ hraw)
      rw [ih hnd hq' _ _ hraw]
      exact Counters.afterTake_get?_quarantine_congr takes
        (Counters.afterTake_get?_of_ne takes c hne (hq raw (List.mem_cons_of_mem _ hraw) raw'))
        (Counters.afterTake_get?_of_ne takes c (Ne.symm (hq raw' List.mem_cons_self raw))
          fun he => hne (quarantine_inj he))

theorem filed_takeAll (c : Counters) {bt : Table Batch} (hw : Filed bt) :
    Filed (takeAll takes now keys (c, bt)).2 := by
  induction keys generalizing c bt with
  | nil => exact hw
  | cons raw keys ih =>
    refine ih _ ?_
    unfold batchTake
    split
    · split
      · exact hw
      · exact hw.addEntry _ _ _
    · exact hw

/-- Taking a key adds its entry, if any, to the batch of its subject, and leaves the batches of
the other subjects as they were. -/
theorem batchTake_get? (c : Counters) (bt : Table Batch) (raw : String) (s : Segment) :
    (batchTake now c bt raw).get? s.text =
      (entryOf c now s raw).elim (bt.get? s.text)
        fun e => some (((bt.get? s.text).getD (Batch.empty s now)).push e) := by
  unfold batchTake entryOf
  cases hd : CounterKey.decode raw with
  | error e => rfl
  | ok key =>
    cases hg : c.counts.get? raw with
    | none => rfl
    | some n =>
      cases n with
      | inexact => rfl
      | exact n =>
        by_cases hn : n = 0
        · simp [hn]
        · by_cases hs : key.subject = s
          · subst hs
            simp [hn, addEntry]
          · have ht : key.subject.text ≠ s.text := fun h => hs (Segment.eq_of_text_eq h)
            simp [hn, hs, addEntry, Table.get?_insert_of_ne _ _ ht]

/-- The entries of keys read the same from counters that agree on those keys. -/
theorem filterMap_entryOf_congr {c c' : Counters} (s : Segment) {keys : List String}
    (h : ∀ raw ∈ keys, c.counts.get? raw = c'.counts.get? raw) :
    keys.filterMap (entryOf c now s) = keys.filterMap (entryOf c' now s) := by
  refine List.filterMap_congr fun raw hraw => ?_
  simp only [entryOf, h raw hraw]

/-- Pushing entries one after another onto a batch appends them. -/
theorem foldl_push (s : Segment) (es : List Entry) (b0 : Batch) :
    es.foldl (fun o e => some ((o.getD (Batch.empty s now)).push e)) (some b0) =
      some { b0 with entries := b0.entries ++ es } := by
  induction es generalizing b0 with
  | nil => simp
  | cons e es ih =>
    rw [List.foldl_cons, Option.getD_some, ih]
    simp [Batch.push]

/-- The batch a cycle leaves for a subject is its earlier batch with the subject's entries of the
keys taken appended in their order. -/
theorem takeAll_get?_batch (hnd : keys.Nodup) (hq : ∀ k ∈ keys, ∀ raw, k ≠ quarantineTag ++ raw)
    (c : Counters) (bt : Table Batch) (s : Segment) :
    (takeAll takes now keys (c, bt)).2.get? s.text =
      (keys.filterMap (entryOf c now s)).foldl
        (fun o e => some ((o.getD (Batch.empty s now)).push e)) (bt.get? s.text) := by
  induction keys generalizing c bt with
  | nil => rfl
  | cons raw keys ih =>
    obtain ⟨hraw, hnd⟩ := List.nodup_cons.1 hnd
    have hq' : ∀ k ∈ keys, ∀ raw, k ≠ quarantineTag ++ raw :=
      fun k hk => hq k (List.mem_cons_of_mem _ hk)
    -- the later keys read the same after this key is taken
    have hsame : keys.filterMap (entryOf (c.afterTake takes raw) now s) =
        keys.filterMap (entryOf c now s) :=
      filterMap_entryOf_congr s fun raw' h' => Counters.afterTake_get?_of_ne takes c
        (fun he => hraw (by rw [← he]; exact h')) (hq raw' (List.mem_cons_of_mem _ h') raw)
    rw [takeAll, ih hnd hq', hsame, batchTake_get?, List.filterMap_cons]
    cases entryOf c now s raw with
    | none => rfl
    | some e => rfl

/-- From no batches, a cycle leaves a batch for exactly the subjects with entries, and it holds
their entries. -/
theorem takeAll_get?_batch_empty (hnd : keys.Nodup)
    (hq : ∀ k ∈ keys, ∀ raw, k ≠ quarantineTag ++ raw) (c : Counters) (s : Segment) :
    (takeAll takes now keys (c, {})).2.get? s.text =
      if keys.filterMap (entryOf c now s) = [] then none else some (batchOf c now keys s) := by
  rw [takeAll_get?_batch hnd hq]
  cases hes : keys.filterMap (entryOf c now s) with
  | nil => rfl
  | cons e es =>
    rw [List.foldl_cons]
    simp only [show ({} : Table Batch).get? s.text = none from rfl, Option.getD_none, foldl_push,
      reduceCtorEq, ↓reduceIte, batchOf, hes]
    rfl

/-- An entry made from a key is the key's positive count, under its resource. -/
theorem entryOf_eq_some {c : Counters} {s : Segment} {raw : String} {e : Entry}
    (h : entryOf c now s raw = some e) :
    raw = CounterKey.encode ⟨e.resource, s⟩ ∧ c.counts.get? raw = some (.exact e.count) ∧
      e.count ≠ 0 ∧ e.lastSynced = now := by
  unfold entryOf at h
  split at h
  · next key n hd hg =>
    split at h
    · next hs =>
      cases h
      obtain ⟨hsub, hn⟩ := hs
      subst hsub
      exact ⟨(CounterKey.encode_of_decode hd).symm, hg, hn, rfl⟩
    · cases h
  · cases h

/-- The entries of a batch a cycle makes are under distinct resources. -/
theorem batchOf_resources_nodup (hnd : keys.Nodup) (c : Counters) (s : Segment) :
    ((batchOf c now keys s).entries.map (·.resource)).Nodup := by
  simp only [batchOf, List.map_filterMap]
  refine hnd.filterMap fun raw raw' r hr hr' => ?_
  obtain ⟨e, he, rfl⟩ := Option.mem_map.1 hr
  obtain ⟨e', he', hee⟩ := Option.mem_map.1 hr'
  rw [(entryOf_eq_some he).1, (entryOf_eq_some he').1, hee]

/-- Each batch a cycle leaves, from no batches, is the batch it makes for its subject, and holds
an entry. -/
theorem takeAll_mem_batches (hnd : keys.Nodup) (hq : ∀ k ∈ keys, ∀ raw, k ≠ quarantineTag ++ raw)
    (c : Counters) {p : String × Batch} (hp : p ∈ (takeAll takes now keys (c, {})).2.entries) :
    p.2 = batchOf c now keys p.2.subject ∧ p.2.entries ≠ [] := by
  have hw : Filed (takeAll takes now keys (c, {})).2 := filed_takeAll c filed_empty
  have hget := Table.get?_of_mem hp
  rw [← hw p hp, takeAll_get?_batch_empty hnd hq] at hget
  split at hget
  · cases hget
  · next hne =>
    have hb := (Option.some.inj hget).symm
    refine ⟨hb, ?_⟩
    rw [hb]
    exact hne

/-- The batches a cycle leaves are of distinct subjects. -/
theorem takeAll_subjects_nodup (c : Counters) :
    ((takeAll takes now keys (c, {})).2.entries.map (·.2.subject)).Nodup := by
  have hw : Filed (takeAll takes now keys (c, {})).2 := filed_takeAll c filed_empty
  have hkeys : ((takeAll takes now keys (c, {})).2.entries.map (·.1)).Nodup :=
    Table.keys_nodup _
  refine List.Nodup.of_map (·.text) ?_
  have htext : ((takeAll takes now keys (c, {})).2.entries.map (·.2.subject)).map (·.text) =
      (takeAll takes now keys (c, {})).2.entries.map (·.1) := by
    rw [List.map_map]
    exact List.map_congr_left fun p hp => hw p hp
  rw [htext]
  exact hkeys

end TakeAll

end Drainer

end Turnstile
