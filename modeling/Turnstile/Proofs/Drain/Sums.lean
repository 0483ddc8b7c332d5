import Turnstile.Proofs.Drain.WholeCycle

/-!
# The sums of a drain report

A cycle adds counts as unsigned words and halts on a sum out of range. When the namespace's
counts add up to a word, no sum halts a cycle and its report stays within the units the namespace
held (`cycle_sums_fit`); two keys past a word do halt it (`drain_sum_overflow_halts`). The proof
uses total-correctness triples (`StoreOp.Returns`) with one rule for both loops.
-/

namespace Turnstile

open Drainer Archive StoreOp

/-- A checked increment adds at most its delta under its key. -/
theorem Counters.units_addChecked_self_le (c : Counters) (key : String) (delta : Nat) :
    (c.addChecked key delta).1.units key ≤ c.units key + delta := by
  have hget : ∀ v, (c.counts.insert key v).get? key = some v := fun v => Table.get?_insert_self _ _ _
  unfold Counters.addChecked
  split
  · exact Nat.le_add_right _ _
  · split
    · next hnone => simp [Counters.units, hget]
    · split
      · next n hn _ => simp [Counters.units, hget, hn]
      · simp [Counters.units, hget]
    · exact Nat.le_add_right _ _

/-! ### Total correctness of store operations -/

namespace StoreOp

variable {α β : Type}

/-- From every backend where `pre` holds, an operation returns, without halting, a result and a
backend where `post` holds. -/
def Returns (pre : Backend → Prop) (op : StoreOp α) (post : α → Backend → Prop) : Prop :=
  ∀ b, pre b → ∃ a, (op.run.run b).1 = .ok a ∧ post a (op.run.run b).2

theorem returns_pure {pre : Backend → Prop} {post : α → Backend → Prop} {a : α}
    (h : ∀ b, pre b → post a b) : Returns pre (pure a) post :=
  fun b hb => ⟨a, rfl, h b hb⟩

theorem Returns.mono {pre pre' : Backend → Prop} {op : StoreOp α} {post post' : α → Backend → Prop}
    (h : Returns pre op post) (hpre : ∀ b, pre' b → pre b) (hpost : ∀ a b, post a b → post' a b) :
    Returns pre' op post' := by
  intro b hb
  obtain ⟨a, ha, hq⟩ := h b (hpre b hb)
  exact ⟨a, ha, hpost a _ hq⟩

/-- A sequence returns when its first part does and every continuation returns from where the
first part left off. -/
theorem Returns.bind {pre : Backend → Prop} {x : StoreOp α} {f : α → StoreOp β}
    {mid : α → Backend → Prop} {post : β → Backend → Prop} (hx : Returns pre x mid)
    (hf : ∀ a, Returns (mid a) (f a) post) : Returns pre (x >>= f) post := by
  intro b hb
  obtain ⟨a, ha, hmid⟩ := hx b hb
  rw [run_bind]
  rcases hxb : x.run.run b with ⟨_ | a', b'⟩
  · rw [hxb] at ha
    cases ha
  · rw [hxb] at ha hmid
    cases ha
    exact hf a b' hmid

/-- The loop rule: a left fold returns when each round returns, from a state of the invariant
for the elements left, into the invariant for the elements after it. -/
theorem returns_foldlM {γ : Type} {f : β → γ → StoreOp β} (inv : List γ → β → Backend → Prop)
    (hstep : ∀ x xs acc, Returns (inv (x :: xs) acc) (f acc x) (inv xs)) :
    ∀ xs acc, Returns (inv xs acc) (xs.foldlM f acc) (inv []) := by
  intro xs
  induction xs with
  | nil => exact fun acc => returns_pure fun _ h => h
  | cons x xs ih =>
    intro acc
    rw [List.foldlM_cons]
    exact (hstep x xs acc).bind ih

/-! ### What the counter operations do to the units -/

/-- An increment adds at most its delta under its key, and nothing under the others. -/
theorem incr_units_le (key : String) (delta : Nat) (b : Backend) (k : String) :
    ((incr key delta).run.run b).2.counters.units k ≤
      b.counters.units k + if k = key then delta else 0 := by
  by_cases hk : k = key
  · subst hk
    rw [if_pos rfl]
    rcases incr_cases k delta b with ⟨e, h⟩ | ⟨-, h⟩ | ⟨-, h⟩ <;> rw [h] <;> dsimp only
    · exact Nat.le_add_right _ _
    · rw [Counters.units_addSaturating, if_pos rfl]
      exact Nat.min_le_left _ _
    · exact Counters.units_addChecked_self_le _ _ _
  · rw [incr_units_of_ne delta hk, if_neg hk]
    omega

/-- Taking a key never halts. -/
theorem getDel_returns (key : String) (b : Backend) :
    ∃ x, (getDel key).run.run b = (.ok x, ((getDel key).run.run b).2) := by
  rw [getDel_run]
  split <;> exact ⟨_, rfl⟩

/-- Taking a key empties it, or changes nothing when the counters do not answer. -/
theorem getDel_units_le (key : String) (b : Backend) (k : String) :
    ((getDel key).run.run b).2.counters.units k ≤ b.counters.units k := by
  rw [getDel_run]
  split
  · exact le_rfl
  · dsimp only
    rw [Counters.units_erase]
    split <;> omega

/-- A count read from a key is the units it held, and the key is empty afterwards. -/
theorem getDel_some {key : String} {b : Backend} {c : Nat}
    (h : ((getDel key).run.run b).1 = .ok (.ok (some c))) :
    b.counters.units key = c ∧ ((getDel key).run.run b).2.counters.units key = 0 := by
  rw [getDel_run] at h ⊢
  split at h
  · cases h
  · dsimp only at h ⊢
    refine ⟨?_, by rw [Counters.units_erase, if_pos rfl]⟩
    cases hg : b.counters.counts.get? key with
    | none => simp [hg] at h
    | some n =>
      cases n with
      | exact m =>
        simp only [hg, Count.read, Functor.map, Except.map, Except.ok.injEq,
          Option.some.injEq] at h
        simp [Counters.units, hg, h]
      | inexact => simp [hg, Count.read, Functor.map, Except.map] at h

/-- An increment never halts, adds at most its delta under its key and nothing elsewhere. -/
theorem incr_spec (key : String) (delta : Nat) (b : Backend) :
    ∃ x b', (incr key delta).run.run b = (.ok x, b') ∧
      ∀ k, b'.counters.units k ≤ b.counters.units k + if k = key then delta else 0 := by
  have hok : ∃ x, (incr key delta).run.run b = (.ok x, ((incr key delta).run.run b).2) := by
    rcases incr_cases key delta b with ⟨e, h⟩ | ⟨-, h⟩ | ⟨-, h⟩ <;> exact ⟨_, by rw [h]⟩
  obtain ⟨x, hx⟩ := hok
  exact ⟨x, _, hx, incr_units_le key delta b⟩

theorem incr_returns {F : Prop} (key : String) (delta : Nat) :
    Returns (fun _ => F) (incr key delta) (fun _ _ => F) := by
  intro b hb
  obtain ⟨x, b', hrun, -⟩ := incr_spec key delta b
  exact ⟨x, by rw [hrun], hb⟩

/-- Taking a key never halts and takes units from that key alone; a count it reads is the units
the key held, and the key is empty afterwards. -/
theorem getDel_spec (key : String) (b : Backend) :
    ∃ x b', (getDel key).run.run b = (.ok x, b') ∧
      (∀ k, b'.counters.units k ≤ b.counters.units k) ∧
      ∀ c, x = .ok (some c) → b.counters.units key = c ∧ b'.counters.units key = 0 := by
  obtain ⟨x, hx⟩ := getDel_returns key b
  refine ⟨x, _, hx, getDel_units_le key b, fun c hc => getDel_some ?_⟩
  rw [hx, hc]

/-- A scan never halts, changes nothing, and the keys it finds under the counter namespace are
the namespace's. -/
theorem scan_namespace (b : Backend) :
    ∃ x, (scan CounterKey.namespaceText).run.run b = (.ok x, b) ∧
      ∀ keys, x = .ok keys → keys = b.namespaceKeys := by
  refine ⟨_, scan_run b _, fun keys h => ?_⟩
  cases hc : b.counterGuard .scanPrefix with
  | error e => simp [hc, bind, Except.bind] at h
  | ok u =>
    cases hs : b.stateGuard "counters" with
    | error e => simp [hc, hs, bind, Except.bind] at h
    | ok v =>
      simp only [hc, hs, bind, Except.bind, pure, Except.pure, Except.ok.injEq] at h
      exact h.symm

theorem putObject_returns {F : Prop} (bucket name : String) (blob : Blob) :
    Returns (fun _ => F) (putObject bucket name blob) (fun _ _ => F) := by
  intro b hb
  rw [putObject_run]
  dsimp only
  split <;> exact ⟨_, rfl, hb⟩

theorem release_returns {F : Prop} (name : String) (holder : Holder) :
    Returns (fun _ => F) (release name holder) (fun _ _ => F) := by
  intro b hb
  rw [release_run]
  split <;> exact ⟨_, rfl, hb⟩

end StoreOp

/-- A lease's end fails to be represented only by overflowing. -/
theorem Backend.deadline_eq_error {b : Backend} {lifetime : Nat} {h : Halt}
    (hd : b.deadline lifetime = .error h) : h = .deadlineOverflow := by
  unfold Backend.deadline at hd
  split at hd
  · split at hd
    · cases hd
      rfl
    · cases hd
  · cases hd

/-- The units the counter namespace holds. -/
def Backend.namespaceUnits (b : Backend) : Nat :=
  (b.namespaceKeys.map b.counters.units).sum

theorem Backend.namespaceUnits_of_counts {b b' : Backend}
    (hc : b'.counters.counts = b.counters.counts) (he : b'.engine = b.engine) :
    b'.namespaceUnits = b.namespaceUnits := by
  have hu : b'.counters.units = b.counters.units := by
    funext k
    simp only [Counters.units, hc]
  simp only [Backend.namespaceUnits, Backend.namespaceKeys_of_counts hc he, hu]

/-- No key of the counter namespace is a quarantine key. -/
theorem Backend.ne_quarantine_of_mem_namespaceKeys {b : Backend} {k : String}
    (hk : k ∈ b.namespaceKeys) (raw : String) : k ≠ quarantineTag ++ raw := by
  rintro rfl
  obtain ⟨-, hp⟩ := List.mem_filter.1 hk
  unfold Backend.matchesPrefix at hp
  split at hp
  · exact CounterKey.not_prefix_quarantine raw (List.isPrefixOf_iff_prefix.1 hp)
  · exact CounterKey.not_prefix_quarantine raw
      (List.isPrefixOf_iff_prefix.1 (Bool.and_eq_true_iff.1 hp).2)

namespace Archive

/-- The units of a batch: the sum of its counts. -/
def Batch.units (bt : Batch) : Nat :=
  (bt.entries.map (·.count)).sum

/-- The units of a table of batches. -/
def totalUnits (t : Table Batch) : Nat :=
  (t.entries.map (·.2.units)).sum

theorem wordMax_lt_wordBound : wordMax < wordBound := by
  decide

/-- Totalling from a partial sum gives the whole sum when it stays below the bound. -/
theorem foldlM_total (es : List Entry) (acc : Nat) (h : acc + (es.map (·.count)).sum < wordBound) :
    es.foldlM (fun acc e => if acc + e.count < wordBound then some (acc + e.count) else none) acc =
      some (acc + (es.map (·.count)).sum) := by
  induction es generalizing acc with
  | nil => simp
  | cons e es ih =>
    simp only [List.map_cons, List.sum_cons] at h ⊢
    rw [List.foldlM_cons, if_pos (by omega)]
    rw [← Nat.add_assoc]
    exact ih (acc + e.count) (by omega)

/-- A batch whose units fit a word has them as its total. -/
theorem Batch.total?_of_le {bt : Batch} (h : bt.units ≤ wordMax) : bt.total? = some bt.units := by
  have hlt := wordMax_lt_wordBound
  have ht := foldlM_total bt.entries 0 (by simp only [Batch.units] at h; omega)
  simpa [Batch.total?, Batch.units] using ht

/-- Adding an entry to a cycle's batches adds its count to their units. -/
theorem totalUnits_addEntry (t : Table Batch) (key : CounterKey) (c : Nat)
    (now : Instant) : totalUnits (addEntry t key c now) = totalUnits t + c := by
  have hsum := Table.sum_insert (·.2.units) t key.subject.text
    (((t.get? key.subject.text).getD (Batch.empty key.subject now)).push ⟨key.resource, c, now⟩)
  simp only [totalUnits, addEntry]
  cases hg : t.get? key.subject.text <;>
    simp [hg, Batch.push, Batch.empty, Batch.units] at hsum ⊢ <;> omega

end Archive

namespace DrainReport

/-- The unit sums of a report: drained, quarantined and archived. -/
def unitSums (r : DrainReport) : Nat × Nat × Nat :=
  (r.unitsDrained, r.unitsQuarantined, r.unitsArchived)

end DrainReport

namespace Drainer

/-! ### The loop over the keys -/

/-- Moving a count under its quarantine key never halts and moves at most the count: the
increments add it under the quarantine key, or at most it back under the key. -/
theorem moveToQuarantine_spec (raw : String) (c : Nat) (b : Backend) :
    ∃ q b', (moveToQuarantine raw c).run.run b = (.ok q, b') ∧ q ≤ c ∧
      ∀ k, k ≠ quarantineTag ++ raw →
        b'.counters.units k ≤ b.counters.units k + if k = raw then c else 0 := by
  obtain ⟨x, b1, hrun, hle⟩ := incr_spec (quarantineTag ++ raw) c b
  simp only [moveToQuarantine, run_bind, hrun]
  split
  · refine ⟨c, b1, rfl, le_rfl, fun k hk => ?_⟩
    have h1 := hle k
    rw [if_neg hk] at h1
    split <;> omega
  -- the quarantine key refused the count, which goes back under the key
  · obtain ⟨y, b2, hrun', hle'⟩ := incr_spec raw c b1
    simp only [run_bind, hrun']
    refine ⟨0, b2, rfl, Nat.zero_le _, fun k hk => ?_⟩
    have h1 := hle k
    have h2 := hle' k
    rw [if_neg hk] at h1
    by_cases hkr : k = raw
    · rw [if_pos hkr] at h2 ⊢
      omega
    · rw [if_neg hkr] at h2 ⊢
      omega

/-- Quarantining a key never halts and moves at most the units the key held; it takes units
from no other key, though it may add under the quarantine key. -/
theorem quarantine_spec (raw : String) (b : Backend) :
    ∃ q b', (quarantine raw).run.run b = (.ok q, b') ∧ q ≤ b.counters.units raw ∧
      ∀ k, k ≠ quarantineTag ++ raw → b'.counters.units k ≤ b.counters.units k := by
  obtain ⟨x, b1, hrun, hle, hsome⟩ := getDel_spec raw b
  simp only [quarantine, run_bind, hrun]
  split
  · next c =>
    obtain ⟨hc, h0⟩ := hsome c rfl
    split
    · exact ⟨0, b1, rfl, Nat.zero_le _, fun k _ => hle k⟩
    · obtain ⟨q, b2, hrun', hq, hle'⟩ := moveToQuarantine_spec raw c b1
      refine ⟨q, b2, hrun', by omega, fun k hk => ?_⟩
      have h2 := hle' k hk
      by_cases hkr : k = raw
      · subst hkr
        rw [if_pos rfl] at h2
        omega
      · rw [if_neg hkr] at h2
        exact h2.trans (by simpa using hle k)
  · exact ⟨0, b1, rfl, Nat.zero_le _, fun k _ => hle k⟩

/-- Draining a key never halts while the sums it adds to fit a word: it takes units from no key
but its quarantine key, adds the units it batches to the units drained, and adds to the
drained and quarantined units at most what the key held. -/
theorem drainKey_spec (now : Instant) {r : DrainReport} {bt : Table Batch} {raw : String}
    {b : Backend} (hw : Filed bt)
    (hfit : r.unitsDrained + r.unitsQuarantined + b.counters.units raw ≤ wordMax) :
    ∃ r' bt' b', (drainKey now (r, bt) raw).run.run b = (.ok (r', bt'), b') ∧ Filed bt' ∧
      r'.unitsArchived = r.unitsArchived ∧
      totalUnits bt' + r.unitsDrained = totalUnits bt + r'.unitsDrained ∧
      r'.unitsDrained + r'.unitsQuarantined ≤ r.unitsDrained + r.unitsQuarantined + b.counters.units raw ∧
      ∀ k, k ≠ quarantineTag ++ raw → b'.counters.units k ≤ b.counters.units k := by
  cases hd : CounterKey.decode raw with
  | error e =>
    obtain ⟨q, b1, hrun, hq, hle⟩ := quarantine_spec raw b
    simp only [drainKey, hd, run_bind, hrun, wordSum_run]
    rw [if_neg (by omega)]
    exact ⟨_, bt, b1, rfl, hw, rfl, rfl, by dsimp only; omega, hle⟩
  | ok key =>
    obtain ⟨x, b1, hrun, hle, hsome⟩ := getDel_spec raw b
    simp only [drainKey, hd, run_bind, hrun]
    split
    · next c =>
      obtain ⟨hc, -⟩ := hsome c rfl
      split
      · exact ⟨_, bt, b1, rfl, hw, rfl, rfl, by dsimp only; omega, fun k _ => hle k⟩
      -- a positive count is batched and drained
      · simp only [run_bind, wordSum_run]
        rw [if_neg (by omega)]
        refine ⟨_, _, b1, rfl, hw.addEntry key c now, rfl, ?_, by dsimp only; omega,
          fun k _ => hle k⟩
        rw [totalUnits_addEntry]
        dsimp only
        omega
    · exact ⟨_, bt, b1, rfl, hw, rfl, rfl, by dsimp only; omega, fun k _ => hle k⟩
    · exact ⟨_, bt, b1, rfl, hw, rfl, rfl, by dsimp only; omega, fun k _ => hle k⟩

/-- What a cycle draining `keys` still owes the namespace: the keys left are no quarantine
keys, the batches are filed and hold the units drained and not yet archived, and the units
drained and quarantined, with those the keys left hold, stay within `bound`. -/
structure Owed (bound : Nat) (keys : List String) (acc : DrainReport × Table Batch)
    (b : Backend) : Prop where
  outside : ∀ k ∈ keys, ∀ raw, k ≠ quarantineTag ++ raw
  filed : Filed acc.2
  batched : acc.1.unitsArchived + totalUnits acc.2 = acc.1.unitsDrained
  within : acc.1.unitsDrained + acc.1.unitsQuarantined + (keys.map b.counters.units).sum ≤ bound

/-- One round of the loop over the keys keeps what the cycle owes, and never halts. -/
theorem drainKey_owed (now : Instant) {bound : Nat} (hb : bound ≤ wordMax) (raw : String)
    (keys : List String) (acc : DrainReport × Table Batch) :
    Returns (Owed bound (raw :: keys) acc) (drainKey now acc raw) (Owed bound keys) := by
  intro b ho
  obtain ⟨r, bt⟩ := acc
  have hsum : r.unitsDrained + r.unitsQuarantined +
      (b.counters.units raw + (keys.map b.counters.units).sum) ≤ bound := by
    simpa using ho.within
  have hbat : r.unitsArchived + totalUnits bt = r.unitsDrained := ho.batched
  have hw : Filed bt := ho.filed
  have hfit : r.unitsDrained + r.unitsQuarantined + b.counters.units raw ≤ wordMax := by omega
  obtain ⟨r', bt', b', hrun, hw', harch, htot, hrep, hle⟩ := drainKey_spec now hw hfit
  have hout : ∀ k ∈ keys, ∀ raw', k ≠ quarantineTag ++ raw' :=
    fun k hk => ho.outside k (List.mem_cons_of_mem _ hk)
  -- the keys left lose units, if anything, since none of them is the quarantine key
  have hkeys : (keys.map b'.counters.units).sum ≤ (keys.map b.counters.units).sum :=
    List.sum_le_sum fun k hk => hle k (hout k hk raw)
  rw [hrun]
  refine ⟨(r', bt'), rfl, hout, hw', ?_, ?_⟩
  · dsimp only
    omega
  · dsimp only
    omega

/-! ### The loop over the batches -/

/-- What archiving the batches `rest` still owes: the units drained and quarantined stay within
`bound`, and the units archived, with those of the batches left, within the units drained. -/
structure Archiving (bound : Nat) (rest : List (String × Batch)) (r : DrainReport) : Prop where
  within : r.unitsDrained + r.unitsQuarantined ≤ bound
  archived : r.unitsArchived + (rest.map (·.2.units)).sum ≤ r.unitsDrained

/-- An upload never halts. -/
theorem uploadFrom_returns {F : Prop} (d : Drainer) (bt : Batch) :
    ∀ left attempt, Returns (fun _ => F) (d.uploadFrom bt left attempt) (fun _ _ => F) := by
  intro left
  induction left with
  | zero => exact fun _ => returns_pure fun _ h => h
  | succ left ih =>
    intro attempt
    refine (putObject_returns _ _ _).bind fun x => ?_
    split
    · exact returns_pure fun _ h => h
    · exact ih _
    · exact returns_pure fun _ h => h

/-- Putting a batch back never halts and leaves the unit sums of the report as they were. -/
theorem restore_returns {F : Prop} (bt : Batch) (r : DrainReport) :
    Returns (fun _ => F) (restore bt r) (fun r' _ => F ∧ r'.unitSums = r.unitSums) := by
  have hentry : ∀ (e : Entry) (es : List Entry) (acc : DrainReport),
      Returns (fun _ => F ∧ acc.unitSums = r.unitSums) (restoreEntry bt acc e)
        (fun acc' _ => F ∧ acc'.unitSums = r.unitSums) := by
    intro e es acc
    refine (incr_returns _ _).bind fun x => ?_
    split
    · exact returns_pure fun _ h => h
    · exact returns_pure fun _ h => h
  have hloop := (returns_foldlM (fun _ acc _ => F ∧ acc.unitSums = r.unitSums) hentry bt.entries
    r).mono (fun _ h => ⟨h, rfl⟩) (fun _ _ h => h)
  exact hloop.bind fun r' => returns_pure fun _ h => h

/-- Counting a stored batch whose units fit adds them to the units archived. -/
theorem tally_run_of_le {r : DrainReport} {bt : Batch} (name : String) (b : Backend)
    (h : r.unitsArchived + bt.units ≤ wordMax) :
    (tally r bt name).run.run b =
      (.ok { r with unitsArchived := r.unitsArchived + bt.units, objects := r.objects ++ [name] },
        b) := by
  simp only [tally, Batch.total?_of_le (le_trans (Nat.le_add_left _ _) h), run_bind, run_pure,
    wordSum_run]
  rw [if_neg (by omega)]

/-- One round of the loop over the batches keeps what archiving owes, and never halts. -/
theorem archive_returns (d : Drainer) {bound : Nat} (hb : bound ≤ wordMax)
    (e : String × Batch) (rest : List (String × Batch)) (r : DrainReport) :
    Returns (fun _ => Archiving bound (e :: rest) r) (d.archive r e.2)
      (fun r' _ => Archiving bound rest r') := by
  refine (uploadFrom_returns d e.2 100 0).bind fun x => ?_
  split
  · intro b ha
    have harch := ha.archived
    simp only [List.map_cons, List.sum_cons] at harch
    rw [tally_run_of_le _ _ (by have := ha.within; omega)]
    exact ⟨_, rfl, ha.within, by dsimp only; omega⟩
  · refine (restore_returns e.2 r).mono (fun _ h => h) fun r' _ ⟨ha, hs⟩ => ?_
    simp only [DrainReport.unitSums, Prod.mk.injEq] at hs
    obtain ⟨hd, hq, harc⟩ := hs
    have harch := ha.archived
    simp only [List.map_cons, List.sum_cons] at harch
    exact ⟨by rw [hd, hq]; exact ha.within, by rw [hd, harc]; omega⟩

/-! ### A whole cycle -/

/-- Draining the namespace from a store whose namespace holds at most `bound` units never halts,
and gives a report whose units stay within the bound. -/
theorem drainNamespace_returns (d : Drainer) (now : Instant) {bound : Nat} (hb : bound ≤ wordMax) :
    Returns (fun b => b.namespaceUnits ≤ bound) (d.drainNamespace now)
      (fun r _ => Archiving bound [] r) := by
  intro b hfit
  obtain ⟨x, hrun, hkeys⟩ := scan_namespace b
  simp only [drainNamespace, run_bind, hrun]
  split
  · exact ⟨_, rfl, ⟨by simp, by simp⟩⟩
  · next keys =>
    obtain rfl := hkeys keys rfl
    -- the keys are those of the namespace: nothing drained yet, nothing batched
    have hstart : Owed bound b.namespaceKeys ({ keysScanned := b.namespaceKeys.length }, {}) b :=
      ⟨fun k hk => Backend.ne_quarantine_of_mem_namespaceKeys hk, filed_empty, rfl,
        by simpa [Backend.namespaceUnits] using hfit⟩
    -- the batches then hold all that was drained, none of it archived yet
    have harchive : ∀ acc : DrainReport × Table Batch, Returns (Owed bound [] acc)
        (acc.2.entries.foldlM (fun r e => d.archive r e.2) acc.1)
        (fun r _ => Archiving bound [] r) := by
      intro acc
      refine (returns_foldlM (fun rest r _ => Archiving bound rest r) (archive_returns d hb)
        acc.2.entries acc.1).mono (fun _ ho => ⟨?_, ?_⟩) fun _ _ h => h
      · simpa using ho.within
      · have := ho.batched
        simp only [totalUnits] at this
        omega
    exact ((returns_foldlM (Owed bound) (drainKey_owed now hb) _ _).bind harchive) b hstart

/-- The part of a cycle that holds the lease never halts from a namespace within `bound`. -/
theorem resume_scan_returns (d : Drainer) (now : Instant) {bound : Nat} (hb : bound ≤ wordMax) :
    Returns (fun b => b.namespaceUnits ≤ bound) (d.resume now .scan)
      (fun r _ => Archiving bound [] r) :=
  (drainNamespace_returns d now hb).bind fun _ =>
    (release_returns _ _).bind fun _ => returns_pure fun _ h => h

/-- A skipped cycle reports no units. -/
theorem archiving_skip (bound : Nat) (reason : SkipReason) :
    Archiving bound [] (.skip reason) :=
  ⟨by simp [DrainReport.skip], by simp [DrainReport.skip]⟩

/-- A cycle from a namespace within `bound` halts only when its lease's end cannot be
represented, and otherwise reports units within the bound. -/
theorem cycle_within_lease (d : Drainer) (now : Instant) {bound : Nat} (hb : bound ≤ wordMax)
    (b : Backend) (hfit : b.namespaceUnits ≤ bound) :
    ((∃ h, b.deadline (d.settings.leaseTtl * 1000) = .error h) ∧
        ((d.cycle now).run.run b).1 = .error .deadlineOverflow) ∨
      ∃ r, ((d.cycle now).run.run b).1 = .ok r ∧ Archiving bound [] r := by
  rcases cycle_run_cases d now b with ⟨reason, hr⟩ | ⟨h, hdl, hr⟩ | ⟨t, hr⟩
  · exact .inr ⟨_, by rw [hr], archiving_skip bound reason⟩
  · refine .inl ⟨⟨h, hdl⟩, ?_⟩
    rw [hr, Backend.deadline_eq_error hdl]
  · -- the lease is granted, which leaves the counts as they were
    have hsame : ({ b with counters := b.counters.grant d.settings.leaseName d.holder t } :
        Backend).namespaceUnits = b.namespaceUnits :=
      Backend.namespaceUnits_of_counts (by simp [Counters.grant]) rfl
    obtain ⟨r, hr', ha⟩ := resume_scan_returns d now hb _ (hsame.trans_le hfit)
    exact .inr ⟨r, by rw [hr]; exact hr', ha⟩

theorem cycle_within (d : Drainer) (now : Instant) {bound : Nat} (hb : bound ≤ wordMax)
    (b : Backend) (hfit : b.namespaceUnits ≤ bound) :
    ((d.cycle now).run.run b).1 = .error .deadlineOverflow ∨
      ∃ r, ((d.cycle now).run.run b).1 = .ok r ∧ Archiving bound [] r :=
  (cycle_within_lease d now hb b hfit).imp And.right id

/-- A cycle on a store whose counter namespace holds at most a word of units never halts on a
sum: it halts only when its lease's end cannot be represented, and otherwise its report drains
and quarantines at most the namespace's units, and archives at most what it drained. -/
theorem cycle_sums_fit (d : Drainer) (now : Instant) (b : Backend)
    (hfit : b.namespaceUnits ≤ wordMax) :
    (∀ h, ((d.cycle now).run.run b).1 = .error h → h = .deadlineOverflow) ∧
      ∀ r, ((d.cycle now).run.run b).1 = .ok r →
        r.unitsDrained + r.unitsQuarantined ≤ b.namespaceUnits ∧ r.unitsArchived ≤ r.unitsDrained := by
  rcases cycle_within d now hfit b le_rfl with hh | ⟨r, hr, ha⟩
  · refine ⟨fun h he => ?_, fun r he => ?_⟩
    · rw [hh] at he
      cases he
      rfl
    · rw [hh] at he
      cases he
  · refine ⟨fun h he => ?_, fun r' he => ?_⟩
    · rw [hr] at he
      cases he
    · rw [hr] at he
      cases he
      exact ⟨ha.within, by simpa using ha.archived⟩

/-- A counter holding a whole word is drained without halting on a sum. -/
theorem cycle_sums_fit_full_counter :
    let counts := ({} : Table Count).insert "endpoint:/detail/news:R1/user:U1" (.exact wordMax)
    let b : Backend := { engine := .memory, counters := { counts := counts } }
    b.namespaceUnits ≤ wordMax ∧
      (∀ h, ((Drainer.cycle ⟨{}, .drainer 1⟩ Instant.fixed).run.run b).1 = .error h →
        h = .deadlineOverflow) ∧
      ∀ r, ((Drainer.cycle ⟨{}, .drainer 1⟩ Instant.fixed).run.run b).1 = .ok r →
        r.unitsDrained + r.unitsQuarantined ≤ b.namespaceUnits ∧
          r.unitsArchived ≤ r.unitsDrained := by
  intro counts b
  have hfit : b.namespaceUnits ≤ wordMax := by decide
  exact ⟨hfit, cycle_sums_fit ⟨{}, .drainer 1⟩ Instant.fixed b hfit⟩

/-- Two counters that hold more than a word between them halt the cycle on its sum of drained
units, after it took the second count and before it gave the lease up. -/
theorem drain_sum_overflow_halts :
    let counts := (({} : Table Count).insert "endpoint:/detail/news:R1/user:U1"
      (.exact wordMax)).insert "endpoint:/detail/news:R2/user:U1" (.exact 1)
    let b : Backend := { engine := .memory, counters := { counts := counts } }
    let d : Drainer := ⟨{}, .drainer 1⟩
    b.namespaceUnits = wordMax + 1 ∧
      ((d.cycle Instant.fixed).run.run b).1 = .error .sumOverflow ∧
      ((d.cycle Instant.fixed).run.run b).2.counters.units "endpoint:/detail/news:R2/user:U1" = 0 ∧
      ((d.cycle Instant.fixed).run.run b).2.counters.leases.contains d.settings.leaseName = true := by
  intro counts b d
  decide

end Drainer

end Turnstile
