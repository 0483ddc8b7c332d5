import Turnstile.Proofs.Drain.Outcome

/-!
# The books of a drain report

A report that a cycle returns without being skipped accounts for the whole cycle, on any store
and under any fault switches (`report_balances`). Every scanned key takes exactly one of four
exits (`KeyExit`): quarantined as malformed, found empty, failed to read, or drained with a positive
count that joins its subject's batch. Every batch, one per subject drained, takes one of two
(`BatchExit`): stored under one of its first hundred names, or put back entry by entry. The
report's counters are the tallies of these exits, which the two loops add up key by key and
batch by batch (`KeysRun`, `BatchesRun`).

The statements are about results only (`StoreOp.Yields`): what the stores answer is left open,
and a cycle that halts on a sum gives no report to account for.
-/

namespace Turnstile

open Drainer Archive StoreOp

namespace StoreOp

variable {α β : Type}

/-- A sequence gives what its continuations give from the results its first part gives. -/
theorem Yields.bind_of {Q : α → Prop} {P : β → Prop} {x : StoreOp α} {f : α → StoreOp β}
    (hx : Yields Q x) (hf : ∀ a, Q a → Yields P (f a)) : Yields P (x >>= f) := by
  intro b a b' hr
  rw [run_bind] at hr
  rcases hxr : x.run.run b with ⟨_ | a0, b0⟩
  · rw [hxr] at hr
    cases hr
  · rw [hxr] at hr
    exact hf a0 (hx b a0 b0 hxr) b0 a b' hr

theorem Yields.mono {P Q : α → Prop} {x : StoreOp α} (hx : Yields P x)
    (h : ∀ a, P a → Q a) : Yields Q x :=
  fun b a b' hr => h a (hx b a b' hr)

/-- A report sum that does not halt is the sum. -/
theorem yields_wordSum (a c : Nat) : Yields (· = a + c) (wordSum a c) := by
  intro b s b' hr
  rw [wordSum_run] at hr
  split at hr
  · cases hr
  · exact (Except.ok.inj (Prod.mk.inj hr).1).symm

end StoreOp

namespace DrainReport

/-- How many keys took one of the four exits of the key loop. -/
def exits (r : DrainReport) : Nat := r.malformedKeys + r.keysDrained + r.emptyKeys + r.readFailures

/-- The fields the key loop leaves alone. -/
def archiveSide (r : DrainReport) : Nat × Nat × List String × Nat × Nat :=
  (r.keysScanned, r.unitsArchived, r.objects, r.batchesRestored, r.restoreFailures)

/-- The fields the batch loop leaves alone. -/
def keySide (r : DrainReport) : Nat × Nat × Nat × Nat × Nat × Nat × Nat :=
  (r.keysScanned, r.keysDrained, r.malformedKeys, r.unitsQuarantined, r.emptyKeys, r.readFailures,
    r.unitsDrained)

end DrainReport

namespace Drainer

/-! ### The loop over the keys -/

/-- How one scanned key leaves the key loop: quarantined as malformed with the units moved, found
empty or gone, failed to read, or drained: a positive count taken from the key of a pair, which
joins the batch of the pair's subject. -/
inductive KeyExit (now : Instant) (raw : String) (acc : DrainReport × Table Batch) :
    DrainReport × Table Batch → Prop
  | malformed (q : Nat) : KeyExit now raw acc
      ({ acc.1 with
          malformedKeys := acc.1.malformedKeys + 1
          unitsQuarantined := acc.1.unitsQuarantined + q }, acc.2)
  | empty : KeyExit now raw acc ({ acc.1 with emptyKeys := acc.1.emptyKeys + 1 }, acc.2)
  | unread : KeyExit now raw acc ({ acc.1 with readFailures := acc.1.readFailures + 1 }, acc.2)
  | drained (key : CounterKey) (c : Nat) (hkey : key.encode = raw) (hc : 0 < c) :
      KeyExit now raw acc
        ({ acc.1 with
            keysDrained := acc.1.keysDrained + 1
            unitsDrained := acc.1.unitsDrained + c }, addEntry acc.2 key c now)

/-- Draining a key takes one of the four exits. -/
theorem drainKey_exit (now : Instant) (acc : DrainReport × Table Batch) (raw : String) :
    Yields (KeyExit now raw acc) (drainKey now acc raw) := by
  obtain ⟨r, batches⟩ := acc
  unfold drainKey
  dsimp only
  split
  · exact Yields.bind fun q => (yields_wordSum _ _).bind_of fun _ h => by
      subst h
      exact yields_pure (.malformed q)
  · next key hkey =>
    refine Yields.bind fun x => ?_
    split
    · next c =>
      split
      · exact yields_pure .empty
      · next hc =>
        exact (yields_wordSum _ _).bind_of fun _ h => by
          subst h
          exact yields_pure
            (.drained key c (CounterKey.encode_of_decode hkey) (Nat.pos_of_ne_zero hc))
    · exact yields_pure .empty
    · exact yields_pure .unread

/-- A run of the key loop: the keys one after another, each taking an exit. -/
inductive KeysRun (now : Instant) :
    List String → DrainReport × Table Batch → DrainReport × Table Batch → Prop
  | nil (acc : DrainReport × Table Batch) : KeysRun now [] acc acc
  | cons {raw : String} {keys : List String} {acc mid acc' : DrainReport × Table Batch} :
      KeyExit now raw acc mid → KeysRun now keys mid acc' → KeysRun now (raw :: keys) acc acc'

/-- The key loop gives the end of one of its runs. -/
theorem foldlM_drainKey_run (now : Instant) :
    ∀ (keys : List String) (acc : DrainReport × Table Batch),
      Yields (KeysRun now keys acc) (keys.foldlM (drainKey now) acc)
  | [], acc => yields_pure (.nil acc)
  | raw :: keys, acc => by
    rw [List.foldlM_cons]
    exact (drainKey_exit now acc raw).bind_of fun mid hmid =>
      (foldlM_drainKey_run now keys mid).mono fun _ hrun => .cons hmid hrun

/-- The batches made from drained pairs and their counts, one after another. -/
def fileAll (now : Instant) (drained : List (CounterKey × Nat)) (t : Table Batch) : Table Batch :=
  drained.foldl (fun t p => addEntry t p.1 p.2 now) t

/-- What a run of the key loop did: it took the positive counts of `drained`, pairs whose keys
are keys of the loop in loop order, filed them into the batches, gave every key one exit and left
the fields of the batch loop alone. -/
structure KeysLedger (now : Instant) (keys : List String) (acc acc' : DrainReport × Table Batch)
    (drained : List (CounterKey × Nat)) : Prop where
  from_keys : (drained.map (·.1.encode)).Sublist keys
  positive : ∀ p ∈ drained, 0 < p.2
  exits : acc'.1.exits = acc.1.exits + keys.length
  keys_drained : acc'.1.keysDrained = acc.1.keysDrained + drained.length
  units_drained : acc'.1.unitsDrained = acc.1.unitsDrained + (drained.map (·.2)).sum
  filed : acc'.2 = fileAll now drained acc.2
  untouched : acc'.1.archiveSide = acc.1.archiveSide

/-- Every run of the key loop keeps its books: by induction on the run, one exit at a time. -/
theorem KeysRun.ledger {now : Instant} {keys : List String} {acc acc' : DrainReport × Table Batch}
    (h : KeysRun now keys acc acc') : ∃ drained, KeysLedger now keys acc acc' drained := by
  induction h with
  | nil acc =>
    exact ⟨[], ⟨List.Sublist.slnil, by simp, by simp, by simp, by simp, rfl, rfl⟩⟩
  | @cons raw keys acc mid acc' hx _ ih =>
    obtain ⟨drained, hl⟩ := ih
    cases hx with
    | drained key c hkey hc =>
      refine ⟨(key, c) :: drained, ⟨?_, ?_, ?_, ?_, ?_, hl.filed, hl.untouched⟩⟩
      · exact hkey ▸ hl.from_keys.cons_cons _
      · intro p hp
        rcases List.mem_cons.1 hp with rfl | hp
        · exact hc
        · exact hl.positive p hp
      · rw [hl.exits]
        simp only [DrainReport.exits, List.length_cons]
        omega
      · rw [hl.keys_drained]
        simp only [List.length_cons]
        omega
      · rw [hl.units_drained]
        simp only [List.map_cons, List.sum_cons]
        omega
    | malformed q | empty | unread =>
      refine ⟨drained, ⟨hl.from_keys.cons _, hl.positive, ?_, hl.keys_drained, hl.units_drained,
        hl.filed, hl.untouched⟩⟩
      rw [hl.exits]
      simp only [DrainReport.exits, List.length_cons]
      omega

/-! ### The batches of the drained pairs -/

/-- The batch of a subject made from drained pairs: an entry per pair of the subject, in drain
order, all stamped with the cycle's moment. -/
def batchFor (now : Instant) (drained : List (CounterKey × Nat)) (s : Segment) : Batch :=
  ⟨s, now, (drained.filter (·.1.subject = s)).map fun p => ⟨p.1.resource, p.2, now⟩⟩

variable {now : Instant}

theorem fileAll_append (drained : List (CounterKey × Nat)) (p : CounterKey × Nat)
    (t : Table Batch) :
    fileAll now (drained ++ [p]) t = addEntry (fileAll now drained t) p.1 p.2 now := by
  simp [fileAll, List.foldl_append]

theorem filed_fileAll : ∀ (drained : List (CounterKey × Nat)) {t : Table Batch}, Filed t →
    Filed (fileAll now drained t)
  | [], _, ht => ht
  | p :: drained, _, ht => filed_fileAll drained (ht.addEntry p.1 p.2 now)

theorem totalUnits_fileAll : ∀ (drained : List (CounterKey × Nat)) (t : Table Batch),
    totalUnits (fileAll now drained t) = totalUnits t + (drained.map (·.2)).sum
  | [], _ => by simp [fileAll]
  | p :: drained, t => by
    rw [fileAll, List.foldl_cons, ← fileAll, totalUnits_fileAll drained,
      totalUnits_addEntry, List.map_cons, List.sum_cons]
    omega

/-- Reading a subject's batch from the batches of drained pairs: its batch when a pair of the
subject was drained, none otherwise. -/
theorem get?_fileAll (drained : List (CounterKey × Nat)) (s : Segment) :
    (fileAll now drained {}).get? s.text =
      if s ∈ drained.map (·.1.subject) then some (batchFor now drained s) else none := by
  induction drained using List.reverseRecOn with
  | nil => simp [fileAll, Table.get?]
  | append_singleton drained p ih =>
    rw [fileAll_append]
    unfold addEntry
    by_cases hs : p.1.subject = s
    · -- the pair's own subject: its batch gains the pair's entry at the end
      subst hs
      have hmem : p.1.subject ∈ (drained ++ [p]).map (·.1.subject) := by simp
      rw [Table.get?_insert_self, ih, if_pos hmem]
      congr 1
      split
      · simp [batchFor, Batch.push, List.filter_append]
      · next hnot =>
        have hnil : drained.filter (·.1.subject = p.1.subject) = [] :=
          List.filter_eq_nil_iff.2 fun q hq h => hnot (List.mem_map.2 ⟨q, hq, by simpa using h⟩)
        simp [batchFor, Batch.push, Batch.empty, List.filter_append, hnil]
    · have hne : p.1.subject.text ≠ s.text := fun h => hs (Segment.eq_of_text_eq h)
      have hmem :
          s ∈ (drained ++ [p]).map (·.1.subject) ↔ s ∈ drained.map (·.1.subject) := by
        simp only [List.map_append, List.mem_append, List.map_cons, List.map_nil,
          List.mem_singleton]
        exact or_iff_left fun h => hs h.symm
      have hbatch : batchFor now (drained ++ [p]) s = batchFor now drained s := by
        simp [batchFor, List.filter_append, hs]
      rw [Table.get?_insert_of_ne _ _ hne, ih, hbatch]
      exact if_congr hmem.symm rfl rfl

/-- Every batch made from drained pairs is its subject's, for a subject drained. -/
theorem mem_fileAll {drained : List (CounterKey × Nat)} {e : String × Batch}
    (he : e ∈ (fileAll now drained {}).entries) :
    e.2 = batchFor now drained e.2.subject ∧ e.2.subject ∈ drained.map (·.1.subject) := by
  have hf : Filed (fileAll now drained {}) := filed_fileAll drained filed_empty
  have hget := Table.get?_of_mem he
  rw [← hf e he, get?_fileAll] at hget
  split at hget
  · exact ⟨(Option.some.inj hget).symm, ‹_›⟩
  · cases hget

/-- Every subject drained has a batch. -/
theorem subject_mem_fileAll {drained : List (CounterKey × Nat)} {s : Segment}
    (hs : s ∈ drained.map (·.1.subject)) :
    s ∈ (fileAll now drained {}).entries.map (·.2.subject) := by
  have hget : (fileAll now drained {}).get? s.text = _ := get?_fileAll drained s
  rw [if_pos hs] at hget
  exact List.mem_map.2 ⟨_, Table.mem_of_get? hget, rfl⟩

/-- The batches of drained pairs come in strictly ascending subject order. -/
theorem ascending_fileAll (drained : List (CounterKey × Nat)) :
    ((fileAll now drained {}).entries.map (·.2.subject.text)).Pairwise (· < ·) := by
  have hf : Filed (fileAll now drained {}) := filed_fileAll drained filed_empty
  rw [List.pairwise_map]
  exact (fileAll now drained {}).ascending.imp_of_mem fun ha hb hab => by rwa [hf _ ha, hf _ hb]

/-- There is one batch per subject drained. -/
theorem length_fileAll (drained : List (CounterKey × Nat)) :
    (fileAll now drained {}).entries.length = (drained.map (·.1.subject)).dedup.length := by
  have hnd : ((fileAll now drained {}).entries.map (·.2.subject)).Nodup := by
    rw [List.Nodup, List.pairwise_map]
    have hasc : ((fileAll now drained {}).entries.map (·.2.subject.text)).Pairwise (· < ·) :=
      ascending_fileAll drained
    exact (List.pairwise_map.1 hasc).imp fun h e =>
      ne_of_lt h (congrArg Segment.text e)
  -- the subjects of the batches are those drained, each once
  have hperm : ((fileAll now drained {}).entries.map (·.2.subject)).Perm
      (drained.map (·.1.subject)).dedup := by
    refine (List.perm_ext_iff_of_nodup hnd (List.nodup_dedup _)).2 fun s => ?_
    rw [List.mem_dedup]
    refine ⟨fun h => ?_, subject_mem_fileAll⟩
    obtain ⟨e, he, rfl⟩ := List.mem_map.1 h
    exact (mem_fileAll he).2
  simpa using hperm.length_eq

/-! ### The loop over the batches -/

/-- A total that fits is the sum of the counts after the partial sum it starts from. -/
theorem foldlM_total_eq : ∀ (es : List Entry) (acc : Nat) {t : Nat},
    es.foldlM (fun acc e => if acc + e.count < wordBound then some (acc + e.count) else none) acc =
      some t → t = acc + (es.map (·.count)).sum
  | [], acc, t, h => by simpa using (Option.some.inj h).symm
  | e :: es, acc, t, h => by
    rw [List.foldlM_cons] at h
    split at h
    · rw [foldlM_total_eq es (acc + e.count) h, List.map_cons, List.sum_cons, Nat.add_assoc]
    · cases h

/-- The total of a batch, when it has one, is its units. -/
theorem Batch.total?_eq_units {bt : Batch} {t : Nat} (h : bt.total? = some t) : t = bt.units := by
  simpa [Batch.units] using foldlM_total_eq bt.entries 0 h

/-- How one batch leaves the batch loop: stored under one of its first hundred names, which adds
its units to those archived and the name to the objects, or put back entry by entry, with at most
one failure per entry. -/
inductive BatchExit (bt : Batch) (r : DrainReport) : DrainReport → Option String → Prop
  | stored (a : Nat) (ha : a < 100) : BatchExit bt r
      { r with
        unitsArchived := r.unitsArchived + bt.units
        objects := r.objects ++ [bt.objectName a] } (some (bt.objectName a))
  | restored (fails : Nat) (hf : fails ≤ bt.entries.length) : BatchExit bt r
      { r with
        restoreFailures := r.restoreFailures + fails
        batchesRestored := r.batchesRestored + 1 } none

theorem yields_throw {α : Type} {P : α → Prop} (h : Halt) : Yields P (throw h : StoreOp α) :=
  fun b a b' hr => by cases hr

/-- An upload that succeeds names the batch under one of the attempts it tried. -/
theorem uploadFrom_name (d : Drainer) (bt : Batch) : ∀ (left attempt : Nat),
    Yields (fun x => ∀ name, x = .ok name →
      ∃ a, attempt ≤ a ∧ a < attempt + left ∧ name = bt.objectName a)
      (d.uploadFrom bt left attempt)
  | 0, _ => yields_pure fun _ h => by cases h
  | left + 1, attempt => by
    rw [uploadFrom]
    refine Yields.bind fun x => ?_
    split
    · exact yields_pure fun name h => ⟨attempt, le_rfl, by omega, (Except.ok.inj h).symm⟩
    · refine (uploadFrom_name d bt left (attempt + 1)).mono fun x hx name h => ?_
      obtain ⟨a, h1, h2, rfl⟩ := hx name h
      exact ⟨a, by omega, by omega, rfl⟩
    · exact yields_pure fun _ h => by cases h

/-- Counting a stored batch adds its units to those archived and its name to the objects. -/
theorem tally_stored (r : DrainReport) (bt : Batch) (name : String) :
    Yields
      (· = { r with unitsArchived := r.unitsArchived + bt.units, objects := r.objects ++ [name] })
      (tally r bt name) := by
  unfold tally
  dsimp only
  split
  · next t h =>
    obtain rfl := Batch.total?_eq_units h
    rw [pure_bind]
    exact (yields_wordSum _ _).bind_of fun u hu => by
      subst hu
      exact yields_pure rfl
  · exact (yields_throw (P := fun _ => False) _).bind_of fun _ h => h.elim

/-- Putting an entry back fails at most once. -/
theorem restoreEntry_fails (bt : Batch) (r : DrainReport) (e : Entry) :
    Yields (fun r' => ∃ j ≤ 1, r' = { r with restoreFailures := r.restoreFailures + j })
      (restoreEntry bt r e) := by
  unfold restoreEntry
  refine Yields.bind fun x => ?_
  split
  · exact yields_pure ⟨0, by omega, rfl⟩
  · exact yields_pure ⟨1, le_rfl, rfl⟩

/-- Putting entries back fails at most once per entry, and changes nothing else in the report. -/
theorem foldlM_restoreEntry_fails (bt : Batch) : ∀ (es : List Entry) (r : DrainReport),
    Yields (fun r' => ∃ k ≤ es.length, r' = { r with restoreFailures := r.restoreFailures + k })
      (es.foldlM (restoreEntry bt) r)
  | [], r => yields_pure ⟨0, le_rfl, rfl⟩
  | e :: es, r => by
    rw [List.foldlM_cons]
    refine (restoreEntry_fails bt r e).bind_of fun mid hmid => ?_
    obtain ⟨j, hj, rfl⟩ := hmid
    refine (foldlM_restoreEntry_fails bt es _).mono fun r' ⟨k, hk, h⟩ => ⟨j + k, ?_, ?_⟩
    · simp only [List.length_cons]
      omega
    · rw [h, Nat.add_assoc]

/-- Archiving a batch takes one of the two exits. -/
theorem archive_exit (d : Drainer) (r : DrainReport) (bt : Batch) :
    Yields (fun r' => ∃ fate, BatchExit bt r r' fate) (d.archive r bt) := by
  unfold archive upload
  refine (uploadFrom_name d bt 100 0).bind_of fun x hx => ?_
  split
  · next name =>
    obtain ⟨a, -, ha, rfl⟩ := hx name rfl
    refine (tally_stored r bt _).mono fun r' h => ?_
    subst h
    exact ⟨_, .stored a (by omega)⟩
  · unfold restore
    refine (foldlM_restoreEntry_fails bt bt.entries r).bind_of fun mid hmid => ?_
    obtain ⟨k, hk, rfl⟩ := hmid
    exact yields_pure ⟨none, .restored k hk⟩

/-- A run of the batch loop: the batches one after another, each taking an exit. -/
inductive BatchesRun :
    List Batch → DrainReport → DrainReport → List (Batch × Option String) → Prop
  | nil (r : DrainReport) : BatchesRun [] r r []
  | cons {bt : Batch} {bts : List Batch} {r mid r' : DrainReport} {fate : Option String}
      {fates : List (Batch × Option String)} :
      BatchExit bt r mid fate → BatchesRun bts mid r' fates →
        BatchesRun (bt :: bts) r r' ((bt, fate) :: fates)

/-- The batch loop gives the end of one of its runs. -/
theorem foldlM_archive_run (d : Drainer) : ∀ (l : List (String × Batch)) (r : DrainReport),
    Yields (fun r' => ∃ fates, BatchesRun (l.map (·.2)) r r' fates)
      (l.foldlM (fun r e => d.archive r e.2) r)
  | [], r => yields_pure ⟨[], .nil r⟩
  | e :: l, r => by
    rw [List.foldlM_cons]
    refine (archive_exit d r e.2).bind_of fun mid ⟨fate, hx⟩ => ?_
    exact (foldlM_archive_run d l mid).mono fun r' ⟨fates, hrun⟩ => ⟨_, .cons hx hrun⟩

/-- What a run of the batch loop did: each batch of `bts` has its fate in `fates`, the name it was
stored under or `none` when it was put back; the stored ones add their units to those archived
and their names to the objects, in order, the others count as restored with at most one failure
per entry; the fields of the key loop stay alone. -/
structure BatchesLedger (bts : List Batch) (r r' : DrainReport)
    (fates : List (Batch × Option String)) : Prop where
  batches : fates.map (·.1) = bts
  archived :
    r'.unitsArchived = r.unitsArchived + ((fates.filter (·.2.isSome)).map (·.1.units)).sum
  objects : r'.objects = r.objects ++ fates.filterMap (·.2)
  restored : r'.batchesRestored = r.batchesRestored + (fates.filter (·.2 = none)).length
  failures : r'.restoreFailures ≤
    r.restoreFailures + ((fates.filter (·.2 = none)).map (·.1.entries.length)).sum
  names : ∀ p ∈ fates, ∀ name ∈ p.2, ∃ a < 100, name = p.1.objectName a
  untouched : r'.keySide = r.keySide

/-- Every run of the batch loop keeps its books: by induction on the run, one exit at a time. -/
theorem BatchesRun.ledger {bts : List Batch} {r r' : DrainReport}
    {fates : List (Batch × Option String)} (h : BatchesRun bts r r' fates) :
    BatchesLedger bts r r' fates := by
  induction h with
  | nil r => exact ⟨rfl, by simp, by simp, by simp, by simp, by simp, rfl⟩
  | @cons bt bts r mid r' fate fates hx _ ih =>
    cases hx with
    | stored a ha =>
      refine ⟨by simp [ih.batches], ?_, ?_, ?_, ?_, ?_, ih.untouched⟩
      · rw [ih.archived]
        simp only [List.filter_cons, Option.isSome_some, ↓reduceIte, List.map_cons, List.sum_cons]
        omega
      · simp [ih.objects]
      · simpa using ih.restored
      · simpa using ih.failures
      · intro p hp name hn
        rcases List.mem_cons.1 hp with rfl | hp
        · exact ⟨a, ha, (Option.some.inj hn).symm⟩
        · exact ih.names p hp name hn
    | restored k hk =>
      refine ⟨by simp [ih.batches], ?_, ?_, ?_, ?_, ?_, ih.untouched⟩
      · simpa using ih.archived
      · simpa using ih.objects
      · rw [ih.restored]
        simp only [List.filter_cons, decide_true, ↓reduceIte, List.length_cons]
        omega
      · have := ih.failures
        simp only at this
        simp only [List.filter_cons, decide_true, ↓reduceIte, List.map_cons, List.sum_cons]
        omega
      · intro p hp name hn
        rcases List.mem_cons.1 hp with rfl | hp
        · cases hn
        · exact ih.names p hp name hn

/-- The batches stored and those put back are all the batches. -/
theorem stored_add_restored (fates : List (Batch × Option String)) :
    (fates.filterMap (·.2)).length + (fates.filter (·.2 = none)).length = fates.length := by
  rw [List.length_filterMap_eq_countP, ← List.countP_eq_length_filter,
    List.length_eq_countP_add_countP (fun p : Batch × Option String => p.2.isSome) (l := fates)]
  congr 1
  exact List.countP_congr fun p _ => by cases p.2 <;> simp

/-- The units of the stored batches and of those put back make up the units of all batches. -/
theorem units_stored_add_restored (fates : List (Batch × Option String)) :
    ((fates.filter (·.2.isSome)).map (·.1.units)).sum +
      ((fates.filter (·.2 = none)).map (·.1.units)).sum = (fates.map (·.1.units)).sum := by
  simpa using List.sum_map_filter_add_sum_map_filter_not
    (fun p : Batch × Option String => p.2.isSome) (·.1.units) fates

/-! ### A whole cycle -/

/-- The books of a cycle's report. `drained` lists the pairs whose keys the cycle took a positive
count from, with the counts, in scan order; `fates` lists its batches in subject order, each with
the name it was stored under, or `none` when it was put back. -/
structure Books (scanned : List String) (now : Instant) (r : DrainReport)
    (drained : List (CounterKey × Nat)) (fates : List (Batch × Option String)) : Prop where
  /-- Every scanned key took exactly one of the four exits. -/
  exits : r.keysScanned = r.malformedKeys + r.keysDrained + r.emptyKeys + r.readFailures
  from_scan : (drained.map (·.1.encode)).Sublist scanned
  positive : ∀ p ∈ drained, 0 < p.2
  keys_drained : r.keysDrained = drained.length
  units_drained : r.unitsDrained = (drained.map (·.2)).sum
  /-- One batch per subject drained, in ascending subject order, each with the subject's entries. -/
  ascending : (fates.map (·.1.subject.text)).Pairwise (· < ·)
  subjects : ∀ s, s ∈ fates.map (·.1.subject) ↔ s ∈ drained.map (·.1.subject)
  batches : ∀ p ∈ fates, p.1 = batchFor now drained p.1.subject
  /-- The units drained are those archived and those of the batches put back. -/
  units_split :
    r.unitsDrained = r.unitsArchived + ((fates.filter (·.2 = none)).map (·.1.units)).sum
  /-- Every subject drained has its batch stored or put back. -/
  batches_split : r.objects.length + r.batchesRestored = (drained.map (·.1.subject)).dedup.length
  /-- The objects are the names of the stored batches, in subject order. -/
  objects : r.objects = fates.filterMap (·.2)
  names : ∀ p ∈ fates, ∀ name ∈ p.2, ∃ a < 100, name = p.1.objectName a
  restore_failures :
    r.restoreFailures ≤ ((fates.filter (·.2 = none)).map (·.1.entries.length)).sum

/-- A report of a cycle whose scan failed keeps empty books. -/
theorem books_empty (scanned : List String) (now : Instant) : Books scanned now {} [] [] :=
  ⟨rfl, List.nil_sublist _, by simp, rfl, rfl, List.Pairwise.nil, by simp, by simp, rfl, rfl, rfl,
    by simp, le_rfl⟩

/-- A run of the key loop from the scanned keys followed by a run of the batch loop over the
batches it made keeps the books of the cycle. -/
theorem books_of_runs {keys : List String} {r₁ r : DrainReport} {t : Table Batch}
    {fates : List (Batch × Option String)}
    (hkeys : KeysRun now keys ({ keysScanned := keys.length }, {}) (r₁, t))
    (hbatches : BatchesRun (t.entries.map (·.2)) r₁ r fates) :
    ∃ drained, Books keys now r drained fates := by
  obtain ⟨drained, hk⟩ := hkeys.ledger
  have hb := hbatches.ledger
  have hexits := hk.exits
  have hside := hk.untouched
  have hkeep := hb.untouched
  simp only [DrainReport.exits, DrainReport.archiveSide, DrainReport.keySide,
    Prod.mk.injEq] at hexits hside hkeep
  have ht : t = fileAll now drained {} := hk.filed
  -- the fates' batches are the batches the key loop made, in the same order
  have hmap : ∀ {β : Type} (g : Batch → β),
      fates.map (fun p => g p.1) = (fileAll now drained {}).entries.map (fun e => g e.2) :=
    fun g => by
      have := congrArg (List.map g) hb.batches
      simp only [List.map_map, ht] at this
      exact this
  have hunits : (fates.map (·.1.units)).sum = (drained.map (·.2)).sum := by
    rw [hmap (·.units)]
    have htotal : totalUnits (fileAll now drained {}) = totalUnits {} + (drained.map (·.2)).sum :=
      totalUnits_fileAll drained {}
    simpa [totalUnits] using htotal
  refine ⟨drained,
    { exits := by omega
      from_scan := hk.from_keys
      positive := hk.positive
      keys_drained := by simpa [hkeep] using hk.keys_drained
      units_drained := by simpa [hkeep] using hk.units_drained
      ascending := ?ascending
      subjects := ?subjects
      batches := ?batches
      units_split := ?units_split
      batches_split := ?batches_split
      objects := by simpa [hside] using hb.objects
      names := hb.names
      restore_failures := by simpa [hside] using hb.failures }⟩
  case ascending =>
    rw [hmap (·.subject.text)]
    exact ascending_fileAll drained
  case subjects =>
    intro s
    rw [hmap (·.subject)]
    refine ⟨fun h => ?_, subject_mem_fileAll⟩
    obtain ⟨e, he, rfl⟩ := List.mem_map.1 h
    exact (mem_fileAll he).2
  case batches =>
    intro p hp
    obtain ⟨e, he, hep⟩ := List.mem_map.1 ((hmap id) ▸ List.mem_map_of_mem hp : p.1 ∈ _)
    rw [← hep]
    exact (mem_fileAll he).1
  case units_split =>
    have hsplit := units_stored_add_restored fates
    have hd := hk.units_drained
    have ha := hb.archived
    simp only at hd
    omega
  case batches_split =>
    -- one batch per subject drained, each either stored or put back
    have hcount := stored_add_restored fates
    have hlen : fates.length = (fileAll now drained {}).entries.length := by
      simpa using congrArg List.length (hmap id)
    rw [hb.objects, hb.restored, hside.2.2.1, hside.2.2.2.1, ← length_fileAll, ← hlen]
    simpa using hcount

/-- Draining the namespace keeps the books of the keys the store's namespace holds. -/
theorem drainNamespace_books (d : Drainer) {b b' : Backend} {r : DrainReport}
    (h : (d.drainNamespace now).run.run b = (.ok r, b')) :
    ∃ drained fates, Books b.namespaceKeys now r drained fates := by
  obtain ⟨x, hscan, hkeys⟩ := scan_namespace b
  simp only [drainNamespace, run_bind, hscan] at h
  cases x with
  | error e =>
    -- the scan failed: the report is empty
    obtain ⟨rfl, -⟩ := eq_of_run_pure h
    exact ⟨[], [], books_empty _ now⟩
  | ok keys =>
    rw [← hkeys keys rfl]
    have hy : Yields (fun r => ∃ drained fates, Books keys now r drained fates)
        (keys.foldlM (drainKey now) ({ keysScanned := keys.length }, {}) >>= fun acc =>
          acc.2.entries.foldlM (fun r e => d.archive r e.2) acc.1) :=
      (foldlM_drainKey_run now keys _).bind_of fun acc hrun =>
        (foldlM_archive_run d acc.2.entries acc.1).mono fun _ hb =>
          hb.elim fun fates hb => (books_of_runs hrun hb).elim fun drained hbooks =>
            ⟨drained, fates, hbooks⟩
    exact hy b r b' h

/-- Draining a namespace whose scan fails reports nothing. -/
theorem drainNamespace_scan_error (d : Drainer) {b b' : Backend} {r : DrainReport}
    (h : (d.drainNamespace now).run.run b = (.ok r, b')) {e : StoreError}
    (he : ((scan CounterKey.namespaceText).run.run b).1 = .ok (.error e)) : r = {} := by
  obtain ⟨x, hscan, -⟩ := scan_namespace b
  rw [hscan] at he
  cases he
  simp only [drainNamespace, run_bind, hscan] at h
  exact (eq_of_run_pure h).1

/-- A cycle that is not skipped reports what draining the namespace reported, from a store that
holds the keys the cycle started from and whose scan answers as the cycle's first store did:
taking the lease changes no count and no fault. -/
theorem cycle_drains_namespace (d : Drainer) {b : Backend} {r : DrainReport}
    (hrun : ((d.cycle now).run.run b).1 = .ok r) (hs : r.skipped = none) :
    ∃ b₁ b₂, b₁.namespaceKeys = b.namespaceKeys ∧
      ((scan CounterKey.namespaceText).run.run b₁).1 =
        ((scan CounterKey.namespaceText).run.run b).1 ∧
      (d.drainNamespace now).run.run b₁ = (.ok r, b₂) := by
  rcases cycle_run_cases d now b with ⟨reason, hr⟩ | ⟨h, -, hr⟩ | ⟨t, hr⟩
  · rw [hr] at hrun
    cases hrun
    cases hs
  · rw [hr] at hrun
    cases hrun
  · -- the lease is granted, which leaves the counts as they were
    rw [hr] at hrun
    simp only [resume, run_bind] at hrun
    rcases hdn : (d.drainNamespace now).run.run
        { b with counters := b.counters.grant d.settings.leaseName d.holder t } with ⟨_ | r₁, b₂⟩
    · rw [hdn] at hrun
      cases hrun
    · -- giving the lease up never halts, so the report is the drain's
      rw [hdn] at hrun
      dsimp only at hrun
      have hr₁ : r₁ = r := by
        obtain ⟨x, hx, -⟩ := release_returns (F := True) d.settings.leaseName d.holder b₂ trivial
        rcases hrel : (release d.settings.leaseName d.holder).run.run b₂ with ⟨_ | x', b₃⟩
        · rw [hrel] at hx
          cases hx
        · rw [hrel] at hrun
          exact Except.ok.inj hrun
      exact ⟨{ b with counters := b.counters.grant d.settings.leaseName d.holder t }, b₂, rfl, rfl,
        hr₁ ▸ hdn⟩

/-- A drain cycle's report accounts for the whole cycle, on any store and under any fault
switches: when the cycle returns a report that was not skipped, the report keeps the books of
the keys the counter namespace held (`Books`), and it is the empty report when the scan of the
namespace fails. -/
theorem report_balances (d : Drainer) (now : Instant) (b : Backend) (r : DrainReport)
    (hrun : ((d.cycle now).run.run b).1 = .ok r) (hs : r.skipped = none) :
    (∃ drained fates, Books b.namespaceKeys now r drained fates) ∧
      ∀ e, ((scan CounterKey.namespaceText).run.run b).1 = .ok (.error e) → r = {} := by
  obtain ⟨b₁, b₂, hkeys, hscan, hdn⟩ := cycle_drains_namespace d hrun hs
  refine ⟨hkeys ▸ drainNamespace_books d hdn, fun e he => ?_⟩
  rw [← hscan] at he
  exact drainNamespace_scan_error d hdn he

/-- A cycle over a pair's key and a malformed key, whose batch finds no bucket and is put back,
keeps its books. -/
theorem report_balances_restored_batch :
    let counts := (({} : Table Count).insert "endpoint:/detail/news:R1/user:U1" (.exact 3)).insert
      "endpoint:/detail/news:R2" (.exact 2)
    let b : Backend := { engine := .memory, counters := { counts := counts } }
    let d : Drainer := ⟨{}, .drainer 1⟩
    let r : DrainReport :=
      { keysScanned := 2, keysDrained := 1, malformedKeys := 1, unitsQuarantined := 2,
        unitsDrained := 3, batchesRestored := 1 }
    ((d.cycle Instant.fixed).run.run b).1 = .ok r ∧ r.skipped = none ∧
      (∃ drained fates, Books b.namespaceKeys Instant.fixed r drained fates) ∧
      ∀ e, ((scan CounterKey.namespaceText).run.run b).1 = .ok (.error e) → r = {} := by
  intro counts b d r
  have hrun : ((d.cycle Instant.fixed).run.run b).1 = .ok r := by decide +kernel
  exact ⟨hrun, rfl, report_balances d Instant.fixed b r hrun rfl⟩

end Drainer

end Turnstile
