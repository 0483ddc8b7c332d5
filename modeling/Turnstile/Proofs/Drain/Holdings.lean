import Mathlib
import Turnstile.Proofs.Drain.Steps
import Turnstile.Proofs.KeyCodec
import Turnstile.Proofs.Store.TableSums
import Turnstile.Proofs.Store.Run

/-!
# Units held by a drain cycle

A cycle takes units out of their counters and holds them until they are
archived in an object or put back. `Phase.held k` counts the units of counter
key `k` that a cycle holds at a phase: those in its batches while it drains,
those of the batch it uploads and of the batches still waiting, and the
entries it has not yet put back while it restores. A batch is stored under a
name that starts with its subject and a `/`, so the archived units of a key
are read off the objects whose name starts with the key's subject
(`archivedUnits`).

One step moves units between the counters, the cycle and the archive without
losing any (`advance_balanced`), provided it does not halt and a restore's
increment is taken without saturating. The other counters a cycle writes, a
quarantine key and a malformed key put back, are no counter keys at all.
-/

namespace Turnstile

theorem Segment.eq_of_text_eq {a b : Segment} (h : a.text = b.text) : a = b := by
  cases a
  cases b
  simp only at h
  subst h
  rfl

namespace Archive

/-- The units that entries record for a resource. -/
def entryUnits (r : Segment) (es : List Entry) : Nat :=
  ((es.filter (·.resource = r)).map (·.count)).sum

@[simp] theorem entryUnits_nil (r : Segment) : entryUnits r [] = 0 :=
  rfl

@[simp] theorem entryUnits_cons (r : Segment) (e : Entry) (es : List Entry) :
    entryUnits r (e :: es) = (if e.resource = r then e.count else 0) + entryUnits r es := by
  by_cases h : e.resource = r <;> simp [entryUnits, h]

theorem entryUnits_append (r : Segment) (es : List Entry) (e : Entry) :
    entryUnits r (es ++ [e]) = entryUnits r es + (if e.resource = r then e.count else 0) := by
  by_cases h : e.resource = r <;> simp [entryUnits, List.filter_append, h]

/-- The units a batch holds for a counter key: those of the key's resource, when the batch is
the key's subject's. -/
def Batch.unitsOf (b : Batch) (k : CounterKey) : Nat :=
  if b.subject = k.subject then entryUnits k.resource b.entries else 0

theorem Batch.unitsOf_push (b : Batch) (e : Entry) (k : CounterKey) :
    (b.push e).unitsOf k =
      b.unitsOf k + (if b.subject = k.subject ∧ e.resource = k.resource then e.count else 0) := by
  by_cases hs : b.subject = k.subject <;> by_cases hr : e.resource = k.resource <;>
    simp [unitsOf, push, entryUnits_append, hs, hr]

theorem Batch.unitsOf_cons (b : Batch) (e : Entry) (es : List Entry) (k : CounterKey) :
    { b with entries := e :: es }.unitsOf k =
      (if b.subject = k.subject ∧ e.resource = k.resource then e.count else 0) +
        { b with entries := es }.unitsOf k := by
  by_cases hs : b.subject = k.subject <;> by_cases hr : e.resource = k.resource <;>
    simp [unitsOf, hs, hr]

@[simp] theorem Batch.unitsOf_empty (s : Segment) (t : Instant) (k : CounterKey) :
    (Batch.empty s t).unitsOf k = 0 := by
  unfold unitsOf
  split <;> rfl

/-- The units named batches hold for a counter key. -/
def batchUnits (l : List (String × Batch)) (k : CounterKey) : Nat :=
  (l.map (·.2.unitsOf k)).sum

@[simp] theorem batchUnits_nil (k : CounterKey) : batchUnits [] k = 0 :=
  rfl

@[simp] theorem batchUnits_cons (e : String × Batch) (l : List (String × Batch)) (k : CounterKey) :
    batchUnits (e :: l) k = e.2.unitsOf k + batchUnits l k :=
  List.sum_cons

/-- The units of a key in stored objects: the entries of its resource in the objects whose name
starts with its subject and a `/`. -/
def archivedUnits (l : List (String × Batch)) (k : CounterKey) : Nat :=
  (l.map fun e => if (k.subject.text ++ "/").toList <+: e.1.toList then
    entryUnits k.resource e.2.entries else 0).sum

/-- An object name is the batch's subject, a `/`, and the rest of the name. -/
theorem objectName_toList (b : Batch) (a : Nat) :
    ∃ rest, (b.objectName a).toList = b.subject.text.toList ++ '/' :: rest := by
  have hslash : ("/detail-log-" : String).toList = '/' :: "detail-log-".toList := by decide
  unfold Batch.objectName Naming.archiveObject
  generalize Naming.fields b.drainedAt = x
  obtain ⟨y, mo, d, h, mi, s⟩ := x
  simp only [String.toList_append, hslash, List.append_assoc, List.cons_append]
  exact ⟨_, rfl⟩

/-- Two slash-free texts followed by a slash agree when one of the results is a prefix of
the other. -/
theorem eq_of_prefix_slash {u w x : List Char} (hu : '/' ∉ u) (hw : '/' ∉ w)
    (h : u ++ ['/'] <+: w ++ '/' :: x) : u = w := by
  obtain ⟨t, ht⟩ := h
  have hsplit := congrArg (List.splitOn '/') ht
  rw [List.append_assoc, List.singleton_append, List.splitOn_append_cons_self_of_not_mem hu,
    List.splitOn_append_cons_self_of_not_mem hw] at hsplit
  exact (List.cons.inj hsplit).1

/-- An object of a batch has a name that starts with a subject and a `/` exactly when the batch
is that subject's. -/
theorem prefix_objectName_iff (b : Batch) (a : Nat) (s : Segment) :
    (s.text ++ "/").toList <+: (b.objectName a).toList ↔ b.subject = s := by
  obtain ⟨rest, hname⟩ := objectName_toList b a
  have hs : (s.text ++ "/").toList = s.text.toList ++ ['/'] := by simp
  rw [hname, hs]
  constructor
  · intro h
    exact (Segment.eq_of_text_eq (String.toList_inj.1
      (eq_of_prefix_slash s.slash_not_mem b.subject.slash_not_mem h))).symm
  · rintro rfl
    exact ⟨rest, by simp⟩

/-- A batch stored under one of its names adds its units to those archived. -/
theorem archivedUnits_objectName (b : Batch) (a : Nat) (k : CounterKey) :
    archivedUnits [(b.objectName a, b)] k = b.unitsOf k := by
  simp only [archivedUnits, List.map_cons, List.map_nil, List.sum_cons, List.sum_nil,
    Nat.add_zero, prefix_objectName_iff, Batch.unitsOf]

/-- A table of batches as a cycle builds it: each batch under the text of its subject. -/
def Filed (t : Table Batch) : Prop :=
  ∀ e ∈ t.entries, e.2.subject.text = e.1

theorem filed_empty : Filed {} :=
  fun _ h => by simp at h

/-- The batch a key's entry goes into is its subject's. -/
theorem subject_of_addEntry {t : Table Batch} (ht : Filed t) (key : CounterKey) (now : Instant) :
    ((t.get? key.subject.text).getD (Batch.empty key.subject now)).subject = key.subject := by
  cases hg : t.get? key.subject.text with
  | none => rfl
  | some w =>
    simp only [Table.get?, Option.map_eq_some_iff] at hg
    obtain ⟨e, he, rfl⟩ := hg
    have hkey : e.1 = key.subject.text := by simpa using List.find?_some he
    exact Segment.eq_of_text_eq ((ht e (List.mem_of_find?_eq_some he)).trans hkey)

theorem Filed.addEntry {t : Table Batch} (ht : Filed t) (key : CounterKey) (c : Nat)
    (now : Instant) : Filed (Drainer.addEntry t key c now) := by
  intro e he
  rcases Table.mem_place he with rfl | he
  · simp only [Batch.push]
    rw [subject_of_addEntry ht]
  · exact ht e he

/-- Adding an entry to a cycle's batches adds its count to the units of its key alone. -/
theorem batchUnits_addEntry {t : Table Batch} (ht : Filed t) (key : CounterKey) (c : Nat)
    (now : Instant) (k : CounterKey) :
    batchUnits (Drainer.addEntry t key c now).entries k =
      batchUnits t.entries k + (if key = k then c else 0) := by
  have hsum := Table.sum_insert (·.2.unitsOf k) t key.subject.text
    (((t.get? key.subject.text).getD (Batch.empty key.subject now)).push ⟨key.resource, c, now⟩)
  have hold : ((t.get? key.subject.text).map (fun w => w.unitsOf k)).getD 0 =
      ((t.get? key.subject.text).getD (Batch.empty key.subject now)).unitsOf k := by
    cases t.get? key.subject.text <;> simp
  have hkey : (key.subject = k.subject ∧ key.resource = k.resource) ↔ key = k := by
    constructor
    · rintro ⟨hs, hr⟩
      cases key
      cases k
      simp_all
    · rintro rfl
      exact ⟨rfl, rfl⟩
  simp only [hold, Batch.unitsOf_push, subject_of_addEntry ht] at hsum
  simp only [batchUnits, Drainer.addEntry]
  by_cases hk : key = k
  · simp only [hk, and_self, ↓reduceIte] at hsum ⊢
    omega
  · have hk' : ¬ (key.subject = k.subject ∧ key.resource = k.resource) := fun h => hk (hkey.1 h)
    simp only [hk', hk, ↓reduceIte] at hsum ⊢
    omega

end Archive

namespace CounterKey

/-- A quarantine key lies outside the counter namespace: the two tags differ at their first
character. -/
theorem not_prefix_quarantine (raw : String) :
    ¬ namespaceText.toList <+: (quarantineTag ++ raw).toList := by
  have hq : quarantineTag.toList = 'q' :: "uarantine:".toList := by decide
  have he : ("endpoint:" : String).toList = 'e' :: "ndpoint:".toList := by decide
  rw [namespaceText_toList, String.toList_append, hq, he]
  simp

/-- A quarantine key is no counter key: it starts with the quarantine tag. -/
theorem encode_ne_quarantine (k : CounterKey) (raw : String) : k.encode ≠ quarantineTag ++ raw :=
  fun h => not_prefix_quarantine raw (h ▸ namespace_prefix_encode k)

/-- A text that does not decode is no counter key. -/
theorem encode_ne_of_decode_error {raw : String} {e : CoreError} (h : decode raw = .error e)
    (k : CounterKey) : k.encode ≠ raw := by
  rintro rfl
  rw [decode_encode] at h
  cases h

end CounterKey

theorem Counters.units_of_get? {c : Counters} {key : String} {n : Nat}
    (h : c.counts.get? key = some (.exact n)) : c.units key = n := by
  simp [Counters.units, h]

namespace Drainer

open StoreOp Archive

/-- The units of a counter key that a cycle at a phase holds: taken from the counters and
neither archived nor put back yet. -/
def Phase.held (k : CounterKey) : Phase → Nat
  | .drain _ acc => batchUnits acc.2.entries k
  | .quarantine _ _ _ acc => batchUnits acc.2.entries k
  | .putBack _ _ _ acc => batchUnits acc.2.entries k
  | .upload b _ _ rest _ => b.unitsOf k + batchUnits rest k
  | .stored _ _ rest _ => batchUnits rest k
  | .restore b es rest _ => { b with entries := es }.unitsOf k + batchUnits rest k
  | _ => 0

/-- The phases a cycle reaches are well formed: its batches are filed by subject, and the key it
quarantines is no counter key. -/
def Phase.WellFormed : Phase → Prop
  | .drain _ acc => Filed acc.2
  | .quarantine raw _ _ acc => (∀ k : CounterKey, k.encode ≠ raw) ∧ Filed acc.2
  | .putBack raw _ _ acc => (∀ k : CounterKey, k.encode ≠ raw) ∧ Filed acc.2
  | _ => True

/-- The increment a restore step makes next: under the counter key of the batch's subject and
the entry's resource, the entry's count. -/
def Phase.restoring : Phase → Option (String × Nat)
  | .restore bt (e :: _) _ _ => some (CounterKey.encode ⟨e.resource, bt.subject⟩, e.count)
  | _ => none

/-- A restore step loses nothing: the counters take its increment, and the count it puts back
does not make its counter saturate. -/
def Phase.RestoreFits (b : Backend) (p : Phase) : Prop :=
  ∀ inc ∈ p.restoring, b.takesIncrement ∧ b.counters.units inc.1 + inc.2 ≤ wordMax

instance (b : Backend) (p : Phase) : Decidable (p.RestoreFits b) :=
  inferInstanceAs (Decidable (∀ inc ∈ p.restoring, b.takesIncrement ∧
    b.counters.units inc.1 + inc.2 ≤ wordMax))

/-- A step keeps every unit accounted for: for each counter key, the units in its counter and
held by the cycle before the step are those after it, with those of an object just stored. -/
def Balanced (b : Backend) (p : Phase) (b' : Backend) (p' : Phase) : Prop :=
  ∀ k : CounterKey, b.counters.units k.encode + p.held k =
    b'.counters.units k.encode + p'.held k + archivedUnits p'.stores k

theorem held_archiveFrom (l : List (String × Batch)) (r : DrainReport) (k : CounterKey) :
    (archiveFrom l r).held k = batchUnits l k := by
  cases l with
  | nil => rfl
  | cons e rest =>
    obtain ⟨n, b⟩ := e
    rfl

theorem stores_archiveFrom (l : List (String × Batch)) (r : DrainReport) :
    (archiveFrom l r).stores = [] := by
  cases l with
  | nil => rfl
  | cons e rest =>
    obtain ⟨n, b⟩ := e
    rfl

/-- A step that writes no counter key, holds what it held and stores nothing is balanced. -/
theorem balanced_of_units {b b' : Backend} {p p' : Phase}
    (hu : ∀ k : CounterKey, b'.counters.units k.encode = b.counters.units k.encode)
    (hh : ∀ k, p'.held k = p.held k) (hs : p'.stores = []) : Balanced b p b' p' := by
  intro k
  rw [hu k, hh k, hs]
  rfl

/-- Draining a counter key hands its count from the counter to the cycle's batches: every unit
the counter loses, the batch of its subject gains. -/
theorem drainKey_balanced {now : Instant} {acc acc' : DrainReport × Table Batch} {raw : String}
    {key : CounterKey} {b b' : Backend} (hkey : CounterKey.decode raw = .ok key)
    (hw : Filed acc.2) (h : (drainKey now acc raw).run.run b = (.ok acc', b')) :
    Filed acc'.2 ∧ ∀ k : CounterKey, b.counters.units k.encode + batchUnits acc.2.entries k =
      b'.counters.units k.encode + batchUnits acc'.2.entries k := by
  obtain ⟨r, batches⟩ := acc
  have hraw : key.encode = raw := (CounterKey.decode_eq_ok_iff raw key).1 hkey
  simp only [drainKey, hkey, run_bind, getDel_run] at h
  cases hg : (b.counterGuard .getDel >>= fun _ => b.stateGuard "counters") with
  -- the counter does not answer: nothing is taken
  | error e =>
    simp only [hg, run_pure] at h
    obtain ⟨rfl, rfl⟩ := h
    exact ⟨hw, fun k => rfl⟩
  | ok u =>
    simp only [hg] at h
    -- the key is emptied, and only the counter key being drained is touched
    have hb1 : ∀ k : CounterKey,
        ({ b.counters with counts := b.counters.counts.erase raw } : Counters).units k.encode =
          if k = key then 0 else b.counters.units k.encode := by
      intro k
      rw [Counters.units_erase]
      by_cases hk : k = key
      · simp [hk, hraw]
      · have hne : k.encode ≠ raw := fun he => hk (CounterKey.encode_injective (he.trans hraw.symm))
        simp [hk, hne]
    have hkeep : b.counters.units raw = 0 → ∀ k : CounterKey, b.counters.units k.encode =
        ({ b.counters with counts := b.counters.counts.erase raw } : Counters).units k.encode := by
      intro h0 k
      rw [hb1 k]
      split
      · next hk => rw [hk, hraw, h0]
      · rfl
    cases hc : b.counters.counts.get? raw with
    | none =>
      simp only [hc, run_pure] at h
      obtain ⟨rfl, rfl⟩ := h
      exact ⟨hw, fun k => by rw [hkeep (by simp [Counters.units, hc]) k]⟩
    | some n =>
      cases n with
      | inexact =>
        simp only [hc, Count.read] at h
        obtain ⟨rfl, rfl⟩ := h
        exact ⟨hw, fun k => by rw [hkeep (by simp [Counters.units, hc]) k]⟩
      | exact c =>
        simp only [hc, Count.read, Functor.map, Except.map] at h
        by_cases hc0 : c = 0
        · subst hc0
          simp only [↓reduceIte, run_pure] at h
          obtain ⟨rfl, rfl⟩ := h
          exact ⟨hw, fun k => by rw [hkeep (Counters.units_of_get? hc) k]⟩
        -- a positive count moves into the batch of its subject
        · simp only [hc0, ↓reduceIte, run_bind, wordSum_run] at h
          by_cases hov : r.unitsDrained + c > wordMax
          · simp only [hov, ↓reduceIte] at h
            cases h
          · simp only [hov, ↓reduceIte, run_pure] at h
            obtain ⟨rfl, rfl⟩ := h
            refine ⟨hw.addEntry key c now, fun k => ?_⟩
            rw [batchUnits_addEntry hw, hb1 k]
            by_cases hk : k = key
            · subst hk
              simp only [hraw, Counters.units_of_get? hc, ↓reduceIte]
              omega
            · simp [hk, Ne.symm hk]

/-- An accepted restore increment adds the entry's count back under its counter key. -/
theorem restoreEntry_run {bt : Batch} {r : DrainReport} {e : Entry} {b : Backend}
    (hm : b.engine = .memory) (ht : b.takesIncrement) :
    (restoreEntry bt r e).run.run b =
      (.ok r, { b with counters :=
        (b.counters.addSaturating (CounterKey.encode ⟨e.resource, bt.subject⟩) e.count).1 }) := by
  simp only [restoreEntry, run_bind, incr_run_of_takes _ _ hm ht]
  rfl

theorem wellFormed_archiveFrom (l : List (String × Batch)) (r : DrainReport) :
    (archiveFrom l r).WellFormed := by
  cases l with
  | nil => trivial
  | cons e rest =>
    obtain ⟨n, b⟩ := e
    trivial

/-- A step that ends at a phase holding nothing, writing no count, is balanced from a phase that
held nothing. -/
theorem balanced_idle {b : Backend} {p p' : Phase} (hp : ∀ k, p.held k = 0)
    (hp' : ∀ k, p'.held k = 0) (hs : p'.stores = []) : Balanced b p b p' :=
  balanced_of_units (fun _ => rfl) (fun k => by rw [hp k, hp' k]) hs

/-- One step of a cycle loses no unit and keeps its phase well formed, when it does not halt and
a restore's increment is taken without saturating. -/
theorem advance_balanced {d : Drainer} {now : Instant} {p p' : Phase} {b b' : Backend}
    (hm : b.engine = .memory) (hw : p.WellFormed) (hf : p.RestoreFits b)
    (h : (d.advance now p).run.run b = (.ok p', b')) : p'.WellFormed ∧ Balanced b p b' p' := by
  cases p with
  | ping =>
    rw [advance_ping_run] at h
    obtain ⟨hx, rfl⟩ := Prod.mk.inj h
    cases hx
    refine ⟨by split <;> trivial, balanced_idle (fun _ => rfl) (fun k => ?_) (by split <;> rfl)⟩
    split <;> rfl
  | acquire =>
    -- the lease step writes leases only
    rcases advance_acquire_cases h with ⟨r, rfl, rfl⟩ | ⟨t, rfl, rfl⟩
    · exact ⟨trivial, balanced_idle (fun _ => rfl) (fun _ => rfl) rfl⟩
    · exact ⟨trivial, balanced_of_units (fun _ => rfl) (fun _ => rfl) rfl⟩
  | scan =>
    obtain ⟨rfl, rfl | ⟨keys, -, rfl⟩⟩ := advance_scan h
    · exact ⟨trivial, balanced_idle (fun _ => rfl) (fun _ => rfl) rfl⟩
    · exact ⟨filed_empty, balanced_idle (fun _ => rfl) (fun _ => rfl) rfl⟩
  | drain keys acc =>
    obtain ⟨r, batches⟩ := acc
    cases keys with
    | nil =>
      obtain ⟨rfl, rfl⟩ := eq_of_run_pure h
      refine ⟨wellFormed_archiveFrom _ _, balanced_of_units (fun _ => rfl) (fun k => ?_)
        (stores_archiveFrom _ _)⟩
      exact held_archiveFrom _ _ k
    | cons raw keys =>
      cases hd : CounterKey.decode raw with
      -- a counter key: its count moves into the batches
      | ok key =>
        obtain ⟨acc', hrun, rfl⟩ := advance_drain_counter hd h
        obtain ⟨hfiled, hbal⟩ := drainKey_balanced hd hw hrun
        exact ⟨hfiled, fun k => by simpa [Phase.held, Phase.stores, archivedUnits] using hbal k⟩
      -- a malformed key: whatever is taken from it belongs to no counter key
      | error e =>
        have hne := CounterKey.encode_ne_of_decode_error hd
        have hunits : ∀ k : CounterKey,
            ((getDel raw).run.run b).2.counters.units k.encode = b.counters.units k.encode := by
          intro k
          rw [getDel_run]
          split
          · rfl
          · exact (Counters.units_erase _ _ _).trans (if_neg (hne k))
        obtain ⟨rfl, ⟨c, rfl⟩ | ⟨r', rfl⟩⟩ := advance_drain_malformed hd h
        · exact ⟨⟨hne, hw⟩, balanced_of_units hunits (fun _ => rfl) rfl⟩
        · exact ⟨hw, balanced_of_units hunits (fun _ => rfl) rfl⟩
  | quarantine raw c keys acc =>
    -- the quarantine key is no counter key
    obtain ⟨hne, hfiled⟩ := hw
    have hunits : ∀ k : CounterKey, ((incr (quarantineTag ++ raw) c).run.run b).2.counters.units
        k.encode = b.counters.units k.encode :=
      fun k => incr_units_of_ne c (CounterKey.encode_ne_quarantine k raw) b
    obtain ⟨rfl, ⟨r', rfl⟩ | ⟨e, -, rfl⟩⟩ := advance_quarantine h
    · exact ⟨hfiled, balanced_of_units hunits (fun _ => rfl) rfl⟩
    · exact ⟨⟨hne, hfiled⟩, balanced_of_units hunits (fun _ => rfl) rfl⟩
  | putBack raw c keys acc =>
    -- the malformed key is no counter key
    obtain ⟨hne, hfiled⟩ := hw
    obtain ⟨rfl, r', rfl⟩ := advance_putBack h
    exact ⟨hfiled, balanced_of_units (fun k => incr_units_of_ne c (hne k) b) (fun _ => rfl) rfl⟩
  | upload bt attempt left rest r =>
    cases left with
    | zero =>
      obtain ⟨rfl, rfl⟩ := eq_of_run_pure h
      exact ⟨trivial, balanced_of_units (fun _ => rfl) (fun _ => rfl) rfl⟩
    | succ left =>
      have hunits : ∀ k : CounterKey, ((putObject d.settings.bucket (bt.objectName attempt)
          ⟨archiveContentType, bt.body⟩).run.run b).2.counters.units k.encode =
            b.counters.units k.encode := by
        intro k
        rw [putObject_run]
        dsimp only
        split <;> rfl
      obtain ⟨rfl, rfl | rfl | rfl⟩ := advance_upload h
      -- stored: the batch's units move from the cycle into the archive
      · refine ⟨trivial, fun k => ?_⟩
        simp only [Phase.held, Phase.stores, hunits k, archivedUnits_objectName]
        omega
      · exact ⟨trivial, balanced_of_units hunits (fun _ => rfl) rfl⟩
      · exact ⟨trivial, balanced_of_units hunits (fun _ => rfl) rfl⟩
  | stored name bt rest r =>
    obtain ⟨rfl, r', -, rfl⟩ := advance_stored h
    exact ⟨wellFormed_archiveFrom _ _, balanced_of_units (fun _ => rfl)
      (fun k => held_archiveFrom _ _ k) (stores_archiveFrom _ _)⟩
  | restore bt es rest r =>
    cases es with
    | nil =>
      obtain ⟨rfl, rfl⟩ := eq_of_run_pure h
      refine ⟨wellFormed_archiveFrom _ _, balanced_of_units (fun _ => rfl) (fun k => ?_)
        (stores_archiveFrom _ _)⟩
      rw [held_archiveFrom]
      simp [Phase.held, Batch.unitsOf]
    -- the entry's count goes back under its counter key
    | cons e es =>
      obtain ⟨ht, hfit⟩ : b.takesIncrement ∧
          b.counters.units (CounterKey.encode ⟨e.resource, bt.subject⟩) + e.count ≤ wordMax :=
        hf _ rfl
      obtain ⟨r', hrun, rfl⟩ := advance_restore h
      rw [restoreEntry_run hm ht] at hrun
      obtain ⟨-, rfl⟩ := Prod.mk.inj hrun
      refine ⟨trivial, fun k => ?_⟩
      simp only [Phase.held, Phase.stores, archivedUnits, List.map_nil, List.sum_nil,
        Nat.add_zero, Counters.units_addSaturating, Batch.unitsOf_cons]
      by_cases hk : k = ⟨e.resource, bt.subject⟩
      · subst hk
        simp only [↓reduceIte, and_self]
        omega
      · have hne : k.encode ≠ CounterKey.encode ⟨e.resource, bt.subject⟩ :=
          fun he => hk (CounterKey.encode_injective he)
        have hne' : ¬ (bt.subject = k.subject ∧ e.resource = k.resource) := by
          rintro ⟨hs, hr⟩
          exact hk (by cases k; simp_all)
        simp only [hne, hne', ↓reduceIte]
        omega
  | release r =>
    -- giving the lease up writes leases only
    rw [advance_release_run] at h
    obtain ⟨hx, rfl⟩ := Prod.mk.inj h
    cases hx
    refine ⟨trivial, balanced_of_units (fun k => ?_) (fun _ => rfl) rfl⟩
    rw [release_run]
    split
    · rfl
    · exact Counters.units_release _ _ _ _
  | done r =>
    obtain ⟨rfl, rfl⟩ := eq_of_run_pure h
    exact ⟨trivial, balanced_idle (fun _ => rfl) (fun _ => rfl) rfl⟩

end Drainer

end Turnstile
