import Mathlib
import Turnstile.Proofs.Drain.Traffic

/-!
# Draining loses no unit

Callers add units to counters while any number of drain cycles take them out
and archive them, all interleaved one store operation at a time (`Traffic`).
Every unit a counter key held at the start or was given since is, at every
state of the run, in exactly one of three places: its counter, an object a
cycle stored in the drain bucket under the key's subject, or a cycle in flight
that has taken it and not yet stored or put it back (`Accounted`). Each step
of a cycle is balanced on its own (`Drainer.advance_balanced`), and the units a
cycle holds are summed over the flights (`Traffic.heldUnits`).

The objects counted are those the cycles recorded, and these are exactly the
objects created in the bucket during the run, each holding the body of its
batch (`Logged`).

Both need the run to keep promises the stores cannot keep by themselves
(`OrderlyFrom`): no increment makes its counter saturate, and no step of a cycle
halts or puts a count back where the counters refuse it. The second is more
than the counter store answering: a cycle's report sums are words, and a step
whose sum would overflow halts the cycle with the units it has taken.
-/

namespace Turnstile

open Drainer Archive StoreOp

theorem Archive.archivedUnits_append (l l' : List (String × Batch)) (k : CounterKey) :
    archivedUnits (l ++ l') k = archivedUnits l k + archivedUnits l' k := by
  simp [archivedUnits]

namespace Drainer

/-- A step keeps every view of the backend that does not read the counters, given that an
upload step's write keeps it too. -/
theorem advance_keeps_of_countersOnly {γ : Type} {view : Backend → γ}
    (hv : ∀ b (c : Counters), view { b with counters := c } = view b) (d : Drainer)
    (now : Instant) {p : Phase}
    (hput : ∀ b attempt left rest r, p = .upload b attempt (left + 1) rest r →
      ∀ bucket name blob, Keeps view (putObject bucket name blob)) :
    Keeps view (d.advance now p) := by
  by_cases ha : p = .acquire
  · subst ha
    exact ((acquire_countersOnly _ _ _).keeps hv).bind fun x => by split <;> exact keeps_pure _
  by_cases hr : ∃ r, p = .release r
  · obtain ⟨r, rfl⟩ := hr
    exact ((release_countersOnly _ _).keeps hv).bind fun _ => keeps_pure _
  exact advance_keeps (fun k n => (incr_countersOnly k n).keeps hv)
    (fun k => (getDel_countersOnly k).keeps hv) d now ha (fun r h => hr ⟨r, h⟩) hput

/-- No step changes the engine. -/
theorem advance_keeps_engine (d : Drainer) (now : Instant) (p : Phase) :
    Keeps (·.engine) (d.advance now p) :=
  advance_keeps_of_countersOnly (fun _ _ => rfl) d now
    fun _ _ _ _ _ _ _ _ _ b => congrArg (fun v => v.2.1) (putObject_keeps_leaseView _ _ _ b)

/-- No step but an upload writes the blob store. -/
theorem advance_keeps_blobs (d : Drainer) (now : Instant) {p : Phase}
    (hu : ∀ b attempt left rest r, p ≠ .upload b attempt (left + 1) rest r) :
    Keeps (·.blobs) (d.advance now p) :=
  advance_keeps_of_countersOnly (fun _ _ => rfl) d now
    fun b attempt left rest r h => absurd h (hu b attempt left rest r)

theorem afterQuarantine_yields (q : Nat) (keys : List String) (acc : DrainReport × Table Batch) :
    Yields (·.stores = []) (afterQuarantine q keys acc) := by
  obtain ⟨r, batches⟩ := acc
  exact Yields.bind fun _ => yields_pure rfl

/-- Only an upload step stores a batch. -/
theorem advance_stores_nil (d : Drainer) (now : Instant) {p : Phase}
    (hu : ∀ b attempt left rest r, p ≠ .upload b attempt (left + 1) rest r) :
    Yields (·.stores = []) (d.advance now p) := by
  cases p with
  | ping => exact Yields.bind fun _ => by split <;> exact yields_pure rfl
  | acquire => exact Yields.bind fun x => by split <;> exact yields_pure rfl
  | scan => exact Yields.bind fun x => by split <;> exact yields_pure rfl
  | drain keys acc =>
    cases keys with
    | nil =>
      obtain ⟨r, batches⟩ := acc
      exact yields_pure (stores_archiveFrom _ _)
    | cons raw keys =>
      simp only [advance]
      split
      · exact Yields.bind fun _ => yields_pure rfl
      · refine Yields.bind fun x => ?_
        split
        · split
          · exact afterQuarantine_yields _ _ _
          · exact yields_pure rfl
        · exact afterQuarantine_yields _ _ _
  | quarantine raw c keys acc =>
    exact Yields.bind fun x => by
      split
      · exact afterQuarantine_yields _ _ _
      · exact yields_pure rfl
  | putBack raw c keys acc => exact Yields.bind fun _ => afterQuarantine_yields _ _ _
  | upload b attempt left rest r =>
    cases left with
    | zero => exact yields_pure rfl
    | succ left => exact absurd rfl (hu b attempt left rest r)
  | stored name b rest r => exact Yields.bind fun _ => yields_pure (stores_archiveFrom _ _)
  | restore b es rest r =>
    cases es with
    | nil => exact yields_pure (stores_archiveFrom _ _)
    | cons e es => exact Yields.bind fun _ => yields_pure rfl
  | release r => exact Yields.bind fun _ => yields_pure rfl
  | done r => exact yields_pure rfl

/-- What a step does to the objects of its drainer's bucket: it writes none and stores none, or
it stored a batch, whose body went in under a name that was free. -/
theorem advance_objects (d : Drainer) (now : Instant) (p : Phase) (b : Backend) :
    (((d.advance now p).run.run b).2.blobs.objects d.settings.bucket =
        b.blobs.objects d.settings.bucket ∧
      ∀ p', ((d.advance now p).run.run b).1 = .ok p' → p'.stores = []) ∨
    ∃ name bt rest r, ((d.advance now p).run.run b).1 = .ok (.stored name bt rest r) ∧
      (b.blobs.objects d.settings.bucket).get? name = none ∧
      ((d.advance now p).run.run b).2.blobs.objects d.settings.bucket =
        (b.blobs.objects d.settings.bucket).insert name ⟨archiveContentType, bt.body⟩ := by
  by_cases hu : ∃ bt attempt left rest r, p = .upload bt attempt (left + 1) rest r
  · obtain ⟨bt, attempt, left, rest, r, rfl⟩ := hu
    have hput := putObject_objects d.settings.bucket (bt.objectName attempt)
      ⟨archiveContentType, bt.body⟩ b
    simp only [advance, run_bind]
    generalize (putObject d.settings.bucket (bt.objectName attempt)
      ⟨archiveContentType, bt.body⟩).run.run b = o at hput
    obtain ⟨x, b'⟩ := o
    rcases hput with ⟨e, rfl, hobj⟩ | ⟨rfl, hfree, hobj⟩
    -- a failed upload retries under the next name or puts the entries back
    · refine .inl ⟨?_, fun p' hp' => ?_⟩
      · dsimp only
        split <;> exact hobj
      · dsimp only at hp'
        split at hp'
        · next hx => cases hx
        · cases hp'
          rfl
        · cases hp'
          rfl
    · exact .inr ⟨_, bt, rest, r, rfl, hfree, hobj⟩
  · have hu' : ∀ bt attempt left rest r, p ≠ .upload bt attempt (left + 1) rest r :=
      fun bt attempt left rest r h => hu ⟨bt, attempt, left, rest, r, h⟩
    exact .inl ⟨congrArg (·.objects d.settings.bucket) (advance_keeps_blobs d now hu' b),
      fun p' hp' => advance_stores_nil d now hu' b p' _ (Prod.ext hp' rfl)⟩

end Drainer

namespace Traffic

/-- The units of a counter key that the cycles in flight hold: taken from its counter, and not
yet stored in an object or put back. -/
def heldUnits (s : Traffic) (k : CounterKey) : Nat :=
  (s.flights.map (·.phase.held k)).sum

/-- Moving one cycle to another phase changes the units held by the difference. -/
theorem sum_held_set {l : List Flight} {j : Nat} {f : Flight} (hj : l[j]? = some f)
    (f' : Flight) (k : CounterKey) :
    ((l.set j f').map (·.phase.held k)).sum + f.phase.held k =
      (l.map (·.phase.held k)).sum + f'.phase.held k := by
  obtain ⟨hlt, rfl⟩ := List.getElem?_eq_some_iff.1 hj
  have hset := ((List.set_perm_cons_eraseIdx hlt f').map (·.phase.held k)).sum_eq
  have hget := ((List.getElem_cons_eraseIdx_perm hlt).map (·.phase.held k)).sum_eq
  simp only [List.map_cons, List.sum_cons] at hset hget
  omega

/-- A cycle that leaves the flights takes the units it held with it. -/
theorem sum_held_eraseIdx {l : List Flight} {j : Nat} {f : Flight} (hj : l[j]? = some f)
    (k : CounterKey) :
    ((l.eraseIdx j).map (·.phase.held k)).sum + f.phase.held k = (l.map (·.phase.held k)).sum := by
  obtain ⟨hlt, rfl⟩ := List.getElem?_eq_some_iff.1 hj
  have hget := ((List.getElem_cons_eraseIdx_perm hlt).map (·.phase.held k)).sum_eq
  simp only [List.map_cons, List.sum_cons] at hget
  omega

/-- What a run promises of one event, in the state it happens in: a caller's increment does not
make its counter saturate, and a cycle's step neither halts nor puts a count back where the
counters refuse it or it would saturate. -/
def Orderly (ds : List Drainer) (s : Traffic) : Event → Prop
  | .incr key delta => s.store.counters.units key + delta ≤ wordMax
  | .step j => ∀ f ∈ s.flights[j]?, ∀ d ∈ ds[f.drainer]?,
      ((d.advance f.now f.phase).run.run s.store).1.toBool = true ∧ f.phase.RestoreFits s.store
  | _ => True

instance Orderly.decidable (ds : List Drainer) (s : Traffic) :
    (e : Event) → Decidable (s.Orderly ds e)
  | .incr key delta => inferInstanceAs (Decidable (s.store.counters.units key + delta ≤ wordMax))
  | .call _ _ => inferInstanceAs (Decidable True)
  | .step j => inferInstanceAs (Decidable (∀ f ∈ s.flights[j]?, ∀ d ∈ ds[f.drainer]?,
      ((d.advance f.now f.phase).run.run s.store).1.toBool = true ∧ f.phase.RestoreFits s.store))
  | .tick _ => inferInstanceAs (Decidable True)
  | .faults _ => inferInstanceAs (Decidable True)

/-- The run keeps its promise at every event. -/
def OrderlyFrom (ds : List Drainer) : Traffic → List Event → Prop
  | _, [] => True
  | s, e :: es => s.Orderly ds e ∧ OrderlyFrom ds (s.step ds e) es

instance OrderlyFrom.decidable (ds : List Drainer) :
    (s : Traffic) → (es : List Event) → Decidable (OrderlyFrom ds s es)
  | _, [] => inferInstanceAs (Decidable True)
  | s, e :: es =>
    have := OrderlyFrom.decidable ds (s.step ds e) es
    inferInstanceAs (Decidable (s.Orderly ds e ∧ OrderlyFrom ds (s.step ds e) es))

/-- The units of every counter key are accounted for: those its counter held at the start and
callers added since are in the counter, in the objects cycles stored, or held by a cycle in
flight. The store stays on the memory engine, and every cycle's phase is well formed. -/
structure Accounted (init : Counters) (s : Traffic) : Prop where
  memory : s.store.engine = .memory
  formed : ∀ f ∈ s.flights, f.phase.WellFormed
  conserved : ∀ k : CounterKey, init.units k.encode + s.added k.encode =
    s.store.counters.units k.encode + archivedUnits s.written k + s.heldUnits k

section Accounting

variable {ds : List Drainer} {init : Counters} {s : Traffic}

theorem accounted_start {b : Backend} (hm : b.engine = .memory) : Accounted b.counters (start b) :=
  ⟨hm, fun _ h => (nomatch h), fun k => by simp [start, heldUnits, archivedUnits]⟩

/-- An increment that does not saturate keeps the units accounted for: the counter and the
units added grow alike, or neither does. -/
theorem Accounted.incr (h : Accounted init s) (key : String) (delta : Nat)
    (hfit : s.store.counters.units key + delta ≤ wordMax) : Accounted init (s.incr key delta) := by
  by_cases ht : s.store.takesIncrement
  · rw [incr_of_takes s key delta h.memory ht]
    refine ⟨h.memory, h.formed, fun k => ?_⟩
    have hk := h.conserved k
    simp only [heldUnits, Counters.units_addSaturating] at hk ⊢
    by_cases hke : k.encode = key
    · subst hke
      simp only [↓reduceIte, Nat.min_eq_left hfit]
      omega
    · simp only [hke, ↓reduceIte]
      exact hk
  · rw [incr_of_not_takes s key delta ht]
    exact h

/-- A call keeps the units accounted for: a new cycle holds nothing. -/
theorem Accounted.call (h : Accounted init s) (i : Nat) (now : Instant) :
    Accounted init (s.call ds i now).1 := by
  unfold Traffic.call
  split
  · exact h
  · split
    · refine ⟨h.memory, fun f hf => ?_, fun k => ?_⟩
      · rcases List.mem_append.1 hf with hf | hf
        · exact h.formed f hf
        · simp only [List.mem_singleton] at hf
          subst hf
          trivial
      · have hk := h.conserved k
        simp only [heldUnits, List.map_append, List.sum_append] at hk ⊢
        simpa [Phase.held] using hk
    · exact h

/-- A step of a cycle that does not halt, and puts back only what fits, keeps the units
accounted for: the step is balanced, and the cycle's holding moves with it. -/
theorem Accounted.stepFlight (h : Accounted init s) (j : Nat) (ho : s.Orderly ds (.step j)) :
    Accounted init (s.stepFlight ds j).1 := by
  rcases stepFlight_cases ds s j with hs | ⟨f, d, hj, hd, hs⟩
  · rw [hs]
    exact h
  rw [hs]
  obtain ⟨hok, hfit⟩ := ho f hj d hd
  obtain ⟨p', b', hrun⟩ : ∃ p' b', (d.advance f.now f.phase).run.run s.store = (.ok p', b') := by
    rcases hx : (d.advance f.now f.phase).run.run s.store with ⟨_ | p', b'⟩
    · rw [hx] at hok
      cases hok
    · exact ⟨p', b', rfl⟩
  obtain ⟨hw, hbal⟩ := advance_balanced h.memory (h.formed f (List.mem_of_getElem? hj)) hfit hrun
  have hm' : b'.engine = .memory := by
    have he := advance_keeps_engine d f.now f.phase s.store
    rw [hrun] at he
    exact he.trans h.memory
  rw [hrun]
  by_cases hdone : ∃ r, p' = .done r
  -- a finished cycle leaves the flights, holding nothing
  · obtain ⟨r, rfl⟩ := hdone
    change Accounted init { s with store := b', flights := s.flights.eraseIdx j }
    refine ⟨hm', fun g hg => h.formed g (List.mem_of_mem_eraseIdx hg), fun k => ?_⟩
    have hk := h.conserved k
    have he := sum_held_eraseIdx hj k
    have hb : s.store.counters.units k.encode + f.phase.held k = b'.counters.units k.encode :=
      hbal k
    simp only [heldUnits] at hk he ⊢
    omega
  · rw [settle_moved s j f b' fun r h => hdone ⟨r, h⟩]
    refine ⟨hm', fun g hg => ?_, fun k => ?_⟩
    · rcases List.mem_or_eq_of_mem_set hg with hg | rfl
      · exact h.formed g hg
      · exact hw
    · have hk := h.conserved k
      have hs := sum_held_set hj (f.moveTo p' s.store.now) k
      have hb := hbal k
      simp only [heldUnits, Flight.moveTo_phase, archivedUnits_append] at hk hs hb ⊢
      omega

/-- Every event the run promises keeps the units accounted for. -/
theorem Accounted.step (h : Accounted init s) {e : Event} (ho : s.Orderly ds e) :
    Accounted init (s.step ds e) := by
  cases e with
  | incr key delta => exact h.incr key delta ho
  | call i now => exact h.call i now
  | step j => exact h.stepFlight j ho
  | tick ms => exact ⟨h.memory, h.formed, h.conserved⟩
  | faults f => exact ⟨h.memory, h.formed, h.conserved⟩

theorem Accounted.run (es : List Event) :
    ∀ s, Accounted init s → OrderlyFrom ds s es → Accounted init (s.run ds es) := by
  induction es with
  | nil => exact fun s h _ => h
  | cons e es ih =>
    intro s h ho
    rw [run_cons]
    exact ih _ (h.step ho.1) ho.2

end Accounting

/-- The objects the cycles recorded are the objects created in the bucket during the run: each
recorded name is in the bucket with its batch's body and was free at the start, no name is
recorded twice, every object of the bucket that was not there at the start is recorded, and the
objects that were there stay. -/
structure Logged (bucket : String) (init : Blobs) (s : Traffic) : Prop where
  kept : ∀ n o, (init.objects bucket).get? n = some o →
    (s.store.blobs.objects bucket).get? n = some o
  stored : ∀ e ∈ s.written,
    (s.store.blobs.objects bucket).get? e.1 = some ⟨archiveContentType, e.2.body⟩
  fresh : ∀ e ∈ s.written, (init.objects bucket).get? e.1 = none
  distinct : (s.written.map (·.1)).Nodup
  complete : ∀ n o, (s.store.blobs.objects bucket).get? n = some o →
    (init.objects bucket).get? n = none → ∃ bt, (n, bt) ∈ s.written

section Logging

variable {ds : List Drainer} {bucket : String} {init : Blobs} {s : Traffic}

theorem logged_start (bucket : String) (b : Backend) : Logged bucket b.blobs (start b) :=
  ⟨fun _ _ h => h, fun _ h => (nomatch h), fun _ h => (nomatch h), List.nodup_nil,
    fun _ o h h' => absurd (h.symm.trans h') (Option.some_ne_none o)⟩

/-- A change that writes no object of the bucket and records none keeps the record. -/
theorem Logged.of_objects (h : Logged bucket init s) {s' : Traffic}
    (ho : s'.store.blobs.objects bucket = s.store.blobs.objects bucket)
    (hw : s'.written = s.written) : Logged bucket init s' := by
  refine ⟨fun n o hn => ?_, fun e he => ?_, fun e he => ?_, ?_, fun n o hn hi => ?_⟩
  · rw [ho]
    exact h.kept n o hn
  · rw [hw] at he
    rw [ho]
    exact h.stored e he
  · rw [hw] at he
    exact h.fresh e he
  · rw [hw]
    exact h.distinct
  · rw [ho] at hn
    rw [hw]
    exact h.complete n o hn hi

/-- Writing a batch's body under a name that was free, and recording it, keeps the record. -/
theorem Logged.record (h : Logged bucket init s) {s' : Traffic} {name : String} {bt : Batch}
    (hfree : (s.store.blobs.objects bucket).get? name = none)
    (ho : s'.store.blobs.objects bucket =
      (s.store.blobs.objects bucket).insert name ⟨archiveContentType, bt.body⟩)
    (hw : s'.written = s.written ++ [(name, bt)]) : Logged bucket init s' := by
  -- a name already in the bucket is not the new one
  have hne : ∀ n o, (s.store.blobs.objects bucket).get? n = some o → name ≠ n := by
    rintro n o hn rfl
    rw [hfree] at hn
    cases hn
  have hnew : ∀ e ∈ s.written, name ≠ e.1 := fun e he => hne e.1 _ (h.stored e he)
  refine ⟨fun n o hn => ?_, fun e he => ?_, fun e he => ?_, ?_, fun n o hn hi => ?_⟩
  · have hcur := h.kept n o hn
    rw [ho, Table.get?_insert_of_ne _ _ (hne n o hcur)]
    exact hcur
  · rw [hw, List.mem_append, List.mem_singleton] at he
    rw [ho]
    rcases he with he | rfl
    · rw [Table.get?_insert_of_ne _ _ (hnew e he)]
      exact h.stored e he
    · exact Table.get?_insert_self _ _ _
  · rw [hw, List.mem_append, List.mem_singleton] at he
    rcases he with he | rfl
    · exact h.fresh e he
    · cases hi : (init.objects bucket).get? name with
      | none => rfl
      | some o =>
        have hcur := h.kept name o hi
        rw [hfree] at hcur
        cases hcur
  · rw [hw, List.map_append, List.nodup_append]
    refine ⟨h.distinct, by simp, fun a ha c hc hac => ?_⟩
    obtain ⟨e, he, rfl⟩ := List.mem_map.1 ha
    simp only [List.map_cons, List.map_nil, List.mem_singleton] at hc
    exact hnew e he (hc ▸ hac).symm
  · rw [ho] at hn
    by_cases hn' : name = n
    · subst hn'
      exact ⟨bt, by rw [hw]; exact List.mem_append_right _ (List.mem_singleton_self _)⟩
    · rw [Table.get?_insert_of_ne _ _ hn'] at hn
      obtain ⟨bt', hbt'⟩ := h.complete n o hn hi
      exact ⟨bt', by rw [hw]; exact List.mem_append_left _ hbt'⟩

/-- A step of a cycle keeps the record: it writes nothing, or it writes the batch it stores. -/
theorem Logged.stepFlight (hbucket : ∀ d ∈ ds, d.settings.bucket = bucket)
    (h : Logged bucket init s) (j : Nat) : Logged bucket init (s.stepFlight ds j).1 := by
  rcases stepFlight_cases ds s j with hs | ⟨f, d, -, hd, hs⟩
  · rw [hs]
    exact h
  rw [hs]
  have hdb : d.settings.bucket = bucket := hbucket d (List.mem_of_getElem? hd)
  rcases advance_objects d f.now f.phase s.store with
    ⟨hobj, hnil⟩ | ⟨name, bt, rest, r, hx, hfree, hobj⟩
  · rw [hdb] at hobj
    generalize (d.advance f.now f.phase).run.run s.store = o at hobj hnil
    obtain ⟨x, b'⟩ := o
    rcases settle_cases s j f x b' with he | ⟨p, rfl, he⟩ <;> rw [he]
    · exact h.of_objects hobj rfl
    · exact h.of_objects hobj (by rw [hnil p rfl, List.append_nil])
  · rw [hdb] at hfree hobj
    generalize (d.advance f.now f.phase).run.run s.store = o at hx hobj
    obtain ⟨x, b'⟩ := o
    dsimp only at hx hobj
    subst hx
    exact h.record hfree hobj rfl

/-- Every event keeps the record, when the drainers share the bucket. -/
theorem Logged.step (hbucket : ∀ d ∈ ds, d.settings.bucket = bucket) (h : Logged bucket init s)
    (e : Event) : Logged bucket init (s.step ds e) := by
  cases e with
  | incr key delta =>
    refine h.of_objects ?_ (incr_written s key delta)
    rw [Traffic.step, incr_store]
    have hb : Keeps (·.blobs) (StoreOp.incr key delta) :=
      (incr_countersOnly key delta).keeps fun _ _ => rfl
    exact congrArg (·.objects bucket) (hb s.store)
  | call i now =>
    obtain ⟨hst, hw⟩ := call_store_written ds s i now
    exact h.of_objects (by rw [Traffic.step, hst]) hw
  | step j => exact h.stepFlight hbucket j
  | tick ms => exact h.of_objects rfl rfl
  | faults f => exact h.of_objects rfl rfl

theorem Logged.run (hbucket : ∀ d ∈ ds, d.settings.bucket = bucket) (es : List Event) :
    ∀ s, Logged bucket init s → Logged bucket init (s.run ds es) := by
  induction es with
  | nil => exact fun s h => h
  | cons e es ih =>
    intro s h
    rw [run_cons]
    exact ih _ (h.step hbucket e)

end Logging

/-- Draining loses no unit and counts none twice. Take a run on the memory engine whose drainers
share one bucket, where no increment saturates its counter and no step of a cycle halts or puts
a count back where the counters refuse it or it would saturate. At its end, for every counter
key, the units its counter held at the start and those callers added since are the units it
holds now, those of the objects stored under its subject, and those cycles in flight hold. The
objects counted are exactly the objects created in the bucket during the run, each holding the
body of its batch, none counted twice. -/
theorem units_conserved (ds : List Drainer) (bucket : String)
    (hbucket : ∀ d ∈ ds, d.settings.bucket = bucket) (b : Backend) (hm : b.engine = .memory)
    (es : List Event) (ho : OrderlyFrom ds (start b) es) :
    let s := (start b).run ds es
    (∀ k : CounterKey, b.counters.units k.encode + s.added k.encode =
      s.store.counters.units k.encode + archivedUnits s.written k + s.heldUnits k) ∧
    (s.written.map (·.1)).Nodup ∧
    (∀ e ∈ s.written, (b.blobs.objects bucket).get? e.1 = none ∧
      (s.store.blobs.objects bucket).get? e.1 = some ⟨archiveContentType, e.2.body⟩) ∧
    (∀ n o, (s.store.blobs.objects bucket).get? n = some o →
      (b.blobs.objects bucket).get? n = none → ∃ bt, (n, bt) ∈ s.written) := by
  intro s
  have ha : Accounted b.counters s := Accounted.run es _ (accounted_start hm) ho
  have hl : Logged bucket b.blobs s := Logged.run hbucket es _ (logged_start bucket b)
  exact ⟨ha.conserved, hl.distinct, fun e he => ⟨hl.fresh e he, hl.stored e he⟩, hl.complete⟩

/-- One cycle drains a key while a caller adds to it again after the take: the first three units
go into the one object stored, the two added later stay in the counter. -/
theorem units_conserved_one_cycle :
    let ds : List Drainer := [⟨{}, .drainer 1⟩]
    let b : Backend :=
      { engine := .memory, blobs := { buckets := ({} : Table (Table Blob)).insert "user-logs" {} } }
    let es : List Event := [.incr "endpoint:/detail/news:R1/user:U1" 3, .call 0 Instant.fixed,
      .step 0, .step 0, .step 0, .step 0, .incr "endpoint:/detail/news:R1/user:U1" 2,
      .step 0, .step 0, .step 0, .step 0]
    (∀ d ∈ ds, d.settings.bucket = "user-logs") ∧ b.engine = .memory ∧ OrderlyFrom ds (start b) es ∧
      ((start b).run ds es).written.length = 1 ∧
      ∀ k : CounterKey, b.counters.units k.encode + ((start b).run ds es).added k.encode =
        ((start b).run ds es).store.counters.units k.encode +
          archivedUnits ((start b).run ds es).written k + ((start b).run ds es).heldUnits k := by
  intro ds b es
  have hbucket : ∀ d ∈ ds, d.settings.bucket = "user-logs" := by decide
  have ho : OrderlyFrom ds (start b) es := by decide
  have hlen : ((start b).run ds es).written.length = 1 := by decide
  exact ⟨hbucket, rfl, ho, hlen, (units_conserved ds _ hbucket b rfl es ho).1⟩

/-- Without the promise the units can be lost: a cycle whose sum of drained units overflows a
word halts right after it took a count, and that count leaves its counter for no object and no
cycle. -/
theorem drain_overflow_loses_units :
    let b : Backend :=
      { engine := .memory, blobs := { buckets := ({} : Table (Table Blob)).insert "user-logs" {} } }
    let s := (start b).run [⟨{}, .drainer 1⟩]
      [.incr "endpoint:/detail/news:R1/user:U1" (2 ^ 63), .incr "endpoint:/detail/news:R2/user:U1" (2 ^ 63),
        .call 0 Instant.fixed, .step 0, .step 0, .step 0, .step 0, .step 0]
    s.added "endpoint:/detail/news:R2/user:U1" = 2 ^ 63 ∧
      s.store.counters.units "endpoint:/detail/news:R2/user:U1" = 0 ∧ s.written = [] ∧
      s.flights = [] := by
  intro b s
  decide

end Traffic

end Turnstile
