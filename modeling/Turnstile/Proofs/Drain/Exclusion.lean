import Mathlib
import Turnstile.Proofs.Drain.Traffic
import Turnstile.Proofs.Store.Run

/-!
# Drain cycles exclude each other

Two mechanisms keep drain cycles apart. A drainer runs one cycle at a time: a
call while its cycle is in flight is answered at once (`Traffic.call`). Across
drainers the lease does it: a cycle takes the lease before it scans and gives it
up at the end, and the counters grant it only when there is none, when it has
lapsed, or when the taker holds it already.

The lease keeps its promise only while it has not lapsed, so the statement
assumes what a deployment must ensure: the clock moves on by less than a lease's
lifetime while a cycle holds it (`Traffic.Timely`, at every state of the run).
Then `Traffic.Exclusive` holds of every state: each drainer has at most one
cycle in flight, at most one cycle holds the lease, and the lease row names the
drainer of that cycle and lapses a lifetime after it was taken. The invariant
holds at the start and every event keeps it (`exclusive_step`); the lease step
is the one that needs the others' rows (`Exclusive.mayLease_eq_false`).
-/

namespace Turnstile

/-- The moment a lease taken at `t` for a lifetime `L` lapses, as each engine reckons it: the
memory engine counts from its monotonic clock, the durable one from its fixed origin. -/
def Engine.leaseEnd : Engine → Nat → Nat → Nat
  | .memory, t, L => t + L
  | .durable, _, L => min L signedMax

namespace Backend

/-- A lease granted now lapses at the engine's end of its lifetime. -/
theorem eq_leaseEnd_of_deadline {b : Backend} {L t : Nat} (h : b.deadline L = .ok t) :
    t = b.engine.leaseEnd b.now L := by
  cases he : b.engine with
  | memory =>
    simp only [deadline, he] at h
    by_cases hov : (monotonicStart + b.clock + L) / 1000 > signedMax
    · simp [hov] at h
    · simp only [hov, ↓reduceIte, Except.ok.injEq] at h
      simp [Engine.leaseEnd, now, he, h]
  | durable =>
    simp only [deadline, he, Except.ok.injEq] at h
    simp [Engine.leaseEnd, h]

/-- A lease taken no later than now, whose lifetime has not run out, has not lapsed. -/
theorem now_lt_leaseEnd (b : Backend) {t L : Nat} (ht : t ≤ b.now) (hl : b.now < t + L) :
    b.now < b.engine.leaseEnd t L := by
  cases he : b.engine with
  | memory => simpa [Engine.leaseEnd] using hl
  | durable =>
    have h0 : b.now = 0 := by simp [now, he]
    have hmax : 0 < signedMax := by decide
    simp only [Engine.leaseEnd]
    omega

/-- The present moment is read from the engine and the clock alone. -/
theorem now_eq_of_leaseView {b b' : Backend} (h : b'.leaseView = b.leaseView) : b'.now = b.now := by
  simp only [leaseView, Prod.mk.injEq] at h
  obtain ⟨-, he, hc⟩ := h
  simp [now, he, hc]

/-- The clock moving on never takes the present moment back. -/
theorem now_le_tick (b : Backend) (ms : Nat) : b.now ≤ { b with clock := b.clock + ms }.now := by
  cases he : b.engine <;> simp [now, he]

end Backend

/-- A lease row of another holder that has not lapsed refuses the lease. -/
theorem Counters.mayLease_eq_false {c : Counters} {name : String} {h h' : Holder} {e now : Nat}
    (hrow : c.leases.get? name = some ⟨h', e⟩) (hne : h' ≠ h) (hlt : now < e) :
    c.mayLease name h now = false := by
  simp [Counters.mayLease, hrow, hne, hlt]

namespace Drainer

open StoreOp Archive

/-- Whether a phase holds the lease, by its constructor. -/
theorem Phase.holding_eq_false {p : Phase} (h : p.holding = false) :
    p = .ping ∨ p = .acquire ∨ ∃ r, p = .done r := by
  cases p <;> simp_all [Phase.holding]

/-- A cycle comes to hold the lease only through the lease step: any other step that reaches a
holding phase starts from one. -/
theorem holding_of_advance {d : Drainer} {now : Instant} {p p' : Phase} {b b' : Backend}
    (ha : p ≠ .acquire) (h : (d.advance now p).run.run b = (.ok p', b')) (hh : p'.holding) :
    p.holding := by
  cases hp : p.holding with
  | true => rfl
  | false =>
    rcases Phase.holding_eq_false hp with rfl | rfl | ⟨r, rfl⟩
    · rw [advance_ping_run] at h
      obtain ⟨hx, -⟩ := Prod.mk.inj h
      cases hg : b.counterGuard .ping <;> simp [hg, Except.ok.injEq] at hx <;>
        simp [← hx, Phase.holding] at hh
    · exact absurd rfl ha
    · obtain ⟨hx, -⟩ := Prod.mk.inj h
      cases hx
      simp [Phase.holding] at hh

end Drainer

theorem Flight.moveTo_leasedAt_of_ne {f : Flight} (p : Drainer.Phase) (t : Nat)
    (h : f.phase ≠ .acquire) : (f.moveTo p t).leasedAt = f.leasedAt := by
  unfold Flight.moveTo
  split
  · contradiction
  · rfl

theorem Flight.moveTo_leasedAt_of_acquire {f : Flight} (p : Drainer.Phase) (t : Nat)
    (h : f.phase = .acquire) : (f.moveTo p t).leasedAt = t := by
  simp [Flight.moveTo, h]

namespace Traffic

open Drainer StoreOp Archive

section Lists

variable {l : List Flight} {j : Nat} {f : Flight}

theorem nodup_drainers_eraseIdx (h : (l.map (·.drainer)).Nodup) (j : Nat) :
    ((l.eraseIdx j).map (·.drainer)).Nodup :=
  h.sublist ((List.eraseIdx_sublist l j).map _)

theorem nodup_drainers_set (h : (l.map (·.drainer)).Nodup) (hj : l[j]? = some f) {f' : Flight}
    (hd : f'.drainer = f.drainer) : ((l.set j f').map (·.drainer)).Nodup := by
  have hmap : (l.set j f').map (·.drainer) = l.map (·.drainer) := by
    apply List.ext_getElem?
    intro i
    rw [List.getElem?_map, List.getElem?_map, List.getElem?_set]
    by_cases hij : j = i
    · subst hij
      obtain ⟨hlt, hf⟩ := List.getElem?_eq_some_iff.1 hj
      simp [hd, hlt, hf]
    · simp [hij]
  rw [hmap]
  exact h

/-- When the flight at a position holds the lease and at most one does, no other does. -/
theorem not_holding_of_mem_eraseIdx (hs : l.countP (·.phase.holding) ≤ 1) (hj : l[j]? = some f)
    (hf : f.phase.holding) {g : Flight} (hg : g ∈ l.eraseIdx j) : g.phase.holding = false := by
  obtain ⟨hlt, rfl⟩ := List.getElem?_eq_some_iff.1 hj
  have hperm := (List.getElem_cons_eraseIdx_perm hlt).countP_eq (·.phase.holding)
  rw [List.countP_cons, if_pos hf] at hperm
  have hzero : (l.eraseIdx j).countP (·.phase.holding) = 0 := by omega
  simpa using List.countP_eq_zero.1 hzero g hg

end Lists

/-- A cycle holding the lease has it on record: it took it no later than now, and the lease row
names its drainer and lapses a lifetime after the moment it was taken. -/
def Holds (ds : List Drainer) (name : String) (b : Backend) (f : Flight) : Prop :=
  f.leasedAt ≤ b.now ∧ ∀ d, ds[f.drainer]? = some d →
    b.counters.leases.get? name =
      some ⟨d.holder, b.engine.leaseEnd f.leasedAt (d.settings.leaseTtl * 1000)⟩

/-- The invariant of drain cycles: every cycle belongs to a drainer, each drainer has at most one
cycle in flight, at most one cycle holds the lease, and the one that does has it on record. -/
structure Exclusive (ds : List Drainer) (name : String) (s : Traffic) : Prop where
  known : ∀ f ∈ s.flights, f.drainer < ds.length
  solo : (s.flights.map (·.drainer)).Nodup
  single : s.flights.countP (·.phase.holding) ≤ 1
  held : ∀ f ∈ s.flights, f.phase.holding → Holds ds name s.store f

/-- Every cycle that holds the lease is within its lifetime: less than the lease's lifetime has
passed since it took the lease. -/
def Timely (ds : List Drainer) (s : Traffic) : Prop :=
  ∀ f ∈ s.flights, f.phase.holding → ∀ d ∈ ds[f.drainer]?,
    s.store.now < f.leasedAt + d.settings.leaseTtl * 1000

/-- Every state a run of events passes through is timely, the first and the last included. -/
def TimelyFrom (ds : List Drainer) : Traffic → List Event → Prop
  | s, [] => s.Timely ds
  | s, e :: es => s.Timely ds ∧ TimelyFrom ds (s.step ds e) es

instance (ds : List Drainer) (s : Traffic) : Decidable (s.Timely ds) :=
  inferInstanceAs (Decidable (∀ f ∈ s.flights, f.phase.holding → ∀ d ∈ ds[f.drainer]?,
    s.store.now < f.leasedAt + d.settings.leaseTtl * 1000))

instance TimelyFrom.decidable (ds : List Drainer) :
    (s : Traffic) → (es : List Event) → Decidable (TimelyFrom ds s es)
  | s, [] => inferInstanceAs (Decidable (s.Timely ds))
  | s, e :: es =>
    have := TimelyFrom.decidable ds (s.step ds e) es
    inferInstanceAs (Decidable (s.Timely ds ∧ TimelyFrom ds (s.step ds e) es))

section Exclusion

variable {ds : List Drainer} {name : String} {s : Traffic}

/-- A record of the lease survives a later present moment and any change beside the leases. -/
theorem Holds.mono {b b' : Backend} {f : Flight} (h : Holds ds name b f) (hn : b.now ≤ b'.now)
    (he : b'.engine = b.engine) (hl : b'.counters.leases = b.counters.leases) :
    Holds ds name b' f :=
  ⟨Nat.le_trans h.1 hn, fun d hd => by rw [hl, he]; exact h.2 d hd⟩

theorem Holds.of_leaseView {b b' : Backend} {f : Flight} (h : Holds ds name b f)
    (hv : b'.leaseView = b.leaseView) : Holds ds name b' f := by
  have hv' := hv
  simp only [Backend.leaseView, Prod.mk.injEq] at hv'
  exact h.mono (Nat.le_of_eq (Backend.now_eq_of_leaseView hv).symm) hv'.2.1 hv'.1

theorem exclusive_start (b : Backend) : Exclusive ds name (start b) :=
  ⟨by simp [start], by simp [start], by simp [start], by simp [start]⟩

/-- The invariant survives any change of the store that keeps the flights and the leases and
does not take the present moment back. -/
theorem Exclusive.of_store {s' : Traffic} (h : Exclusive ds name s) (hf : s'.flights = s.flights)
    (hn : s.store.now ≤ s'.store.now) (he : s'.store.engine = s.store.engine)
    (hl : s'.store.counters.leases = s.store.counters.leases) : Exclusive ds name s' := by
  refine ⟨?_, ?_, ?_, ?_⟩
  · rw [hf]; exact h.known
  · rw [hf]; exact h.solo
  · rw [hf]; exact h.single
  · rw [hf]
    exact fun f hf hh => (h.held f hf hh).mono hn he hl

/-- The invariant after a cycle leaves the flights, given the record of the cycles that still
hold the lease. -/
theorem Exclusive.eraseIdx (h : Exclusive ds name s) (j : Nat) {b : Backend}
    (hb : ∀ g ∈ s.flights.eraseIdx j, g.phase.holding → Holds ds name b g) :
    Exclusive ds name { s with store := b, flights := s.flights.eraseIdx j } :=
  ⟨fun g hg => h.known g (List.mem_of_mem_eraseIdx hg), nodup_drainers_eraseIdx h.solo j,
    Nat.le_trans (List.eraseIdx_sublist _ j).countP_le h.single, hb⟩

/-- The invariant after a cycle moves on in place, when it holds the lease only if it held it
already or no cycle did. -/
theorem Exclusive.set (h : Exclusive ds name s) {j : Nat} {f f' : Flight}
    (hj : s.flights[j]? = some f) (hd : f'.drainer = f.drainer)
    (hc : f'.phase.holding → f.phase.holding ∨ ∀ g ∈ s.flights, g.phase.holding = false)
    {b : Backend} (w : List (String × Batch))
    (hb : ∀ g ∈ s.flights.set j f', g.phase.holding → Holds ds name b g) :
    Exclusive ds name { s with store := b, flights := s.flights.set j f', written := w } := by
  obtain ⟨hlt, hf⟩ := List.getElem?_eq_some_iff.1 hj
  refine ⟨?_, nodup_drainers_set h.solo hj hd, ?_, hb⟩
  · intro g hg
    rcases List.mem_or_eq_of_mem_set hg with hg | rfl
    · exact h.known g hg
    · rw [hd]; exact h.known f (List.mem_of_getElem? hj)
  · show (s.flights.set j f').countP (·.phase.holding) ≤ 1
    rw [List.countP_set hlt, hf]
    have hs := h.single
    cases hh : f'.phase.holding
    · simp only [Bool.false_eq_true, ↓reduceIte]
      omega
    · rcases hc hh with hfh | hnone
      · simp only [hfh, ↓reduceIte]
        omega
      · have hzero : s.flights.countP (·.phase.holding) = 0 := by
          rw [List.countP_eq_zero]
          intro g hg
          simp [hnone g hg]
        simp only [hzero, ↓reduceIte]
        omega

/-- A step of a cycle that does not touch the leases keeps the invariant. -/
theorem Exclusive.settle_of_keeps (h : Exclusive ds name s) {j : Nat} {f : Flight}
    (hj : s.flights[j]? = some f) (ha : f.phase ≠ .acquire) {x : Except Halt Phase}
    {b : Backend} (hb : b.leaseView = s.store.leaseView)
    (hp : ∀ p, x = .ok p → p.holding → f.phase.holding) :
    Exclusive ds name (s.settle j f (x, b)).1 := by
  rcases settle_cases s j f x b with he | ⟨p, rfl, he⟩ <;> rw [he]
  · exact h.eraseIdx j fun g hg hh =>
      (h.held g (List.mem_of_mem_eraseIdx hg) hh).of_leaseView hb
  · refine h.set hj (Flight.moveTo_drainer f p s.store.now) (fun hh => .inl (hp p rfl hh)) _
      fun g hg hh => ?_
    rcases List.mem_or_eq_of_mem_set hg with hg | hgf
    · exact (h.held g hg hh).of_leaseView hb
    · subst hgf
      -- the cycle keeps the moment it took the lease at
      have hf := h.held f (List.mem_of_getElem? hj) (hp p rfl hh)
      have hl := Flight.moveTo_leasedAt_of_ne p s.store.now ha
      refine (Holds.of_leaseView ⟨?_, fun d hd => ?_⟩ hb)
      · rw [hl]; exact hf.1
      · rw [hl]; exact hf.2 d hd

/-- Drainers at different positions have different holders when no holder repeats. -/
theorem holder_ne_of_ne (h : (ds.map (·.holder)).Nodup) {i k : Nat} {di dk : Drainer}
    (hi : ds[i]? = some di) (hk : ds[k]? = some dk) (hik : i ≠ k) : di.holder ≠ dk.holder := by
  intro heq
  have hi' : (ds.map (·.holder))[i]? = some di.holder := by simp [hi]
  have hk' : (ds.map (·.holder))[k]? = some di.holder := by simp [hk, heq]
  have hlen : ∀ {n : Nat} {x : Holder}, (ds.map (·.holder))[n]? = some x →
      n < (ds.map (·.holder)).length := fun hx => (List.getElem?_eq_some_iff.1 hx).1
  rcases Nat.lt_or_gt_of_ne hik with hlt | hlt
  · exact List.nodup_iff_getElem?_ne_getElem?.1 h i k hlt (hlen hk') (hi'.trans hk'.symm)
  · exact List.nodup_iff_getElem?_ne_getElem?.1 h k i hlt (hlen hi') (hk'.trans hi'.symm)

/-- While a cycle holds the lease and is within its lifetime, the lease is refused to the
drainer of any other cycle. -/
theorem Exclusive.mayLease_eq_false (hname : ∀ d ∈ ds, d.settings.leaseName = name)
    (hholders : (ds.map (·.holder)).Nodup) (h : Exclusive ds name s) (ht : s.Timely ds)
    {j : Nat} {f : Flight} {d : Drainer} (hj : s.flights[j]? = some f)
    (hd : ds[f.drainer]? = some d) (hfa : f.phase = .acquire) {g : Flight}
    (hg : g ∈ s.flights) (hgh : g.phase.holding) :
    s.store.counters.mayLease d.settings.leaseName d.holder s.store.now = false := by
  obtain ⟨dg, hdg⟩ : ∃ dg, ds[g.drainer]? = some dg :=
    ⟨_, List.getElem?_eq_getElem (h.known g hg)⟩
  -- the holding cycle and the asking one are different cycles, hence of different drainers
  have hgf : g.drainer ≠ f.drainer := by
    intro heq
    have := List.inj_on_of_nodup_map h.solo hg (List.mem_of_getElem? hj) heq
    subst this
    simp [hfa, Phase.holding] at hgh
  have hholder : dg.holder ≠ d.holder := holder_ne_of_ne hholders hdg hd hgf
  have hrec := h.held g hg hgh
  have hlive := Backend.now_lt_leaseEnd s.store hrec.1 (ht g hg hgh dg hdg)
  rw [hname d (List.mem_of_getElem? hd)]
  exact Counters.mayLease_eq_false (hrec.2 dg hdg) hholder hlive

/-- The lease step keeps the invariant: a grant happens only when no cycle holds the lease,
and then records the taker; every other outcome leaves the leases as they were. -/
theorem Exclusive.settle_acquire (hname : ∀ d ∈ ds, d.settings.leaseName = name)
    (hholders : (ds.map (·.holder)).Nodup) (h : Exclusive ds name s) (ht : s.Timely ds)
    {j : Nat} {f : Flight} {d : Drainer} (hj : s.flights[j]? = some f)
    (hd : ds[f.drainer]? = some d) (hfa : f.phase = .acquire) :
    Exclusive ds name (s.settle j f ((d.advance f.now f.phase).run.run s.store)).1 := by
  have hkeep : ∀ g ∈ s.flights.eraseIdx j, g.phase.holding → Holds ds name s.store g :=
    fun g hg hh => h.held g (List.mem_of_mem_eraseIdx hg) hh
  rw [hfa, advance_acquire_run]
  split
  · exact h.eraseIdx j hkeep
  · split
    · next hmay =>
      have hnone : ∀ g ∈ s.flights, g.phase.holding = false := by
        intro g hg
        cases hgh : g.phase.holding
        · rfl
        · rw [h.mayLease_eq_false hname hholders ht hj hd hfa hg hgh] at hmay
          cases hmay
      split
      · next t hdl =>
        refine h.set hj (Flight.moveTo_drainer f .scan s.store.now) (fun _ => .inr hnone) _
          fun g hg hh => ?_
        rcases List.mem_or_eq_of_mem_set hg with hg | rfl
        · simp [hnone g hg] at hh
        -- the taker's record: the grant's row, lapsing a lifetime after now
        · have hl := Flight.moveTo_leasedAt_of_acquire Phase.scan s.store.now hfa
          have hend := Backend.eq_leaseEnd_of_deadline hdl
          refine ⟨by rw [hl]; exact Nat.le_refl _, fun d' hd' => ?_⟩
          rw [Flight.moveTo_drainer, hd] at hd'
          cases hd'
          simp only [Counters.grant, hl, ← hend, hname d (List.mem_of_getElem? hd)]
          exact Table.get?_insert_self _ _ _
      · exact h.eraseIdx j fun g hg hh => (hkeep g hg hh).of_leaseView rfl
    · exact h.eraseIdx j hkeep

/-- Giving the lease up keeps the invariant: the cycle that does so is the one holding it, and
it leaves the flights. -/
theorem Exclusive.settle_release (h : Exclusive ds name s) {j : Nat} {f : Flight} {d : Drainer}
    {r : DrainReport} (hj : s.flights[j]? = some f) (hfr : f.phase = .release r) :
    Exclusive ds name (s.settle j f ((d.advance f.now f.phase).run.run s.store)).1 := by
  rw [hfr, advance_release_run]
  refine h.eraseIdx j fun g hg hh => ?_
  have hf : f.phase.holding := by simp [hfr, Phase.holding]
  simp [not_holding_of_mem_eraseIdx h.single hj hf hg] at hh

/-- One step of a cycle in flight keeps the invariant. -/
theorem Exclusive.stepFlight (hname : ∀ d ∈ ds, d.settings.leaseName = name)
    (hholders : (ds.map (·.holder)).Nodup) (h : Exclusive ds name s) (ht : s.Timely ds)
    (j : Nat) : Exclusive ds name (s.stepFlight ds j).1 := by
  rcases stepFlight_cases ds s j with hs | ⟨f, d, hj, hd, hs⟩
  · rw [hs]
    exact h
  rw [hs]
  by_cases hfa : f.phase = .acquire
  · exact h.settle_acquire hname hholders ht hj hd hfa
  · by_cases hfr : ∃ r, f.phase = .release r
    · obtain ⟨r, hfr⟩ := hfr
      exact h.settle_release hj hfr
    · have hr : ∀ r, f.phase ≠ .release r := fun r he => hfr ⟨r, he⟩
      refine h.settle_of_keeps hj hfa (advance_keeps_leaseView d f.now hfa hr s.store) ?_
      intro p hp hh
      exact holding_of_advance hfa (Prod.ext hp rfl) hh

/-- A call keeps the invariant: a busy drainer changes nothing, and a new cycle holds nothing. -/
theorem Exclusive.call (h : Exclusive ds name s) (i : Nat) (now : Instant) :
    Exclusive ds name (s.call ds i now).1 := by
  unfold Traffic.call
  split
  · exact h
  · next hbusy =>
    split
    · next hi =>
      refine ⟨?_, ?_, ?_, ?_⟩
      · intro g hg
        rcases List.mem_append.1 hg with hg | hg
        · exact h.known g hg
        · simp only [List.mem_singleton] at hg
          subst hg
          exact hi
      · have hfree : ∀ g ∈ s.flights, g.drainer ≠ i := fun g hg hgi =>
          hbusy (List.any_eq_true.2 ⟨g, hg, by simp [hgi]⟩)
        simpa [List.nodup_append] using ⟨h.solo, hfree⟩
      · simpa [Phase.holding] using h.single
      · intro g hg hh
        rcases List.mem_append.1 hg with hg | hg
        · exact h.held g hg hh
        · simp only [List.mem_singleton] at hg
          subst hg
          simp [Phase.holding] at hh
    · exact h

/-- Every event keeps the invariant, given that the state it happens in is timely. -/
theorem exclusive_step (hname : ∀ d ∈ ds, d.settings.leaseName = name)
    (hholders : (ds.map (·.holder)).Nodup) (h : Exclusive ds name s) (ht : s.Timely ds)
    (e : Event) : Exclusive ds name (s.step ds e) := by
  cases e with
  | incr key delta =>
    have hv := incr_keeps_leaseView key delta s.store
    rw [← incr_store] at hv
    have hn := Backend.now_eq_of_leaseView hv
    simp only [Backend.leaseView, Prod.mk.injEq] at hv
    exact h.of_store (incr_flights s key delta) (Nat.le_of_eq hn.symm) hv.2.1 hv.1
  | call i now => exact h.call i now
  | step j => exact h.stepFlight hname hholders ht j
  | tick ms => exact h.of_store rfl (Backend.now_le_tick s.store ms) rfl rfl
  | faults f => exact h.of_store rfl (Nat.le_refl _) rfl rfl

/-- Every timely run keeps the invariant. -/
theorem exclusive_run (hname : ∀ d ∈ ds, d.settings.leaseName = name)
    (hholders : (ds.map (·.holder)).Nodup) (es : List Event) :
    ∀ s : Traffic, Exclusive ds name s → TimelyFrom ds s es → Exclusive ds name (s.run ds es) := by
  induction es with
  | nil => exact fun s h _ => h
  | cons e es ih =>
    intro s h ht
    rw [run_cons]
    exact ih _ (exclusive_step hname hholders h ht.1 e) ht.2

/-- The last state of a timely run is timely. -/
theorem TimelyFrom.last {es : List Event} :
    ∀ {s : Traffic}, TimelyFrom ds s es → (s.run ds es).Timely ds := by
  induction es with
  | nil => exact fun h => h
  | cons e es ih => exact fun h => ih h.2

/-- A step reports only when the cycle finishes, and then with the cycle's report. -/
theorem eq_done_of_settle {s : Traffic} {j : Nat} {f : Flight} {x : Except Halt Phase}
    {b : Backend} {r : DrainReport} (h : (s.settle j f (x, b)).2 = some r) : x = .ok (.done r) := by
  rcases x with e | p
  · cases h
  · cases p with
    | done r' => cases h; rfl
    | _ => cases h

/-- While a cycle holds the lease, the lease step of another cycle finishes it unchanged:
skipped because the lease is held, or because the counters do not answer. -/
theorem Exclusive.stepFlight_acquire_of_holding (hname : ∀ d ∈ ds, d.settings.leaseName = name)
    (hholders : (ds.map (·.holder)).Nodup) (h : Exclusive ds name s) (ht : s.Timely ds)
    {j : Nat} {f : Flight} (hj : s.flights[j]? = some f) (hfa : f.phase = .acquire)
    (hheld : ∃ g ∈ s.flights, g.phase.holding) :
    s.stepFlight ds j = ({ s with flights := s.flights.eraseIdx j }, some (.skip
      (if (s.store.counterGuard .tryAcquireLease >>= fun _ => s.store.stateGuard "leases").toBool
        then .leaseHeld else .storeUnreachable))) := by
  obtain ⟨g, hg, hgh⟩ := hheld
  obtain ⟨d, hd⟩ : ∃ d, ds[f.drainer]? = some d :=
    ⟨_, List.getElem?_eq_getElem (h.known f (List.mem_of_getElem? hj))⟩
  have hmay := h.mayLease_eq_false hname hholders ht hj hd hfa hg hgh
  simp only [Traffic.stepFlight, hj, hd, hfa, advance_acquire_run]
  cases hguard : (s.store.counterGuard .tryAcquireLease >>= fun _ => s.store.stateGuard "leases") with
  | error e => rfl
  | ok u =>
    simp only [hmay, Bool.false_eq_true, ↓reduceIte]
    rfl

/-- A cycle that has not taken the lease changes nothing: its ping step leaves the store as it
was, and so does its lease step whenever it finishes the cycle. -/
theorem stepFlight_store_before_lease {j : Nat} {f : Flight} (hj : s.flights[j]? = some f)
    (hp : f.phase = .ping ∨ (f.phase = .acquire ∧ (s.stepFlight ds j).2.isSome)) :
    (s.stepFlight ds j).1.store = s.store := by
  cases hd : ds[f.drainer]? with
  | none => simp [Traffic.stepFlight, hj, hd]
  | some d =>
    simp only [Traffic.stepFlight, hj, hd] at hp ⊢
    rw [settle_store]
    rcases hp with hping | ⟨hfa, hsome⟩
    · rw [hping, advance_ping_run]
    -- the lease step finishes the cycle only on the branches that write nothing
    · rw [hfa] at hsome ⊢
      generalize hxb : (d.advance f.now .acquire).run.run s.store = xb at hsome ⊢
      obtain ⟨x, b'⟩ := xb
      obtain ⟨r, hr⟩ := Option.isSome_iff_exists.1 hsome
      rw [eq_done_of_settle hr] at hxb
      exact advance_acquire_store_of_done hxb

/-- Drain cycles are mutually exclusive. Take drainers that share one lease name and have
distinct holders, and any run of events in which the clock moves on by less than a lease's
lifetime while a cycle holds it. In the state it reaches: at most one cycle holds the lease;
each drainer has at most one cycle in flight, and a call on a busy drainer is answered at once
that a cycle is in progress, changing nothing; while a cycle holds the lease, the lease step of
any other cycle finds it held (or the counters unreachable), finishes that cycle and changes
nothing else; and a cycle that has not taken the lease leaves the store as it was. -/
theorem drain_cycles_exclusive (ds : List Drainer) (name : String)
    (hname : ∀ d ∈ ds, d.settings.leaseName = name) (hholders : (ds.map (·.holder)).Nodup)
    (b : Backend) (es : List Event) (ht : TimelyFrom ds (start b) es) :
    let s := (start b).run ds es
    s.flights.countP (·.phase.holding) ≤ 1 ∧
    (s.flights.map (·.drainer)).Nodup ∧
    (∀ i now, s.busy i → s.call ds i now = (s, some (.skip .cycleInProgress))) ∧
    (∀ j f, s.flights[j]? = some f → f.phase = .acquire → (∃ g ∈ s.flights, g.phase.holding) →
      s.stepFlight ds j = ({ s with flights := s.flights.eraseIdx j }, some (.skip
        (if (s.store.counterGuard .tryAcquireLease >>= fun _ => s.store.stateGuard "leases").toBool
          then .leaseHeld else .storeUnreachable)))) ∧
    (∀ j f, s.flights[j]? = some f →
      (f.phase = .ping ∨ (f.phase = .acquire ∧ (s.stepFlight ds j).2.isSome)) →
      (s.stepFlight ds j).1.store = s.store) := by
  intro s
  have hs : Exclusive ds name s := exclusive_run hname hholders es _ (exclusive_start b) ht
  have hts : s.Timely ds := TimelyFrom.last ht
  refine ⟨hs.single, hs.solo, fun i now hbusy => by simp [Traffic.call, hbusy], ?_, ?_⟩
  · exact fun j f hj hfa hheld => hs.stepFlight_acquire_of_holding hname hholders hts hj hfa hheld
  · exact fun j f hj hp => stepFlight_store_before_lease hj hp

/-- Two drainers of the default lease are called; the first takes the lease, the second is
turned away, the first is called again while busy, and the clock moves on before it scans. -/
theorem two_drainers_exclusive :
    let ds : List Drainer := [⟨{}, .drainer 1⟩, ⟨{}, .drainer 2⟩]
    let es : List Event := [.call 0 Instant.fixed, .call 1 Instant.fixed, .step 0, .step 1,
      .step 0, .step 1, .call 0 Instant.fixed, .tick 1000, .step 0]
    (∀ d ∈ ds, d.settings.leaseName = "drain-lease:endpoint:/detail/news:") ∧
      (ds.map (·.holder)).Nodup ∧ TimelyFrom ds (start { engine := .memory }) es ∧
      ((start { engine := .memory }).run ds es).flights.countP (·.phase.holding) ≤ 1 := by
  intro ds es
  have hname : ∀ d ∈ ds, d.settings.leaseName = "drain-lease:endpoint:/detail/news:" := by decide
  have hholders : (ds.map (·.holder)).Nodup := by decide
  have ht : TimelyFrom ds (start { engine := .memory }) es := by decide
  exact ⟨hname, hholders, ht, (drain_cycles_exclusive ds _ hname hholders _ es ht).1⟩

end Exclusion

end Traffic

end Turnstile
