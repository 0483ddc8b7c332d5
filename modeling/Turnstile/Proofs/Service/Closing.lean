import Turnstile.Service.Closing
import Turnstile.Proofs.Meter.Pool
import Turnstile.Proofs.Service.Shutdown

/-!
# Stopping the service archives every read, however requests race it

The accounting of `Turnstile.Proofs.Service.Shutdown` follows the units of every counter key
through a run of the service's events; here the run ends with the shutdown cut into its steps,
among which requests and the meter's tasks interleave (`Closing`). Along the events, the
service's meter stays the session's only meter, and open (`World.Alone`). Along the shutdown,
the meter's books and the stores' accounting are kept together (`Closing.Holds`): what the
counters held and the meter owed as the shutdown began, with the reads answered `Queued` since,
is what the counters, the meter and the objects of the drain bucket hold. The final cycle runs
only once the meter's shutdown returned, when the meter owes nothing, so an empty namespace
leaves every unit in the drain bucket (`shutdown_archives_every_read`).
-/

namespace Turnstile

open Drainer Archive StoreOp
open scoped List

namespace World

/-- A session whose service's meter is its only meter, and open: nothing is left of a replaced
meter and there is no standalone meter. -/
structure Alone (w : World) : Prop where
  stray : w.stray = []
  meter : w.meter = none
  service : ∃ a, w.app = some a ∧ a.meter.closed = false

variable {w w' : World}

/-- A change of the stores alone keeps the meters as they were. -/
theorem Alone.backend (h : w.Alone) (b : Backend) : ({ w with backend := b } : World).Alone :=
  ⟨h.stray, h.meter, h.service⟩

/-- A yield applies the service's queue, and the meter stays open. -/
theorem flushAll_alone (h : w.Alone) (hr : flushAll.run.run w = (.ok (), w')) : w'.Alone := by
  obtain ⟨hs, hm, a, ha, hc⟩ := h
  obtain ⟨m', hflush, -, hc', -⟩ := Meter.flush_run a.meter (Meter.receive w.backend w.stray)
  have hstray : flushStray.run.run w =
      (.ok (), { w with stray := [], backend := Meter.receive w.backend w.stray }) := by
    simp only [flushStray, run_bind, run_get, run_modify, forIn_incr_run, run_pure]
  simp only [flushAll, run_bind, hstray, run_get, hm, ha, onStores_run, hflush, run_modify] at hr
  obtain ⟨-, rfl⟩ := Prod.mk.inj hr
  exact ⟨rfl, rfl, _, rfl, hc'.trans hc⟩

/-- A drain tick changes the stores and the service's loop deadlines, not its meter. -/
theorem drainTick_alone (h : w.Alone) {due : Nat} (hr : (drainTick due).run.run w = (.ok (), w')) :
    w'.Alone := by
  obtain ⟨hs, hm, a, ha, hc⟩ := h
  simp only [drainTick, run_bind, run_get, ha, run_tryCatch, onStores_run, run_modify] at hr
  rcases hcyc : (a.drainer.cycle w.wall).run.run w.backend with ⟨_ | r, b⟩ <;>
    rw [hcyc] at hr <;> simp only [run_pure] at hr <;> obtain ⟨-, rfl⟩ := hr <;>
    exact ⟨hs, hm, _, rfl, hc⟩

/-- A shipping tick changes the stores and the shipping deadline, not the service's meter. -/
theorem shipTick_alone (h : w.Alone) {due : Nat} (hr : (shipTick due).run.run w = (.ok (), w')) :
    w'.Alone := by
  obtain ⟨hs, hm, a, ha, hc⟩ := h
  simp only [shipTick, run_bind, run_get, ha, onStores_run] at hr
  rcases hship : (shipFile w.files a.config.shipping.file a.config.shipping.bucket w.wall).run.run
    w.backend with ⟨_ | x, b⟩
  · rw [hship] at hr
    cases hr
  · rw [hship] at hr
    simp only [run_modify] at hr
    obtain ⟨-, rfl⟩ := Prod.mk.inj hr
    exact ⟨hs, hm, _, rfl, hc⟩

/-- The ticks of a sleep keep the service's meter the only one, open. -/
theorem runTicks_alone (target : Nat) :
    ∀ fuel w w', w.Alone → (runTicks target fuel).run.run w = (.ok (), w') → w'.Alone := by
  intro fuel
  induction fuel with
  | zero =>
    intro w w' h hr
    simp only [runTicks, run_pure] at hr
    obtain ⟨-, rfl⟩ := Prod.mk.inj hr
    exact h
  | succ fuel ih =>
    intro w w' h hr
    rcases runTicks_succ_cases hr with
      ⟨-, rfl⟩ | ⟨isDrain, due, w₂, w₃, -, h₂, h₃, h₄⟩
    · exact h
    -- the tick runs on the world with the store's clock set, then the queue is applied
    have h₁ := h.backend { w.backend with clock := due }
    have hw₂ : w₂.Alone := by
      cases isDrain with
      | true => exact drainTick_alone h₁ h₂
      | false => exact shipTick_alone h₁ h₂
    exact ih w₃ w' (flushAll_alone hw₂ h₃) h₄

theorem sleep_alone (h : w.Alone) {ms : Nat} (hr : (sleep ms).run.run w = (.ok (), w')) :
    w'.Alone := by
  obtain ⟨_, w₁, h₁, hr⟩ := run_bind_ok hr
  rw [run_bind, run_get] at hr
  obtain ⟨_, w₂, h₂, h₃⟩ := run_bind_ok hr
  rw [run_modify] at h₃
  obtain ⟨-, rfl⟩ := Prod.mk.inj h₃
  exact (runTicks_alone _ _ w₁ w₂ (flushAll_alone h h₁) h₂).backend _

/-- A store operation run for its effect keeps the meters as they were. -/
theorem discard_alone (h : w.Alone) {α : Type} {op : StoreOp α}
    (hr : (onStores op >>= fun _ => pure ()).run.run w = (.ok (), w')) : w'.Alone := by
  obtain ⟨x, b, -, rfl⟩ := discard_run hr
  exact h.backend b

/-- A handled request records at most one read on the service's meter, which stays open. -/
theorem request_alone (h : w.Alone) (req : Request)
    (hr : (AppEvent.request req).perform.run.run w = (.ok (), w')) : w'.Alone := by
  obtain ⟨hs, hm, a, ha, hc⟩ := h
  have hy := a.handle_yields req w.backend
  simp only [AppEvent.perform, run_get_bind, ha] at hr
  rw [run_bind, onStores_run] at hr
  rcases hh : (a.handle req).run.run w.backend with ⟨_ | ⟨a', res⟩, b⟩
  · simp only [hh] at hr
    cases hr
  simp only [hh, run_modify] at hr
  obtain ⟨-, rfl⟩ := Prod.mk.inj hr
  refine ⟨hs, hm, a', rfl, ?_⟩
  rcases hy _ _ hh with rfl | ⟨key, rfl⟩
  · exact hc
  · unfold Meter.record
    split <;> exact hc

/-- Every event keeps the service's meter the session's only meter, and open. -/
theorem perform_alone (h : w.Alone) (e : AppEvent) (hr : e.perform.run.run w = (.ok (), w')) :
    w'.Alone := by
  obtain ⟨a, ha, -⟩ := h.service
  cases e with
  | request req => exact request_alone h req hr
  | guard req =>
    rw [guard_perform_eq ha] at hr
    exact discard_alone h hr
  | unknownRoute req =>
    rw [unknownRoute_perform_eq ha] at hr
    exact discard_alone h hr
  | authorize c =>
    rw [authorize_perform_eq ha] at hr
    exact discard_alone h hr
  | incr key delta => exact discard_alone h hr
  | settle => exact flushAll_alone h hr
  | sleep ms => exact sleep_alone h hr
  | wall secs =>
    obtain ⟨t, w₁, h₁, h₂⟩ := run_bind_ok hr
    rw [advanceWall_run h₁, run_pure] at h₂
    obtain ⟨-, rfl⟩ := Prod.mk.inj h₂
    exact ⟨h.stray, h.meter, h.service⟩
  | drain =>
    rw [drain_perform_eq ha] at hr
    exact discard_alone h hr

theorem forM_perform_alone : ∀ (events : List AppEvent) (w w' : World), w.Alone →
    (events.forM AppEvent.perform).run.run w = (.ok (), w') → w'.Alone := by
  intro events
  induction events with
  | nil =>
    intro w w' h hr
    rw [List.forM, run_pure] at hr
    obtain ⟨-, rfl⟩ := Prod.mk.inj hr
    exact h
  | cons e es ih =>
    intro w w' h hr
    rw [List.forM] at hr
    obtain ⟨_, w₁, h₁, hr⟩ := run_bind_ok hr
    exact ih w₁ w' (perform_alone h e h₁) hr

theorem alone_startedOn {c : Config} {holder : Holder} {rs : Records} {b₁ : Backend} {a₀ : App}
    (hstart : (App.start c holder).run.run { engine := .memory, records := rs } =
      (.ok (.ok a₀), b₁))
    (wall : Instant) : (startedOn wall b₁ a₀).Alone := by
  refine ⟨rfl, rfl, a₀, rfl, ?_⟩
  rw [App.start_eq hstart]
  rfl

end World

/-! ### Stores alike in what the accounting reads -/

/-- On a quiet store, two stores alike in what the accounting reads stay alike after the same
increments. -/
theorem Meter.receive_ledger {b b' : Backend} (hq : b.Quiet) (h : b'.ledger = b.ledger)
    (keys : List String) : (Meter.receive b' keys).ledger = (Meter.receive b keys).ledger := by
  induction keys generalizing b b' with
  | nil => exact h
  | cons key keys ih =>
    rw [Meter.receive_cons hq, Meter.receive_cons (hq.of_ledger h)]
    refine ih (hq.addSaturating key 1) ?_
    simp only [Backend.ledger, Prod.mk.injEq] at h ⊢
    obtain ⟨hc, hb, he, hf⟩ := h
    exact ⟨by rw [hc], hb, he, hf⟩

theorem Backend.namespaceKeys_of_ledger {b b' : Backend} (h : b'.ledger = b.ledger) :
    b'.namespaceKeys = b.namespaceKeys := by
  simp only [Backend.ledger, Prod.mk.injEq] at h
  obtain ⟨hc, -, he, -⟩ := h
  have hm : b'.matchesPrefix = b.matchesPrefix := by
    funext pre key
    simp only [Backend.matchesPrefix, he]
  simp only [Backend.namespaceKeys, hc, hm]

namespace Closing

open Meter Meter.Pool

variable {c₀ c : Closing} {notes : List Note}

/-! ### Steps -/

/-- A step of the meter's tasks returns, and leaves the store as the increment it sent left it. -/
theorem meterStep_moves (c : Closing) (e : Pool.Event) :
    ∃ p' note, (c.pool.step e).run.run c.backend =
        (.ok (p', note), receive c.backend (sentKeys note.toList)) ∧
      c.meterStep e = ({ c with pool := p', backend := receive c.backend (sentKeys note.toList) },
        note) ∧ Shift c.pool p' note ∧ Onward c.pool p' note := by
  obtain ⟨p', note, hrun, hs, ho⟩ := Pool.step_moves c.pool e c.backend
  refine ⟨p', note, hrun, ?_, hs, ho⟩
  rw [meterStep, hrun]
  rfl

/-- A request changes the stores as its admission does, then records a read or not. -/
theorem request_cases (c : Closing) (req : Request) :
    c.request req =
        ({ c with backend := ((c.app.authorizeRequest req).run.run c.backend).2 }, none) ∨
      ∃ key, c.request req =
        { c with backend := ((c.app.authorizeRequest req).run.run c.backend).2 }.meterStep
          (.record key) := by
  unfold request
  split
  · next hrun =>
    rw [hrun]
    split
    · exact .inr ⟨_, rfl⟩
    · exact .inl rfl
  · next hrun =>
    rw [hrun]
    exact .inl rfl

/-- The shutdown's step on the meter's shutdown call in flight: the service moves on to the
final drain when that call returns, and otherwise is where the call's step leaves it. -/
theorem advance_flushing_cases {j : Nat} (hst : c.stage = .flushing j) :
    (c.advance = c.meterStep (.stop j)) ∨
      (c.advance =
          ({ (c.meterStep (.stop j)).1 with stage := .draining }, some (.returned false)) ∧
        (c.meterStep (.stop j)).2 = some (.returned false)) := by
  unfold advance
  rw [hst]
  dsimp only
  split
  · next c' heq => exact .inr ⟨by rw [heq], by rw [heq]⟩
  · next c' note _ heq => exact .inl heq.symm

/-! ### What the shutdown keeps -/

/-- What the stores hold once the final drain cycle of a shutdown that began as `c₀` returned
`r`, the meter having sent the keys `sent` since: a quiet store whose counter namespace is empty
unless the cycle put a batch back or was skipped, and the units of every counter key at the start
and those sent since are in its counter or in objects written into the drain bucket, one after
another under names that were free. -/
structure Archived (c₀ : Closing) (b : Backend) (r : DrainReport) (sent : List String) :
    Prop where
  quiet : b.Quiet
  cleared : b.namespaceKeys = [] ∨ 0 < r.batchesRestored ∨ r.skipped.isSome
  moved : ∃ written, Grows (c₀.backend.blobs.objects c₀.app.drainer.settings.bucket) written
      (b.blobs.objects c₀.app.drainer.settings.bucket) ∧
    ∀ k : CounterKey, c₀.backend.counters.units k.encode + sent.count k.encode =
      b.counters.units k.encode + archivedUnits written k

theorem Archived.of_ledger {b b' : Backend} {r : DrainReport} {sent : List String}
    (h : Archived c₀ b r sent) (hl : b'.ledger = b.ledger) : Archived c₀ b' r sent := by
  obtain ⟨hq, hns, written, hgrow, hunits⟩ := h
  have hc : b'.counters = b.counters := congrArg (·.1) hl
  have hb : b'.blobs = b.blobs := congrArg (·.2.1) hl
  refine ⟨hq.of_ledger hl, by rw [Backend.namespaceKeys_of_ledger hl]; exact hns, written,
    by rw [hb]; exact hgrow, fun k => ?_⟩
  rw [hc]
  exact hunits k

/-- The final drain cycle of a shutdown that began as `c₀` on a quiet store, run on a store
alike to the one that received the keys sent since, archives the units it held, as long as they
fit a word. -/
theorem archived_of_cycle (hq₀ : c₀.backend.Quiet) {b b' : Backend} {sent : List String}
    {now : Instant} {r : DrainReport} (hl : b.ledger = (receive c₀.backend sent).ledger)
    (hfit : ∀ k : CounterKey,
      c₀.backend.counters.units k.encode + sent.count k.encode ≤ wordMax)
    (h : (c₀.app.drainer.cycle now).run.run b = (.ok r, b')) : Archived c₀ b' r sent := by
  have hq : b.Quiet := (receive_quiet hq₀ sent).of_ledger hl
  have hunits : ∀ k : CounterKey, b.counters.units k.encode =
      c₀.backend.counters.units k.encode + sent.count k.encode := fun k => by
    rw [show b.counters = (receive c₀.backend sent).counters from congrArg (·.1) hl,
      receive_units hq₀ _ _ (hfit k)]
  have hobj : b.blobs = c₀.backend.blobs := (congrArg (·.2.1) hl).trans (receive_blobs _ _)
  obtain ⟨hq', hns, written, hgrow, hmoved⟩ :=
    cycle_moves_units _ now hq (fun k => (hunits k).trans_le (hfit k)) h
  refine ⟨hq', hns, written, by rw [← hobj]; exact hgrow, fun k => ?_⟩
  rw [← hunits k]
  exact hmoved k

/-- What a shutdown that began as `c₀` keeps, against what the meter told since: the service's
settings and clock; the meter's books and its shutdown call's work; an open meter until the
shutdown calls it; a returned meter shutdown before the final drain; until the final drain, a
store alike to the one that received the keys sent; and once the drain returned a report, the
units archived, as long as they fit a word. -/
structure Holds (c₀ : Closing) (st : Closing × List Note) : Prop where
  config : st.1.app.config = c₀.app.config
  drainer : st.1.app.drainer = c₀.app.drainer
  wall : st.1.wall = c₀.wall
  books : Pool.Books c₀.pool st.1.pool st.2
  settled : Pool.Settled st.1.pool
  opened : st.1.stage = .loops ∨ st.1.stage = .meter → st.1.pool.closed = false
  flushed : st.1.stage = .draining ∨ (∃ r, st.1.stage = .stopped r) →
    Stopper.returned ∈ st.1.pool.stopping
  store : st.1.stage ≠ .halted → (∀ r, st.1.stage ≠ .stopped r) →
    st.1.backend.ledger = (receive c₀.backend (sentKeys st.2)).ledger
  archived : ∀ r, st.1.stage = .stopped (some r) →
    (∀ k : CounterKey, c₀.backend.counters.units k.encode + (sentKeys st.2).count k.encode ≤
      wordMax) → Archived c₀ st.1.backend r (sentKeys st.2)

/-- A step of the shutdown that tells nothing keeps the notes as they were. -/
theorem Holds.of_silent {c c' : Closing} (hadv : c.advance = (c', none))
    (h : Holds c₀ (c', notes)) : Holds c₀ (c.advance.1, notes ++ c.advance.2.toList) := by
  rw [hadv, Option.toList_none, List.append_nil]
  exact h

/-- Telling the loops to stop changes their deadlines alone. -/
theorem Holds.stopLoops (h : Holds c₀ (c, notes)) (hst : c.stage = .loops) :
    Holds c₀ ({ c with app := { c.app with drainDue := none, shipDue := none }, stage := .meter },
      notes) :=
  ⟨h.config, h.drainer, h.wall, h.books, h.settled, fun _ => h.opened (.inl hst),
    fun hs => by simp at hs, fun _ _ => h.store (by simp [hst]) (by simp [hst]),
    fun _ hs => by simp at hs⟩

/-- Calling the meter's shutdown, which finds the meter open, starts the call that flushes it. -/
theorem Holds.callMeter (h : Holds c₀ (c, notes)) (hst : c.stage = .meter) :
    Holds c₀ (c.advance.1, notes ++ c.advance.2.toList) := by
  have hopen : c.pool.closed = false := h.opened (.inr hst)
  have hnote : c.pool.beginShutdown.2 = none := by
    simp only [Pool.beginShutdown, hopen, Bool.false_eq_true, ↓reduceIte]
  obtain ⟨hs, ho⟩ := (Pool.beginShutdown_moves c.pool (b := c.backend)).of_pure
  rcases hbs : c.pool.beginShutdown with ⟨p', note⟩
  rw [hbs] at hs ho hnote
  dsimp only at hs ho hnote
  subst hnote
  have hadv :
      c.advance = ({ c with pool := p', stage := .flushing c.pool.stopping.length }, none) := by
    simp only [advance, hst, hbs]
  refine Holds.of_silent hadv ⟨h.config, h.drainer, h.wall,
    by simpa only [Option.toList_none, List.append_nil] using h.books.shift hs,
    h.settled.onward ho, fun hs => by simp at hs, fun hs => by simp at hs,
    fun _ _ => h.store (by simp [hst]) (by simp [hst]), fun _ hs => by simp at hs⟩

section Holds

variable (hq₀ : c₀.backend.Quiet)
include hq₀

/-- Before the final drain the store is quiet, being alike to a quiet store. -/
theorem Holds.quiet (h : Holds c₀ (c, notes)) (hh : c.stage ≠ .halted)
    (hs : ∀ r, c.stage ≠ .stopped r) : c.backend.Quiet :=
  (receive_quiet hq₀ _).of_ledger (h.store hh hs)

/-- A change of the stores that keeps what the accounting reads, whenever the store is quiet,
keeps what the shutdown keeps. -/
theorem Holds.backend (h : Holds c₀ (c, notes)) {b : Backend}
    (hl : c.backend.Quiet → b.ledger = c.backend.ledger) :
    Holds c₀ ({ c with backend := b }, notes) :=
  ⟨h.config, h.drainer, h.wall, h.books, h.settled, h.opened, h.flushed,
    fun hh hs => (hl (h.quiet hq₀ hh hs)).trans (h.store hh hs),
    fun r hst hfit => (h.archived r hst hfit).of_ledger (hl (h.archived r hst hfit).quiet)⟩

/-- A step of the meter's tasks keeps what the shutdown keeps, as long as it leaves the closed
flag alone until the shutdown calls the meter: the books follow the step, and the store follows
the increment it sent; once stopped, the meter owes nothing and sends nothing. -/
theorem Holds.meterStep (h : Holds c₀ (c, notes)) (e : Pool.Event)
    (hclosed : c.stage = .loops ∨ c.stage = .meter → ∀ {p' note b'},
      (c.pool.step e).run.run c.backend = (.ok (p', note), b') → p'.closed = c.pool.closed) :
    Holds c₀ ((c.meterStep e).1, notes ++ (c.meterStep e).2.toList) := by
  obtain ⟨p', note, hrun, heq, hs, ho⟩ := c.meterStep_moves e
  rw [heq]
  refine ⟨h.config, h.drainer, h.wall, h.books.shift hs, h.settled.onward ho,
    fun hst => (hclosed hst hrun).trans (h.opened hst), fun hst => ho.kept (h.flushed hst),
    fun hh hst => ?_, fun r hst hfit => ?_⟩
  · -- before the final drain the store received the keys sent so far
    rw [sentKeys_append, receive_append]
    exact receive_ledger (receive_quiet hq₀ _) (h.store hh hst) _
  · have hnil := hs.sent_nil (h.settled.pending_nil (h.flushed (.inr ⟨_, hst⟩)))
    rw [sentKeys_append, hnil, List.append_nil] at hfit ⊢
    exact h.archived r hst hfit

/-- A record call or a worker's step keeps what the shutdown keeps: it leaves the closed flag
alone. -/
theorem Holds.poolStep (h : Holds c₀ (c, notes)) {e : Pool.Event} (hs : e ≠ .shutdown)
    (hstop : ∀ i, e ≠ .stop i) :
    Holds c₀ ((c.meterStep e).1, notes ++ (c.meterStep e).2.toList) :=
  h.meterStep hq₀ e fun _ _ _ _ hrun => Pool.step_closed hs hstop hrun

theorem Holds.request (h : Holds c₀ (c, notes)) (req : Request) :
    Holds c₀ ((c.request req).1, notes ++ (c.request req).2.toList) := by
  have hb := h.backend hq₀ (b := ((c.app.authorizeRequest req).run.run c.backend).2)
    fun hq => c.app.authorizeRequest_ledger req hq.memory
  rcases c.request_cases req with hr | ⟨key, hr⟩ <;> rw [hr]
  · rw [Option.toList_none, List.append_nil]
    exact hb
  · exact hb.poolStep hq₀ (by simp) (by simp)

/-- The meter's shutdown call takes its next step; once it returns, the final drain is next. -/
theorem Holds.flush (h : Holds c₀ (c, notes)) {j : Nat} (hst : c.stage = .flushing j) :
    Holds c₀ (c.advance.1, notes ++ c.advance.2.toList) := by
  have hm := h.meterStep hq₀ (.stop j) fun hs => by simp [hst] at hs
  rcases advance_flushing_cases hst with hadv | ⟨hadv, hn⟩
  · rw [hadv]
    exact hm
  · obtain ⟨p', note, -, heq, -, ho⟩ := c.meterStep_moves (.stop j)
    rw [heq] at hm hn hadv
    dsimp only at hn
    subst hn
    rw [hadv]
    exact ⟨hm.config, hm.drainer, hm.wall, hm.books, hm.settled, fun hs => by simp at hs,
      fun _ => ho.said rfl, fun _ _ => hm.store (by simp [hst]) (by simp [hst]),
      fun _ hs => by simp at hs⟩

/-- With the meter's shutdown returned, the final drain cycle runs, when the settings ask for
it, on a store alike to the one that received every key sent. -/
theorem Holds.finalDrain (h : Holds c₀ (c, notes)) (hst : c.stage = .draining) :
    Holds c₀ (c.advance.1, notes ++ c.advance.2.toList) := by
  have hret := h.flushed (.inl hst)
  cases hdrain : c.app.config.drain.drainOnShutdown with
  | false =>
    have hadv : c.advance = ({ c with stage := .stopped none }, none) := by
      simp only [advance, hst, hdrain, Bool.false_eq_true, ↓reduceIte]
    exact Holds.of_silent hadv ⟨h.config, h.drainer, h.wall, h.books, h.settled,
      fun hs => by simp at hs, fun _ => hret, fun _ hs => absurd rfl (hs _),
      fun _ hs => by simp at hs⟩
  | true =>
    rcases hcyc : (c.app.drainer.cycle c.wall).run.run c.backend with ⟨_ | r, b'⟩
    · -- a halted cycle halts the shutdown
      have hadv : c.advance = ({ c with backend := b', stage := .halted }, none) := by
        simp only [advance, hst, hdrain, hcyc, ↓reduceIte]
      exact Holds.of_silent hadv ⟨h.config, h.drainer, h.wall, h.books, h.settled,
        fun hs => by simp at hs, fun hs => by simp at hs, fun hh => absurd rfl hh,
        fun _ hs => by simp at hs⟩
    · have hadv : c.advance = ({ c with backend := b', stage := .stopped (some r) }, none) := by
        simp only [advance, hst, hdrain, hcyc, ↓reduceIte]
      refine Holds.of_silent hadv ⟨h.config, h.drainer, h.wall, h.books, h.settled,
        fun hs => by simp at hs, fun _ => hret, fun _ hs => absurd rfl (hs _),
        fun r' hs hfit => ?_⟩
      obtain rfl : r = r' := by simpa using hs
      rw [h.drainer] at hcyc
      exact archived_of_cycle hq₀ (h.store (by simp [hst]) (by simp [hst])) hfit hcyc

/-- Every step of the shutdown keeps what the shutdown keeps. -/
theorem Holds.advance (h : Holds c₀ (c, notes)) :
    Holds c₀ (c.advance.1, notes ++ c.advance.2.toList) := by
  cases hst : c.stage with
  | loops =>
    have hadv : c.advance =
        ({ c with app := { c.app with drainDue := none, shipDue := none }, stage := .meter },
          none) := by
      simp only [Closing.advance, hst]
    exact Holds.of_silent hadv (h.stopLoops hst)
  | meter => exact h.callMeter hst
  | flushing j => exact h.flush hq₀ hst
  | draining => exact h.finalDrain hq₀ hst
  | stopped r => exact Holds.of_silent (by simp only [Closing.advance, hst]) h
  | halted => exact Holds.of_silent (by simp only [Closing.advance, hst]) h

/-- Every step while the service stops keeps what the shutdown keeps: requests and the meter's
record calls and workers race the shutdown's own steps in any order. -/
theorem Holds.step {st : Closing × List Note} (h : Holds c₀ st) (e : Event) :
    Holds c₀ (after st e) := by
  obtain ⟨c, notes⟩ := st
  cases e with
  | request req => exact h.request hq₀ req
  | send i => exact h.poolStep hq₀ (e := .send i) (by simp) (by simp)
  | take i => exact h.poolStep hq₀ (e := .take i) (by simp) (by simp)
  | apply i => exact h.poolStep hq₀ (e := .apply i) (by simp) (by simp)
  | shutdown => exact h.advance hq₀

theorem Holds.foldl :
    ∀ (events : List Event) (st : Closing × List Note), Holds c₀ st →
      Holds c₀ (events.foldl after st) := by
  intro events
  induction events with
  | nil => exact fun _ h => h
  | cons e events ih => exact fun st h => ih _ (h.step hq₀ e)

end Holds

/-- The service as its shutdown begins, its meter open, keeps what the shutdown keeps. -/
theorem holds_begin (w : World) {a : App} (hc : a.meter.closed = false) :
    Holds (begin w a) (begin w a, []) :=
  ⟨rfl, rfl, rfl, Pool.books_start _, Pool.settled_of_stopping_nil rfl, fun _ => hc,
    fun hs => by simp [begin] at hs, fun _ _ => rfl, fun _ hs => by simp [begin] at hs⟩

/-- Every run of the shutdown of a service on a quiet store, its meter open, keeps what the
shutdown keeps. -/
theorem holds_run {w : World} {a : App} (hq : w.backend.Quiet) (hc : a.meter.closed = false)
    (events : List Event) : Holds (begin w a) (run events (begin w a)) :=
  Holds.foldl hq events _ (holds_begin w hc)

end Closing

open World in
/-- A service started on fresh memory stores, whatever subjects they register, shipping logs into
another bucket than the drain bucket, archives every read when it stops, however requests and the
meter's tasks race its shutdown: over a run of events that overflows no counter and keeps the
drain loop alive, then its shutdown, among whose steps any requests, record calls and workers'
steps interleave, whose final drain cycle returns a report that is not skipped and puts no batch
back, as long as the counts fit a word, the counter namespace ends empty; the objects written
into the drain bucket, which are all its objects, hold for every key the units callers added to
it and the reads its meter queued during the run, and each read answered `Queued` during the
shutdown; and every read answered `Dropped` during the shutdown is counted as dropped. -/
theorem shutdown_archives_every_read {c : Config} {holder : Holder} {rs : Records} {b₁ : Backend}
    {a₀ : App}
    (hstart : (App.start c holder).run.run { engine := .memory, records := rs } =
      (.ok (.ok a₀), b₁))
    (hship : c.shipping.enabled = true → c.shipping.bucket ≠ c.drain.bucket)
    (wall : Instant) (events : List AppEvent) (hcalm : (startedOn wall b₁ a₀).CalmFrom events)
    {w : World} (hrun : (events.forM AppEvent.perform).run.run (startedOn wall b₁ a₀) = (.ok (), w))
    {a : App} (ha : w.app = some a) (tail : List Closing.Event)
    (hfit : ∀ k : CounterKey, w.backend.counters.units k.encode + a.meter.queue.count k.encode +
      (Meter.queuedReads (Closing.run tail (Closing.begin w a)).2).count k ≤ wordMax)
    {r : DrainReport} (hend : (Closing.run tail (Closing.begin w a)).1.stage = .stopped (some r))
    (hskip : r.skipped = none) (hup : r.batchesRestored = 0) :
    let out := Closing.run tail (Closing.begin w a)
    out.1.backend.namespaceKeys = [] ∧
      (∃ written, Archive.Grows {} written (out.1.backend.blobs.objects c.drain.bucket) ∧
        ∀ k : CounterKey, archivedUnits written k =
          credits k.encode (startedOn wall b₁ a₀) events + (Meter.queuedReads out.2).count k) ∧
      out.1.pool.dropped = a.meter.dropped + (Meter.droppedReads out.2).length := by
  intro out
  have hbucket : a₀.drainer.settings.bucket = c.drain.bucket := by rw [App.start_eq hstart]
  -- the events: the units shift, and the service's meter stays the only one, and open
  obtain ⟨hs₁, -, written₁, hgrow₁, hunits₁⟩ :=
    forM_perform_shifts events _ w (serving_startedOn hstart hship wall) hcalm hrun
  obtain ⟨hstray, hmeter, a', ha', hclosed⟩ :=
    forM_perform_alone events _ w (alone_startedOn hstart wall) hrun
  rw [ha, Option.some.injEq] at ha'
  subst ha'
  have hqueued : w.queued = a.meter.queue := by simp [queued, hstray, hmeter, ha]
  obtain ⟨a'', ha'', -, hdrainer, -⟩ := hs₁.running
  rw [ha, Option.some.injEq] at ha''
  subst ha''
  -- the shutdown: its call on the meter returned, so the keys sent are those owed and queued
  have hh := Closing.holds_run hs₁.quiet hclosed tail
  have howed := hh.books.sent_of_returned hh.settled (hh.flushed (.inr ⟨_, hend⟩))
  have hpending : (Closing.begin w a).pool.pending = a.meter.queue := Meter.Pool.ofMeter_pending _ _
  rw [hpending] at howed
  have hsent : ∀ k : CounterKey, (Meter.sentKeys out.2).count k.encode =
      a.meter.queue.count k.encode + (Meter.queuedReads out.2).count k := fun k => by
    rw [howed.count_eq, List.count_append,
      List.count_map_of_injective _ _ CounterKey.encode_injective]
  obtain ⟨hquiet, hns, written₂, hgrow₂, hunits₂⟩ :=
    hh.archived r hend fun k => by rw [hsent k, ← Nat.add_assoc]; exact hfit k
  have hempty : out.1.backend.namespaceKeys = [] := by
    rcases hns with hns | hns | hns
    · exact hns
    · omega
    · simp [hskip] at hns
  refine ⟨hempty, ⟨written₁ ++ written₂, ?_, fun k => ?_⟩, hh.books.dropped⟩
  · -- the objects written during the events, then by the final drain
    obtain ⟨-, hobj⟩ := startedOn_empty hstart wall
    rw [← hobj, ← hbucket]
    have hd : (Closing.begin w a).app.drainer = a₀.drainer := hdrainer
    rw [hd] at hgrow₂
    exact hgrow₁.append hgrow₂
  · have e₁ := hunits₁ k
    have e₂ := hunits₂ k
    rw [(startedOn_empty hstart wall).1 k, startedOn_queued hstart, hqueued] at e₁
    rw [Backend.units_of_namespaceKeys_nil hquiet.memory hempty k, hsent k] at e₂
    rw [archivedUnits_append]
    simp only [List.count_nil] at e₁
    dsimp only [Closing.begin] at e₂
    omega

open World in
/-- A read racing the shutdown is archived: on a meter of one worker, a request admitted as the
shutdown begins reads the closed flag before the shutdown calls the meter, and queues its
increment only after; the meter's shutdown applies it before the final drain, which archives it. -/
theorem shutdown_archives_racing_read :
    let c : Config := { meter := { workers := 1 } }
    let rs : Records := { subjects := ({} : Table Json).insert "U1" (.object []) }
    let b₁ := ((App.start c (.drainer 1)).run.run { engine := .memory, records := rs }).2
    let a₀ : App :=
      { config := c
        gate := ⟨c.gate.statusTtl⟩
        blocklist := ⟨c.blocklist.cacheTtl⟩
        meter := Meter.start c.meter
        drainer := ⟨c.drain, .drainer 1⟩
        drainDue := App.firstDue b₁ c.drain.interval }
    let w := startedOn Instant.fixed b₁ a₀
    let req : Request := { path := "/api/v2/detail/R1", headers := [("X-API-Key", "U1")] }
    let tail : List Closing.Event := [.request req, .shutdown, .shutdown, .send 0, .shutdown,
      .shutdown, .take 0, .apply 0, .take 0, .shutdown, .shutdown, .shutdown]
    let r : DrainReport :=
      { keysScanned := 1
        keysDrained := 1
        unitsDrained := 1
        unitsArchived := 1
        objects := ["U1/detail-log-2024-05-01T10-00-07.json"] }
    let out := Closing.run tail (Closing.begin w a₀)
    (App.start c (.drainer 1)).run.run { engine := .memory, records := rs } = (.ok (.ok a₀), b₁) ∧
      out.1.stage = .stopped (some r) ∧ (Meter.queuedReads out.2).length = 1 ∧
      out.1.backend.namespaceKeys = [] ∧
      (∃ written, Archive.Grows {} written (out.1.backend.blobs.objects c.drain.bucket) ∧
        ∀ k : CounterKey, archivedUnits written k =
          credits k.encode w [] + (Meter.queuedReads out.2).count k) ∧
      out.1.pool.dropped = a₀.meter.dropped + (Meter.droppedReads out.2).length := by
  intro c rs b₁ a₀ w req tail r
  have hstart :
      (App.start c (.drainer 1)).run.run { engine := .memory, records := rs } =
        (.ok (.ok a₀), b₁) := rfl
  have hcalm : w.CalmFrom [] :=
    (serving_startedOn hstart (fun h => by cases h) _).queueFits_of_nil (startedOn_queued hstart _)
  have hend : (Closing.run tail (Closing.begin w a₀)).1.stage = .stopped (some r) := by
    decide +kernel
  have hlen : (Meter.queuedReads (Closing.run tail (Closing.begin w a₀)).2).length = 1 := by
    decide +kernel
  -- no counter held anything, nothing was queued, and one read was queued during the shutdown
  have hfit : ∀ k : CounterKey, w.backend.counters.units k.encode + a₀.meter.queue.count k.encode +
      (Meter.queuedReads (Closing.run tail (Closing.begin w a₀)).2).count k ≤ wordMax := fun k => by
    have hk := List.count_le_length (a := k)
      (l := Meter.queuedReads (Closing.run tail (Closing.begin w a₀)).2)
    have hw : 1 ≤ wordMax := by decide
    have hq : a₀.meter.queue = [] := rfl
    rw [(startedOn_empty hstart _).1 k, hq, List.count_nil]
    omega
  have hrun : (([] : List AppEvent).forM AppEvent.perform).run.run w = (.ok (), w) := rfl
  have ha : w.app = some a₀ := rfl
  exact ⟨hstart, hend, hlen, shutdown_archives_every_read hstart (fun h => by cases h)
    Instant.fixed [] hcalm hrun ha tail hfit hend rfl rfl⟩

end Turnstile
