import Turnstile.Proofs.Service.Ledger
import Turnstile.Proofs.Service.Lifetimes
import Turnstile.Proofs.Drain.Outcome

/-!
# Shutting the service down archives every unit

A run of the service is any sequence of events (`AppEvent`) followed by its
shutdown (`World.serve`), which stops the loops, applies the queued increments
and, when the settings ask for it, drains once more. This module follows the
units of every counter key through such a run.

Each event shifts units between a key's counter, the meters' queues and the
objects of the drain bucket, and adds only what it gives from outside
(`perform_shifts`): a yield moves the queues into the counters, a sleep does
that and runs the loops' ticks, a drain cycle moves counts into objects, a
request queues its read, a caller's increment adds its units, and every other
event moves nothing. A shipping tick writes into its own bucket, which is why
the accounting asks that bucket to differ from the drain bucket. Along the run
the shifts compose (`forM_perform_shifts`), and the shutdown moves what is left
(`stopApp_shifts`).

Main statement (`shutdown_archives_every_unit`): started on fresh memory
stores, with shipping into another bucket, a run that overflows nothing and
keeps its drain loop alive ends, when the final cycle is not skipped and puts
no batch back, with the counter namespace empty and the objects of the drain
bucket holding, for every key, exactly the reads its meter queued and the
units callers added to it.
-/

namespace Turnstile

open Drainer Archive StoreOp

/-- Adding an object to one bucket leaves the other buckets' objects as they were. -/
theorem Blobs.objects_add_of_ne (b : Blobs) {bucket other : String} (h : bucket ≠ other)
    (name : String) (blob : Blob) : (b.add bucket name blob).objects other = b.objects other := by
  unfold Blobs.add Blobs.objects Table.modify
  split
  · dsimp only
    rw [Table.get?_insert_of_ne _ _ h]
  · rfl

/-- What the accounting of one drain bucket reads of a store. -/
def Backend.bucketLedger (bucket : String) (b : Backend) :
    Counters × Table Blob × Engine × Faults :=
  (b.counters, b.blobs.objects bucket, b.engine, b.faults)

namespace StoreOp

theorem putObject_keeps_bucketLedger {bucket other : String} (h : bucket ≠ other) (name : String)
    (blob : Blob) : Keeps (Backend.bucketLedger other) (putObject bucket name blob) := by
  intro b
  rw [putObject_run]
  dsimp only
  split
  · rfl
  · simp only [Backend.bucketLedger, Blobs.objects_add_of_ne _ h]
    rfl

end StoreOp

/-- Shipping a log into another bucket keeps what the accounting of a drain bucket reads. -/
theorem shipFile_keeps_bucketLedger (tree : FileTree) (path : String) {bucket other : String}
    (h : bucket ≠ other) (now : Instant) :
    Keeps (Backend.bucketLedger other) (shipFile tree path bucket now) := by
  unfold shipFile
  split
  · exact keeps_pure _
  · split
    · exact keeps_pure _
    · exact keeps_pure _
    · exact (putObject_keeps_bucketLedger h _ _).bind fun r => by
        cases r <;> exact keeps_pure _

/-- Creating a bucket if missing adds no object to any bucket. -/
theorem Blobs.objects_ensure (b : Blobs) (bucket x : String) :
    (b.ensure bucket).1.objects x = b.objects x := by
  unfold Blobs.ensure
  split
  · rfl
  · next h =>
    by_cases hx : bucket = x
    · subst hx
      have hnone : b.buckets.get? bucket = none := by simpa [Table.contains] using h
      simp [Blobs.objects, hnone]
    · simp [Blobs.objects, Table.get?_insert_of_ne _ _ hx]

namespace App

/-- On stores with no fault switched on, provisioning creates the missing buckets, empty, and
changes nothing else. -/
theorem provision_quiet (buckets : List String) {b : Backend} (hq : b.faults = {}) :
    ∃ bs : Blobs, (provision buckets).run.run b = (.ok (.ok ()), { b with blobs := bs }) ∧
      ∀ x, bs.objects x = b.blobs.objects x := by
  induction buckets generalizing b with
  | nil => exact ⟨b.blobs, rfl, fun _ => rfl⟩
  | cons bucket rest ih =>
    obtain ⟨bs, hrun, hobj⟩ := ih (b := { b with blobs := (b.blobs.ensure bucket).1 }) hq
    refine ⟨bs, ?_, fun x => (hobj x).trans (Blobs.objects_ensure b.blobs bucket x)⟩
    rw [provision, run_bind, ensureBucket_quiet hq]
    exact hrun

/-- Starting on stores with no fault switched on writes the buckets alone, and no object. -/
theorem start_backend {c : Config} {holder : Holder} {b₀ b₁ : Backend} {a : App}
    (hq : b₀.faults = {}) (h : (start c holder).run.run b₀ = (.ok (.ok a), b₁)) :
    ∃ bs : Blobs, b₁ = { b₀ with blobs := bs } ∧
      ∀ x, bs.objects x = b₀.blobs.objects x := by
  obtain ⟨bs, hp, hobj⟩ :=
    provision_quiet (c.drain.bucket :: if c.shipping.enabled then [c.shipping.bucket] else []) hq
  simp only [start, run_bind, ping_run, hp, run_get, run_pure] at h
  obtain ⟨-, rfl⟩ := Prod.mk.inj h
  exact ⟨bs, rfl, hobj⟩

end App

namespace World

variable {α : Type} {a₀ : App} {w w' : World}

@[simp] theorem run_get_bind (f : World → Run α) (w : World) :
    (get >>= f).run.run w = (f w).run.run w :=
  rfl

theorem run_tryCatch (x : Run α) (handler : Halt → Run α) (w : World) :
    (tryCatch x handler).run.run w = match x.run.run w with
      | (.ok a, w') => (.ok a, w')
      | (.error e, w') => (handler e).run.run w' := by
  have hx : StateT.run x w = x.run.run w := rfl
  simp only [tryCatch, tryCatchThe, MonadExceptOf.tryCatch, ExceptT.tryCatch, ExceptT.run_mk,
    StateT.run_bind, hx]
  rcases x.run.run w with ⟨_ | _, _⟩ <;> rfl

theorem run_map {β : Type} (f : α → β) (x : Run α) (w : World) :
    (f <$> x).run.run w = ((x.run.run w).1.map f, (x.run.run w).2) := by
  rw [← bind_pure_comp, run_bind]
  rcases x.run.run w with ⟨_ | a, w'⟩ <;> rfl

theorem Shifts.trans_still {bucket : String} {w₁ w₂ : World} {g : String → Nat}
    (h₁ : Shifts bucket w w₁ g) (h₂ : Shifts bucket w₁ w₂ fun _ => 0) :
    Shifts bucket w w₂ g := by
  simpa using h₁.trans h₂

/-- A world with the backend and the queues of another has shifted as much. -/
theorem Shifts.of_same {bucket : String} {w₁ w₁' : World} {g : String → Nat}
    (h : Shifts bucket w w₁ g) (hb : w₁'.backend = w₁.backend)
    (hq : w₁'.queued = w₁.queued) : Shifts bucket w w₁' g := by
  obtain ⟨written, hgrow, hunits⟩ := h
  exact ⟨written, by rw [hb]; exact hgrow, fun k => by rw [hb, hq]; exact hunits k⟩

/-- A drain tick whose cycle returns shifts units into the drain bucket and keeps the loop
running; one whose cycle halts ends the loop. -/
theorem drainTick_shifts (hs : Serving a₀ w) {due : Nat}
    (h : (drainTick due).run.run w = (.ok (), w')) :
    (Serving a₀ w' ∧ w'.queued = w.queued ∧ w'.draining = true ∧
      Shifts a₀.drainer.settings.bucket w w' fun _ => 0) ∨ w'.draining = false := by
  obtain ⟨a, ha, hc, hd, hship⟩ := hs.running
  simp only [drainTick, run_bind, run_get, ha, run_tryCatch, onStores_run, run_modify, hd] at h
  rcases hcyc : (a₀.drainer.cycle w.wall).run.run w.backend with ⟨_ | r, b⟩
  -- a halted cycle ends the loop
  · rw [hcyc] at h
    simp only [run_pure] at h
    obtain ⟨-, rfl⟩ := h
    right
    simp [draining]
  · rw [hcyc] at h
    simp only [run_pure] at h
    obtain ⟨-, rfl⟩ := h
    obtain ⟨hS, hshift, -⟩ := cycle_shifts hs w.wall hcyc
    refine .inl ⟨⟨hS.quiet, hS.bounded, _, rfl, hc, hd, hship⟩, ?_, by simp [draining], ?_⟩
    · simp [queued, ha]
    · exact hshift.of_same rfl (by simp [queued, ha])

/-- The tick due next belongs to a loop of the service that is running. -/
theorem nextTick_running {target due : Nat} {isDrain : Bool}
    (h : nextTick w target = some (isDrain, due)) :
    ∃ a, w.app = some a ∧ (isDrain = true → a.drainDue.isSome = true) ∧
      (isDrain = false → a.shipDue.isSome = true) := by
  unfold nextTick at h
  split at h
  · cases h
  · next a ha =>
    refine ⟨a, ha, fun hi => ?_, fun hi => ?_⟩
    · subst hi
      cases hd : a.drainDue
      · simp only [hd, Option.filter_none] at h
        split at h <;> simp_all
      · rfl
    · subst hi
      cases hs : a.shipDue
      · simp only [hs, Option.filter_none] at h
        split at h <;> simp_all
      · rfl

/-- A shipping tick writes only into the shipping bucket, which is not the drain bucket while
shipping runs: it shifts nothing and keeps the world serving. -/
theorem shipTick_shifts (hs : Serving a₀ w) {due : Nat}
    (hdue : ∃ a, w.app = some a ∧ a.shipDue.isSome = true)
    (h : (shipTick due).run.run w = (.ok (), w')) :
    Serving a₀ w' ∧ w'.queued = w.queued ∧
      Shifts a₀.drainer.settings.bucket w w' fun _ => 0 := by
  obtain ⟨a, ha, hc, hd, hship⟩ := hs.running
  obtain ⟨a', ha', hdue⟩ := hdue
  rw [ha, Option.some.injEq] at ha'
  subst ha'
  have hne : a.config.shipping.bucket ≠ a₀.drainer.settings.bucket := by
    rw [hc]
    exact hship hdue
  have hk := shipFile_keeps_bucketLedger w.files a.config.shipping.file hne w.wall w.backend
  simp only [shipTick, run_bind, run_get, ha, onStores_run] at h
  rcases hr : (shipFile w.files a.config.shipping.file a.config.shipping.bucket w.wall).run.run
    w.backend with ⟨_ | x, b⟩
  · rw [hr] at h
    cases h
  rw [hr] at h hk
  simp only [run_modify] at h
  obtain ⟨-, rfl⟩ := h
  simp only [Backend.bucketLedger, Prod.mk.injEq] at hk
  obtain ⟨hcount, hobj, heng, hfault⟩ := hk
  have hq : b.Quiet :=
    ⟨heng.trans hs.quiet.memory, hfault.trans hs.quiet.faultless, hcount ▸ hs.quiet.healthy⟩
  refine ⟨⟨hq, fun k => hcount ▸ hs.bounded k, _, rfl, hc, hd, fun _ => hship hdue⟩,
    ?_, ?_⟩
  · simp [queued, ha]
  · exact shifts_still hcount hobj (by simp [queued, ha])

/-- The loops see the drain loop as the world's loop view shows it. -/
theorem draining_of_loopView (hv : w'.loopView = w.loopView) : w'.draining = w.draining := by
  simp only [loopView, Prod.mk.injEq] at hv
  obtain ⟨-, -, hv⟩ := hv
  unfold draining
  cases ha' : w'.app <;> cases ha : w.app <;> simp_all

theorem flushAll_draining (h : flushAll.run.run w = (.ok (), w')) : w'.draining = w.draining := by
  obtain ⟨w₁, hrun, -, -, hv⟩ := flushAll_run w
  rw [hrun, Prod.mk.injEq] at h
  rw [← h.2]
  exact draining_of_loopView hv

/-- A shipping tick leaves the drain loop as it was. -/
theorem shipTick_draining {due : Nat} (h : (shipTick due).run.run w = (.ok (), w')) :
    w'.draining = w.draining := by
  cases ha : w.app with
  | none =>
    simp only [shipTick, run_bind, run_get, ha, run_pure] at h
    obtain ⟨-, rfl⟩ := Prod.mk.inj h
    rfl
  | some a =>
    simp only [shipTick, run_bind, run_get, ha, onStores_run] at h
    rcases hr : (shipFile w.files a.config.shipping.file a.config.shipping.bucket w.wall).run.run
      w.backend with ⟨_ | x, b⟩
    · rw [hr] at h
      cases h
    · rw [hr] at h
      simp only [run_modify] at h
      obtain ⟨-, rfl⟩ := Prod.mk.inj h
      simp [draining, ha]

/-- One round of the ticks that returns: either nothing is due and the world stays, or the
store's clock is set to the next tick's time, the tick runs, the queues are applied and the
rest of the ticks run. -/
theorem runTicks_succ_cases {target fuel : Nat}
    (h : (runTicks target (fuel + 1)).run.run w = (.ok (), w')) :
    (nextTick w target = none ∧ w' = w) ∨
      ∃ isDrain due w₂ w₃, nextTick w target = some (isDrain, due) ∧
        (if isDrain then drainTick due else shipTick due).run.run
          { w with backend := { w.backend with clock := due } } = (.ok (), w₂) ∧
        flushAll.run.run w₂ = (.ok (), w₃) ∧
        (runTicks target fuel).run.run w₃ = (.ok (), w') := by
  simp only [runTicks, run_bind, run_get] at h
  cases hn : nextTick w target with
  | none =>
    simp only [hn, run_pure] at h
    exact .inl ⟨rfl, (Prod.mk.inj h).2.symm⟩
  | some tick =>
    obtain ⟨isDrain, due⟩ := tick
    simp only [hn] at h
    obtain ⟨_, w₁, h₁, h⟩ := run_bind_ok h
    rw [run_modify] at h₁
    obtain ⟨-, rfl⟩ := Prod.mk.inj h₁
    -- each branch of the tick carries the rest of the round
    have hround : ((if isDrain then drainTick due else shipTick due) >>= fun _ =>
        flushAll >>= fun _ => runTicks target fuel).run.run
          { w with backend := { w.backend with clock := due } } = (.ok (), w') := by
      cases isDrain <;> exact h
    obtain ⟨_, w₂, h₂, h⟩ := run_bind_ok hround
    obtain ⟨_, w₃, h₃, h₄⟩ := run_bind_ok h
    exact .inr ⟨isDrain, due, w₂, w₃, rfl, h₂, h₃, h₄⟩

/-- Once the drain loop has ended, ticks do not start it again. -/
theorem runTicks_idle (target : Nat) :
    ∀ fuel w w', w.draining = false → (runTicks target fuel).run.run w = (.ok (), w') →
      w'.draining = false := by
  intro fuel
  induction fuel with
  | zero =>
    intro w w' hw h
    simp only [runTicks, run_pure] at h
    obtain ⟨-, rfl⟩ := Prod.mk.inj h
    exact hw
  | succ fuel ih =>
    intro w w' hw h
    rcases runTicks_succ_cases h with
      ⟨-, rfl⟩ | ⟨isDrain, due, w₂, w₃, hn, h₂, h₃, h₄⟩
    · exact hw
    obtain ⟨a, ha, hdue, -⟩ := nextTick_running hn
    cases isDrain with
    | true =>
      -- a drain tick needs a running drain loop
      simp [draining, ha, hdue rfl] at hw
    | false =>
      simp only [Bool.false_eq_true, ↓reduceIte] at h₂
      refine ih w₃ w' ?_ h₄
      rw [flushAll_draining h₃, shipTick_draining h₂]
      exact hw

/-- With nothing queued, the queued increments fit. -/
theorem Serving.queueFits_of_nil (hs : Serving a₀ w) (hq : w.queued = []) : w.QueueFits :=
  fun k => by simpa [hq] using hs.bounded k

/-- Ticks on a serving world with nothing queued, during which the drain loop does not end,
shift nothing: each drain cycle moves units from the counters into the drain bucket, each
shipping tick writes elsewhere, and the yield after a tick finds the queues empty. -/
theorem runTicks_shifts (target : Nat) :
    ∀ fuel w w', Serving a₀ w → w.queued = [] →
      (w.draining = true → w'.draining = true) →
      (runTicks target fuel).run.run w = (.ok (), w') →
      Serving a₀ w' ∧ w'.queued = [] ∧
        Shifts a₀.drainer.settings.bucket w w' fun _ => 0 := by
  intro fuel
  induction fuel with
  | zero =>
    intro w w' hs hq _ h
    simp only [runTicks, run_pure] at h
    obtain ⟨-, rfl⟩ := Prod.mk.inj h
    exact ⟨hs, hq, shifts_still rfl rfl rfl⟩
  | succ fuel ih =>
    intro w w' hs hq hdr h
    rcases runTicks_succ_cases h with
      ⟨-, rfl⟩ | ⟨isDrain, due, w₂, w₃, hn, h₂, h₃, h₄⟩
    · exact ⟨hs, hq, shifts_still rfl rfl rfl⟩
    obtain ⟨a, ha, hdue, hship⟩ := nextTick_running hn
    -- setting the store's clock keeps what the accounting reads
    obtain ⟨hs₁, hsh₁⟩ := hs.of_ledger (b := { w.backend with clock := due }) rfl
    -- the tick keeps the world serving with nothing queued, and shifts nothing
    have htick : Serving a₀ w₂ ∧ w₂.queued = [] ∧
        (w₂.draining = true → w'.draining = true) ∧
        Shifts a₀.drainer.settings.bucket w w₂ fun _ => 0 := by
      cases isDrain with
      | true =>
        simp only [↓reduceIte] at h₂
        have hw : w.draining = true := by simp [draining, ha, hdue rfl]
        rcases drainTick_shifts hs₁ h₂ with ⟨hs₂, hq₂, -, hsh₂⟩ | hend
        · exact ⟨hs₂, hq₂.trans hq, fun _ => hdr hw, hsh₁.trans_still hsh₂⟩
        · -- the drain loop ended here and stays ended, against the promise
          have hend' := runTicks_idle target fuel w₃ w' (flushAll_draining h₃ ▸ hend) h₄
          rw [hdr hw] at hend'
          cases hend'
      | false =>
        simp only [Bool.false_eq_true, ↓reduceIte] at h₂
        obtain ⟨hs₂, hq₂, hsh₂⟩ := shipTick_shifts hs₁ ⟨a, ha, hship rfl⟩ h₂
        exact ⟨hs₂, hq₂.trans hq, fun h => hdr (shipTick_draining h₂ ▸ h),
          hsh₁.trans_still hsh₂⟩
    obtain ⟨hs₂, hq₂, hdr₂, hsh₂⟩ := htick
    -- the yield after the tick finds the queues empty, then the rest of the ticks run
    obtain ⟨hs₃, hq₃, hv₃, hsh₃⟩ :=
      flushAll_shifts hs₂ (hs₂.queueFits_of_nil hq₂) h₃
    obtain ⟨hs', hq', hsh'⟩ :=
      ih w₃ w' hs₃ hq₃ (fun h => hdr₂ (draining_of_loopView hv₃ ▸ h)) h₄
    exact ⟨hs', hq', (hsh₂.trans_still hsh₃).trans_still hsh'⟩

/-- A sleep on a serving world whose queues fit, after which the drain loop still runs when it
ran before, shifts nothing: it applies the queues, then runs the ticks that fall due. -/
theorem sleep_shifts (hs : Serving a₀ w) (hfit : w.QueueFits)
    (hdr : w.draining = true → w'.draining = true) {ms : Nat}
    (h : (sleep ms).run.run w = (.ok (), w')) :
    Serving a₀ w' ∧ w'.queued = [] ∧ Shifts a₀.drainer.settings.bucket w w' fun _ => 0 := by
  obtain ⟨_, w₁, h₁, h⟩ := run_bind_ok h
  obtain ⟨hs₁, hq₁, hv₁, hsh₁⟩ := flushAll_shifts hs hfit h₁
  rw [run_bind, run_get] at h
  obtain ⟨_, w₂, h₂, h₃⟩ := run_bind_ok h
  rw [run_modify] at h₃
  obtain ⟨-, rfl⟩ := Prod.mk.inj h₃
  obtain ⟨hs₂, hq₂, hsh₂⟩ :=
    runTicks_shifts _ _ w₁ w₂ hs₁ hq₁ (fun h => hdr (draining_of_loopView hv₁ ▸ h)) h₂
  obtain ⟨hs', hsh'⟩ :=
    hs₂.of_ledger (b := { w₂.backend with clock := w₁.backend.clock + min ms sleepBound }) rfl
  exact ⟨hs', hq₂, (hsh₁.trans_still hsh₂).trans_still hsh'⟩

/-! ### One event -/

/-- A store operation run for its effect returned, and the world took the backend it left. -/
theorem discard_run {op : StoreOp α}
    (h : (onStores op >>= fun _ => pure ()).run.run w = (.ok (), w')) :
    ∃ x b, op.run.run w.backend = (.ok x, b) ∧ w' = { w with backend := b } := by
  rw [run_bind, onStores_run] at h
  rcases hr : op.run.run w.backend with ⟨_ | x, b⟩
  · simp only [hr] at h
    cases h
  · simp only [hr, run_pure] at h
    obtain ⟨-, rfl⟩ := Prod.mk.inj h
    exact ⟨x, b, rfl, rfl⟩

/-- A store operation of the service that keeps what the accounting reads, run for its effect,
keeps the world serving and shifts nothing. -/
theorem discard_shifts (hs : Serving a₀ w) {op : StoreOp α}
    (hl : (op.run.run w.backend).2.ledger = w.backend.ledger)
    (h : (onStores op >>= fun _ => pure ()).run.run w = (.ok (), w')) :
    Serving a₀ w' ∧ Shifts a₀.drainer.settings.bucket w w' fun _ => 0 := by
  obtain ⟨x, b, hr, rfl⟩ := discard_run h
  rw [hr] at hl
  exact hs.of_ledger hl

/-- A change that writes no count and no object, and only queues more increments, has been
given what it queued. -/
theorem shifts_of_queue {bucket : String} {w₁ : World}
    (hc : w₁.backend.counters = w.backend.counters) (ho : w₁.backend.blobs = w.backend.blobs)
    {extra : List String} (hq : w₁.queued = w.queued ++ extra) :
    Shifts bucket w w₁ fun key => w₁.queued.count key - w.queued.count key :=
  ⟨[], congrArg (Blobs.objects · bucket) ho, fun k => by
    simp only [hc, hq, List.count_append, archivedUnits, List.map_nil, List.sum_nil]
    omega⟩

/-- A move of the wall clock that returns sets the wall clock and nothing else. -/
theorem advanceWall_run {secs : Int} {t : Instant}
    (h : (advanceWall secs).run.run w = (.ok t, w')) : w' = { w with wall := t } := by
  unfold advanceWall at h
  split at h
  · simp at h
    cases h
  · rw [run_bind, run_get] at h
    dsimp only at h
    split at h
    · simp at h
      cases h
    · simp only [run_bind, run_modify, run_pure] at h
      obtain ⟨ht, rfl⟩ := Prod.mk.inj h
      cases ht
      rfl

/-- A request on a serving world keeps it serving and is given the reads its meter queued. -/
theorem request_shifts (hs : Serving a₀ w) (req : Request)
    (h : (AppEvent.request req).perform.run.run w = (.ok (), w')) :
    Serving a₀ w' ∧ Shifts a₀.drainer.settings.bucket w w'
      fun key => w'.queued.count key - w.queued.count key := by
  obtain ⟨a, ha, hconf, hd, hship⟩ := hs.running
  have hl := a.handle_ledger req hs.quiet.memory
  have hy := a.handle_yields req w.backend
  simp only [AppEvent.perform, run_get_bind, ha] at h
  rw [run_bind, onStores_run] at h
  rcases hr : (a.handle req).run.run w.backend with ⟨_ | ⟨a', res⟩, b⟩
  · simp only [hr] at h
    cases h
  simp only [hr, run_modify] at h
  obtain ⟨-, rfl⟩ := Prod.mk.inj h
  rw [hr] at hl
  -- the service keeps its settings, with a read queued on its meter or not
  obtain ⟨hconf', hd', hship', extra, hq⟩ : a'.config = a.config ∧ a'.drainer = a.drainer ∧
      a'.shipDue = a.shipDue ∧ ∃ extra, a'.meter.queue = a.meter.queue ++ extra := by
    rcases hy _ _ hr with rfl | ⟨key, rfl⟩
    · exact ⟨rfl, rfl, rfl, [], by simp⟩
    · rcases Meter.record_queue a.meter key with hq | hq
      · exact ⟨rfl, rfl, rfl, [], by simp [hq]⟩
      · exact ⟨rfl, rfl, rfl, [key.encode], hq⟩
  have hcount : b.counters = w.backend.counters := congrArg (·.1) hl
  have hqueued : ({ w with backend := b, app := some a' } : World).queued = w.queued ++ extra := by
    simp [queued, ha, hq]
  exact ⟨⟨hs.quiet.of_ledger hl, fun k => hcount ▸ hs.bounded k, a', rfl, hconf'.trans hconf,
    hd'.trans hd, fun h => hship (hship' ▸ h)⟩,
    shifts_of_queue hcount (congrArg (·.2.1) hl) hqueued⟩

/-- An increment that fits, on a serving world, keeps it serving and is given its units. -/
theorem incr_shifts (hs : Serving a₀ w) {key : String} {delta : Nat}
    (hfit : w.backend.counters.units key + delta ≤ wordMax)
    (h : (AppEvent.incr key delta).perform.run.run w = (.ok (), w')) :
    Serving a₀ w' ∧
      Shifts a₀.drainer.settings.bucket w w' fun k => if key = k then delta else 0 := by
  obtain ⟨x, b, hr, rfl⟩ := discard_run h
  rw [incr_run_of_takes _ _ hs.quiet.memory hs.quiet.takesIncrement] at hr
  obtain ⟨-, rfl⟩ := Prod.mk.inj hr
  -- the increment fits, so it adds exactly
  have hunits : ∀ k, (w.backend.counters.addSaturating key delta).1.units k =
      if k = key then w.backend.counters.units key + delta else w.backend.counters.units k := by
    intro k
    rw [Counters.units_addSaturating, Nat.min_eq_left hfit]
  refine ⟨⟨hs.quiet.addSaturating key delta, fun k => ?_, hs.running⟩, [], rfl, fun k => ?_⟩
  · rw [hunits]
    split
    · exact hfit
    · exact hs.bounded k
  · simp only [hunits, queued_backend, archivedUnits, List.map_nil, List.sum_nil, Nat.add_zero]
    by_cases hk : k.encode = key
    · rw [if_pos hk, if_pos hk.symm, hk]
      omega
    · rw [if_neg hk, if_neg (Ne.symm hk)]
      rfl

/-- A guard event asks the running service's blocklist about the request's client. -/
theorem guard_perform_eq {a : App} (ha : w.app = some a) (req : Request) :
    (AppEvent.guard req).perform.run.run w =
      (onStores (a.guardBlocked req) >>= fun _ => pure ()).run.run w := by
  rw [AppEvent.perform, run_bind, run_get]
  dsimp only
  rw [ha]

/-- A request to an unknown route screens its client at the present wall-clock moment. -/
theorem unknownRoute_perform_eq {a : App} (ha : w.app = some a) (req : Request) :
    (AppEvent.unknownRoute req).perform.run.run w =
      (onStores (a.rejectUnknown req w.wall) >>= fun _ => pure ()).run.run w := by
  rw [AppEvent.perform, run_bind, run_get]
  dsimp only
  rw [ha]
  dsimp only
  rw [run_bind, run_get]

/-- An authorize event asks the running service's gate. -/
theorem authorize_perform_eq {a : App} (ha : w.app = some a) (c : Option String) :
    (AppEvent.authorize c).perform.run.run w =
      (onStores (a.gate.authorize c) >>= fun _ => pure ()).run.run w := by
  rw [AppEvent.perform, run_bind, run_get]
  dsimp only
  rw [ha]

/-- A drain event runs the service's drainer at the present wall-clock moment. -/
theorem drain_perform_eq {a : App} (ha : w.app = some a) :
    AppEvent.drain.perform.run.run w =
      (onStores (a.drainer.cycle w.wall) >>= fun _ => pure ()).run.run w := by
  rw [AppEvent.perform, run_bind, run_get]
  dsimp only
  rw [ha]
  dsimp only
  rw [run_bind, run_get]

/-- A drain cycle called on a serving world that returns moves units into the drain bucket. -/
theorem drain_shifts (hs : Serving a₀ w) (h : AppEvent.drain.perform.run.run w = (.ok (), w')) :
    Serving a₀ w' ∧ Shifts a₀.drainer.settings.bucket w w' fun _ => 0 := by
  obtain ⟨a, ha, -, hd, -⟩ := hs.running
  rw [drain_perform_eq ha] at h
  obtain ⟨r, b, hr, rfl⟩ := discard_run h
  rw [hd] at hr
  obtain ⟨hs', hsh, -⟩ := cycle_shifts hs w.wall hr
  exact ⟨hs', hsh⟩

/-- One event on a serving world, as the run promises it, keeps the world serving and loses no
unit: what it gives from outside is in the counters, the queues or the drain bucket after it. -/
theorem perform_shifts (hs : Serving a₀ w) (e : AppEvent) (hc : e.Calm w w')
    (h : e.perform.run.run w = (.ok (), w')) :
    Serving a₀ w' ∧ Shifts a₀.drainer.settings.bucket w w' fun key => e.credit w w' key := by
  cases e with
  | request req => exact request_shifts hs req h
  | guard req =>
    obtain ⟨a, ha, -⟩ := hs.running
    rw [guard_perform_eq ha] at h
    exact discard_shifts hs (a.guardBlocked_keeps_ledger req w.backend) h
  | unknownRoute req =>
    obtain ⟨a, ha, -⟩ := hs.running
    rw [unknownRoute_perform_eq ha] at h
    exact discard_shifts hs (a.rejectUnknown_keeps_ledger req w.wall w.backend) h
  | authorize c =>
    obtain ⟨a, ha, -⟩ := hs.running
    rw [authorize_perform_eq ha] at h
    exact discard_shifts hs (a.gate.authorize_ledger c hs.quiet.memory) h
  | incr key delta => exact incr_shifts hs hc h
  | settle =>
    obtain ⟨hs', -, -, hsh⟩ := flushAll_shifts hs hc h
    exact ⟨hs', hsh⟩
  | sleep ms =>
    obtain ⟨hs', -, hsh⟩ := sleep_shifts hs hc.1 hc.2 h
    exact ⟨hs', hsh⟩
  | wall secs =>
    obtain ⟨t, w₁, h₁, h₂⟩ := run_bind_ok h
    rw [advanceWall_run h₁, run_pure] at h₂
    obtain ⟨-, rfl⟩ := Prod.mk.inj h₂
    exact ⟨⟨hs.quiet, hs.bounded, hs.running⟩, shifts_still rfl rfl rfl⟩
  | drain => exact drain_shifts hs h

/-! ### A whole run -/

/-- The events of a run on a serving world, each as the run promises it, keep the world serving
and lose no unit: what the counters and the queues held, with what the events gave, is afterwards
in the counters, the queues or the drain bucket, and the queues still fit. -/
theorem forM_perform_shifts : ∀ (events : List AppEvent) (w w' : World), Serving a₀ w →
    CalmFrom w events → (events.forM AppEvent.perform).run.run w = (.ok (), w') →
    Serving a₀ w' ∧ w'.QueueFits ∧
      Shifts a₀.drainer.settings.bucket w w' fun key => credits key w events := by
  intro events
  induction events with
  | nil =>
    intro w w' hs hcalm h
    rw [List.forM, run_pure] at h
    obtain ⟨-, rfl⟩ := Prod.mk.inj h
    exact ⟨hs, hcalm, shifts_still rfl rfl rfl⟩
  | cons e es ih =>
    intro w w' hs hcalm h
    rw [List.forM] at h
    obtain ⟨_, w₁, h₁, h⟩ := run_bind_ok h
    -- the promise at the first event is about the world it leaves
    have hw₁ : (e.perform.run.run w).2 = w₁ := by rw [h₁]
    obtain ⟨hc, hcalm⟩ := hcalm
    rw [hw₁] at hc hcalm
    obtain ⟨hs₁, hsh₁⟩ := perform_shifts hs e hc h₁
    obtain ⟨hs', hfit', hsh'⟩ := ih w₁ w' hs₁ hcalm h
    refine ⟨hs', hfit', ?_⟩
    have hcredits : ∀ key, credits key w (e :: es) = e.credit w w₁ key + credits key w₁ es :=
      fun key => by rw [credits, hw₁]
    simpa only [hcredits] using hsh₁.trans hsh'

/-- Stopping a serving service whose queues fit, with a final drain, applies the queues and
drains once more: it loses no unit, leaves the queues empty, and the final cycle clears the
namespace unless it put a batch back or was skipped. -/
theorem stopApp_shifts {a : App} (hs : Serving a₀ w) (hfit : w.QueueFits) (ha : w.app = some a)
    (hdrain : a.config.drain.drainOnShutdown = true) {r : Option DrainReport}
    (h : (stopApp a).run.run w = (.ok r, w')) :
    Shifts a₀.drainer.settings.bucket w w' (fun _ => 0) ∧ w'.queued = [] ∧
      w'.backend.Quiet ∧ ∃ report, r = some report ∧
        (w'.backend.namespaceKeys = [] ∨ 0 < report.batchesRestored ∨
          report.skipped.isSome) := by
  obtain ⟨a', ha', hconf, hd, -⟩ := hs.running
  rw [ha, Option.some.injEq] at ha'
  subst ha'
  -- the loops end first, which keeps the service serving: shipping no longer runs
  let w₁ : World := { w with app := some { a with drainDue := none, shipDue := none } }
  have hs₁ : Serving a₀ w₁ :=
    ⟨hs.quiet, hs.bounded, _, rfl, hconf, hd, fun hship => by cases hship⟩
  have hq₁ : w₁.queued = w.queued := by simp [w₁, queued, ha]
  have hsh₁ : Shifts a₀.drainer.settings.bucket w w₁ fun _ => 0 := shifts_still rfl rfl hq₁
  rw [stopApp, run_bind, run_modify] at h
  obtain ⟨_, w₂, h₂, h⟩ := run_bind_ok h
  obtain ⟨hs₂, hq₂, -, hsh₂⟩ := flushAll_shifts hs₁ (fun k => hq₁ ▸ hfit k) h₂
  rw [if_pos hdrain, run_bind, run_get] at h
  dsimp only at h
  rw [run_bind, World.run_map, onStores_run] at h
  rcases hc : (a.drainer.cycle w₂.wall).run.run w₂.backend with ⟨_ | report, b⟩
  · rw [hc] at h
    cases h
  rw [hc] at h
  simp only [Except.map, run_bind, run_modify, run_pure] at h
  obtain ⟨hr, rfl⟩ := Prod.mk.inj h
  rw [hd] at hc
  obtain ⟨hs₃, hsh₃, hns⟩ := cycle_shifts hs₂ w₂.wall hc
  -- the service is gone at the end, with nothing left in its queue
  have hq₃ : ({ w₂ with backend := b, app := none } : World).queued = [] := by
    simp only [queued, List.append_eq_nil_iff] at hq₂ ⊢
    exact ⟨hq₂.1, rfl⟩
  refine ⟨?_, hq₃, hs₃.quiet, report, (Except.ok.inj hr).symm, hns⟩
  exact (hsh₁.trans_still hsh₂).trans_still (hsh₃.of_same rfl (hq₃.trans hq₂.symm))

/-! ### From the start to the shutdown -/

/-- The session right after the service started, leaving the stores as `b`. -/
def startedOn (wall : Instant) (b : Backend) (a : App) : World :=
  { World.fresh .memory wall with backend := b, app := some a }

section Started

variable {c : Config} {holder : Holder} {rs : Records} {b₁ : Backend}
  (hstart : (App.start c holder).run.run { engine := .memory, records := rs } = (.ok (.ok a₀), b₁))
include hstart

/-- The service just started on fresh memory stores, whatever subjects they register, serves, as
long as it ships logs into another bucket than the drain bucket. -/
theorem serving_startedOn
    (hship : c.shipping.enabled = true → c.shipping.bucket ≠ c.drain.bucket) (wall : Instant) :
    Serving a₀ (startedOn wall b₁ a₀) := by
  obtain ⟨bs, rfl, -⟩ := App.start_backend rfl hstart
  have ha := App.start_eq hstart
  refine ⟨⟨rfl, rfl, rfl⟩, fun k => ?_, a₀, rfl, rfl, rfl, fun hdue => ?_⟩
  · simp [startedOn, Counters.units, Table.get?]
  · -- only shipping switched on sets a shipping tick
    rw [ha] at hdue ⊢
    cases hon : c.shipping.enabled with
    | false => simp [hon] at hdue
    | true => exact hship hon

theorem startedOn_queued (wall : Instant) : (startedOn wall b₁ a₀).queued = [] := by
  rw [App.start_eq hstart]
  rfl

/-- The fresh stores hold no count and no object of the drain bucket. -/
theorem startedOn_empty (wall : Instant) :
    (∀ k : CounterKey, (startedOn wall b₁ a₀).backend.counters.units k.encode = 0) ∧
      (startedOn wall b₁ a₀).backend.blobs.objects c.drain.bucket = {} := by
  obtain ⟨bs, rfl, hobj⟩ := App.start_backend rfl hstart
  exact ⟨fun k => by simp [startedOn, Counters.units, Table.get?], hobj c.drain.bucket⟩

end Started

end World

/-- A memory store whose counter namespace holds no key holds no count under any counter key. -/
theorem Backend.units_of_namespaceKeys_nil {b : Backend} (he : b.engine = .memory)
    (h : b.namespaceKeys = []) (k : CounterKey) : b.counters.units k.encode = 0 := by
  cases hk : b.counters.counts.get? k.encode with
  | none => simp [Counters.units, hk]
  | some v =>
    have hmem : k.encode ∈ b.namespaceKeys := by
      refine List.mem_filter.2 ⟨?_, ?_⟩
      · exact List.mem_map.2 ⟨_, Table.mem_of_get? hk, rfl⟩
      · simp only [Backend.matchesPrefix, he]
        exact List.isPrefixOf_iff_prefix.2 (CounterKey.namespace_prefix_encode k)
    rw [h] at hmem
    cases hmem

open World in
/-- A service started on fresh memory stores, whatever subjects they register, shipping logs into
another bucket than the drain bucket and draining at shutdown, archives every unit: over a run of
events that overflows no counter and keeps the drain loop alive, ended by a shutdown whose final
cycle is not skipped and puts no batch back, the counter namespace ends empty and the objects written into the drain
bucket, which are all its objects, hold for every key exactly the reads its meter queued and the
units callers added to it. -/
theorem shutdown_archives_every_unit {c : Config} {holder : Holder} {rs : Records} {b₁ : Backend}
    {a₀ : App}
    (hstart : (App.start c holder).run.run { engine := .memory, records := rs } = (.ok (.ok a₀), b₁))
    (hdrain : c.drain.drainOnShutdown = true)
    (hship : c.shipping.enabled = true → c.shipping.bucket ≠ c.drain.bucket)
    (wall : Instant) (events : List AppEvent) (hcalm : (startedOn wall b₁ a₀).CalmFrom events)
    {w' : World} {r : DrainReport}
    (hrun : (serve events).run.run (startedOn wall b₁ a₀) = (.ok (some r), w'))
    (hskip : r.skipped = none) (hup : r.batchesRestored = 0) :
    w'.backend.namespaceKeys = [] ∧
      ∃ written, Archive.Grows {} written (w'.backend.blobs.objects c.drain.bucket) ∧
        ∀ k : CounterKey,
          archivedUnits written k = credits k.encode (startedOn wall b₁ a₀) events := by
  have ha₀ := App.start_eq hstart
  have hbucket : a₀.drainer.settings.bucket = c.drain.bucket := by rw [ha₀]
  have hs₀ := serving_startedOn hstart hship wall
  -- the events, then the shutdown of the service still running
  obtain ⟨_, w₁, h₁, h⟩ := World.run_bind_ok hrun
  obtain ⟨hs₁, hfit₁, hsh₁⟩ := forM_perform_shifts events _ w₁ hs₀ hcalm h₁
  obtain ⟨a, ha, hconf, -, -⟩ := hs₁.running
  rw [World.run_bind, World.run_get] at h
  dsimp only at h
  rw [ha] at h
  have hdrain' : a.config.drain.drainOnShutdown = true := by rw [hconf, ha₀]; exact hdrain
  obtain ⟨hsh₂, hq', hquiet, report, hr, hns⟩ := stopApp_shifts hs₁ hfit₁ ha hdrain' h
  cases hr
  have hempty : w'.backend.namespaceKeys = [] := by
    rcases hns with hns | hns | hns
    · exact hns
    · omega
    · simp [hskip] at hns
  refine ⟨hempty, ?_⟩
  -- what the run shifted from a start with nothing counted, queued or archived
  obtain ⟨written, hgrow, hunits⟩ := hsh₁.trans hsh₂
  obtain ⟨hzero, hobj⟩ := startedOn_empty hstart wall
  refine ⟨written, by rw [← hobj, ← hbucket]; exact hgrow, fun k => ?_⟩
  have h := hunits k
  rw [hzero k, startedOn_queued hstart,
    Backend.units_of_namespaceKeys_nil hquiet.memory hempty k, hq'] at h
  simpa using h.symm

theorem shutdown_archives_direct_increment :
    let c : Config := {}
    let b₁ := ((App.start c (.drainer 1)).run.run { engine := .memory }).2
    let events := [AppEvent.incr "endpoint:/detail/news:R1/user:U1" 3]
    ∃ a₀ r w',
      (App.start c (.drainer 1)).run.run { engine := .memory } = (.ok (.ok a₀), b₁) ∧
      (World.startedOn Instant.fixed b₁ a₀).CalmFrom events ∧
      (World.serve events).run.run (World.startedOn Instant.fixed b₁ a₀) =
        (.ok (some r), w') ∧
      r.skipped = none ∧ r.batchesRestored = 0 ∧
      w'.backend.namespaceKeys = [] ∧
      ∃ written, Archive.Grows {} written (w'.backend.blobs.objects c.drain.bucket) ∧
        ∀ k : CounterKey,
          archivedUnits written k =
            World.credits k.encode (World.startedOn Instant.fixed b₁ a₀) events := by
  intro c b₁ events
  let a₀ : App :=
    { config := c
      gate := ⟨c.gate.statusTtl⟩
      blocklist := ⟨c.blocklist.cacheTtl⟩
      meter := Meter.start c.meter
      drainer := ⟨c.drain, .drainer 1⟩
      drainDue := App.firstDue b₁ c.drain.interval }
  have hstart :
      (App.start c (.drainer 1)).run.run { engine := .memory } = (.ok (.ok a₀), b₁) := rfl
  let w₀ := World.startedOn Instant.fixed b₁ a₀
  let e := AppEvent.incr "endpoint:/detail/news:R1/user:U1" 3
  have hs₀ : World.Serving a₀ w₀ :=
    World.serving_startedOn hstart (fun h => by cases h) Instant.fixed
  -- the increment fits, and leaves nothing queued
  have hc : e.Calm w₀ (e.perform.run.run w₀).2 := by
    show w₀.backend.counters.units "endpoint:/detail/news:R1/user:U1" + 3 ≤ wordMax
    decide +kernel
  have hq₁ : (e.perform.run.run w₀).2.queued = [] := by decide +kernel
  obtain ⟨hs₁, -⟩ := World.perform_shifts hs₀ e hc (by rfl)
  have hcalm : w₀.CalmFrom events := ⟨hc, hs₁.queueFits_of_nil hq₁⟩
  -- the run ends with a report, which is neither skipped nor puts a batch back
  have hsome : (((World.serve events).run.run w₀).1.toOption.bind id).isSome = true := by
    decide +kernel
  obtain ⟨r, hr⟩ := Option.isSome_iff_exists.1 hsome
  obtain ⟨w', hrun⟩ : ∃ w', (World.serve events).run.run w₀ = (.ok (some r), w') := by
    rcases hout : (World.serve events).run.run w₀ with ⟨_ | _ | r', w'⟩ <;>
      rw [hout] at hr <;> simp [Except.toOption] at hr
    exact ⟨w', by rw [hr]⟩
  have hskip : r.skipped = none := by
    have h :
        (((World.serve events).run.run w₀).1.toOption.bind id).map (·.skipped) = some none := by
      decide +kernel
    rw [hr] at h
    exact Option.some.inj h
  have hup : r.batchesRestored = 0 := by
    have h : (((World.serve events).run.run w₀).1.toOption.bind id).map (·.batchesRestored) =
        some 0 := by
      decide +kernel
    rw [hr] at h
    exact Option.some.inj h
  exact ⟨a₀, r, w', hstart, hcalm, hrun, hskip, hup,
    shutdown_archives_every_unit hstart rfl (fun h => by cases h) Instant.fixed events hcalm hrun
      hskip hup⟩

/-- A log shipped into the drain bucket reads as archived: a service that ships its log into its
drain bucket, its log reading as an archive body, ends a run of one sleep and its shutdown with
the only object of the drain bucket named under the subject `logs` and holding five reads of
`R1`, though the run gave no key any unit. -/
theorem shipped_log_counts_as_archived :
    let c : Config :=
      { drain := { interval := 1000 }
        shipping := { enabled := true, file := "app.log", bucket := "user-logs", interval := 5 } }
    let log :=
      "[\x7b\"newsID\":\"R1\",\"accessCount\":\"5\",\"lastSynced\":\"2020-01-01T00:00:00Z\"\x7d]"
    let b₁ := ((App.start c (.drainer 1)).run.run { engine := .memory }).2
    let a₀ : App :=
      { config := c
        gate := ⟨c.gate.statusTtl⟩
        blocklist := ⟨c.blocklist.cacheTtl⟩
        meter := Meter.start c.meter
        drainer := ⟨c.drain, .drainer 1⟩
        drainDue := App.firstDue b₁ c.drain.interval
        shipDue := App.firstDue b₁ c.shipping.interval }
    let w₀ : World :=
      { World.startedOn Instant.fixed b₁ a₀ with files := ({} : FileTree).write "app.log" log }
    (App.start c (.drainer 1)).run.run { engine := .memory } = (.ok (.ok a₀), b₁) ∧
      (∀ key, World.credits key w₀ [.sleep 5500] = 0) ∧
      ((((World.serve [.sleep 5500]).run.run w₀).2.backend.blobs.objects
          c.drain.bucket).entries.map fun e =>
          (e.1, (parseBody e.2.body).toOption.map (·.map fun x => (x.resource.text, x.count)))) =
        [("logs/2024/05/app_20240501_100007.log", some [("R1", 5)])] := by
  intro c log b₁ a₀ w₀
  refine ⟨rfl, fun _ => rfl, ?_⟩
  decide +kernel

end Turnstile
