import Mathlib.Data.List.Perm.Basic
import Mathlib.Data.List.Count
import Turnstile.Meter.Pool
import Turnstile.Proofs.Meter.Accounting

/-!
# The books of the meter's tasks

Whatever the interleaving, what the record calls were told and what the store was sent balance
against what the pool still owes: the keys sent, with the increments still queued or held by a
worker, are up to order the increments owed at the start and the reads answered `Queued`
(`Pool.Books`). Each step does one of four things to these books (`Pool.Shift`), and none undoes
the work of the shutdown call that found the meter open (`Pool.Onward`): that call returns only
once the receiver is closed, every worker has exited and the queue is empty, and it stays so
(`Pool.Settled`). From then on nothing is owed, and the accounting is exact
(`accounts_exactly_once_flushed`). A later shutdown call returns at once, whatever the first has
still to do (`early_shutdown_returns_before_flush`).
-/

namespace Turnstile

namespace Meter

open StoreOp
open scoped List

theorem filterMap_cons_toList {α β : Type} (f : α → Option β) (a : α) (l : List α) :
    (a :: l).filterMap f = (f a).toList ++ l.filterMap f := by
  cases h : f a <;> simp [h]

/-- Setting one element of a list trades what `f` reads of the old element for what it reads of
the new one. -/
theorem filterMap_set_perm {α β : Type} (f : α → Option β) {l : List α} {i : Nat} {a : α}
    (h : l[i]? = some a) (b : α) :
    (l.set i b).filterMap f ++ (f a).toList ~ l.filterMap f ++ (f b).toList := by
  obtain ⟨hi, rfl⟩ := List.getElem?_eq_some_iff.1 h
  -- both lists are the rest of `l` with the element read in front
  have hset : (l.set i b).filterMap f ~ (f b).toList ++ (l.eraseIdx i).filterMap f :=
    ((List.set_perm_cons_eraseIdx hi b).filterMap f).trans (.of_eq (filterMap_cons_toList ..))
  have hl : l.filterMap f ~ (f l[i]).toList ++ (l.eraseIdx i).filterMap f :=
    ((List.getElem_cons_eraseIdx_perm hi).symm.filterMap f).trans
      (.of_eq (filterMap_cons_toList ..))
  calc (l.set i b).filterMap f ++ (f l[i]).toList
      _ ~ (f b).toList ++ ((l.eraseIdx i).filterMap f ++ (f l[i]).toList) := by
        simpa only [List.append_assoc] using hset.append_right (f l[i]).toList
      _ ~ (l.eraseIdx i).filterMap f ++ ((f l[i]).toList ++ (f b).toList) :=
        (List.perm_append_comm_assoc ..).trans (.append_left _ List.perm_append_comm)
      _ ~ (f l[i]).toList ++ ((l.eraseIdx i).filterMap f ++ (f b).toList) :=
        List.perm_append_comm_assoc ..
      _ ~ l.filterMap f ++ (f b).toList := by
        simpa only [List.append_assoc] using hl.symm.append_right (f b).toList

/-- An element other than the one at a position stays in the list when that position is set. -/
theorem mem_set_of_getElem?_ne {α : Type} {l : List α} {a : α} (h : a ∈ l) {i : Nat}
    (hi : l[i]? ≠ some a) (b : α) : a ∈ l.set i b := by
  obtain ⟨j, hj⟩ := List.mem_iff_getElem?.1 h
  have hne : i ≠ j := by
    rintro rfl
    exact hi hj
  exact List.mem_iff_getElem?.2 ⟨j, by rw [List.getElem?_set_ne hne, hj]⟩

/-- The key of an increment job. -/
def Job.key? : Job → Option String
  | .increment key => some key
  | .stop => none

/-- The key of the increment a worker holds. -/
def Worker.held? : Worker → Option String
  | .idle => none
  | .holding key => some key
  | .exited => none

@[simp] theorem Job.key?_increment (key : String) : (Job.increment key).key? = some key := rfl
@[simp] theorem Job.key?_stop : Job.stop.key? = none := rfl
@[simp] theorem Worker.held?_holding (key : String) : (Worker.holding key).held? = some key := rfl
@[simp] theorem Worker.held?_idle : Worker.idle.held? = none := rfl
@[simp] theorem Worker.held?_exited : Worker.exited.held? = none := rfl

/-- The key of a read answered `Queued`. -/
def Note.queued? : Note → Option CounterKey
  | .answered key .queued => some key
  | .answered _ .dropped => none
  | .sent _ _ => none
  | .returned _ => none

/-- The key of a read answered `Dropped`. -/
def Note.dropped? : Note → Option CounterKey
  | .answered _ .queued => none
  | .answered key .dropped => some key
  | .sent _ _ => none
  | .returned _ => none

/-- The key of an increment sent to the store. -/
def Note.sent? : Note → Option String
  | .answered _ _ => none
  | .sent key _ => some key
  | .returned _ => none

/-- The reads answered `Queued`, in order. -/
def queuedReads (notes : List Note) : List CounterKey := notes.filterMap Note.queued?

/-- The reads answered `Dropped`, in order. -/
def droppedReads (notes : List Note) : List CounterKey := notes.filterMap Note.dropped?

/-- The keys of the increments sent to the store, in order. -/
def sentKeys (notes : List Note) : List String := notes.filterMap Note.sent?

@[simp] theorem queuedReads_append (l l' : List Note) :
    queuedReads (l ++ l') = queuedReads l ++ queuedReads l' :=
  List.filterMap_append

@[simp] theorem droppedReads_append (l l' : List Note) :
    droppedReads (l ++ l') = droppedReads l ++ droppedReads l' :=
  List.filterMap_append

@[simp] theorem sentKeys_append (l l' : List Note) :
    sentKeys (l ++ l') = sentKeys l ++ sentKeys l' :=
  List.filterMap_append

@[simp] theorem queuedReads_cons (n : Note) (l : List Note) :
    queuedReads (n :: l) = n.queued?.toList ++ queuedReads l :=
  filterMap_cons_toList ..

@[simp] theorem droppedReads_cons (n : Note) (l : List Note) :
    droppedReads (n :: l) = n.dropped?.toList ++ droppedReads l :=
  filterMap_cons_toList ..

@[simp] theorem sentKeys_cons (n : Note) (l : List Note) :
    sentKeys (n :: l) = n.sent?.toList ++ sentKeys l :=
  filterMap_cons_toList ..

@[simp] theorem queuedReads_nil : queuedReads [] = [] := rfl
@[simp] theorem droppedReads_nil : droppedReads [] = [] := rfl
@[simp] theorem sentKeys_nil : sentKeys [] = [] := rfl

namespace Pool

/-- The increments the pool owes the store: those queued, then those the workers hold. -/
def pending (p : Pool) : List String :=
  p.jobs.filterMap Job.key? ++ p.workers.filterMap Worker.held?

/-- A meter taken over from one call at a time owes its queue, and nothing held. -/
theorem ofMeter_pending (s : MeterSettings) (m : Meter) : (ofMeter s m).pending = m.queue := by
  simp [ofMeter, pending, List.filterMap_map, Function.comp_def]

/-- What one step does to the books: it changes nothing owed, drops a read, queues a read, or
sends an increment owed to the store. -/
inductive Shift (p : Pool) : Pool → Option Note → Prop where
  | still {p' : Pool} {note : Option Note} (owed : p'.pending ~ p.pending)
      (dropped : p'.dropped = p.dropped) (tally : p'.applied + p'.failed = p.applied + p.failed)
      (quiet : note = none ∨ ∃ early, note = some (.returned early)) : Shift p p' note
  | drop {p' : Pool} (key : CounterKey) (owed : p'.pending = p.pending)
      (dropped : p'.dropped = p.dropped + 1)
      (tally : p'.applied + p'.failed = p.applied + p.failed) :
      Shift p p' (some (.answered key .dropped))
  | queue {p' : Pool} (key : CounterKey) (owed : p'.pending ~ p.pending ++ [key.encode])
      (dropped : p'.dropped = p.dropped)
      (tally : p'.applied + p'.failed = p.applied + p.failed) :
      Shift p p' (some (.answered key .queued))
  | send {p' : Pool} (key : String) (taken : Bool) (owed : p'.pending ++ [key] ~ p.pending)
      (dropped : p'.dropped = p.dropped)
      (tally : p'.applied + p'.failed = p.applied + p.failed + 1) :
      Shift p p' (some (.sent key taken))

/-- What no step undoes, and how the shutdown call that found the meter open moves on: a closed
receiver stays closed, exited workers stay exited, an empty queue behind a closed receiver stays
empty and a returned call stays returned; a call starts on what is left only once the receiver is
closed and every worker has exited, and returns only on an empty queue, saying so. -/
structure Onward (p p' : Pool) (note : Option Note) : Prop where
  closed : p.receiverOpen = false → p'.receiverOpen = false
  exited : (∀ w ∈ p.workers, w = .exited) → ∀ w ∈ p'.workers, w = .exited
  empty : p.receiverOpen = false → p.jobs = [] → p'.jobs = []
  kept : Stopper.returned ∈ p.stopping → Stopper.returned ∈ p'.stopping
  draining : Stopper.draining ∈ p'.stopping → Stopper.draining ∈ p.stopping ∨
    (p'.receiverOpen = false ∧ ∀ w ∈ p'.workers, w = .exited)
  returned : Stopper.returned ∈ p'.stopping → Stopper.returned ∈ p.stopping ∨
    (Stopper.draining ∈ p.stopping ∧ p'.jobs = [] ∧ p'.receiverOpen = p.receiverOpen ∧
      p'.workers = p.workers)
  said : note = some (.returned false) → Stopper.returned ∈ p'.stopping

/-- A step from a pool on a store that returns, leaving the store as the increment it sent, if
any, left it, with what the books and the shutdown need of it. -/
def Moves (p : Pool) (b : Backend) (out : Except Halt (Pool × Option Note) × Backend) : Prop :=
  ∃ p' note, out = (.ok (p', note), receive b (note.toList.filterMap Note.sent?)) ∧
    Shift p p' note ∧ Onward p p' note

section Steps

variable {p : Pool} {b : Backend}

theorem shift_refl (p : Pool) : Shift p p none :=
  .still (.refl _) rfl rfl (.inl rfl)

theorem onward_refl (p : Pool) : Onward p p none :=
  ⟨id, id, fun _ h => h, id, .inl, .inl, fun h => by cases h⟩

/-- A step that leaves the receiver, the workers and the shutdown calls as they were, grows the
queue only behind an open receiver, and says nothing of a flush. -/
theorem onward_of_frame {p' : Pool} {note : Option Note} (hr : p'.receiverOpen = p.receiverOpen)
    (hj : p.receiverOpen = false → p.jobs = [] → p'.jobs = []) (hw : p'.workers = p.workers)
    (hs : p'.stopping = p.stopping) (hn : note ≠ some (.returned false)) : Onward p p' note :=
  ⟨fun h => hr.trans h, fun h => hw ▸ h, hj, fun h => by rw [hs]; exact h,
    fun h => .inl (by rw [← hs]; exact h), fun h => .inl (by rw [← hs]; exact h),
    fun h => absurd h hn⟩

/-- The shutdown call at a position moves on to a stage that is neither applying what is left
nor returned, and the queue grows only behind an open receiver. -/
theorem onward_moveOn {i : Nat} {s₀ s : Stopper} (hi : p.stopping[i]? = some s₀)
    (h₀ : s₀ ≠ .returned) (hd : s ≠ .draining) (hr : s ≠ .returned) {jobs : List Job}
    (hj : p.receiverOpen = false → p.jobs = [] → jobs = []) :
    Onward p { p with jobs, stopping := p.stopping.set i s } none := by
  refine ⟨id, id, hj, fun h => mem_set_of_getElem?_ne h (by rw [hi]; simpa using h₀) s,
    fun h => .inl ?_, fun h => .inl ?_, fun h => by cases h⟩
  · rcases List.mem_or_eq_of_mem_set h with h | h
    · exact h
    · exact absurd h.symm hd
  · rcases List.mem_or_eq_of_mem_set h with h | h
    · exact h
    · exact absurd h.symm hr

/-- A step that returns at once, without sending. -/
theorem moves_pure {x : Pool × Option Note} (hs : Shift p x.1 x.2) (ho : Onward p x.1 x.2)
    (hn : x.2.toList.filterMap Note.sent? = []) : Moves p b ((pure x : StoreOp _).run.run b) :=
  ⟨x.1, x.2, by rw [run_pure, hn]; rfl, hs, ho⟩

theorem pending_count (p : Pool) (taken : Bool) : (p.count taken).pending = p.pending := by
  unfold count
  split <;> rfl

theorem count_tally (p : Pool) (taken : Bool) :
    (p.count taken).dropped = p.dropped ∧
      (p.count taken).applied + (p.count taken).failed = p.applied + p.failed + 1 := by
  unfold count
  split
  · exact ⟨rfl, by dsimp only; omega⟩
  · exact ⟨rfl, by dsimp only; omega⟩

theorem count_frame (p : Pool) (taken : Bool) :
    (p.count taken).receiverOpen = p.receiverOpen ∧ (p.count taken).jobs = p.jobs ∧
      (p.count taken).workers = p.workers ∧ (p.count taken).stopping = p.stopping := by
  unfold count
  split <;> exact ⟨rfl, rfl, rfl, rfl⟩

theorem tally_run (q : Pool) (key : String) (b : Backend) :
    ∃ taken, (q.tally key).run.run b =
      (.ok (q.count taken, some (.sent key taken)), receive b [key]) := by
  obtain ⟨taken, h⟩ := increment_run key b
  exact ⟨taken, by simp only [tally, run_bind, h, run_pure]⟩

/-- Tallying sends the key the pool owes and changes nothing the shutdown reads. -/
theorem tally_moves {q : Pool} (key : String) (howed : q.pending ++ [key] ~ p.pending)
    (hd : q.dropped = p.dropped) (ht : q.applied + q.failed = p.applied + p.failed)
    (ho : Onward p q none) : Moves p b ((q.tally key).run.run b) := by
  obtain ⟨taken, h⟩ := tally_run q key b
  obtain ⟨hd', ht'⟩ := count_tally q taken
  obtain ⟨hr, hj, hw, hs⟩ := count_frame q taken
  refine ⟨q.count taken, some (.sent key taken), by rw [h]; rfl,
    .send key taken (by rw [pending_count]; exact howed) (hd'.trans hd) (by omega), ?_⟩
  exact ⟨fun h => hr ▸ ho.closed h, fun h => hw ▸ ho.exited h,
    fun h₁ h₂ => hj ▸ ho.empty h₁ h₂, fun h => hs ▸ ho.kept h,
    fun h => ho.draining (hs ▸ h) |>.imp id (fun h => ⟨hr ▸ h.1, hw ▸ h.2⟩),
    fun h => ho.returned (hs ▸ h) |>.imp id
      (fun h => ⟨h.1, hj ▸ h.2.1, hr ▸ h.2.2.1, hw ▸ h.2.2.2⟩),
    fun h => by cases h⟩

/-! ### Record calls -/

theorem beginRecord_moves (p : Pool) (key : CounterKey) :
    Moves p b ((pure (p.beginRecord key) : StoreOp _).run.run b) := by
  unfold beginRecord
  split
  · exact moves_pure (.drop key rfl rfl rfl) (onward_of_frame rfl (fun _ h => h) rfl rfl (by simp))
      rfl
  · exact moves_pure (.still (.refl _) rfl rfl (.inl rfl))
      (onward_of_frame rfl (fun _ h => h) rfl rfl (by simp)) rfl

theorem pending_append_increment (p : Pool) (key : String) (rec : List CounterKey) :
    ({ p with recording := rec, jobs := p.jobs ++ [.increment key] } : Pool).pending ~
      p.pending ++ [key] := by
  simp only [pending, List.filterMap_append, Job.key?_increment, List.filterMap_cons,
    List.filterMap_nil, List.append_assoc]
  exact List.Perm.append_left _ List.perm_append_comm

theorem sendJob_moves (p : Pool) (i : Nat) :
    Moves p b ((pure (p.sendJob i) : StoreOp _).run.run b) := by
  unfold sendJob
  split
  · exact moves_pure (shift_refl p) (onward_refl p) rfl
  · next key _ =>
    split
    · next hopen =>
      -- the queue grows only behind an open receiver
      refine moves_pure (.queue key (pending_append_increment p key.encode _) rfl rfl)
        (onward_of_frame rfl (fun h => ?_) rfl rfl (by simp)) rfl
      simp [h] at hopen
    · exact moves_pure (.drop key rfl rfl rfl)
        (onward_of_frame rfl (fun _ h => h) rfl rfl (by simp)) rfl

/-! ### Workers -/

/-- A worker waiting for a job is not exited. -/
theorem not_all_exited {ws : List Worker} {i : Nat} {w : Worker} (h : ws[i]? = some w)
    (hw : w ≠ .exited) : ¬ ∀ x ∈ ws, x = .exited :=
  fun hall => hw (hall w (List.mem_of_getElem? h))

/-- A worker that takes a job moves the job's key, if any, from the queue into its hands. -/
theorem pending_take {i : Nat} (hw : p.workers[i]? = some .idle) {job : Job} {rest : List Job}
    (hj : p.jobs = job :: rest) (w : Worker) (hk : w.held? = job.key?) :
    ({ p with jobs := rest, workers := p.workers.set i w } : Pool).pending ~ p.pending := by
  have hset := filterMap_set_perm Worker.held? hw w
  rw [Worker.held?_idle, Option.toList_none, List.append_nil, hk] at hset
  simp only [pending, hj, filterMap_cons_toList, List.append_assoc]
  refine (List.Perm.append_left _ hset).trans ?_
  rw [← List.append_assoc]
  exact List.perm_append_comm

/-- A waiting worker that takes a job changes no exited worker, and the queue only shrinks. -/
theorem onward_take {i : Nat} (hw : p.workers[i]? = some .idle) {rest : List Job}
    (hj : ∃ job, p.jobs = job :: rest) (w : Worker) :
    Onward p { p with jobs := rest, workers := p.workers.set i w } none := by
  obtain ⟨job, hj⟩ := hj
  refine ⟨id, fun h => absurd h (not_all_exited hw (by simp)), fun _ h => ?_, id, .inl, .inl,
    fun h => by cases h⟩
  rw [hj] at h
  cases h

theorem takeJob_moves (p : Pool) (i : Nat) :
    Moves p b ((pure (p.takeJob i) : StoreOp _).run.run b) := by
  unfold takeJob
  split
  · next key rest hw hj =>
    exact moves_pure (.still (pending_take hw hj (.holding key) rfl) rfl rfl (.inl rfl))
      (onward_take hw ⟨_, hj⟩ _) rfl
  · next rest hw hj =>
    exact moves_pure (.still (pending_take hw hj .exited rfl) rfl rfl (.inl rfl))
      (onward_take hw ⟨_, hj⟩ _) rfl
  · next hw hj =>
    split
    · exact moves_pure (shift_refl p) (onward_refl p) rfl
    · -- on a closed and empty queue the worker exits
      have hset := filterMap_set_perm Worker.held? hw .exited
      rw [Worker.held?_idle, Worker.held?_exited, Option.toList_none, List.append_nil,
        List.append_nil] at hset
      exact moves_pure (.still (by simpa [pending, hj] using hset) rfl rfl (.inl rfl))
        ⟨id, fun h => absurd h (not_all_exited hw (by simp)), fun _ h => h, id, .inl, .inl,
          fun h => by cases h⟩ rfl
  · exact moves_pure (shift_refl p) (onward_refl p) rfl

theorem applyJob_moves (p : Pool) (i : Nat) : Moves p b ((p.applyJob i).run.run b) := by
  unfold applyJob
  split
  · next key hw =>
    -- the worker hands the key it held to the store
    have hset := filterMap_set_perm Worker.held? hw .idle
    rw [Worker.held?_holding, Worker.held?_idle, Option.toList_none, Option.toList_some,
      List.append_nil] at hset
    refine tally_moves key ?_ rfl rfl
      ⟨id, fun h => absurd h (not_all_exited hw (by simp)), fun _ h => h, id, .inl, .inl,
        fun h => by cases h⟩
    simpa only [pending, List.append_assoc] using List.Perm.append_left _ hset
  · exact moves_pure (shift_refl p) (onward_refl p) rfl

/-! ### Shutdown calls -/

theorem beginShutdown_moves (p : Pool) :
    Moves p b ((pure p.beginShutdown : StoreOp _).run.run b) := by
  unfold beginShutdown
  split
  · exact moves_pure (.still (.refl _) rfl rfl (.inr ⟨true, rfl⟩))
      (onward_of_frame rfl (fun _ h => h) rfl rfl (by simp)) rfl
  · -- the new call is only sending stop jobs
    refine moves_pure (.still (.refl _) rfl rfl (.inl rfl))
      ⟨id, id, fun _ h => h, fun h => List.mem_append_left _ h, fun h => .inl ?_,
        fun h => .inl ?_, fun h => by cases h⟩ rfl <;>
      simpa using h

/-- The shutdown call applying what is left moves on: it returns on an empty queue, skips a stop
job, or sends the next increment. -/
theorem drainStop_moves {i : Nat} (hi : p.stopping[i]? = some .draining) :
    Moves p b ((match p.jobs with
      | [] => (pure ({ p with stopping := p.stopping.set i .returned }, some (.returned false)) :
          StoreOp (Pool × Option Note))
      | .stop :: rest => pure ({ p with jobs := rest }, none)
      | .increment key :: rest => { p with jobs := rest }.tally key).run.run b) := by
  split
  · next hj =>
    have hlen : i < p.stopping.length := (List.getElem?_eq_some_iff.1 hi).1
    refine moves_pure (.still (.refl _) rfl rfl (.inr ⟨false, rfl⟩))
      ⟨id, id, fun _ h => h, fun h => List.mem_set hlen _, fun h => .inl ?_, fun _ => ?_,
        fun _ => List.mem_set hlen _⟩ rfl
    · rcases List.mem_or_eq_of_mem_set h with h | h
      · exact h
      · cases h
    · exact .inr ⟨List.mem_of_getElem? hi, hj, rfl, rfl⟩
  · next rest hj =>
    exact moves_pure (.still (by simp [pending, hj, filterMap_cons_toList]) rfl rfl (.inl rfl))
      (onward_of_frame rfl (fun _ h => by rw [hj] at h; cases h) rfl rfl (by simp)) rfl
  · next key rest hj =>
    have howed : ({ p with jobs := rest } : Pool).pending ++ [key] ~ p.pending := by
      simp only [pending, hj, filterMap_cons_toList, Job.key?_increment, Option.toList_some]
      exact List.perm_append_comm
    refine tally_moves key howed rfl rfl
      (onward_of_frame rfl (fun _ h => by rw [hj] at h; cases h) rfl rfl (by simp))

theorem advanceStop_moves (p : Pool) (i : Nat) : Moves p b ((p.advanceStop i).run.run b) := by
  unfold advanceStop
  split
  · next hi =>
    exact moves_pure (.still (.refl _) rfl rfl (.inl rfl))
      (onward_moveOn hi (by simp) (by simp) (by simp) (fun _ h => h)) rfl
  · next n hi =>
    split
    · exact moves_pure (.still (.refl _) rfl rfl (.inl rfl))
        (onward_moveOn hi (by simp) (by simp) (by simp) (fun _ h => h)) rfl
    · next hopen =>
      split
      · -- a stop job owes the store nothing, and goes only behind an open receiver
        exact moves_pure (.still (by simp [pending, List.filterMap_cons]) rfl rfl (.inl rfl))
          (onward_moveOn hi (by simp) (by simp) (by simp) (fun h => by simp [h] at hopen)) rfl
      · exact moves_pure (shift_refl p) (onward_refl p) rfl
  · next hi =>
    split
    · next hall =>
      -- the workers are joined: the receiver closes and what is left is applied next
      refine moves_pure (.still (.refl _) rfl rfl (.inl rfl))
        ⟨fun _ => rfl, id, fun _ h => h,
          fun h => mem_set_of_getElem?_ne h (by rw [hi]; simp) _, fun h => ?_, fun h => .inl ?_,
          fun h => by cases h⟩ rfl
      · rcases List.mem_or_eq_of_mem_set h with h | -
        · exact .inl h
        · exact .inr ⟨rfl, by simpa using hall⟩
      · rcases List.mem_or_eq_of_mem_set h with h | h
        · exact h
        · cases h
    · exact moves_pure (shift_refl p) (onward_refl p) rfl
  · next hi => exact drainStop_moves hi
  · exact moves_pure (shift_refl p) (onward_refl p) rfl

/-- Every step returns, leaves the store as the increment it sent left it, and keeps what the
books and the shutdown need. -/
theorem step_moves (p : Pool) (e : Event) (b : Backend) : Moves p b ((p.step e).run.run b) := by
  cases e with
  | record key => exact beginRecord_moves p key
  | send i => exact sendJob_moves p i
  | take i => exact takeJob_moves p i
  | apply i => exact applyJob_moves p i
  | shutdown => exact beginShutdown_moves p
  | stop i => exact advanceStop_moves p i

/-! ### The closed flag and what is sent -/

theorem beginRecord_closed (p : Pool) (key : CounterKey) :
    (p.beginRecord key).1.closed = p.closed := by
  unfold beginRecord
  split <;> rfl

theorem sendJob_closed (p : Pool) (i : Nat) : (p.sendJob i).1.closed = p.closed := by
  unfold sendJob
  split
  · rfl
  · split <;> rfl

theorem takeJob_closed (p : Pool) (i : Nat) : (p.takeJob i).1.closed = p.closed := by
  unfold takeJob
  split
  · rfl
  · rfl
  · split <;> rfl
  · rfl

theorem applyJob_closed (p : Pool) (i : Nat) {p' : Pool} {note : Option Note} {b' : Backend}
    (h : (p.applyJob i).run.run b = (.ok (p', note), b')) : p'.closed = p.closed := by
  unfold applyJob at h
  split at h
  · next key _ =>
    obtain ⟨taken, ht⟩ := tally_run { p with workers := p.workers.set i .idle } key b
    rw [ht] at h
    obtain rfl := (Prod.mk.inj (Except.ok.inj (Prod.mk.inj h).1)).1
    unfold count
    split <;> rfl
  · rw [run_pure] at h
    obtain rfl := (Prod.mk.inj (Except.ok.inj (Prod.mk.inj h).1)).1
    rfl

/-- Only shutdown calls write the closed flag: a record call's steps and a worker's leave it. -/
theorem step_closed {e : Event} (hs : e ≠ .shutdown) (hstop : ∀ i, e ≠ .stop i) {p' : Pool}
    {note : Option Note} {b' : Backend} (h : (p.step e).run.run b = (.ok (p', note), b')) :
    p'.closed = p.closed := by
  cases e with
  | record key =>
    rw [step, run_pure, Prod.mk.injEq, Except.ok.injEq] at h
    rw [← beginRecord_closed p key, h.1]
  | send i =>
    rw [step, run_pure, Prod.mk.injEq, Except.ok.injEq] at h
    rw [← sendJob_closed p i, h.1]
  | take i =>
    rw [step, run_pure, Prod.mk.injEq, Except.ok.injEq] at h
    rw [← takeJob_closed p i, h.1]
  | apply i => exact applyJob_closed p i h
  | shutdown => exact absurd rfl hs
  | stop i => exact absurd rfl (hstop i)

/-- A step that owes the store nothing sends nothing. -/
theorem Shift.sent_nil {p' : Pool} {note : Option Note} (hs : Shift p p' note)
    (hp : p.pending = []) : sentKeys note.toList = [] := by
  cases hs with
  | send key taken owed =>
    have hmem : key ∈ p.pending :=
      owed.subset (List.mem_append_right _ (List.mem_singleton_self key))
    rw [hp] at hmem
    cases hmem
  | still _ _ _ quiet => rcases quiet with rfl | ⟨e, rfl⟩ <;> rfl
  | drop => rfl
  | queue => rfl

/-- A step that returns at once gives back what it computed. -/
theorem Moves.of_pure {x : Pool × Option Note} (h : Moves p b ((pure x : StoreOp _).run.run b)) :
    Shift p x.1 x.2 ∧ Onward p x.1 x.2 := by
  obtain ⟨p', note, hout, hs, ho⟩ := h
  rw [run_pure, Prod.mk.injEq, Except.ok.injEq] at hout
  rw [hout.1]
  exact ⟨hs, ho⟩

end Steps

/-! ### The books and the shutdown along a run -/

/-- The books of a pool that started as `p₀`, against the notes of its steps since: the keys
sent and the increments still owed are, up to order, those owed at the start and the reads
answered `Queued`; every read answered `Dropped` is tallied as dropped, and every key sent as
applied or failed. -/
structure Books (p₀ p : Pool) (notes : List Note) : Prop where
  owed : sentKeys notes ++ p.pending ~ p₀.pending ++ (queuedReads notes).map CounterKey.encode
  dropped : p.dropped = p₀.dropped + (droppedReads notes).length
  tally : p.applied + p.failed = p₀.applied + p₀.failed + (sentKeys notes).length

theorem books_start (p : Pool) : Books p p [] :=
  ⟨by simp [sentKeys, queuedReads], by simp [droppedReads], by simp [sentKeys]⟩

theorem Books.shift {p₀ p p' : Pool} {notes : List Note} {note : Option Note}
    (h : Books p₀ p notes) (hs : Shift p p' note) : Books p₀ p' (notes ++ note.toList) := by
  obtain ⟨howed, hdrop, htally⟩ := h
  cases hs with
  | still owed dropped tally quiet =>
    -- a quiet note adds no answer and no key sent
    obtain ⟨hq, hd, hs⟩ : queuedReads note.toList = [] ∧ droppedReads note.toList = [] ∧
        sentKeys note.toList = [] := by
      rcases quiet with rfl | ⟨e, rfl⟩ <;> exact ⟨rfl, rfl, rfl⟩
    refine ⟨?_, ?_, ?_⟩
    · rw [sentKeys_append, hs, List.append_nil, queuedReads_append, hq, List.append_nil]
      exact (owed.append_left _).trans howed
    · rw [droppedReads_append, hd, List.append_nil, dropped]
      exact hdrop
    · rw [sentKeys_append, hs, List.append_nil, tally]
      exact htally
  | drop key owed dropped tally =>
    refine ⟨?_, ?_, ?_⟩
    · simpa [Note.sent?, Note.queued?, owed] using howed
    · simp only [droppedReads_append, Option.toList_some, droppedReads_cons, Note.dropped?,
        droppedReads_nil, List.length_append, dropped, hdrop]
      simp
      omega
    · simpa [Note.sent?, tally] using htally
  | queue key owed dropped tally =>
    refine ⟨?_, ?_, ?_⟩
    · simp only [sentKeys_append, queuedReads_append, Option.toList_some, sentKeys_cons,
        queuedReads_cons, Note.sent?, Note.queued?, Option.toList_none, Option.toList_some,
        sentKeys_nil, queuedReads_nil, List.append_nil, List.map_append,
        List.map_cons, List.map_nil]
      rw [← List.append_assoc]
      exact (owed.append_left _).trans (by
        rw [← List.append_assoc]
        exact howed.append_right _)
    · simpa [Note.dropped?, dropped] using hdrop
    · simpa [Note.sent?, tally] using htally
  | send key taken owed dropped tally =>
    refine ⟨?_, ?_, ?_⟩
    · simp only [sentKeys_append, queuedReads_append, Option.toList_some, sentKeys_cons,
        queuedReads_cons, Note.sent?, Note.queued?, Option.toList_none, sentKeys_nil,
        queuedReads_nil, List.append_nil, List.append_assoc]
      exact ((List.perm_append_comm.trans owed).append_left _).trans howed
    · simpa [Note.dropped?, dropped] using hdrop
    · simp only [sentKeys_append, Option.toList_some, sentKeys_cons, Note.sent?,
        sentKeys_nil, List.length_append, List.length_cons, List.length_nil, tally, htally]
      omega

/-- What the shutdown call that found the meter open leaves behind: once it applies what is
left, the receiver is closed and every worker has exited; once it returned, the queue is empty
too. -/
structure Settled (p : Pool) : Prop where
  draining : Stopper.draining ∈ p.stopping →
    p.receiverOpen = false ∧ ∀ w ∈ p.workers, w = .exited
  returned : Stopper.returned ∈ p.stopping →
    p.receiverOpen = false ∧ (∀ w ∈ p.workers, w = .exited) ∧ p.jobs = []

theorem settled_of_stopping_nil {p : Pool} (h : p.stopping = []) : Settled p :=
  ⟨fun hd => by (rw [h] at hd; cases hd), fun hr => by (rw [h] at hr; cases hr)⟩

theorem Settled.onward {p p' : Pool} {note : Option Note} (h : Settled p)
    (ho : Onward p p' note) : Settled p' where
  draining hd := by
    rcases ho.draining hd with hd | h'
    · obtain ⟨hc, hw⟩ := h.draining hd
      exact ⟨ho.closed hc, ho.exited hw⟩
    · exact h'
  returned hr := by
    rcases ho.returned hr with hr | ⟨hd, hj, hro, hws⟩
    · obtain ⟨hc, hw, hj⟩ := h.returned hr
      exact ⟨ho.closed hc, ho.exited hw, ho.empty hc hj⟩
    · obtain ⟨hc, hw⟩ := h.draining hd
      exact ⟨hro.trans hc, hws ▸ hw, hj⟩

/-- Once the shutdown call returned, the pool owes the store nothing. -/
theorem Settled.pending_nil {p : Pool} (h : Settled p) (hr : Stopper.returned ∈ p.stopping) :
    p.pending = [] := by
  obtain ⟨-, hw, hj⟩ := h.returned hr
  simp only [pending, hj, List.filterMap_nil, List.nil_append, List.filterMap_eq_nil_iff]
  intro w hw'
  rw [hw w hw']
  rfl

/-- Once the shutdown call returned, the keys sent are those owed at the start and the reads
queued since, each as often. -/
theorem Books.sent_of_returned {p₀ p : Pool} {notes : List Note} (h : Books p₀ p notes)
    (hs : Settled p) (hr : Stopper.returned ∈ p.stopping) :
    sentKeys notes ~ p₀.pending ++ (queuedReads notes).map CounterKey.encode := by
  have howed := h.owed
  rwa [hs.pending_nil hr, List.append_nil] at howed

/-- What a run keeps, from a pool `p₀` on a store `b₀`: the books, the shutdown's work, a flush
said only once done, and a store that received exactly the increments sent, in order. -/
structure Kept (p₀ : Pool) (b₀ : Backend) (st : Pool × Backend × List Note) : Prop where
  books : Books p₀ st.1 st.2.2
  settled : Settled st.1
  flushed : Note.returned false ∈ st.2.2 → Stopper.returned ∈ st.1.stopping
  store : st.2.1 = receive b₀ (sentKeys st.2.2)

theorem kept_start {p₀ : Pool} (h : p₀.stopping = []) (b₀ : Backend) :
    Kept p₀ b₀ (p₀, b₀, []) :=
  ⟨books_start p₀, settled_of_stopping_nil h, fun hf => (by cases hf), rfl⟩

theorem Kept.step {p₀ : Pool} {b₀ : Backend} {st : Pool × Backend × List Note}
    (h : Kept p₀ b₀ st) (e : Event) : Kept p₀ b₀ (Pool.after st e) := by
  obtain ⟨p', note, hrun, hs, ho⟩ := step_moves st.1 e st.2.1
  have hafter : Pool.after st e =
      (p', receive st.2.1 (note.toList.filterMap Note.sent?), st.2.2 ++ note.toList) := by
    simp only [after, hrun]
  rw [hafter]
  refine ⟨h.books.shift hs, h.settled.onward ho, fun hf => ?_, ?_⟩
  · rcases List.mem_append.1 hf with hf | hf
    · exact ho.kept (h.flushed hf)
    · exact ho.said (by cases note <;> simp_all)
  · dsimp only
    rw [h.store, sentKeys_append, receive_append]
    rfl

theorem Kept.foldl {p₀ : Pool} {b₀ : Backend} :
    ∀ (events : List Event) (st : Pool × Backend × List Note), Kept p₀ b₀ st →
      Kept p₀ b₀ (events.foldl Pool.after st) := by
  intro events
  induction events with
  | nil => exact fun _ h => h
  | cons e events ih => exact fun st h => ih _ (h.step e)

/-- A run from a pool with no shutdown call keeps its books from the start. -/
theorem kept_run {p₀ : Pool} (h : p₀.stopping = []) (b₀ : Backend) (events : List Event) :
    Kept p₀ b₀ (run events p₀ b₀) :=
  Kept.foldl events _ (kept_start h b₀)

end Pool

/-- Once the shutdown call that found the meter open has returned, the meter's accounting is
exact, whatever the interleaving of record calls, workers and shutdown calls, before and after:
the reads answered `Queued` are the increments applied and failed, those answered `Dropped` are
the dropped ones, and the store received one increment of a key for each read of it answered
`Queued`, none for a dropped read, and nothing else. -/
theorem accounts_exactly_once_flushed (s : MeterSettings) (b : Backend) (events : List Pool.Event)
    (hflushed : Note.returned false ∈ (Pool.run events (Pool.start s) b).2.2) :
    let out := Pool.run events (Pool.start s) b
    (queuedReads out.2.2).length = out.1.applied + out.1.failed ∧
      (droppedReads out.2.2).length = out.1.dropped ∧
      (∀ key : CounterKey, (sentKeys out.2.2).count key.encode = (queuedReads out.2.2).count key) ∧
      out.2.1 = receive b (sentKeys out.2.2) := by
  intro out
  have h : Pool.Kept (Pool.start s) b out := Pool.kept_run rfl b events
  have hstart : (Pool.start s).pending = [] := by
    simp [Pool.start, Pool.pending, List.filterMap_eq_nil_iff, List.mem_replicate]
  -- nothing is owed any more, so the keys sent are the reads queued
  have hsent : sentKeys out.2.2 ~ (queuedReads out.2.2).map CounterKey.encode := by
    have hs := h.books.sent_of_returned h.settled (h.flushed hflushed)
    rwa [hstart, List.nil_append] at hs
  refine ⟨?_, ?_, fun key => ?_, h.store⟩
  · rw [← List.length_map (f := CounterKey.encode), ← hsent.length_eq, h.books.tally]
    simp [Pool.start]
  · rw [h.books.dropped]
    simp [Pool.start]
  · rw [hsent.count_eq, List.count_map_of_injective _ _ CounterKey.encode_injective]

/-- A read recorded on a meter of one worker and one slot, then a shutdown that the worker and
the call carry to its end. -/
theorem one_read_accounted_once_flushed :
    let key : CounterKey := ⟨⟨"R1", by decide, by decide⟩, ⟨"U1", by decide, by decide⟩⟩
    let s : MeterSettings := { workers := 1, queueCapacity := 1 }
    let events : List Pool.Event :=
      [.record key, .send 0, .shutdown, .take 0, .apply 0, .stop 0, .take 0, .stop 0, .stop 0,
        .stop 0]
    let out := Pool.run events (Pool.start s) { engine := .memory }
    Note.returned false ∈ out.2.2 ∧
      (queuedReads out.2.2).length = out.1.applied + out.1.failed ∧
      (droppedReads out.2.2).length = out.1.dropped ∧
      (∀ key : CounterKey, (sentKeys out.2.2).count key.encode = (queuedReads out.2.2).count key) ∧
      out.2.1 = receive { engine := .memory } (sentKeys out.2.2) := by
  have h := accounts_exactly_once_flushed { workers := 1, queueCapacity := 1 } { engine := .memory }
  refine ⟨?_, h _ ?_⟩ <;> decide +kernel

/-- A second shutdown call made while the first is still at work returns before the queued
read is applied: after one read answered `Queued` and two shutdown calls, the second has
returned, and nothing is applied or failed yet. -/
theorem early_shutdown_returns_before_flush :
    let key : CounterKey := ⟨⟨"R1", by decide, by decide⟩, ⟨"U1", by decide, by decide⟩⟩
    let out := Pool.run [.record key, .send 0, .shutdown, .shutdown] (Pool.start {})
      { engine := .memory }
    Note.returned true ∈ out.2.2 ∧ (queuedReads out.2.2).length = 1 ∧
      out.1.applied + out.1.failed = 0 := by
  intro key out
  decide +kernel

end Meter

end Turnstile
