import Turnstile.Meter
import Turnstile.Proofs.KeyCodec
import Turnstile.Proofs.Store.Run

/-!
# The meter's books balance

Callers record reads on a meter, the driver lets its workers apply what is
queued (`Call.work`), and the meter is shut down, in any order (`Call`,
`runCalls`). Beside the meter and its counter store, a `Log` keeps what each
caller was told and the keys of the increments sent to the store.

A flush sends the store one `incr key 1` per queued key, in queue order, and
tallies each as applied or failed (`flush_run`); it never halts. From this,
`Books` holds after every call, and once a shutdown has returned the queue is
empty, so the accounting is exact (`shutdown_accounts_exactly`). Calls do not
overlap here: a shutdown runs to its end before the next call, as the driver
schedules them, so a second shutdown always comes after the first has flushed.
-/

namespace Turnstile

namespace Meter

open StoreOp

/-- The counter store after it received one `incr key 1` for each key, in order. -/
def receive (b : Backend) (keys : List String) : Backend :=
  keys.foldl (fun b key => ((incr key 1).run.run b).2) b

theorem receive_append (b : Backend) (xs ys : List String) :
    receive b (xs ++ ys) = receive (receive b xs) ys :=
  List.foldl_append

/-- An increment never halts: the store answers it, or refuses it with an error. -/
theorem incr_run_ok (key : String) (delta : Nat) (b : Backend) :
    ∃ r b', (incr key delta).run.run b = (.ok r, b') := by
  rcases incr_cases key delta b with ⟨e, h⟩ | ⟨-, h⟩ | ⟨-, h⟩ <;> exact ⟨_, _, h⟩

/-- Sending an increment never halts: the store takes it or refuses it. -/
theorem increment_run (key : String) (b : Backend) :
    ∃ taken, (increment key).run.run b = (.ok taken, receive b [key]) := by
  obtain ⟨r, b', hr⟩ := incr_run_ok key 1 b
  have hrec : receive b [key] = b' := by
    simp only [receive, List.foldl_cons, List.foldl_nil, hr]
  rw [hrec]
  rcases r with e | v
  · exact ⟨false, by simp only [increment, run_bind, hr, run_pure]⟩
  · exact ⟨true, by simp only [increment, run_bind, hr, run_pure]⟩

theorem foldlM_applyOne_run (keys : List String) (acc : Meter) (b : Backend) :
    ∃ n, n ≤ keys.length ∧ (keys.foldlM applyOne acc).run.run b =
      (.ok { acc with applied := acc.applied + n, failed := acc.failed + (keys.length - n) },
        receive b keys) := by
  induction keys generalizing acc b with
  | nil => exact ⟨0, Nat.le_refl 0, rfl⟩
  | cons key keys ih =>
    obtain ⟨taken, hr⟩ := increment_run key b
    have hrec : receive b (key :: keys) = receive (receive b [key]) keys := rfl
    simp only [List.foldlM_cons, run_bind, applyOne, hr, hrec]
    -- the first key is applied or fails; the rest of the queue follows from the store it left
    cases taken
    · obtain ⟨n, hn, h⟩ := ih { acc with failed := acc.failed + 1 } (receive b [key])
      refine ⟨n, by simp only [List.length_cons]; omega, ?_⟩
      simp only [Bool.false_eq_true, ↓reduceIte, run_pure, h, List.length_cons]
      congr 3
      omega
    · obtain ⟨n, hn, h⟩ := ih { acc with applied := acc.applied + 1 } (receive b [key])
      refine ⟨n + 1, by simp only [List.length_cons]; omega, ?_⟩
      simp only [↓reduceIte, run_pure, h, List.length_cons]
      congr 3 <;> omega

/-- A flush applies the whole queue: the store receives one increment per queued key, in order,
and each counts as applied or failed. -/
theorem flush_run (m : Meter) (b : Backend) :
    ∃ m', m.flush.run.run b = (.ok m', receive b m.queue) ∧ m'.queue = [] ∧
      m'.closed = m.closed ∧ m'.dropped = m.dropped ∧
      m'.applied + m'.failed = m.applied + m.failed + m.queue.length := by
  obtain ⟨n, hn, h⟩ := foldlM_applyOne_run m.queue { m with queue := [] } b
  refine ⟨_, h, rfl, rfl, rfl, ?_⟩
  dsimp only
  omega

/-- A shutdown closes the meter and flushes its queue. -/
theorem shutdown_run (m : Meter) (b : Backend) :
    ∃ m', m.shutdown.run.run b = (.ok m', receive b m.queue) ∧ m'.queue = [] ∧
      m'.closed = true ∧ m'.dropped = m.dropped ∧
      m'.applied + m'.failed = m.applied + m.failed + m.queue.length :=
  flush_run { m with closed := true } b

/-- A call on a meter: a read recorded, the workers applying what is queued, or a shutdown. -/
inductive Call where
  | record (key : CounterKey)
  | work
  | shutdown

/-- What the callers were told and what the store was sent: each recorded key with its answer,
and the keys of the increments the workers sent, in order. -/
structure Log where
  answers : List (CounterKey × Dispatch) := []
  sent : List String := []

/-- The meter, its store and the log after a flush: the keys of the flushed queue are sent. -/
def afterFlush (m : Meter) (op : StoreOp Meter) (b : Backend) (l : Log) : Meter × Backend × Log :=
  match op.run.run b with
  | (.ok m', b') => (m', b', { l with sent := l.sent ++ m.queue })
  | (.error _, b') => (m, b', l)

/-- The meter, its store and the log after a call. -/
def Call.run : Call → Meter × Backend × Log → Meter × Backend × Log
  | .record key, (m, b, l) =>
    ((m.record key).1, b, { l with answers := l.answers ++ [(key, (m.record key).2)] })
  | .work, (m, b, l) => afterFlush m m.flush b l
  | .shutdown, (m, b, l) => afterFlush m m.shutdown b l

/-- The meter, its store and the log after calls, in order. -/
def runCalls (calls : List Call) (st : Meter × Backend × Log) : Meter × Backend × Log :=
  calls.foldl (fun st c => c.run st) st

/-- The books of a meter against its log, for a store that started as `b₀`: every record answered
`Queued` was sent or is still queued, once per key; every one answered `Dropped` is tallied as
dropped; every increment sent is tallied as applied or failed; and the store received exactly the
increments sent. -/
structure Books (b₀ : Backend) (m : Meter) (b : Backend) (l : Log) : Prop where
  queued : (l.answers.filter (·.2 = .queued)).length = l.sent.length + m.queue.length
  dropped : (l.answers.filter (·.2 = .dropped)).length = m.dropped
  sent : l.sent.length = m.applied + m.failed
  perKey : ∀ key : CounterKey,
    (l.sent ++ m.queue).count key.encode = (l.answers.filter (· = (key, .queued))).length
  store : b = receive b₀ l.sent

section Books

variable {b₀ : Backend} {m : Meter} {b : Backend} {l : Log}

theorem books_start (s : MeterSettings) (b : Backend) : Books b (Meter.start s) b {} :=
  ⟨rfl, rfl, rfl, fun _ => rfl, rfl⟩

theorem Books.record (h : Books b₀ m b l) (key : CounterKey) :
    Books b₀ (m.record key).1 b { l with answers := l.answers ++ [(key, (m.record key).2)] } := by
  unfold Meter.record
  split
  · -- a dropped record is tallied and sends nothing
    refine ⟨?_, ?_, h.sent, fun k => ?_, h.store⟩
    · simpa using h.queued
    · simpa using h.dropped
    · simpa using h.perKey k
  · -- a queued record waits in the queue under its key
    refine ⟨?_, by simpa using h.dropped, h.sent, fun k => ?_, h.store⟩
    · simp [h.queued]
      omega
    · dsimp only
      rw [← List.append_assoc, List.count_append, h.perKey k, List.filter_append,
        List.length_append]
      by_cases hkey : k = key
      · subst hkey
        simp
      · have hne : key.encode ≠ k.encode := fun he => hkey (CounterKey.encode_injective he).symm
        simp [hne, Ne.symm hkey]

/-- A flush that sends the queue and tallies each increment keeps the books. -/
theorem Books.afterFlush (h : Books b₀ m b l) {op : StoreOp Meter} {m' : Meter}
    (hrun : op.run.run b = (.ok m', receive b m.queue)) (hq : m'.queue = [])
    (hd : m'.dropped = m.dropped) (ht : m'.applied + m'.failed = m.applied + m.failed + m.queue.length) :
    Books b₀ (afterFlush m op b l).1 (afterFlush m op b l).2.1 (afterFlush m op b l).2.2 := by
  simp only [Meter.afterFlush, hrun]
  refine ⟨?_, ?_, ?_, fun k => ?_, ?_⟩
  · rw [h.queued, hq, List.length_append, List.length_nil, Nat.add_zero]
  · rw [hd]
    exact h.dropped
  · simp only [List.length_append, h.sent]
    omega
  · simp only [hq, List.append_nil]
    exact h.perKey k
  · rw [h.store, receive_append]

theorem Books.call (h : Books b₀ m b l) (c : Call) :
    Books b₀ (c.run (m, b, l)).1 (c.run (m, b, l)).2.1 (c.run (m, b, l)).2.2 := by
  cases c with
  | record key => exact h.record key
  | work =>
    obtain ⟨m', hrun, hq, -, hd, ht⟩ := flush_run m b
    exact h.afterFlush hrun hq hd ht
  | shutdown =>
    obtain ⟨m', hrun, hq, -, hd, ht⟩ := shutdown_run m b
    exact h.afterFlush hrun hq hd ht

theorem Books.run (calls : List Call) :
    ∀ m b l, Books b₀ m b l → Books b₀ (runCalls calls (m, b, l)).1
      (runCalls calls (m, b, l)).2.1 (runCalls calls (m, b, l)).2.2 := by
  induction calls with
  | nil => exact fun _ _ _ h => h
  | cons c calls ih =>
    intro m b l h
    exact ih _ _ _ (h.call c)

end Books

/-- After a shutdown the queue is empty, whatever came before. -/
theorem runCalls_shutdown_queue (calls : List Call) (st : Meter × Backend × Log) :
    (runCalls (calls ++ [.shutdown]) st).1.queue = [] := by
  simp only [runCalls, List.foldl_append, List.foldl_cons, List.foldl_nil]
  generalize List.foldl (fun st c => c.run st) st calls = st'
  obtain ⟨m, b, l⟩ := st'
  obtain ⟨m', hrun, hq, -⟩ := shutdown_run m b
  simp only [Call.run, Meter.afterFlush, hrun, hq]

/-- Once a shutdown has returned, the meter's accounting is exact. Take any calls on a fresh
meter, ending with a shutdown (a repeated one included): the records answered `Queued` are the
increments applied and failed, those answered `Dropped` are the dropped ones, and the store
received one increment of a key for each record of it answered `Queued`, none for a dropped one,
and nothing else. -/
theorem shutdown_accounts_exactly (s : MeterSettings) (b : Backend) (calls : List Call) :
    let st := runCalls (calls ++ [.shutdown]) (Meter.start s, b, {})
    (st.2.2.answers.filter (·.2 = .queued)).length = st.1.applied + st.1.failed ∧
    (st.2.2.answers.filter (·.2 = .dropped)).length = st.1.dropped ∧
    (∀ key : CounterKey,
      st.2.2.sent.count key.encode = (st.2.2.answers.filter (· = (key, .queued))).length) ∧
    st.2.1 = receive b st.2.2.sent := by
  intro st
  have h := Books.run (calls ++ [.shutdown]) _ _ _ (books_start s b)
  have hq := runCalls_shutdown_queue calls (Meter.start s, b, {})
  refine ⟨?_, h.dropped, fun key => ?_, h.store⟩
  · rw [h.queued, hq, List.length_nil, Nat.add_zero, h.sent]
  · have hk := h.perKey key
    rw [hq, List.append_nil] at hk
    exact hk

end Meter

end Turnstile
