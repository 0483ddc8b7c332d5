import Turnstile.Proofs.Store.Engines

/-!
# Failed counter calls on the durable engine

The durable engine adds counts with checks (`Counters.addChecked`): a delta
above the signed 64-bit range is refused before anything is written, but a sum
above it is written, as an inexact number, before the failure is reported. An
inexact count never reads back: a later increment, peek or removal of its key
fails, and the removal removes it all the same.

So a counter call that fails does not always leave the store as it was. It
leaves it unchanged except in two ways (`FailedLeaves`): an increment whose sum
passes the signed range leaves its count inexact, and the removal of an inexact
count removes it (`failedLeaves_of_run`). A run of counter calls on the durable
engine, from a store whose counts are exact and within the range
(`Counters.Fit`), answers every call and confines each failure so; as long as
no increment passes the range, the counts stay within it and the only failures
are increments refused for their delta (`failed_calls_confined`). One
increment past the range is enough to make a key unreadable
(`overflow_leaves_unreadable_count`).
-/

namespace Turnstile

open StoreOp

/-- Whether a call works on the counters and their leases. -/
def StoreCall.onCounters : StoreCall → Bool
  | .incr .. | .peek _ | .scan _ | .getDel _ | .acquire .. | .release .. => true
  | _ => false

/-- Whether a reply reports a failure. -/
def Reply.failed : Reply → Bool
  | .count r => !r.toBool
  | .maybeCount r => !r.toBool
  | .names r => !r.toBool
  | .flag r => !r.toBool
  | .text r => !r.toBool
  | .done r => !r.toBool
  | .blob r => !r.toBool
  | .document r => !r.toBool

/-- A count that reads back: a whole number within the signed 64-bit range. -/
def Count.Fits : Count → Prop
  | .exact n => n ≤ signedMax
  | .inexact => False

/-- Every count the counters hold reads back. -/
def Counters.Fit (c : Counters) : Prop := ∀ key x, c.counts.get? key = some x → x.Fits

/-- Whether a call is an increment that the checked addition takes but whose sum passes the
signed 64-bit range. -/
def StoreCall.overflows (b : Backend) : StoreCall → Prop
  | .incr key delta => delta ≤ signedMax ∧ signedMax < b.counters.units key + delta
  | _ => False

/-- How a failed counter call may leave a backend: as it was; for an increment whose sum passes
the signed range from an exact count, with that count inexact; for the removal of an inexact
count, without it. -/
inductive FailedLeaves (b : Backend) : StoreCall → Backend → Prop
  | unchanged (c : StoreCall) : FailedLeaves b c b
  | overflowed (key : String) (delta n : Nat) (hn : b.counters.counts.get? key = some (.exact n))
      (hd : delta ≤ signedMax) (hs : signedMax < n + delta) :
      FailedLeaves b (.incr key delta)
        { b with counters := { b.counters with counts := b.counters.counts.insert key .inexact } }
  | dropped (key : String) (hx : b.counters.counts.get? key = some .inexact) :
      FailedLeaves b (.getDel key)
        { b with counters := { b.counters with counts := b.counters.counts.erase key } }

/-! ## One failed call -/

namespace Counters

/-- A checked addition that fails writes nothing, unless its sum passes the signed range from
an exact count: then it leaves the count inexact. -/
theorem addChecked_failed {c : Counters} {key : String} {delta : Nat} {e : StoreError}
    (h : (c.addChecked key delta).2 = .error e) :
    (c.addChecked key delta).1 = c ∨
      ∃ n, c.counts.get? key = some (.exact n) ∧ delta ≤ signedMax ∧
        signedMax < n + delta ∧
        (c.addChecked key delta).1 = { c with counts := c.counts.insert key .inexact } := by
  unfold addChecked at h ⊢
  by_cases hd : delta > signedMax
  · rw [if_pos hd]
    exact .inl rfl
  · rw [if_neg hd] at h ⊢
    cases hk : c.counts.get? key with
    | none =>
      simp only [hk] at h
      cases h
    | some x =>
      cases x with
      | exact n =>
        simp only [hk] at h ⊢
        by_cases hs : n + delta ≤ signedMax
        · rw [if_pos hs] at h
          cases h
        · rw [if_neg hs]
          exact .inr ⟨n, rfl, by omega, by omega, rfl⟩
      | inexact =>
        left
        simp only

end Counters

theorem incr_failedLeaves {b b' : Backend} {key : String} {delta : Nat} {e : StoreError}
    (h : (incr key delta).run.run b = (.ok (.error e), b')) :
    FailedLeaves b (.incr key delta) b' := by
  rcases incr_cases key delta b with ⟨e', hrun⟩ | ⟨-, hrun⟩ | ⟨-, hrun⟩ <;> rw [hrun] at h
  · cases h
    exact .unchanged _
  -- the saturating addition of the memory engine never fails
  · cases h
  · obtain ⟨hr, rfl⟩ := Prod.mk.inj h
    rcases Counters.addChecked_failed (Except.ok.inj hr) with hc | ⟨n, hn, hd, hs, hc⟩
    · rw [hc]
      exact .unchanged _
    · rw [hc]
      exact .overflowed key delta n hn hd hs

theorem getDel_failedLeaves {b b' : Backend} {key : String} {e : StoreError}
    (h : (getDel key).run.run b = (.ok (.error e), b')) : FailedLeaves b (.getDel key) b' := by
  rw [getDel_run] at h
  split at h
  · cases h
    exact .unchanged _
  · -- the key is gone; only an inexact count fails to read
    obtain ⟨hr, rfl⟩ := Prod.mk.inj h
    cases hk : b.counters.counts.get? key with
    | none =>
      simp only [hk] at hr
      cases hr
    | some x =>
      cases x with
      | exact n =>
        simp only [hk, Count.read] at hr
        cases hr
      | inexact => exact .dropped key hk

theorem acquire_failedLeaves {b b' : Backend} {name : String} {holder : Holder} {lifetime : Nat}
    {e : StoreError} (h : (acquire name holder lifetime).run.run b = (.ok (.error e), b')) :
    FailedLeaves b (.acquire name holder lifetime) b' := by
  rw [acquire_run] at h
  split at h
  · cases h
    exact .unchanged _
  · split at h
    · split at h <;> cases h
    · cases h

theorem release_failedLeaves {b b' : Backend} {name : String} {holder : Holder} {e : StoreError}
    (h : (release name holder).run.run b = (.ok (.error e), b')) :
    FailedLeaves b (.release name holder) b' := by
  rw [release_run] at h
  split at h
  · cases h
    exact .unchanged _
  · cases h

/-- A call that answers through a map answers what the mapped operation gave. -/
theorem run_map_eq_ok {α β : Type} {f : α → β} {op : StoreOp α} {b b' : Backend} {y : β}
    (h : (f <$> op).run.run b = (.ok y, b')) : ∃ x, op.run.run b = (.ok x, b') ∧ f x = y := by
  rw [run_map] at h
  rcases hx : op.run.run b with ⟨_ | x, b₁⟩
  · rw [hx] at h
    cases h
  · rw [hx] at h
    obtain ⟨hy, rfl⟩ := Prod.mk.inj h
    exact ⟨x, rfl, Except.ok.inj hy⟩

theorem exists_error_of_failed {α : Type} {r : Except StoreError α} (h : (!r.toBool) = true) :
    ∃ e, r = .error e := by
  cases r with
  | error e => exact ⟨e, rfl⟩
  | ok a => cases h

/-- A counter call that fails leaves the backend as it was, except that an increment past the
signed range leaves its count inexact, and removing an inexact count removes it. -/
theorem failedLeaves_of_run {b b' : Backend} {c : StoreCall} {r : Reply} (hc : c.onCounters)
    (h : c.run.run.run b = (.ok r, b')) (hf : r.failed) : FailedLeaves b c b' := by
  cases c with
  | incr key delta =>
    obtain ⟨x, hx, rfl⟩ := run_map_eq_ok h
    obtain ⟨e, rfl⟩ := exists_error_of_failed hf
    exact incr_failedLeaves hx
  | peek key =>
    -- a peek reads and writes nothing
    obtain ⟨x, hx, -⟩ := run_map_eq_ok h
    obtain rfl := (Prod.mk.inj hx).2
    exact .unchanged _
  | scan pre =>
    obtain ⟨x, hx, -⟩ := run_map_eq_ok h
    obtain rfl := (Prod.mk.inj hx).2
    exact .unchanged _
  | getDel key =>
    obtain ⟨x, hx, rfl⟩ := run_map_eq_ok h
    obtain ⟨e, rfl⟩ := exists_error_of_failed hf
    exact getDel_failedLeaves hx
  | acquire name holder lifetime =>
    obtain ⟨x, hx, rfl⟩ := run_map_eq_ok h
    obtain ⟨e, rfl⟩ := exists_error_of_failed hf
    exact acquire_failedLeaves hx
  | release name holder =>
    obtain ⟨x, hx, rfl⟩ := run_map_eq_ok h
    obtain ⟨e, rfl⟩ := exists_error_of_failed hf
    exact release_failedLeaves hx
  | _ => cases hc

/-! ## Runs on the durable engine -/

/-- A call made on a backend: the backend it met, the call, its reply and the backend it left. -/
structure Passage where
  before : Backend
  call : StoreCall
  reply : Reply
  after : Backend

/-- The passages of a run of calls made in order from a backend; a halt ends the run. -/
def StoreCall.passages (b : Backend) : List StoreCall → List Passage
  | [] => []
  | c :: cs =>
    match c.run.run.run b with
    | (.ok r, b') => ⟨b, c, r, b'⟩ :: passages b' cs
    | (.error _, _) => []

/-- A backend on which counts stay readable: durable, with no fault switched on, counters not
poisoned, and every count fitting. -/
structure Readable (b : Backend) : Prop where
  durable : b.engine = .durable
  quiet : b.faults = {}
  healthy : b.counters.poisoned = false
  fit : b.counters.Fit

namespace StoreCall

theorem passages_cons_of_run {b b' : Backend} {c : StoreCall} {r : Reply} (cs : List StoreCall)
    (h : c.run.run.run b = (.ok r, b')) :
    passages b (c :: cs) = ⟨b, c, r, b'⟩ :: passages b' cs := by
  rw [passages, h]

/-- Every passage of a run is one of its calls, answering from the backend it met. -/
theorem mem_passages {b : Backend} {calls : List StoreCall} {p : Passage}
    (hp : p ∈ passages b calls) :
    p.call ∈ calls ∧ p.call.run.run.run p.before = (.ok p.reply, p.after) := by
  induction calls generalizing b with
  | nil => cases hp
  | cons c cs ih =>
    rw [passages] at hp
    split at hp
    · next r b' h =>
      rcases List.mem_cons.1 hp with rfl | hp
      · exact ⟨List.mem_cons_self, h⟩
      · obtain ⟨hc, hrun⟩ := ih hp
        exact ⟨List.mem_cons_of_mem _ hc, hrun⟩
    · cases hp

end StoreCall

/-! ### Every call answers -/

theorem incr_answers (key : String) (delta : Nat) (b : Backend) :
    ∃ x, ∃ c : Counters, (incr key delta).run.run b = (.ok x, { b with counters := c }) := by
  rcases incr_cases key delta b with ⟨e, h⟩ | ⟨-, h⟩ | ⟨-, h⟩ <;> exact ⟨_, _, h⟩

theorem getDel_answers (key : String) (b : Backend) :
    ∃ x, ∃ c : Counters, (getDel key).run.run b = (.ok x, { b with counters := c }) := by
  rw [getDel_run]
  split
  · exact ⟨_, _, rfl⟩
  · exact ⟨_, _, rfl⟩

/-- On the durable engine a lease's end is always represented, so taking it never halts. -/
theorem acquire_answers {b : Backend} (he : b.engine = .durable) (name : String) (holder : Holder)
    (lifetime : Nat) :
    ∃ x, ∃ c : Counters,
      (acquire name holder lifetime).run.run b = (.ok x, { b with counters := c }) := by
  rw [acquire_run]
  split
  · exact ⟨_, _, rfl⟩
  · split
    · rw [Backend.deadline_durable he]
      exact ⟨_, _, rfl⟩
    · exact ⟨_, _, rfl⟩

theorem release_answers (name : String) (holder : Holder) (b : Backend) :
    ∃ x, ∃ c : Counters,
      (release name holder).run.run b = (.ok x, { b with counters := c }) := by
  rw [release_run]
  split
  · exact ⟨_, _, rfl⟩
  · exact ⟨_, _, rfl⟩

/-- On the durable engine every counter call answers, and the engine stays durable. -/
theorem answers_of_durable {b : Backend} (he : b.engine = .durable) {c : StoreCall}
    (hc : c.onCounters) : ∃ r b', c.run.run.run b = (.ok r, b') ∧ b'.engine = .durable := by
  cases c with
  | incr key delta =>
    obtain ⟨x, c, h⟩ := incr_answers key delta b
    exact ⟨.count x, { b with counters := c }, by rw [StoreCall.run, run_map, h]; rfl, he⟩
  | peek key => exact ⟨_, b, rfl, he⟩
  | scan pre => exact ⟨_, b, rfl, he⟩
  | getDel key =>
    obtain ⟨x, c, h⟩ := getDel_answers key b
    exact ⟨.maybeCount x, { b with counters := c }, by rw [StoreCall.run, run_map, h]; rfl, he⟩
  | acquire name holder lifetime =>
    obtain ⟨x, c, h⟩ := acquire_answers he name holder lifetime
    exact ⟨.flag x, { b with counters := c }, by rw [StoreCall.run, run_map, h]; rfl, he⟩
  | release name holder =>
    obtain ⟨x, c, h⟩ := release_answers name holder b
    exact ⟨.flag x, { b with counters := c }, by rw [StoreCall.run, run_map, h]; rfl, he⟩
  | _ => cases hc

/-- A run of counter calls on the durable engine answers every call. -/
theorem passages_length {b : Backend} (he : b.engine = .durable) {calls : List StoreCall}
    (hc : ∀ c ∈ calls, c.onCounters) : (StoreCall.passages b calls).length = calls.length := by
  induction calls generalizing b with
  | nil => rfl
  | cons c cs ih =>
    obtain ⟨r, b', h, he'⟩ := answers_of_durable he (hc c List.mem_cons_self)
    rw [StoreCall.passages_cons_of_run cs h, List.length_cons, List.length_cons,
      ih he' fun c hc' => hc c (List.mem_cons_of_mem _ hc')]

/-! ### Counts that stay within range -/

namespace Counters

theorem fit_empty : ({} : Counters).Fit := by
  intro key x h
  cases h

/-- A fitting count read from fitting counters is absent or a number within range. -/
theorem Fit.get?_eq {c : Counters} (h : c.Fit) (key : String) :
    c.counts.get? key = none ∨ ∃ n ≤ signedMax, c.counts.get? key = some (.exact n) := by
  cases hk : c.counts.get? key with
  | none => exact .inl rfl
  | some x =>
    cases x with
    | exact n => exact .inr ⟨n, h key _ hk, rfl⟩
    | inexact => exact (h key _ hk).elim

theorem Fit.insert {c : Counters} (h : c.Fit) (key : String) {x : Count} (hx : x.Fits) :
    ({ c with counts := c.counts.insert key x } : Counters).Fit := by
  intro k y hk
  by_cases hkey : key = k
  · subst hkey
    rw [Table.get?_insert_self] at hk
    cases hk
    exact hx
  · rw [Table.get?_insert_of_ne _ _ hkey] at hk
    exact h k y hk

theorem Fit.erase {c : Counters} (h : c.Fit) (key : String) :
    ({ c with counts := c.counts.erase key } : Counters).Fit := by
  intro k y hk
  rw [Table.get?_erase] at hk
  split at hk
  · cases hk
  · exact h k y hk

end Counters

/-- On the durable engine an increment that the counters take adds with checks. -/
theorem incr_run_durable {b : Backend} (key : String) (delta : Nat) (he : b.engine = .durable)
    (ht : b.takesIncrement) :
    (incr key delta).run.run b =
      (.ok (b.counters.addChecked key delta).2,
        { b with counters := (b.counters.addChecked key delta).1 }) := by
  obtain ⟨hg, hr, hp⟩ := ht
  have hg : b.counterGuard .incrBy = .ok () := by
    cases hc : b.counterGuard .incrBy with
    | error e => simp [hc, Except.toBool] at hg
    | ok u => rfl
  simp only [incr, run_bind, run_get, hg, hr, Backend.stateGuard, hp, Bool.false_eq_true,
    ↓reduceIte, he]
  rfl

namespace Readable

variable {b : Backend} (hb : Readable b)
include hb

theorem takesIncrement : b.takesIncrement :=
  ⟨by simp [Backend.counterGuard_quiet hb.quiet, Except.toBool], by simp [hb.quiet], hb.healthy⟩

/-- Writing counters with the same counts and health keeps a backend readable. -/
theorem with_counters {c : Counters} (hc : c.counts = b.counters.counts)
    (hp : c.poisoned = b.counters.poisoned) : Readable { b with counters := c } :=
  ⟨hb.durable, hb.quiet, hp.trans hb.healthy, fun k x hk => hb.fit k x (hc ▸ hk)⟩

/-- A counter call that does not pass the signed range keeps a backend readable, and fails only
as an increment refused for its delta. -/
theorem step {c : StoreCall} {r : Reply} {b' : Backend} (hc : c.onCounters) (ho : ¬ c.overflows b)
    (h : c.run.run.run b = (.ok r, b')) :
    Readable b' ∧ (r.failed → ∃ key delta, c = .incr key delta ∧ signedMax < delta) := by
  cases c with
  | incr key delta =>
    obtain ⟨x, hx, rfl⟩ := run_map_eq_ok h
    by_cases hd : signedMax < delta
    · -- refused before anything is written
      have hrun : b.counters.addChecked key delta =
          (b.counters, .error (.invalidData ("count " ++ toString delta ++ " overflows"))) := by
        unfold Counters.addChecked
        rw [if_pos hd]
      rw [incr_run_durable key delta hb.durable (hb.takesIncrement), hrun] at hx
      obtain ⟨-, rfl⟩ := Prod.mk.inj hx
      exact ⟨hb, fun _ => ⟨key, delta, rfl, hd⟩⟩
    · have hfit : b.counters.units key + delta ≤ signedMax := by
        simp only [StoreCall.overflows] at ho
        omega
      have hne : b.counters.counts.get? key ≠ some .inexact := fun hk => hb.fit key _ hk
      rw [incr_quiet hb.quiet hb.healthy hne hfit] at hx
      obtain ⟨hr, rfl⟩ := Prod.mk.inj hx
      cases hr
      exact ⟨⟨hb.durable, hb.quiet, hb.healthy, hb.fit.insert key hfit⟩,
        fun hf => by cases hf⟩
  | peek key =>
    obtain ⟨x, hx, rfl⟩ := run_map_eq_ok h
    rw [peek_quiet hb.quiet hb.healthy] at hx
    obtain ⟨hr, rfl⟩ := Prod.mk.inj hx
    refine ⟨hb, fun hf => ?_⟩
    -- a fitting count reads back
    rcases hb.fit.get?_eq key with hk | ⟨n, -, hk⟩ <;> simp only [hk, Count.read] at hr <;>
      cases hr <;> cases hf
  | scan pre =>
    obtain ⟨x, hx, rfl⟩ := run_map_eq_ok h
    rw [scan_quiet hb.quiet hb.healthy] at hx
    obtain ⟨hr, rfl⟩ := Prod.mk.inj hx
    cases hr
    exact ⟨hb, fun hf => by cases hf⟩
  | getDel key =>
    obtain ⟨x, hx, rfl⟩ := run_map_eq_ok h
    rw [getDel_quiet hb.quiet hb.healthy] at hx
    obtain ⟨hr, rfl⟩ := Prod.mk.inj hx
    refine ⟨⟨hb.durable, hb.quiet, hb.healthy, hb.fit.erase key⟩, fun hf => ?_⟩
    -- a fitting count reads back
    rcases hb.fit.get?_eq key with hk | ⟨n, -, hk⟩ <;> simp only [hk, Count.read] at hr <;>
      cases hr <;> cases hf
  | acquire name holder lifetime =>
    obtain ⟨x, hx, rfl⟩ := run_map_eq_ok h
    rw [acquire_quiet hb.quiet hb.healthy, Backend.deadline_durable hb.durable] at hx
    split at hx
    · obtain ⟨hr, rfl⟩ := Prod.mk.inj hx
      cases hr
      exact ⟨hb.with_counters rfl rfl, fun hf => by cases hf⟩
    · obtain ⟨hr, rfl⟩ := Prod.mk.inj hx
      cases hr
      exact ⟨hb, fun hf => by cases hf⟩
  | release name holder =>
    obtain ⟨x, hx, rfl⟩ := run_map_eq_ok h
    rw [release_quiet hb.quiet hb.healthy] at hx
    obtain ⟨hr, rfl⟩ := Prod.mk.inj hx
    cases hr
    exact ⟨hb.with_counters (Counters.release_counts _ _ _) (Counters.release_poisoned _ _ _),
      fun hf => by cases hf⟩
  | _ => cases hc

end Readable

/-- Along a run of counter calls in which no increment passes the signed range, a readable
backend stays readable, and every failure is an increment refused for its delta. -/
theorem passages_readable {b : Backend} (hb : Readable b) {calls : List StoreCall}
    (hc : ∀ c ∈ calls, c.onCounters)
    (ho : ∀ p ∈ StoreCall.passages b calls, ¬ p.call.overflows p.before) :
    ∀ p ∈ StoreCall.passages b calls, Readable p.after ∧
      (p.reply.failed → ∃ key delta, p.call = .incr key delta ∧ signedMax < delta) := by
  induction calls generalizing b with
  | nil => intro p hp; cases hp
  | cons c cs ih =>
    obtain ⟨r, b', h, -⟩ := answers_of_durable hb.durable (hc c List.mem_cons_self)
    rw [StoreCall.passages_cons_of_run cs h] at ho ⊢
    have hstep := hb.step (hc c List.mem_cons_self) (ho _ List.mem_cons_self) h
    intro p hp
    rcases List.mem_cons.1 hp with rfl | hp
    · exact hstep
    · exact ih hstep.1 (fun c hc' => hc c (List.mem_cons_of_mem _ hc'))
        (fun p hp => ho p (List.mem_cons_of_mem _ hp)) p hp

/-! ### Failures over a run -/

/-- A run of counter calls on a readable durable backend answers every call; each call that fails
leaves the backend as it was, except that an increment past the signed range leaves its count
inexact and removing an inexact count removes it; and if no increment of the run passes the
range, every count stays within it and the only failures are increments refused for their
delta, so no peek or removal fails. -/
theorem failed_calls_confined {b : Backend} (hb : Readable b) (calls : List StoreCall)
    (hc : ∀ c ∈ calls, c.onCounters) :
    (StoreCall.passages b calls).length = calls.length ∧
    (∀ p ∈ StoreCall.passages b calls,
      p.reply.failed → FailedLeaves p.before p.call p.after) ∧
    ((∀ p ∈ StoreCall.passages b calls, ¬ p.call.overflows p.before) →
      ∀ p ∈ StoreCall.passages b calls, p.after.counters.Fit ∧
        (p.reply.failed → ∃ key delta, p.call = .incr key delta ∧ signedMax < delta)) := by
  refine ⟨passages_length hb.durable hc, ?_, ?_⟩
  · intro p hp hf
    obtain ⟨hmem, hrun⟩ := StoreCall.mem_passages hp
    exact failedLeaves_of_run (hc _ hmem) hrun hf
  · intro ho p hp
    obtain ⟨hr, hf⟩ := passages_readable hb hc ho p hp
    exact ⟨hr.fit, hf⟩

theorem failed_calls_confined_fresh :
    let b : Backend := { engine := .durable }
    let calls := [StoreCall.incr "k" signedMax, .incr "k" 1, .getDel "k", .peek "k"]
    Readable b ∧ (∀ c ∈ calls, c.onCounters) ∧
    (StoreCall.passages b calls).length = calls.length ∧
    (∀ p ∈ StoreCall.passages b calls,
      p.reply.failed → FailedLeaves p.before p.call p.after) ∧
    ((∀ p ∈ StoreCall.passages b calls, ¬ p.call.overflows p.before) →
      ∀ p ∈ StoreCall.passages b calls, p.after.counters.Fit ∧
        (p.reply.failed → ∃ key delta, p.call = .incr key delta ∧ signedMax < delta)) := by
  intro b calls
  have hb : Readable b := ⟨rfl, rfl, rfl, Counters.fit_empty⟩
  have hc : ∀ c ∈ calls, c.onCounters := by decide
  exact ⟨hb, hc, failed_calls_confined hb calls hc⟩

/-- One increment past the signed range fails and leaves its key unreadable: the next peek
fails, and the removal, which fails as well, removes the key. -/
theorem overflow_leaves_unreadable_count :
    StoreCall.replies .durable
        [.incr "k" signedMax, .incr "k" 1, .peek "k", .getDel "k", .peek "k"] =
      .ok [.count (.ok signedMax), .count (.error inexactColumn),
        .maybeCount (.error inexactColumn), .maybeCount (.error inexactColumn),
        .maybeCount (.ok none)] := by
  rfl

end Turnstile
