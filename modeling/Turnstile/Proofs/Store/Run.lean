import Turnstile.Store.Backend

/-!
# Running store operations

A store operation runs on a backend and gives its outcome, or a halt, together
with the backend after it. This module states what each counter and blob
operation does as one equation of its run (`getDel_run`, `incr_run_of_takes`,
`acquire_run`, `release_run`, `putObject_run`, ...), so that the proofs about
drain cycles never unfold an operation again. Three frame notions compose along
binds: an operation that `Keeps` a view of the backend, one that changes only the
counters (`CountersOnly`), and one all of whose results satisfy a predicate
(`Yields`).

Counts are read through `Counters.units`: the count under a key as a number,
where a missing key holds none. The saturating increment then adds the delta
under its key and nothing elsewhere (`units_addSaturating`), and taking a key
empties it and nothing else (`units_erase`).
-/

namespace Turnstile

/-- Whether the counters take an increment: the operation is not made to fail, the store is
up, increments are not rejected and the counters are not poisoned. -/
def Backend.takesIncrement (b : Backend) : Prop :=
  (b.counterGuard .incrBy).toBool = true ∧ b.faults.rejectIncrements = false ∧
    b.counters.poisoned = false

instance (b : Backend) : Decidable b.takesIncrement :=
  inferInstanceAs (Decidable ((b.counterGuard .incrBy).toBool = true ∧
    b.faults.rejectIncrements = false ∧ b.counters.poisoned = false))

/-- A checked increment leaves the counters as they were or writes its own key, and nothing
else. -/
theorem Counters.addChecked_cases (c : Counters) (key : String) (delta : Nat) :
    (c.addChecked key delta).1 = c ∨
      ∃ v, (c.addChecked key delta).1 = { c with counts := c.counts.insert key v } := by
  unfold Counters.addChecked
  split
  · exact .inl rfl
  · split
    · exact .inr ⟨_, rfl⟩
    · split
      · exact .inr ⟨_, rfl⟩
      · exact .inr ⟨_, rfl⟩
    · exact .inl rfl

/-- A checked increment changes the counts only. -/
theorem Counters.addChecked_leases (c : Counters) (key : String) (delta : Nat) :
    (c.addChecked key delta).1.leases = c.leases := by
  rcases Counters.addChecked_cases c key delta with h | ⟨v, h⟩ <;> rw [h]

/-- The units a count holds: a missing or inexact count holds none. -/
def Counters.units (c : Counters) (key : String) : Nat :=
  match c.counts.get? key with
  | some (.exact n) => n
  | _ => 0

namespace Counters

/-- A saturating increment adds under its key, up to the largest word, and nowhere else. -/
theorem units_addSaturating (c : Counters) (key : String) (delta : Nat) (k : String) :
    (c.addSaturating key delta).1.units k =
      if k = key then min (c.units key + delta) wordMax else c.units k := by
  have hc : (c.addSaturating key delta).1.counts =
      c.counts.insert key (.exact (min (c.units key + delta) wordMax)) := rfl
  by_cases hk : k = key
  · subst hk
    calc (c.addSaturating k delta).1.units k = min (c.units k + delta) wordMax := by
          simp only [units, hc, Table.get?_insert_self]
      _ = _ := (if_pos rfl).symm
  · calc (c.addSaturating key delta).1.units k = c.units k := by
          simp only [units, hc, Table.get?_insert_of_ne _ _ (Ne.symm hk)]
      _ = _ := (if_neg hk).symm

/-- Removing a key empties it and leaves the others as they were. -/
theorem units_erase (c : Counters) (key k : String) :
    ({ c with counts := c.counts.erase key } : Counters).units k =
      if k = key then 0 else c.units k := by
  simp only [units, Table.get?_erase]
  by_cases hk : k = key
  · simp [hk]
  · simp [hk, Ne.symm hk]

/-- Giving a lease up leaves the counts alone. -/
theorem units_release (c : Counters) (name : String) (holder : Holder) (k : String) :
    (c.release name holder).1.units k = c.units k := by
  unfold release
  split
  · split <;> rfl
  · rfl

/-- A checked increment changes no other key. -/
theorem units_addChecked_of_ne (c : Counters) {key k : String} (delta : Nat) (hk : k ≠ key) :
    (c.addChecked key delta).1.units k = c.units k := by
  rcases addChecked_cases c key delta with h | ⟨v, h⟩ <;> rw [h]
  simp only [units, Table.get?_insert_of_ne _ _ (Ne.symm hk)]

end Counters

/-- Writing into a bucket that exists inserts among its objects. -/
theorem Blobs.objects_add {b : Blobs} {bucket : String} {objs : Table Blob}
    (h : b.buckets.get? bucket = some objs) (name : String) (blob : Blob) :
    (b.add bucket name blob).objects bucket = objs.insert name blob := by
  simp [Blobs.objects, Blobs.add, Table.modify, h]

/-- What a lease decision reads besides the lease's holder: the leases, the engine and the
clock. -/
def Backend.leaseView (b : Backend) : Table Lease × Engine × Nat :=
  (b.counters.leases, b.engine, b.clock)

namespace StoreOp

variable {α β : Type}

@[simp] theorem run_pure (a : α) (b : Backend) : (pure a : StoreOp α).run.run b = (.ok a, b) :=
  rfl

@[simp] theorem run_throw (h : Halt) (b : Backend) :
    (throw h : StoreOp α).run.run b = (.error h, b) :=
  rfl

@[simp] theorem run_get (b : Backend) : (get : StoreOp Backend).run.run b = (.ok b, b) :=
  rfl

@[simp] theorem run_set (b b' : Backend) : (set b' : StoreOp PUnit).run.run b = (.ok ⟨⟩, b') :=
  rfl

@[simp] theorem run_modify (f : Backend → Backend) (b : Backend) :
    (modify f : StoreOp PUnit).run.run b = (.ok ⟨⟩, f b) :=
  rfl

/-- A sequence runs its first part, then the rest on the backend the first part left, unless
the first part halted. -/
theorem run_bind (x : StoreOp α) (f : α → StoreOp β) (b : Backend) :
    (x >>= f).run.run b = match x.run.run b with
      | (.ok a, b') => (f a).run.run b'
      | (.error e, b') => (.error e, b') := by
  simp only [ExceptT.run_bind, StateT.run_bind]
  rcases x.run.run b with ⟨_ | _, _⟩ <;> rfl

/-- A sequence ends with a result exactly when its first part gives one and the rest, run on
the backend the first part left, ends with it. -/
theorem run_bind_eq_ok {x : StoreOp α} {f : α → StoreOp β} {b b' : Backend} {c : β} :
    (x >>= f).run.run b = (.ok c, b') ↔
      ∃ a b₁, x.run.run b = (.ok a, b₁) ∧ (f a).run.run b₁ = (.ok c, b') := by
  rw [run_bind]
  constructor
  · intro h
    rcases hx : x.run.run b with ⟨_ | a, b₁⟩ <;> rw [hx] at h
    · cases h
    · exact ⟨a, b₁, rfl, h⟩
  · rintro ⟨a, b₁, hx, h⟩
    rw [hx]
    exact h

theorem eq_of_run_pure {x y : α} {b b' : Backend}
    (h : (pure x : StoreOp α).run.run b = (.ok y, b')) : y = x ∧ b' = b := by
  obtain ⟨hx, hb⟩ := Prod.mk.inj h
  cases hx
  exact ⟨rfl, hb.symm⟩

/-- Pinging a store reads whether it answers and changes nothing. -/
theorem ping_run (b : Backend) (r : StoreRole) :
    (ping r).run.run b =
      (.ok (match r with
        | .counters => b.counterGuard .ping
        | _ => b.available r), b) :=
  rfl

/-- A scan reads the keys under a prefix and changes nothing. -/
theorem scan_run (b : Backend) (pre : String) :
    (scan pre).run.run b =
      (.ok (do
        b.counterGuard .scanPrefix
        b.stateGuard "counters"
        pure (b.counters.counts.keys.filter (b.matchesPrefix pre))), b) :=
  rfl

/-- Taking a key removes it and gives the count it held, when the counters answer. -/
theorem getDel_run (b : Backend) (key : String) :
    (getDel key).run.run b =
      match b.counterGuard .getDel >>= fun _ => b.stateGuard "counters" with
      | .error e => (.ok (.error e), b)
      | .ok () =>
        (.ok (match b.counters.counts.get? key with
          | some n => some <$> n.read
          | none => .ok none),
          { b with counters := { b.counters with counts := b.counters.counts.erase key } }) := by
  simp only [getDel, run_bind, run_get]
  cases hg : (b.counterGuard .getDel >>= fun _ => b.stateGuard "counters") with
  | error e => rfl
  | ok u => simp [Counters.take]; rfl

/-- On the memory engine an accepted increment adds with saturation. -/
theorem incr_run_of_takes {b : Backend} (key : String) (delta : Nat) (he : b.engine = .memory)
    (ht : b.takesIncrement) :
    (incr key delta).run.run b =
      (.ok (.ok (b.counters.addSaturating key delta).2),
        { b with counters := (b.counters.addSaturating key delta).1 }) := by
  obtain ⟨hg, hr, hp⟩ := ht
  have hg : b.counterGuard .incrBy = .ok () := by
    cases hc : b.counterGuard .incrBy with
    | error e => simp [hc, Except.toBool] at hg
    | ok u => rfl
  simp only [incr, run_bind, run_get, hg, hr, Backend.stateGuard, hp, Bool.false_eq_true,
    ↓reduceIte, he]
  rfl

/-- An increment that the counters do not take fails and changes nothing. -/
theorem incr_run_of_not_takes {b : Backend} (key : String) (delta : Nat)
    (ht : ¬ b.takesIncrement) : ∃ e, (incr key delta).run.run b = (.ok (.error e), b) := by
  simp only [incr, run_bind, run_get]
  cases hg : b.counterGuard .incrBy with
  | error e => exact ⟨e, rfl⟩
  | ok u =>
    cases hr : b.faults.rejectIncrements with
    | true =>
      refine ⟨.unavailable "counter increments rejected", ?_⟩
      simp only [↓reduceIte]
      rfl
    | false =>
      have hp : b.counters.poisoned = true := by
        cases hp : b.counters.poisoned with
        | true => rfl
        | false => exact absurd ⟨by simp [hg, Except.toBool], hr, hp⟩ ht
      refine ⟨.poisoned ("counters" ++ ": poisoned lock: another task failed inside"), ?_⟩
      simp only [Backend.stateGuard, hp, Bool.false_eq_true, ↓reduceIte]
      rfl

/-- An increment never halts: the counters refuse it, answering an error and changing nothing,
or the engine's addition is written, saturating in memory and checked on the durable engine. -/
theorem incr_cases (key : String) (delta : Nat) (b : Backend) :
    (∃ e, (incr key delta).run.run b = (.ok (.error e), b)) ∨
      (b.engine = .memory ∧ (incr key delta).run.run b =
        (.ok (.ok (b.counters.addSaturating key delta).2),
          { b with counters := (b.counters.addSaturating key delta).1 })) ∨
      (b.engine = .durable ∧ (incr key delta).run.run b =
        (.ok (b.counters.addChecked key delta).2,
          { b with counters := (b.counters.addChecked key delta).1 })) := by
  simp only [incr, run_bind, run_get]
  split
  · exact .inl ⟨_, rfl⟩
  · split
    · exact .inl ⟨_, rfl⟩
    · split
      · exact .inl ⟨_, rfl⟩
      · split
        · next he => exact .inr (.inl ⟨he, rfl⟩)
        · next he => exact .inr (.inr ⟨he, rfl⟩)

/-- Taking a lease grants it when the holder may take it, and halts, poisoning the counters,
when its end cannot be represented. -/
theorem acquire_run (b : Backend) (name : String) (holder : Holder) (lifetime : Nat) :
    (acquire name holder lifetime).run.run b =
      match b.counterGuard .tryAcquireLease >>= fun _ => b.stateGuard "leases" with
      | .error e => (.ok (.error e), b)
      | .ok () =>
        if b.counters.mayLease name holder b.now then
          match b.deadline lifetime with
          | .ok t => (.ok (.ok true), { b with counters := b.counters.grant name holder t })
          | .error h => (.error h, { b with counters := { b.counters with poisoned := true } })
        else (.ok (.ok false), b) := by
  simp only [acquire, run_bind, run_get]
  cases hg : (b.counterGuard .tryAcquireLease >>= fun _ => b.stateGuard "leases") with
  | error e => rfl
  | ok u =>
    by_cases hm : b.counters.mayLease name holder b.now = true
    · cases hd : b.deadline lifetime with
      | error h => simp only [hm, ↓reduceIte, run_bind, run_set, run_throw]
      | ok t => simp only [hm, ↓reduceIte, run_bind, run_pure, run_set]
    · simp only [hm, Bool.false_eq_true, ↓reduceIte]
      rfl

/-- Giving a lease up removes it when the holder holds it, and otherwise changes nothing. -/
theorem release_run (b : Backend) (name : String) (holder : Holder) :
    (release name holder).run.run b =
      match b.counterGuard .releaseLease >>= fun _ => b.stateGuard "leases" with
      | .error e => (.ok (.error e), b)
      | .ok () =>
        (.ok (.ok (b.counters.release name holder).2),
          { b with counters := (b.counters.release name holder).1 }) := by
  simp only [release, run_bind, run_get]
  cases hg : (b.counterGuard .releaseLease >>= fun _ => b.stateGuard "leases") with
  | error e => rfl
  | ok u => rfl

/-- An upload counts its attempt, then writes the object when the store is up, uploads are
not rejected, the bucket exists and the name is free. -/
theorem putObject_run (b : Backend) (bucket name : String) (blob : Blob) :
    (putObject bucket name blob).run.run b =
      let b' : Backend := { b with blobs := { b.blobs with putAttempts := b.blobs.putAttempts + 1 } }
      match (do
        b'.available .blobs
        if b'.faults.rejectPuts then throw (.unavailable "blob store rejected upload")
        match b'.blobs.buckets.get? bucket with
        | none => throw (.bucketNotFound bucket)
        | some objs => if objs.contains name then throw (.objectExists bucket name) :
          Except StoreError Unit) with
      | .error e => (.ok (.error e), b')
      | .ok () => (.ok (.ok ()), { b' with blobs := b'.blobs.add bucket name blob }) := by
  simp only [putObject, run_bind, run_modify, run_get]
  by_cases hd : StoreRole.blobs ∈ b.faults.down
  · simp [Backend.available, hd]; rfl
  · cases hr : b.faults.rejectPuts
    · cases hk : b.blobs.buckets.get? bucket with
      | none => simp [Backend.available, hd]; rfl
      | some objs =>
        cases hc : objs.contains name
        · simp [Backend.available, hd, hc]; rfl
        · simp [Backend.available, hd, hc]; rfl
    · simp [Backend.available, hd]; rfl

/-- An upload writes its object into a bucket where the name was free, or fails and leaves the
bucket's objects as they were. -/
theorem putObject_objects (bucket name : String) (blob : Blob) (b : Backend) :
    (∃ e, ((putObject bucket name blob).run.run b).1 = .ok (.error e) ∧
      ((putObject bucket name blob).run.run b).2.blobs.objects bucket = b.blobs.objects bucket) ∨
    (((putObject bucket name blob).run.run b).1 = .ok (.ok ()) ∧
      (b.blobs.objects bucket).get? name = none ∧
      ((putObject bucket name blob).run.run b).2.blobs.objects bucket =
        (b.blobs.objects bucket).insert name blob) := by
  rw [putObject_run]
  dsimp only
  split
  · next e he => exact .inl ⟨e, rfl, rfl⟩
  · next hok =>
    refine .inr ⟨rfl, ?_⟩
    -- the check passed, so the bucket exists and the name is free in it
    obtain ⟨objs, hk, hc⟩ : ∃ objs, b.blobs.buckets.get? bucket = some objs ∧
        objs.contains name = false := by
      cases hk : b.blobs.buckets.get? bucket with
      | none =>
        cases hr : b.faults.rejectPuts <;>
          simp [hk, hr, bind, Except.bind, throw, throwThe, MonadExceptOf.throw] at hok <;>
          split at hok <;> cases hok
      | some objs =>
        cases hc : objs.contains name
        · exact ⟨objs, rfl, hc⟩
        · cases hr : b.faults.rejectPuts <;>
            simp [hk, hc, hr, bind, Except.bind, throw, throwThe, MonadExceptOf.throw] at hok <;>
            split at hok <;> cases hok
    have hobj : b.blobs.objects bucket = objs := by simp [Blobs.objects, hk]
    rw [hobj]
    exact ⟨by simpa [Table.contains] using hc, Blobs.objects_add hk name blob⟩

/-- An operation leaves a view of the backend as it was, whatever its outcome. -/
def Keeps {γ : Type} (view : Backend → γ) (op : StoreOp α) : Prop :=
  ∀ b, view (op.run.run b).2 = view b

section Keeps

variable {γ : Type} {view : Backend → γ}

theorem keeps_pure (a : α) : Keeps view (pure a : StoreOp α) := fun _ => rfl

theorem keeps_throw (h : Halt) : Keeps view (throw h : StoreOp α) := fun _ => rfl

/-- A sequence keeps a view when its first part and every continuation keep it. -/
theorem Keeps.bind {x : StoreOp α} {f : α → StoreOp β} (hx : Keeps view x)
    (hf : ∀ a, Keeps view (f a)) : Keeps view (x >>= f) := by
  intro b
  rw [run_bind]
  have h1 := hx b
  rcases hr : x.run.run b with ⟨_ | a, b'⟩
  · rw [hr] at h1
    exact h1
  · rw [hr] at h1
    exact (hf a b').trans h1

theorem keeps_ping (r : StoreRole) : Keeps view (ping r) := fun _ => rfl

theorem keeps_scan (pre : String) : Keeps view (scan pre) := fun _ => rfl

end Keeps

/-- Every result the operation gives, when it does not halt, has a property. -/
def Yields (P : α → Prop) (op : StoreOp α) : Prop :=
  ∀ b a b', op.run.run b = (.ok a, b') → P a

section Yields

variable {P : β → Prop}

theorem yields_pure {a : β} (h : P a) : Yields P (pure a : StoreOp β) := by
  intro b a' b' hr
  obtain ⟨rfl, -⟩ := eq_of_run_pure hr
  exact h

/-- A sequence gives what its continuations give, whatever its first part gave. -/
theorem Yields.bind {x : StoreOp α} {f : α → StoreOp β} (hf : ∀ a, Yields P (f a)) :
    Yields P (x >>= f) := by
  intro b a b' hr
  obtain ⟨a₀, b₀, -, hr⟩ := run_bind_eq_ok.mp hr
  exact hf a₀ b₀ a b' hr

end Yields

theorem getDel_keeps_leaseView (key : String) : Keeps Backend.leaseView (getDel key) := by
  intro b
  rw [getDel_run]
  split <;> rfl

theorem incr_keeps_leaseView (key : String) (delta : Nat) :
    Keeps Backend.leaseView (incr key delta) := by
  intro b
  rcases incr_cases key delta b with ⟨e, h⟩ | ⟨-, h⟩ | ⟨-, h⟩
  · rw [h]
  · rw [h]
    rfl
  -- the durable engine's checked addition writes the counts alone
  · rw [h]
    simp [Backend.leaseView, Counters.addChecked_leases]

/-- An increment changes no count but its own key's, whatever its outcome. -/
theorem incr_units_of_ne {key k : String} (delta : Nat) (hk : k ≠ key) (b : Backend) :
    ((incr key delta).run.run b).2.counters.units k = b.counters.units k := by
  rcases incr_cases key delta b with ⟨e, h⟩ | ⟨-, h⟩ | ⟨-, h⟩
  · rw [h]
  · rw [h]
    exact (Counters.units_addSaturating _ _ _ _).trans (if_neg hk)
  · rw [h]
    exact Counters.units_addChecked_of_ne _ _ hk

theorem putObject_keeps_leaseView (bucket name : String) (blob : Blob) :
    Keeps Backend.leaseView (putObject bucket name blob) := by
  intro b
  rw [putObject_run]
  dsimp only
  split <;> rfl

/-- An operation writes the counters alone: whatever its outcome, nothing else changes. -/
def CountersOnly (op : StoreOp α) : Prop :=
  ∀ b, ∃ c : Counters, (op.run.run b).2 = { b with counters := c }

/-- An operation that writes the counters alone keeps every view that does not read them. -/
theorem CountersOnly.keeps {γ : Type} {view : Backend → γ} {op : StoreOp α} (h : CountersOnly op)
    (hv : ∀ b (c : Counters), view { b with counters := c } = view b) : Keeps view op := by
  intro b
  obtain ⟨c, hc⟩ := h b
  rw [hc, hv]

theorem getDel_countersOnly (key : String) : CountersOnly (getDel key) := by
  intro b
  rw [getDel_run]
  split
  · exact ⟨b.counters, rfl⟩
  · exact ⟨_, rfl⟩

theorem incr_countersOnly (key : String) (delta : Nat) : CountersOnly (incr key delta) := by
  intro b
  rcases incr_cases key delta b with ⟨e, h⟩ | ⟨-, h⟩ | ⟨-, h⟩ <;> rw [h]
  · exact ⟨b.counters, rfl⟩
  · exact ⟨_, rfl⟩
  · exact ⟨_, rfl⟩

theorem acquire_countersOnly (name : String) (holder : Holder) (lifetime : Nat) :
    CountersOnly (acquire name holder lifetime) := by
  intro b
  rw [acquire_run]
  split
  · exact ⟨b.counters, rfl⟩
  · split
    · split
      · exact ⟨_, rfl⟩
      · exact ⟨_, rfl⟩
    · exact ⟨b.counters, rfl⟩

theorem release_countersOnly (name : String) (holder : Holder) :
    CountersOnly (release name holder) := by
  intro b
  rw [release_run]
  split
  · exact ⟨b.counters, rfl⟩
  · exact ⟨_, rfl⟩

end StoreOp

end Turnstile
