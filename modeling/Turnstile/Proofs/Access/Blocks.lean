import Turnstile.Proofs.Access.StatusCache

/-!
# Blocks are permanent

The system of record is the authority on blocked addresses; the key-value store
only remembers what it said. This module follows the blocklist and the gate
over every run of calls on their shared stores (`Access.run`), with outages and
clock moves in between.

* The blocked set only grows, and an address keeps the moment of the block that
  first recorded it (`Access.blocked_get_run`, `Access.blocked_step_new`).
* Every entry under a blocklist key names an address the system of record
  blocks (`Backend.BlocksBacked`): the blocklist writes one only after the
  system of record said so, and the gate writes only under status keys. So a
  positive answer is never false (`Blocklist.isBlocked_true`), and a blocked
  address passes exactly when the system of record cannot be reached and the
  cache shows no live entry, because it holds none or cannot be reached itself
  (`Blocklist.isBlocked_false_iff`).
* Screening reports a new block only for an address that was not blocked and is
  blocked afterwards, hence at most once per address, and a failed screening
  changes nothing (`Blocklist.screen_newly`, `Blocklist.screen_error`).
-/

namespace Turnstile

open StoreOp

theorem Backend.available_eq_ok_iff (b : Backend) (r : StoreRole) :
    b.available r = .ok () ↔ r ∉ b.faults.down := by
  unfold Backend.available
  split <;> simp_all

theorem Kv.exists_of_lookup_isSome {kv : Kv} {now : Nat} {key : String}
    (h : (kv.lookup now key).isSome) : ∃ e, kv.entries.get? key = some e := by
  unfold Kv.lookup at h
  split at h
  · exact ⟨_, ‹_›⟩
  · simp at h

theorem Blocklist.cacheKey_inj {a a' : String} (h : Blocklist.cacheKey a = Blocklist.cacheKey a') :
    a = a' := by
  have hl := congrArg String.toList h
  simp only [Blocklist.cacheKey, String.toList_append, List.append_cancel_left_eq] at hl
  exact String.toList_inj.1 hl

namespace Records

/-- Blocking an address gives it the moment of this block unless it had one already, and leaves
every other address as it was. -/
theorem get?_block (r : Records) (address : String) (at_ : Instant) (a : String) :
    (r.block address at_).blocked.get? a =
      if a = address then some ((r.blocked.get? address).getD at_) else r.blocked.get? a := by
  unfold block
  split
  · rename_i hc
    split
    · rename_i ha
      subst ha
      obtain ⟨t, ht⟩ := Option.isSome_iff_exists.1 hc
      simp [ht]
    · rfl
  · rename_i hc
    split
    · rename_i ha
      subst ha
      have hnone : r.blocked.get? a = none := by
        simpa [Table.contains] using hc
      simp [hnone]
    · rename_i ha
      exact Table.get?_insert_of_ne _ _ (Ne.symm ha)

theorem get?_block_of_get? {r : Records} {a : String} {t : Instant}
    (h : r.blocked.get? a = some t) (address : String) (at_ : Instant) :
    (r.block address at_).blocked.get? a = some t := by
  rw [get?_block]
  split
  · rename_i ha
    subst ha
    simp [h]
  · exact h

theorem contains_block_self (r : Records) (address : String) (at_ : Instant) :
    (r.block address at_).blocked.contains address = true := by
  simp [Table.contains, get?_block]

theorem contains_block_of_contains {r : Records} {a : String} (h : r.blocked.contains a = true)
    (address : String) (at_ : Instant) : (r.block address at_).blocked.contains a = true := by
  obtain ⟨t, ht⟩ := Option.isSome_iff_exists.1 h
  simp [Table.contains, get?_block_of_get? ht]

end Records

/-- Every entry under a blocklist key, live or lapsed, names an address the system of record
blocks. -/
def Backend.BlocksBacked (b : Backend) : Prop :=
  ∀ a e, b.kv.entries.get? (Blocklist.cacheKey a) = some e → b.records.blocked.contains a = true

namespace Backend.BlocksBacked

variable {b b' : Backend}

/-- A change that keeps the blocked addresses and every blocklist entry keeps the cache backed. -/
theorem of_same (h : b.BlocksBacked) (hb : b'.records.blocked = b.records.blocked)
    (he : ∀ a, b'.kv.entries.get? (Blocklist.cacheKey a) = b.kv.entries.get? (Blocklist.cacheKey a)) :
    b'.BlocksBacked := fun a e hae => hb ▸ h a e (he a ▸ hae)

/-- Caching a block of a blocked address keeps the cache backed. -/
theorem put (h : b.BlocksBacked) {a : String} (hc : b.records.blocked.contains a = true)
    (value : String) (t : Option Nat) :
    ({ b with kv := b.kv.put (Blocklist.cacheKey a) value t } : Backend).BlocksBacked := by
  intro a' e he
  by_cases ha : a' = a
  · subst ha
    exact hc
  · have hne : Blocklist.cacheKey a ≠ Blocklist.cacheKey a' :=
      fun hk => ha (Blocklist.cacheKey_inj hk).symm
    exact h a' e (by simpa only [Kv.put, Table.get?_insert_of_ne _ _ hne] using he)

/-- Blocking an address keeps the cache backed: the blocked set only grows. -/
theorem block (h : b.BlocksBacked) (a : String) (at_ : Instant) :
    ({ b with records := b.records.block a at_ } : Backend).BlocksBacked := fun a' e he =>
  Records.contains_block_of_contains (h a' e he) a at_

end Backend.BlocksBacked

namespace StoreOp

theorem kvExists_run (key : String) (b : Backend) :
    (kvExists key).run.run b =
      (.ok ((b.available .kv).map fun _ => (b.kv.lookup b.now key).isSome), b) := by
  simp only [kvExists, run_bind, kvGet_run, run_pure]
  cases b.available .kv <;> rfl

theorem isAddressBlocked_run (address : String) (b : Backend) :
    (isAddressBlocked address).run.run b =
      (.ok ((b.available .records).map fun _ => b.records.blocked.contains address), b) := by
  simp only [isAddressBlocked, run_bind, run_get, run_pure]
  cases b.available .records <;> rfl

theorem recordBlocked_run (address : String) (at_ : Instant) (b : Backend) :
    (recordBlocked address at_).run.run b =
      match b.available .records with
      | .error e => (.ok (.error e), b)
      | .ok () => (.ok (.ok ()), { b with records := b.records.block address at_ }) := by
  simp only [recordBlocked, run_bind, run_get]
  cases b.available .records <;> rfl

theorem kvSet_keeps_records (key value : String) (lifetime : Option Nat) :
    Keeps (·.records) (kvSet key value lifetime) := by
  intro b
  rcases kvSet_cases key value lifetime b with h | ⟨expiry, h⟩ <;> rw [h]

end StoreOp

namespace Gate

theorem cached_keeps {γ : Type} {view : Backend → γ} (c : Credential) : Keeps view (cached c) :=
  fun b => by rw [cached_run]

/-- The gate writes the cache only under its credential's status key, and the system of record
only by looking the credential up. -/
theorem authorize_keeps (g : Gate) (raw : Option String) {γ : Type} {view : Backend → γ}
    (hset : ∀ (c : Credential) value lifetime, Keeps view (kvSet c.statusKey value lifetime))
    (hfetch : ∀ text, Keeps view (fetchSubject text)) : Keeps view (g.authorize raw) := by
  unfold authorize authorizeCredential
  split
  · exact keeps_pure _
  · rename_i c _
    refine (cached_keeps c).bind fun x => ?_
    split
    · exact keeps_pure _
    · refine (hfetch _).bind fun y => ?_
      split
      · exact keeps_pure _
      · exact ((hset c _ _).bind fun _ => keeps_pure _).bind fun _ => keeps_pure _

theorem authorize_keeps_blocked (g : Gate) (raw : Option String) :
    Keeps (·.records.blocked) (g.authorize raw) :=
  g.authorize_keeps raw (fun _ _ _ b => congrArg Records.blocked (kvSet_keeps_records _ _ _ b))
    (fun _ b => by rw [fetchSubject_run])

/-- The gate leaves every blocklist entry as it was: status keys are never blocklist keys. -/
theorem authorize_keeps_cacheKey (g : Gate) (raw : Option String) (a : String) :
    Keeps (·.kv.entries.get? (Blocklist.cacheKey a)) (g.authorize raw) :=
  g.authorize_keeps raw (fun c _ _ => kvSet_keeps_entry (c.statusKey_ne_cacheKey a) _ _)
    (fun _ b => by rw [fetchSubject_run])

end Gate

namespace Blocklist

variable (bl : Blocklist) (address : String)

theorem remember_run (b : Backend) :
    (bl.remember address).run.run b =
      match b.available .kv with
      | .error _ => (.ok (), b)
      | .ok () =>
        match b.deadline (bl.lifetime * 1000) with
        | .ok t => (.ok (), { b with kv := b.kv.put (cacheKey address) "blocked" (some t) })
        | .error h => (.error h, b) := by
  simp only [remember, run_bind, kvSet_run]
  cases b.available .kv with
  | error e => rfl
  | ok u =>
    cases b.deadline (bl.lifetime * 1000) <;> rfl

/-- Caching a block writes the address's entry, or nothing. -/
theorem remember_cases (b : Backend) :
    (∃ x, (bl.remember address).run.run b = (x, b)) ∨
      ∃ t, (bl.remember address).run.run b =
        (.ok (), { b with kv := b.kv.put (cacheKey address) "blocked" (some t) }) := by
  rw [remember_run]
  split
  · exact .inl ⟨_, rfl⟩
  · split
    · exact .inr ⟨_, rfl⟩
    · exact .inl ⟨_, rfl⟩

theorem remember_records (b : Backend) : ((bl.remember address).run.run b).2.records = b.records := by
  rcases bl.remember_cases address b with ⟨x, hr⟩ | ⟨t, hr⟩ <;> rw [hr]

theorem remember_backed {b : Backend} (h : b.BlocksBacked)
    (hc : b.records.blocked.contains address = true) :
    ((bl.remember address).run.run b).2.BlocksBacked := by
  rcases bl.remember_cases address b with ⟨x, hr⟩ | ⟨t, hr⟩
  · rw [hr]
    exact h
  · rw [hr]
    exact h.put hc _ _

/-- A check answers from a live cache entry when the cache answers with one; otherwise it asks
the system of record, caching a block it finds, and lets the address through when the system of
record does not answer. -/
theorem isBlocked_run (b : Backend) :
    (bl.isBlocked address).run.run b =
      if b.available .kv = .ok () ∧ (b.kv.lookup b.now (cacheKey address)).isSome then (.ok true, b)
      else if b.available .records = .ok () ∧ b.records.blocked.contains address then
        Prod.map (Except.map fun _ => true) id ((bl.remember address).run.run b)
      else (.ok false, b) := by
  simp only [isBlocked, run_bind, kvExists_run]
  by_cases hhit : b.available .kv = .ok () ∧ (b.kv.lookup b.now (cacheKey address)).isSome
  · rw [if_pos hhit, hhit.1]
    simp only [Except.map, hhit.2]
    rfl
  · rw [if_neg hhit]
    split
    -- the cache answered with a live entry after all
    · rename_i heq
      refine absurd ⟨?_, ?_⟩ hhit
      · revert heq
        cases b.available .kv <;> simp [Except.map]
      · revert heq
        cases b.available .kv <;> simp [Except.map]
    · simp only [run_bind, isAddressBlocked_run]
      cases hr : b.available .records with
      | error e => rfl
      | ok u =>
        cases hc : b.records.blocked.contains address with
        | false => rfl
        | true =>
          simp only [Except.map, and_self, if_true, run_bind]
          rcases (bl.remember address).run.run b with ⟨_ | _, b'⟩ <;> rfl

theorem isBlocked_records (b : Backend) :
    ((bl.isBlocked address).run.run b).2.records = b.records :=
  bl.isBlocked_keeps address (fun _ _ => kvSet_keeps_records _ _ _) b

theorem isBlocked_backed {b : Backend} (h : b.BlocksBacked) :
    ((bl.isBlocked address).run.run b).2.BlocksBacked := by
  rw [isBlocked_run]
  split
  · exact h
  · split
    · rename_i hrc
      exact bl.remember_backed address h hrc.2
    · exact h

/-- On a store whose cached blocks are backed, a positive answer names a blocked address. -/
theorem isBlocked_true {b : Backend} (h : b.BlocksBacked)
    (ht : ((bl.isBlocked address).run.run b).1 = .ok true) : b.records.blocked.contains address := by
  rw [isBlocked_run] at ht
  split at ht
  · rename_i hhit
    obtain ⟨e, he⟩ := Kv.exists_of_lookup_isSome hhit.2
    exact h address e he
  · split at ht
    · rename_i hrc
      exact hrc.2
    · cases ht

/-- A blocked address is let through exactly when the system of record is down and the cache
shows no live entry: it is down too, or holds none. -/
theorem isBlocked_false_iff {b : Backend} (hc : b.records.blocked.contains address) :
    ((bl.isBlocked address).run.run b).1 = .ok false ↔
      StoreRole.records ∈ b.faults.down ∧
        (StoreRole.kv ∈ b.faults.down ∨ b.kv.lookup b.now (cacheKey address) = none) := by
  rw [isBlocked_run]
  split
  · rename_i hhit
    refine iff_of_false (by simp) ?_
    rintro ⟨-, hkv | hnone⟩
    · exact (b.available_eq_ok_iff .kv).1 hhit.1 hkv
    · simp [hnone] at hhit
  · rename_i hmiss
    split
    -- the system of record says blocked: the answer is true, unless caching it halts
    · rename_i hrec
      refine iff_of_false ?_ ?_
      · rcases (bl.remember address).run.run b with ⟨_ | _, b'⟩ <;> simp [Prod.map, Except.map]
      · rintro ⟨hdown, -⟩
        exact (b.available_eq_ok_iff .records).1 hrec.1 hdown
    · rename_i hrec
      refine iff_of_true rfl ⟨?_, ?_⟩
      · by_contra hup
        exact hrec ⟨(b.available_eq_ok_iff .records).2 hup, hc⟩
      · by_cases hkv : StoreRole.kv ∈ b.faults.down
        · exact .inl hkv
        · have hup := (b.available_eq_ok_iff .kv).2 hkv
          exact .inr (by simpa [hup] using hmiss)

/-- A negative answer changes nothing, and the system of record was down or does not block the
address. -/
theorem isBlocked_false {b b1 : Backend} (h : (bl.isBlocked address).run.run b = (.ok false, b1)) :
    b1 = b ∧ ¬(b.available .records = .ok () ∧ b.records.blocked.contains address) := by
  rw [isBlocked_run] at h
  split at h
  · cases h
  · split at h
    · rcases hr : (bl.remember address).run.run b with ⟨_ | _, b'⟩ <;> rw [hr] at h <;> cases h
    · rename_i hrec
      exact ⟨(Prod.mk.inj h).2.symm, hrec⟩

theorem block_run (now : Instant) (b : Backend) :
    (bl.block address now).run.run b =
      match b.available .records with
      | .error e => (.ok (.error (.blocklistUpdate e)), b)
      | .ok () => Prod.map (Except.map fun _ => .ok ()) id
          ((bl.remember address).run.run { b with records := b.records.block address now }) := by
  simp only [block, run_bind, recordBlocked_run]
  cases b.available .records with
  | error e => rfl
  | ok u =>
    simp only [run_bind]
    rcases (bl.remember address).run.run { b with records := b.records.block address now } with
      ⟨_ | _, b'⟩ <;> rfl

/-- Blocking records the address at the moment given, or changes no record. -/
theorem block_records (now : Instant) (b : Backend) :
    ((bl.block address now).run.run b).2.records = b.records ∨
      ((bl.block address now).run.run b).2.records = b.records.block address now := by
  rw [block_run]
  split
  · exact .inl rfl
  · exact .inr (bl.remember_records address _)

theorem block_backed (now : Instant) {b : Backend} (h : b.BlocksBacked) :
    ((bl.block address now).run.run b).2.BlocksBacked := by
  rw [block_run]
  split
  · exact h
  · exact bl.remember_backed address (h.block address now)
      (Records.contains_block_self b.records address now)

theorem screen_run (now : Instant) (b : Backend) :
    (bl.screen address now).run.run b =
      match (bl.isBlocked address).run.run b with
      | (.ok true, b1) => (.ok (.ok .alreadyBlocked), b1)
      | (.ok false, b1) =>
        match (bl.block address now).run.run b1 with
        | (.ok (.ok ()), b2) => (.ok (.ok .newlyBlocked), b2)
        | (.ok (.error e), b2) => (.ok (.error e), b2)
        | (.error h, b2) => (.error h, b2)
      | (.error h, b1) => (.error h, b1) := by
  simp only [screen, run_bind]
  rcases (bl.isBlocked address).run.run b with ⟨_ | _ | _, b1⟩
  · rfl
  · simp only [Bool.false_eq_true, ↓reduceIte, run_bind]
    rcases (bl.block address now).run.run b1 with ⟨_ | _ | _, b2⟩ <;> rfl
  · rfl

/-- Screening records the address at the moment given, or changes no record. -/
theorem screen_records (now : Instant) (b : Backend) :
    ((bl.screen address now).run.run b).2.records = b.records ∨
      ((bl.screen address now).run.run b).2.records = b.records.block address now := by
  have hb1 := bl.isBlocked_records address b
  rw [screen_run]
  rcases hr : (bl.isBlocked address).run.run b with ⟨_ | _ | _, b1⟩ <;> rw [hr] at hb1
  · exact .inl hb1
  · rw [← hb1]
    dsimp only
    have hb2 := bl.block_records address now b1
    rcases hb : (bl.block address now).run.run b1 with ⟨_ | _ | _, b2⟩ <;> rw [hb] at hb2 <;>
      exact hb2
  · exact .inl hb1

theorem screen_backed (now : Instant) {b : Backend} (h : b.BlocksBacked) :
    ((bl.screen address now).run.run b).2.BlocksBacked := by
  have hb1 := bl.isBlocked_backed address h
  rw [screen_run]
  rcases hr : (bl.isBlocked address).run.run b with ⟨_ | _ | _, b1⟩ <;> rw [hr] at hb1
  · exact hb1
  · dsimp only
    have hb2 := bl.block_backed address now hb1
    rcases hb : (bl.block address now).run.run b1 with ⟨_ | _ | _, b2⟩ <;> rw [hb] at hb2 <;>
      exact hb2
  · exact hb1

/-- A new block is reported only for an address the system of record did not block, which it
blocks afterwards at the moment given. -/
theorem screen_newly (now : Instant) {b : Backend}
    (h : ((bl.screen address now).run.run b).1 = .ok (.ok .newlyBlocked)) :
    b.records.blocked.get? address = none ∧
      ((bl.screen address now).run.run b).2.records.blocked.get? address = some now := by
  rw [screen_run] at h ⊢
  rcases hr : (bl.isBlocked address).run.run b with ⟨_ | _ | _, b1⟩ <;> rw [hr] at h
  · cases h
  · obtain ⟨rfl, hrec⟩ := bl.isBlocked_false address hr
    dsimp only at h ⊢
    rw [block_run] at h ⊢
    cases hup : b1.available .records with
    | error e => simp only [hup] at h; cases h
    | ok u =>
      -- the system of record answered, so it did not block the address before
      have hnone : b1.records.blocked.get? address = none := by
        have hc : b1.records.blocked.contains address = false := by
          simpa [hup] using hrec
        simpa [Table.contains] using hc
      simp only [hup] at h ⊢
      have hrec2 := bl.remember_records address { b1 with records := b1.records.block address now }
      generalize (bl.remember address).run.run { b1 with records := b1.records.block address now } = o
        at h hrec2 ⊢
      rcases o with ⟨_ | _, b2⟩
      · cases h
      · dsimp only [Prod.map, Except.map, id] at hrec2 ⊢
        rw [hrec2, Records.get?_block, if_pos rfl, hnone]
        exact ⟨rfl, rfl⟩
  · cases h

/-- A failed screening changes nothing. -/
theorem screen_error (now : Instant) {b : Backend} {e : AuthError}
    (h : ((bl.screen address now).run.run b).1 = .ok (.error e)) :
    ((bl.screen address now).run.run b).2 = b := by
  rw [screen_run] at h ⊢
  rcases hr : (bl.isBlocked address).run.run b with ⟨_ | _ | _, b1⟩ <;> rw [hr] at h
  · cases h
  · obtain ⟨rfl, -⟩ := bl.isBlocked_false address hr
    dsimp only at h ⊢
    rw [block_run] at h ⊢
    cases hup : b1.available .records with
    | error e' => rfl
    | ok u =>
      simp only [hup] at h ⊢
      generalize (bl.remember address).run.run { b1 with records := b1.records.block address now } = o
        at h ⊢
      rcases o with ⟨_ | _, b2⟩ <;> cases h
  · cases h

/-- What the blocklist answers on a store. A positive answer names an address the system of
record blocks; a blocked address passes exactly when the system of record is down and the cache
shows no live entry for it. Screening reports a new block only for an address the system of
record did not block, and blocks it at the moment given; a failed screening changes nothing. -/
structure Answers (bl : Blocklist) (b : Backend) : Prop where
  positive : ∀ a, ((bl.isBlocked a).run.run b).1 = .ok true → b.records.blocked.contains a = true
  passes : ∀ a, b.records.blocked.contains a = true →
    (((bl.isBlocked a).run.run b).1 = .ok false ↔
      StoreRole.records ∈ b.faults.down ∧
        (StoreRole.kv ∈ b.faults.down ∨ b.kv.lookup b.now (cacheKey a) = none))
  newly : ∀ a now, ((bl.screen a now).run.run b).1 = .ok (.ok .newlyBlocked) →
    b.records.blocked.get? a = none ∧
      ((bl.screen a now).run.run b).2.records.blocked.get? a = some now
  failed : ∀ a now e, ((bl.screen a now).run.run b).1 = .ok (.error e) →
    ((bl.screen a now).run.run b).2 = b

theorem answers_of_backed {b : Backend} (h : b.BlocksBacked) : bl.Answers b where
  positive a := bl.isBlocked_true a h
  passes a := bl.isBlocked_false_iff a
  newly a now := bl.screen_newly a now
  failed a now _ := bl.screen_error a now

end Blocklist

namespace Access

variable {g : Gate} {bl : Blocklist}

/-- What one event does to the blocked addresses: nothing, or a block of an address at the
moment the event carries. -/
theorem blocked_step (s : Access) (e : AccessEvent) :
    (s.step g bl e).store.records.blocked = s.store.records.blocked ∨
      ∃ a now, (e = .block a now ∨ e = .screen a now) ∧
        (s.step g bl e).store.records.blocked = (s.store.records.block a now).blocked := by
  cases e with
  | authorize raw => exact .inl (g.authorize_keeps_blocked raw s.store)
  | isBlocked a => exact .inl (congrArg Records.blocked (bl.isBlocked_records a s.store))
  | block a now =>
    rcases bl.block_records a now s.store with h | h
    · exact .inl (congrArg Records.blocked h)
    · exact .inr ⟨a, now, .inl rfl, congrArg Records.blocked h⟩
  | screen a now =>
    rcases bl.screen_records a now s.store with h | h
    · exact .inl (congrArg Records.blocked h)
    · exact .inr ⟨a, now, .inr rfl, congrArg Records.blocked h⟩
  | insertSubject c doc => exact .inl rfl
  | faults f => exact .inl rfl
  | tick ms => exact .inl rfl

/-- A block, once recorded, stays with its moment. -/
theorem blocked_get_step {s : Access} {a : String} {t : Instant}
    (h : s.store.records.blocked.get? a = some t) (e : AccessEvent) :
    (s.step g bl e).store.records.blocked.get? a = some t := by
  rcases blocked_step s e with hb | ⟨a', now, -, hb⟩
  · rw [hb]
    exact h
  · rw [hb]
    exact Records.get?_block_of_get? h a' now

/-- An address enters the blocked set only through a block or a screening of it, with the
moment that call carries. -/
theorem blocked_step_new {s : Access} {e : AccessEvent} {a : String} {t : Instant}
    (h0 : s.store.records.blocked.get? a = none)
    (h1 : (s.step g bl e).store.records.blocked.get? a = some t) :
    e = .block a t ∨ e = .screen a t := by
  rcases blocked_step s e with hb | ⟨a', now, he, hb⟩
  · rw [hb, h0] at h1
    cases h1
  · rw [hb, Records.get?_block] at h1
    split at h1
    · rename_i ha
      subst ha
      simp only [h0, Option.getD_none, Option.some.injEq] at h1
      subst h1
      exact he
    · rw [h0] at h1
      cases h1

theorem run_append (s : Access) (es₁ es₂ : List AccessEvent) :
    s.run g bl (es₁ ++ es₂) = (s.run g bl es₁).run g bl es₂ :=
  List.foldl_append

theorem blocked_get_run (es : List AccessEvent) :
    ∀ (s : Access) {a : String} {t : Instant}, s.store.records.blocked.get? a = some t →
      (s.run g bl es).store.records.blocked.get? a = some t := by
  induction es with
  | nil => exact fun s _ _ h => h
  | cons e es ih => exact fun s _ _ h => ih _ (blocked_get_step h e)

theorem backed_step {s : Access} (h : s.store.BlocksBacked) (e : AccessEvent) :
    (s.step g bl e).store.BlocksBacked := by
  cases e with
  | authorize raw =>
    exact h.of_same (g.authorize_keeps_blocked raw s.store)
      fun a => g.authorize_keeps_cacheKey raw a s.store
  | isBlocked a =>
    dsimp only [step]
    exact bl.isBlocked_backed a h
  | block a now =>
    dsimp only [step]
    exact bl.block_backed a now h
  | screen a now =>
    dsimp only [step]
    exact bl.screen_backed a now h
  | insertSubject c doc => exact h.of_same rfl fun _ => rfl
  | faults f => exact h.of_same rfl fun _ => rfl
  | tick ms => exact h.of_same rfl fun _ => rfl

theorem backed_run (es : List AccessEvent) :
    ∀ s : Access, s.store.BlocksBacked → (s.run g bl es).store.BlocksBacked := by
  induction es with
  | nil => exact fun s h => h
  | cons e es ih => exact fun s h => ih _ (backed_step h e)

theorem backed_start {b : Backend} (hkv : b.kv.entries.entries = []) : (start b).store.BlocksBacked := by
  intro a e he
  simp [start, Table.get?, hkv] at he

/-- A new block reported for an address is the last one: the address stays blocked, so no later
screening of it reports a new block. -/
theorem screen_newly_once (s : Access) (es₁ es₂ : List AccessEvent) {a : String} {now : Instant}
    (h : ((bl.screen a now).run.run (s.run g bl es₁).store).1 = .ok (.ok .newlyBlocked))
    (now' : Instant) :
    ((bl.screen a now').run.run (s.run g bl (es₁ ++ .screen a now :: es₂)).store).1 ≠
      .ok (.ok .newlyBlocked) := by
  intro h'
  have hlater : (s.run g bl (es₁ ++ .screen a now :: es₂)).store.records.blocked.get? a = some now := by
    rw [run_append]
    exact blocked_get_run es₂ ((s.run g bl es₁).step g bl (.screen a now)) (bl.screen_newly a now h).2
  have hnone := (bl.screen_newly a now' h').1
  rw [hlater] at hnone
  cases hnone

/-- What the blocklist promises over every run of calls from a start. The blocked set only
grows, and an address enters it only through a block or a screening of it, with the moment that
call carries; so it keeps the moment of its first block. Every cached block names a blocked
address, which makes the answers `Blocklist.Answers` describes hold at every state. A new block
is reported at most once per address. -/
structure BlocksPermanent (g : Gate) (bl : Blocklist) (b : Backend) : Prop where
  grows : ∀ (es₁ es₂ : List AccessEvent) a t,
    ((start b).run g bl es₁).store.records.blocked.get? a = some t →
      ((start b).run g bl (es₁ ++ es₂)).store.records.blocked.get? a = some t
  enters : ∀ (es : List AccessEvent) e a t,
    ((start b).run g bl es).store.records.blocked.get? a = none →
      ((start b).run g bl (es ++ [e])).store.records.blocked.get? a = some t →
      e = .block a t ∨ e = .screen a t
  backed : ∀ es, ((start b).run g bl es).store.BlocksBacked
  answers : ∀ es, bl.Answers ((start b).run g bl es).store
  once : ∀ (es₁ es₂ : List AccessEvent) a now now',
    ((bl.screen a now).run.run ((start b).run g bl es₁).store).1 = .ok (.ok .newlyBlocked) →
      ((bl.screen a now').run.run ((start b).run g bl (es₁ ++ .screen a now :: es₂)).store).1 ≠
        .ok (.ok .newlyBlocked)

/-- Blocks are permanent and the cache never invents one, over every run of the blocklist and
the gate on shared stores, with outages and clock moves, from a store with an empty cache. -/
theorem blocks_are_permanent (g : Gate) (bl : Blocklist) (b : Backend)
    (hkv : b.kv.entries.entries = []) : BlocksPermanent g bl b where
  grows es₁ es₂ _ _ h := by
    rw [run_append]
    exact blocked_get_run es₂ _ h
  enters es e _ _ h0 h1 := by
    rw [run_append] at h1
    exact blocked_step_new h0 h1
  backed es := backed_run es _ (backed_start hkv)
  answers es := bl.answers_of_backed (backed_run es _ (backed_start hkv))
  once es₁ es₂ _ _ now' h := screen_newly_once _ es₁ es₂ h now'

theorem blocks_are_permanent_fresh :
    ({ engine := .memory } : Backend).kv.entries.entries = [] ∧
      BlocksPermanent {} {} { engine := .memory } :=
  ⟨rfl, blocks_are_permanent {} {} _ rfl⟩

/-- With both stores down, an address that is blocked, and whose block is cached in an entry
still live, is let through. -/
theorem blocked_address_passes_in_outage :
    let s := (start { engine := .memory }).run {} {}
      [.block "10.0.0.1" ⟨19844, 36007, 0, by decide, by decide⟩, .faults { down := [.kv, .records] }]
    s.store.records.blocked.contains "10.0.0.1" = true ∧
      s.store.kv.lookup s.store.now (Blocklist.cacheKey "10.0.0.1") ≠ none ∧
      (((({} : Blocklist).isBlocked "10.0.0.1").run.run s.store).1 = .ok false) := by
  decide

end Access

end Turnstile
