import Turnstile.Service.App
import Turnstile.Proofs.Store.Run

/-!
# The request guard

The guard stands in front of every handler of the service. It takes the
credential from the configured header, asks the gate for the caller's status,
and refuses an unregistered caller, and one without entitlement when
entitlement is required (`App.authorizeRequest`). Only then does the handler
run, exactly once, on the caller's status; after it, a read of a detail path is
metered under the credential (`App.handleWith_run`).

A path is a detail path when it is the version root, `/detail/`, a resource
and then nothing or a tail that starts with `/` (`detailResource_eq_some_iff`).
The read is recorded under that resource and the credential as subject, which
needs a credential without `/` (`App.noteRead_of_detail`, `App.noteRead_of_not`).
The main statement is `App.guard_runs_handler_exactly`.
-/

namespace Turnstile

open StoreOp

/-! ### Credentials and detail paths -/

/-- The header value the guard reads is that of the first header whose name is the wanted one,
ASCII case ignored. -/
theorem Request.header?_eq_some_iff (r : Request) (name v : String) :
    r.header? name = some v ↔
      ∃ pre k post, r.headers = pre ++ (k, v) :: post ∧ sameIgnoringAsciiCase k name = true ∧
        ∀ p ∈ pre, sameIgnoringAsciiCase p.1 name = false := by
  simp only [Request.header?, Option.map_eq_some_iff, List.find?_eq_some_iff_append,
    Bool.not_eq_eq_eq_not, Bool.not_true]
  constructor
  · rintro ⟨⟨k, v'⟩, ⟨hk, pre, post, hl, hpre⟩, rfl⟩
    exact ⟨pre, k, post, hl, hk, fun p hp => hpre p hp⟩
  · rintro ⟨pre, k, post, hl, hk, hpre⟩
    exact ⟨(k, v), ⟨hk, pre, post, hl, fun p hp => hpre p hp⟩, rfl⟩

namespace Credential

/-- A credential is a present, non-empty header value. -/
theorem parse_eq_ok_iff (raw : Option String) (c : Credential) :
    parse raw = .ok c ↔ raw = some c.text := by
  cases raw with
  | none => simp [parse]
  | some s =>
    by_cases h : s = ""
    · subst h
      simp only [parse, dite_true, reduceCtorEq, Option.some.injEq, false_iff]
      exact fun h => c.text_ne h.symm
    · simp only [parse, h, dite_false, Except.ok.injEq, Option.some.injEq]
      constructor
      · rintro rfl
        rfl
      · intro hs
        obtain ⟨t, ht⟩ := c
        dsimp only at hs
        subst hs
        rfl

theorem parse_eq_error_iff (raw : Option String) :
    (∃ e, parse raw = .error e) ↔ raw = none ∨ raw = some "" := by
  cases raw with
  | none => simp [parse]
  | some s =>
    by_cases h : s = "" <;> simp [parse, h]

/-- A credential names a subject exactly when it holds no `/`, and the subject is its text. -/
theorem subject_eq_ok_iff (c : Credential) (g : Segment) : c.subject = .ok g ↔ g.text = c.text :=
  Segment.parse_eq_ok_iff c.text g

theorem subject_error_of_slash {c : Credential} (h : '/' ∈ c.text.toList) :
    ∃ e, c.subject = .error e := by
  cases hs : c.subject with
  | error e => exact ⟨e, rfl⟩
  | ok g =>
    have ht := (subject_eq_ok_iff c g).1 hs
    exact absurd (ht ▸ h) g.slash_not_mem

end Credential

/-- The first piece of a text that holds no `/` before a tail that is empty or starts with `/`. -/
theorem takeWhile_ne_slash {r t : List Char} (hr : '/' ∉ r) (ht : t = [] ∨ t.head? = some '/') :
    (r ++ t).takeWhile (fun c => decide (c ≠ '/')) = r := by
  induction r with
  | nil =>
    rcases ht with rfl | ht
    · rfl
    · cases t with
      | nil => rfl
      | cons x xs =>
        simp only [List.head?_cons, Option.some.injEq] at ht
        subst ht
        simp
  | cons x xs ih =>
    have hx : x ≠ '/' := fun h => hr (h ▸ List.mem_cons_self)
    have hxs : '/' ∉ xs := fun h => hr (List.mem_cons_of_mem x h)
    rw [List.cons_append, List.takeWhile_cons_of_pos (by simpa using hx), ih hxs]

/-- What follows the first piece of a text is empty or starts with `/`. -/
theorem dropWhile_ne_slash (s : List Char) :
    s.dropWhile (fun c => decide (c ≠ '/')) = [] ∨
      (s.dropWhile (fun c => decide (c ≠ '/'))).head? = some '/' := by
  induction s with
  | nil => exact .inl rfl
  | cons x xs ih =>
    by_cases hx : x = '/'
    · subst hx
      exact .inr (by simp)
    · simpa [hx] using ih

/-- A path names a detail resource exactly when it is the version root, `/detail/`, the resource
and a tail that is empty or starts with `/`. -/
theorem detailResource_eq_some_iff (path root : String) (r : Segment) :
    detailResource path root = some r ↔
      ∃ t, path = root ++ "/detail/" ++ r.text ++ t ∧ (t = "" ∨ ∃ u, t = "/" ++ u) := by
  simp only [detailResource, Option.bind_eq_bind, Option.bind_eq_some_iff]
  constructor
  · rintro ⟨rest₁, h₁, rest, h₂, h₃⟩
    rw [Text.dropLead?_eq_some_iff] at h₁ h₂
    -- the resource is the piece before the first `/`
    have hr : r.text.toList = rest.takeWhile fun c => decide (c ≠ '/') := by
      split at h₃
      · rename_i g hg
        cases h₃
        rw [(Segment.parse_eq_ok_iff _ _).1 hg, String.toList_ofList]
      · cases h₃
    refine ⟨String.ofList (rest.dropWhile fun c => decide (c ≠ '/')), ?_, ?_⟩
    · apply String.toList_inj.1
      simp only [String.toList_append, String.toList_ofList, h₁, h₂, hr, List.append_assoc,
        List.takeWhile_append_dropWhile]
    · rcases dropWhile_ne_slash rest with h | h
      · left
        rw [h]
      · right
        obtain ⟨u, hu⟩ : ∃ u, rest.dropWhile (fun c => decide (c ≠ '/')) = '/' :: u := by
          cases hd : rest.dropWhile fun c => decide (c ≠ '/') with
          | nil =>
            rw [hd] at h
            cases h
          | cons x xs =>
            rw [hd, List.head?_cons, Option.some.injEq] at h
            exact ⟨xs, by rw [h]⟩
        refine ⟨String.ofList u, String.toList_inj.1 ?_⟩
        simp only [String.toList_ofList, hu, String.toList_append]
        rfl
  · rintro ⟨t, rfl, ht⟩
    refine ⟨("/detail/" ++ r.text ++ t).toList, ?_, (r.text ++ t).toList, ?_, ?_⟩
    · rw [Text.dropLead?_eq_some_iff]
      simp only [String.toList_append, List.append_assoc]
    · rw [Text.dropLead?_eq_some_iff]
      simp only [String.toList_append, List.append_assoc]
    · have htail : t.toList = [] ∨ t.toList.head? = some '/' := by
        rcases ht with rfl | ⟨u, rfl⟩
        · exact .inl rfl
        · exact .inr (by simp)
      have hself : Segment.parse r.text = .ok r := (Segment.parse_eq_ok_iff _ _).2 rfl
      rw [String.toList_append, takeWhile_ne_slash r.slash_not_mem htail, String.ofList_toList,
        hself]

example : (detailResource "/api/v2/detail/R7/comments" "/api/v2").map Segment.text = some "R7" ∧
    detailResource "/api/v2/details/R7" "/api/v2" = none := by
  decide

namespace App

variable (a : App)

/-! ### Metering a read -/

/-- The read of a detail path under a credential without `/` is recorded under the path's
resource and the credential as subject. -/
theorem noteRead_of_detail {path : String} {r : Segment} (c : Credential) (subj : Segment)
    (hr : detailResource path a.config.gate.versionRoot = some r) (hs : subj.text = c.text) :
    a.noteRead path c = { a with meter := (a.meter.record ⟨r, subj⟩).1 } := by
  have hsub : c.subject = .ok subj := (Credential.subject_eq_ok_iff c subj).2 hs
  simp only [noteRead, readKey?, hr, hsub]

/-- Any other read is not recorded. -/
theorem noteRead_of_not {path : String} (c : Credential)
    (h : (∀ r, detailResource path a.config.gate.versionRoot ≠ some r) ∨ '/' ∈ c.text.toList) :
    a.noteRead path c = a := by
  have hkey : a.readKey? path c = none := by
    unfold readKey?
    split
    · rename_i r subj hr hs
      rcases h with h | h
      · exact absurd hr (h r)
      · obtain ⟨e, he⟩ := Credential.subject_error_of_slash h
        rw [he] at hs
        cases hs
    · rfl
  simp only [noteRead, hkey]

/-! ### Admission -/

/-- A status admits its caller exactly when the subject is registered, and entitled when
entitlement is required. -/
theorem verdict_eq_ok_iff {c c' : Credential} {s s' : Status} :
    a.verdict c s = .ok (c', s') ↔
      c = c' ∧ s = s' ∧ s.registered = true ∧
        (a.config.gate.requireEntitlement = true → s.entitled = true) := by
  unfold verdict
  split
  · next hr =>
    have hr : s.registered = false := by simpa using hr
    refine iff_of_false (by simp) ?_
    rintro ⟨-, -, h, -⟩
    simp [hr] at h
  · next hr =>
    have hr : s.registered = true := by simpa using hr
    split
    · next he =>
      have he : a.config.gate.requireEntitlement = true ∧ s.entitled = false := by simpa using he
      refine iff_of_false (by simp) ?_
      rintro ⟨-, -, -, h⟩
      simp [he.1, he.2] at h
    · next he =>
      have he : a.config.gate.requireEntitlement = true → s.entitled = true := by simpa using he
      simp only [Except.ok.injEq, Prod.mk.injEq]
      constructor
      · rintro ⟨hc, hs⟩
        exact ⟨hc, hs, hr, he⟩
      · rintro ⟨hc, hs, -, -⟩
        exact ⟨hc, hs⟩

/-- A status refuses its caller for an unregistered subject, or for a missing entitlement when
one is required. -/
theorem verdict_eq_error_iff {c : Credential} {s : Status} {e : AppError} :
    a.verdict c s = .error e ↔
      (s.registered = false ∧ e = .subjectUnknown) ∨
        (s.registered = true ∧ a.config.gate.requireEntitlement = true ∧ s.entitled = false ∧
          e = .notEntitled) := by
  unfold verdict
  split
  · next hr =>
    have hr : s.registered = false := by simpa using hr
    simp only [hr, Except.error.injEq, true_and, Bool.false_eq_true, false_and, or_false]
    exact eq_comm
  · next hr =>
    have hr : s.registered = true := by simpa using hr
    split
    · next he =>
      have he : a.config.gate.requireEntitlement = true ∧ s.entitled = false := by simpa using he
      simp only [hr, he, Except.error.injEq, Bool.true_eq_false, false_and, true_and, false_or]
      exact eq_comm
    · next he =>
      have he : a.config.gate.requireEntitlement = true → s.entitled = true := by simpa using he
      refine iff_of_false (by simp) ?_
      rintro (⟨h, -⟩ | ⟨-, hq, h, -⟩)
      · simp [hr] at h
      · simp [he hq] at h

theorem authorizeRequest_run (req : Request) (b : Backend) :
    (a.authorizeRequest req).run.run b =
      match Credential.parse (req.header? a.config.gate.header) with
      | .error _ => (.ok (.error .credentialMissing), b)
      | .ok c =>
        match (a.gate.authorizeCredential c).run.run b with
        | (.ok (.ok s), b1) => (.ok (a.verdict c s), b1)
        | (.ok (.error e), b1) => (.ok (.error (.auth e)), b1)
        | (.error h, b1) => (.error h, b1) := by
  unfold authorizeRequest
  rcases Credential.parse (req.header? a.config.gate.header) with e | c
  · rfl
  · dsimp only
    rw [run_bind]
    rcases (a.gate.authorizeCredential c).run.run b with ⟨_ | _ | s, b1⟩ <;> rfl

/-- A caller is admitted exactly when the credential is present, the gate answers a status for
it, the subject is registered, and it is entitled when entitlement is required. -/
theorem authorizeRequest_admits_iff (req : Request) (b : Backend) (c : Credential) (s : Status) :
    ((a.authorizeRequest req).run.run b).1 = .ok (.ok (c, s)) ↔
      Credential.parse (req.header? a.config.gate.header) = .ok c ∧
        ((a.gate.authorizeCredential c).run.run b).1 = .ok (.ok s) ∧ s.registered = true ∧
        (a.config.gate.requireEntitlement = true → s.entitled = true) := by
  rw [authorizeRequest_run]
  rcases Credential.parse (req.header? a.config.gate.header) with e | c'
  · simp
  · dsimp only
    by_cases hc : c' = c
    · subst hc
      rcases (a.gate.authorizeCredential c').run.run b with ⟨_ | _ | s', b1⟩
      · simp
      · simp
      · -- the gate answered `s'`: the verdict on it decides
        simp only [Except.ok.injEq, verdict_eq_ok_iff, true_and]
        constructor
        · rintro ⟨rfl, h⟩
          exact ⟨rfl, h⟩
        · rintro ⟨rfl, h⟩
          exact ⟨rfl, h⟩
    · refine iff_of_false ?_ (fun h => hc (Except.ok.inj h.1))
      rcases (a.gate.authorizeCredential c').run.run b with ⟨_ | _ | s', b1⟩
      · simp
      · simp
      · -- a verdict carries the credential it was given
        simp only [Except.ok.injEq, verdict_eq_ok_iff]
        exact fun h => hc h.1

/-- A caller with a credential is refused exactly for the gate's failure, an unregistered subject,
or a missing entitlement when one is required. -/
theorem authorizeRequest_refuses_iff (req : Request) (b : Backend) {c : Credential}
    (hp : Credential.parse (req.header? a.config.gate.header) = .ok c) (e : AppError) :
    ((a.authorizeRequest req).run.run b).1 = .ok (.error e) ↔
      (∃ ae, ((a.gate.authorizeCredential c).run.run b).1 = .ok (.error ae) ∧ e = .auth ae) ∨
      ∃ s, ((a.gate.authorizeCredential c).run.run b).1 = .ok (.ok s) ∧
        ((s.registered = false ∧ e = .subjectUnknown) ∨
          (s.registered = true ∧ a.config.gate.requireEntitlement = true ∧ s.entitled = false ∧
            e = .notEntitled)) := by
  rw [authorizeRequest_run, hp]
  dsimp only
  rcases (a.gate.authorizeCredential c).run.run b with ⟨_ | _ | s, b1⟩
  · simp
  · simpa using eq_comm
  · simpa using a.verdict_eq_error_iff

/-- A missing or empty credential is refused before any store is called. -/
theorem authorizeRequest_missing (req : Request) (b : Backend)
    (h : req.header? a.config.gate.header = none ∨ req.header? a.config.gate.header = some "") :
    (a.authorizeRequest req).run.run b = (.ok (.error .credentialMissing), b) := by
  obtain ⟨e, he⟩ := (Credential.parse_eq_error_iff _).2 h
  rw [authorizeRequest_run, he]

/-- The handler runs once, on the status of an admitted caller, and never for a refused one; the
read is metered after it. -/
theorem handleWith_run {α : Type} (req : Request) (handler : Status → StoreOp α) (b : Backend) :
    (a.handleWith req handler).run.run b =
      match (a.authorizeRequest req).run.run b with
      | (.ok (.ok (c, s)), b1) =>
        match (handler s).run.run b1 with
        | (.ok out, b2) => (.ok (a.noteRead req.path c, .ok out), b2)
        | (.error h, b2) => (.error h, b2)
      | (.ok (.error e), b1) => (.ok (a, .error e), b1)
      | (.error h, b1) => (.error h, b1) := by
  unfold handleWith
  rw [run_bind]
  rcases (a.authorizeRequest req).run.run b with ⟨_ | _ | ⟨c, s⟩, b1⟩
  · rfl
  · rfl
  · dsimp only
    rw [run_bind]
    rcases (handler s).run.run b1 with ⟨_ | out, b2⟩ <;> rfl

/-- The request guard runs the handler exactly for admitted callers and meters exactly their
detail reads. A caller is admitted exactly when the first header named as configured (ASCII case
ignored) holds a non-empty credential, the gate answers a status for it, the subject is
registered, and it is entitled when entitlement is required; a missing credential is refused
before any store is called, and every other refusal is the gate's failure, an unknown subject or
a missing entitlement. An admitted caller's handler runs once, from the stores the gate left, and
a refused caller's never runs. After the handler, the meter records at most one read: under the
resource and the credential as subject when the path is the version root, `/detail/`, the
resource and nothing or a `/`-led tail, and the credential holds no `/`; and none otherwise. -/
theorem guard_runs_handler_exactly (a : App) (req : Request) (b : Backend) :
    (∀ c s, ((a.authorizeRequest req).run.run b).1 = .ok (.ok (c, s)) ↔
      req.header? a.config.gate.header = some c.text ∧
        ((a.gate.authorizeCredential c).run.run b).1 = .ok (.ok s) ∧ s.registered = true ∧
        (a.config.gate.requireEntitlement = true → s.entitled = true)) ∧
    ((req.header? a.config.gate.header = none ∨ req.header? a.config.gate.header = some "") →
      (a.authorizeRequest req).run.run b = (.ok (.error .credentialMissing), b)) ∧
    (∀ (c : Credential) e, req.header? a.config.gate.header = some c.text →
      (((a.authorizeRequest req).run.run b).1 = .ok (.error e) ↔
        (∃ ae, ((a.gate.authorizeCredential c).run.run b).1 = .ok (.error ae) ∧ e = .auth ae) ∨
        ∃ s, ((a.gate.authorizeCredential c).run.run b).1 = .ok (.ok s) ∧
          ((s.registered = false ∧ e = .subjectUnknown) ∨
            (s.registered = true ∧ a.config.gate.requireEntitlement = true ∧ s.entitled = false ∧
              e = .notEntitled)))) ∧
    (∀ {α : Type} (handler : Status → StoreOp α),
      (∀ c s b1, (a.authorizeRequest req).run.run b = (.ok (.ok (c, s)), b1) →
        (a.handleWith req handler).run.run b =
          Prod.map (Except.map fun out => (a.noteRead req.path c, .ok out)) id
            ((handler s).run.run b1)) ∧
      (∀ e b1, (a.authorizeRequest req).run.run b = (.ok (.error e), b1) →
        (a.handleWith req handler).run.run b = (.ok (a, .error e), b1)) ∧
      (∀ h b1, (a.authorizeRequest req).run.run b = (.error h, b1) →
        (a.handleWith req handler).run.run b = (.error h, b1))) ∧
    (∀ c : Credential,
      (a.noteRead req.path c = a ∨
        ∃ key, a.noteRead req.path c = { a with meter := (a.meter.record key).1 }) ∧
      (∀ (r subj : Segment) (t : String),
        req.path = a.config.gate.versionRoot ++ "/detail/" ++ r.text ++ t →
        (t = "" ∨ ∃ u, t = "/" ++ u) → subj.text = c.text →
        a.noteRead req.path c = { a with meter := (a.meter.record ⟨r, subj⟩).1 }) ∧
      ((¬∃ (r : Segment) (t : String),
          req.path = a.config.gate.versionRoot ++ "/detail/" ++ r.text ++ t ∧
            (t = "" ∨ ∃ u, t = "/" ++ u)) ∨ '/' ∈ c.text.toList →
        a.noteRead req.path c = a)) := by
  have hparse := fun c => Credential.parse_eq_ok_iff (req.header? a.config.gate.header) c
  refine ⟨fun c s => ?_, a.authorizeRequest_missing req b, fun c e hc => ?_, fun handler => ?_,
    fun c => ⟨a.noteRead_cases req.path c, ?_, ?_⟩⟩
  -- admission
  · rw [a.authorizeRequest_admits_iff, hparse]
  -- refusals
  · exact a.authorizeRequest_refuses_iff req b ((hparse c).2 hc) e
  -- the handler, once or never
  · have hrun := a.handleWith_run req handler b
    refine ⟨fun c s b1 h => ?_, fun e b1 h => ?_, fun h b1 hh => ?_⟩
    · rw [hrun, h]
      dsimp only
      rcases (handler s).run.run b1 with ⟨_ | out, b2⟩ <;> rfl
    · rw [hrun, h]
    · rw [hrun, hh]
  -- a detail read of a slash-free credential is recorded under it
  · intro r subj t hpath ht hs
    exact a.noteRead_of_detail c subj ((detailResource_eq_some_iff _ _ r).2 ⟨t, hpath, ht⟩) hs
  -- any other read is not
  · intro h
    refine a.noteRead_of_not c (h.imp (fun hno r hr => hno ?_) id)
    obtain ⟨t, hpath, ht⟩ := (detailResource_eq_some_iff _ _ r).1 hr
    exact ⟨r, t, hpath, ht⟩

end App

end Turnstile
