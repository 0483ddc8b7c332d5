import Turnstile.Proofs.Json.Reading

/-!
# What a reader can give

`Yields r P` says that every value `r` gives, from any cursor, satisfies `P`.
It bounds what readers return on every text, not only on text a writer
produced. The lemmas follow the reader combinators, so a reader built from
them yields what its parts yield, and `Yields.of_whole` carries that to
`Reader.whole`.
-/

namespace Turnstile.Json.Reader

variable {α β : Type}

/-- Every value the reader gives, from any cursor, has the property. -/
def Yields (r : Reader α) (P : α → Prop) : Prop :=
  ∀ c a c', (r.run).run c = (.ok a, c') → P a

theorem yields_pure {P : α → Prop} {a : α} (h : P a) : Yields (pure a : Reader α) P := by
  intro c a' c' hr
  cases hr
  exact h

theorem yields_throw {P : α → Prop} (e : Failure) : Yields (throw e : Reader α) P := by
  intro c a c' hr
  cases hr

/-- A sequence gives what its continuations give from what its first part gave. -/
theorem Yields.bind {x : Reader α} {f : α → Reader β} {Q : α → Prop} {P : β → Prop}
    (hx : Yields x Q) (hf : ∀ a, Q a → Yields (f a) P) : Yields (x >>= f) P := by
  intro c b c' hr
  rw [run_bind] at hr
  rcases h : (x.run).run c with ⟨_ | a, c1⟩
  · rw [h] at hr
    cases hr
  · rw [h] at hr
    exact hf a (hx c a c1 h) c1 b c' hr

theorem Yields.mono {r : Reader α} {P Q : α → Prop} (h : Yields r P) (hPQ : ∀ a, P a → Q a) :
    Yields r Q :=
  fun c a c' hr => hPQ a (h c a c' hr)

theorem Yields.map {x : Reader α} {Q : α → Prop} {P : β → Prop} (f : α → β) (hx : Yields x Q)
    (hf : ∀ a, Q a → P (f a)) : Yields (f <$> x) P := by
  rw [map_eq_pure_bind]
  exact hx.bind fun a ha => yields_pure (hf a ha)

theorem yields_any (r : Reader α) : Yields r fun _ => True := fun _ _ _ _ => trivial

theorem yields_failHere {P : α → Prop} (f : Fault) : Yields (failHere f : Reader α) P :=
  (yields_any _).bind fun _ _ => yields_throw _

theorem yields_failAhead {P : α → Prop} (f : Fault) : Yields (failAhead f : Reader α) P :=
  (yields_any _).bind fun _ _ => yields_throw _

theorem yields_failUnplaced {P : α → Prop} (t : String) : Yields (failUnplaced t : Reader α) P :=
  yields_throw _

theorem yields_missing {P : α → Prop} (name : String) : Yields (missing name : Reader α) P :=
  yields_failUnplaced _

theorem yields_tooShort {P : α → Prop} (count : Nat) (wanted : String) :
    Yields (tooShort count wanted : Reader α) P :=
  yields_failUnplaced _

/-- After a reader that never gives a value, nothing is given either. -/
theorem Yields.bind_nothing {x : Reader α} {f : α → Reader β} {P : β → Prop}
    (hx : Yields x fun _ => False) : Yields (x >>= f) P :=
  hx.bind fun _ h => h.elim

/-- Whatever value it finds, a type error gives nothing. -/
theorem yields_mismatch {P : α → Prop} (wanted : String) : Yields (mismatch wanted : Reader α) P :=
  (yields_any foundValue).bind fun _ _ => yields_failHere _

theorem yields_attempt {r : Reader α} {P : α → Prop} (h : Yields r P) :
    Yields (attempt r) fun res => ∀ a, res = .ok a → P a := by
  intro c res c' hr
  rw [run_attempt] at hr
  rcases hx : (r.run).run c with ⟨_ | a, c1⟩
  · rw [hx] at hr
    cases hr
    intro a ha
    cases ha
  · rw [hx] at hr
    cases hr
    intro a' ha
    cases ha
    exact h c a _ hx

/-- Contents and their closing give what the contents give. -/
theorem yields_enclosed {contents : Reader α} {closing : Reader Unit} {P : α → Prop}
    (h : Yields contents P) : Yields (enclosed contents closing) P := by
  unfold enclosed
  refine (yields_attempt h).bind fun r hr => (yields_any _).bind fun c _ => ?_
  rcases r with e | a
  · exact (yields_any _).bind fun _ _ => yields_throw _
  · rcases c with e | u
    · exact (yields_any _).bind fun _ _ => yields_throw _
    · exact yields_pure (hr a rfl)

/-- A record gives what its array and object forms give. -/
theorem yields_record {bySeq byMap : Reader α} {P : α → Prop} (name : String)
    (hs : Yields bySeq P) (hm : Yields byMap P) : Yields (record name bySeq byMap) P := by
  unfold record
  refine (yields_any _).bind fun ch _ => ?_
  split
  · exact (yields_any _).bind fun _ _ => yields_enclosed hs
  · exact (yields_any _).bind fun _ _ => yields_enclosed hm
  · exact yields_mismatch _

theorem yields_map_some {r : Reader α} {P : α → Prop} (h : Yields r P) :
    Yields (some <$> r) fun o => ∀ a ∈ o, P a :=
  h.map some fun a ha b hb => by
    cases hb
    exact ha

theorem yields_pure_none {P : α → Prop} : Yields (pure none : Reader (Option α)) fun o => ∀ a ∈ o, P a :=
  yields_pure fun _ hb => by cases hb

theorem yields_value {r : Reader α} {P : α → Prop} (h : Yields r P) : Yields (value r) P :=
  (yields_any _).bind fun _ _ => h

/-- A filled slot gives its value, an empty one what `absent` gives. -/
theorem yields_present {P : α → Prop} {absent : Reader α} (ha : Yields absent P) (o : Option α)
    (ho : ∀ a ∈ o, P a) : Yields (present absent o) P := by
  cases o with
  | some a => exact yields_pure (ho a rfl)
  | none => exact ha

/-- A field stored once holds what its reader gives. -/
theorem yields_once {r : Reader α} {P : α → Prop} (name : String) (slot : Option α)
    (h : Yields r P) : Yields (once name slot r) fun o => ∀ a ∈ o, P a := by
  unfold once
  cases slot with
  | some _ => exact yields_failUnplaced _
  | none => exact yields_map_some (yields_value h)

/-- An element of an array holds what its reader gives. -/
theorem yields_element {r : Reader α} {P : α → Prop} (first : Bool) (h : Yields r P) :
    Yields (element first r) fun o => ∀ a ∈ o, P a := by
  unfold element
  refine (yields_any _).bind fun o _ => ?_
  extract_lets jp
  -- the join point: after a separator, an element is read unless the array closes there
  have hjp : ∀ next, Yields (jp next) fun o => ∀ a ∈ o, P a := by
    intro next
    simp only [jp]
    split
    · exact yields_failAhead _
    · exact yields_map_some h
    · exact yields_failAhead _
  -- a closing bracket ends the array; any other character passes to the join point
  split
  · exact yields_pure_none
  · split
    · exact (yields_any _).bind fun next _ => hjp next
    · exact (yields_any _).bind fun _ _ => (yields_any _).bind fun next _ => hjp next
  · split
    · exact (yields_any _).bind fun next _ => hjp next
    · exact Yields.bind_nothing (yields_failAhead _)
  · exact Yields.bind_nothing (yields_failAhead _)

/-- The elements an array loop gathers all hold what the element reader gives. -/
theorem yields_list_go {r : Reader α} {P : α → Prop} (h : Yields r P) (f : Nat) (first : Bool)
    (acc : List α) (hacc : ∀ a ∈ acc, P a) :
    Yields (list.go r f first acc) fun as => ∀ a ∈ as, P a := by
  induction f generalizing first acc with
  | zero => exact yields_pure fun a ha => hacc a (List.mem_reverse.mp ha)
  | succ f ih =>
    rw [list.go]
    refine (yields_element first h).bind fun o ho => ?_
    cases o with
    | none => exact yields_pure fun a ha => hacc a (List.mem_reverse.mp ha)
    | some a =>
      refine ih false (a :: acc) fun b hb => ?_
      rcases List.mem_cons.mp hb with rfl | hb
      · exact ho b rfl
      · exact hacc b hb

theorem yields_list {r : Reader α} {P : α → Prop} (h : Yields r P) :
    Yields (list r) fun as => ∀ a ∈ as, P a := by
  unfold list
  refine (yields_any _).bind fun ch _ => ?_
  split
  · exact (yields_any _).bind fun _ _ => yields_enclosed
      ((yields_any _).bind fun _ _ => yields_list_go h _ true [] (by simp))
  · exact yields_mismatch _

section Fields

variable {σ : Type} (visit : String → σ → Reader σ) (Inv : σ → Prop)

/-- A walk over the fields of an object keeps an invariant that every visit keeps. -/
theorem yields_fields_go (hv : ∀ k s, Inv s → Yields (visit k s) Inv) (f : Nat) (first : Bool)
    (s : σ) (hs : Inv s) : Yields (fields.go visit f first s) Inv := by
  induction f generalizing first s with
  | zero => exact yields_pure hs
  | succ f ih =>
    rw [fields.go]
    refine (yields_any _).bind fun o _ => ?_
    cases o with
    | none => exact yields_pure hs
    | some k => exact (hv k s hs).bind fun s' hs' => ih false s' hs'

theorem yields_fields (hv : ∀ k s, Inv s → Yields (visit k s) Inv) (init : σ) (hi : Inv init) :
    Yields (fields visit init) Inv :=
  (yields_any _).bind fun _ _ => yields_fields_go visit Inv hv _ true init hi

end Fields

/-- What a whole text reads as holds what the reader gives. -/
theorem Yields.of_whole {r : Reader α} {P : α → Prop} (h : Yields r P) {s : String} {a : α}
    (hs : whole r s = .ok a) : P a := by
  unfold whole read at hs
  rw [run_bind] at hs
  rcases hx : (r.run).run (Cursor.start s) with ⟨_ | b, c1⟩
  · rw [hx] at hs
    cases hs
  · rw [hx] at hs
    have hb := h _ b c1 hx
    rcases hf : (finish.run).run c1 with ⟨_ | u, c2⟩
    · simp only [run_bind, hf] at hs
      cases hs
    · simp only [run_bind, hf] at hs
      cases hs
      exact hb

end Turnstile.Json.Reader
