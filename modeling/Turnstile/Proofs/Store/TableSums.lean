import Mathlib
import Turnstile.Store.Table

/-!
# Sums over tables

Since a table holds no key twice, a sum of its entries changes under an insertion by exactly the
new entry less the one it replaces (`sum_insert`), which is how the drained units of a cycle's
batches are counted.
-/

namespace Turnstile

namespace Table

variable {α : Type}

/-- A key below every key of a list is not found in it. -/
theorem find?_eq_none_of_lt {k : String} {l : List (String × α)} (h : ∀ e ∈ l, k < e.1) :
    l.find? (·.1 == k) = none := by
  rw [List.find?_eq_none]
  intro e he
  simpa using ne_of_gt (h e he)

/-- Over an ordered list, placing an entry adds it and drops the entry it replaces. -/
theorem sum_place (g : String × α → Nat) (k : String) (v : α) {l : List (String × α)}
    (h : l.Pairwise (fun a b => a.1 < b.1)) :
    ((place k v l).map g).sum + ((l.find? (·.1 == k)).map g).getD 0 = (l.map g).sum + g (k, v) := by
  induction l with
  | nil => simp [place]
  | cons x rest ih =>
    obtain ⟨k', v'⟩ := x
    rw [List.pairwise_cons] at h
    simp only [place]
    split
    -- below the head: the key is absent
    · next hlt =>
      have habsent : ((k', v') :: rest).find? (·.1 == k) = none := by
        refine find?_eq_none_of_lt fun e he => ?_
        rcases List.mem_cons.1 he with rfl | he
        · exact hlt
        · exact lt_trans hlt (h.1 e he)
      rw [habsent]
      simp only [List.map_cons, List.sum_cons, Option.map_none, Option.getD_none]
      omega
    · split
      -- at the head: the head is replaced
      · next heq =>
        subst heq
        simp only [List.map_cons, List.sum_cons, List.find?_cons, beq_self_eq_true,
          Option.map_some, Option.getD_some]
        omega
      -- above the head: the head stays and the entry is placed in the rest
      · next hlt hne =>
        have hhead : (k' == k) = false := by simpa using Ne.symm hne
        simp only [List.map_cons, List.sum_cons, List.find?_cons, hhead]
        have := ih h.2
        omega

/-- An insertion adds the new entry to a sum of the entries and drops the one it replaces. -/
theorem sum_insert (g : String × α → Nat) (t : Table α) (k : String) (v : α) :
    ((t.insert k v).entries.map g).sum + ((t.get? k).map (fun w => g (k, w))).getD 0 =
      (t.entries.map g).sum + g (k, v) := by
  have hfind : (t.entries.find? (·.1 == k)).map g = (t.get? k).map (fun w => g (k, w)) := by
    simp only [get?, Option.map_map]
    cases hf : t.entries.find? (·.1 == k) with
    | none => rfl
    | some e =>
      have hk : e.1 = k := by simpa using List.find?_some hf
      obtain ⟨k', w⟩ := e
      simp only at hk
      subst hk
      rfl
  rw [← hfind]
  exact sum_place g k v t.ascending

end Table

end Turnstile
