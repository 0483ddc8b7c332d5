/-!
# Tables in key order

`Table α` holds at most one value per text key, its entries in strictly ascending key order,
which the table carries with it. Text order is code point order, which is also the byte order
of the UTF-8 forms, so listings of a table come out as a byte-wise sort would give them. Every
store of the service keeps its data in tables. `Table.insert` replaces the value of a present key
and otherwise puts the new entry at its place; `get?_insert_self`, `get?_insert_of_ne` and
`get?_erase` say what writing does to reading.
-/

namespace Turnstile

/-- Values by text key, in strictly ascending key order, so no key repeats. -/
structure Table (α : Type) where
  entries : List (String × α)
  ascending : entries.Pairwise (fun a b => a.1 < b.1)
  deriving Repr

namespace Table

variable {α : Type}

instance : EmptyCollection (Table α) := ⟨⟨[], .nil⟩⟩

instance : Inhabited (Table α) := ⟨{}⟩

@[simp] theorem entries_empty : ({} : Table α).entries = [] := rfl

/-- The value under a key. -/
def get? (t : Table α) (k : String) : Option α :=
  (t.entries.find? (·.1 == k)).map (·.2)

/-- Whether a key is present. -/
def contains (t : Table α) (k : String) : Bool := (t.get? k).isSome

/-- Puts an entry at its place in a list in ascending key order, replacing an entry of the
same key. -/
def place (k : String) (v : α) : List (String × α) → List (String × α)
  | [] => [(k, v)]
  | (k', v') :: rest =>
    if k < k' then (k, v) :: (k', v') :: rest
    else if k = k' then (k, v) :: rest
    else (k', v') :: place k v rest

/-- Placing an entry adds it and keeps the others. -/
theorem mem_place {k : String} {v : α} {l : List (String × α)} {e : String × α}
    (h : e ∈ place k v l) : e = (k, v) ∨ e ∈ l := by
  induction l with
  | nil => simpa [place] using h
  | cons x rest ih =>
    obtain ⟨k', v'⟩ := x
    simp only [place] at h
    split at h
    · simpa using h
    · split at h
      · rcases List.mem_cons.1 h with rfl | h
        · exact .inl rfl
        · exact .inr (List.mem_cons_of_mem _ h)
      · rcases List.mem_cons.1 h with rfl | h
        · exact .inr List.mem_cons_self
        · rcases ih h with rfl | h
          · exact .inl rfl
          · exact .inr (List.mem_cons_of_mem _ h)

/-- Placing keeps the entries in ascending key order. -/
theorem pairwise_place (k : String) (v : α) {l : List (String × α)}
    (h : l.Pairwise (fun a b => a.1 < b.1)) :
    (place k v l).Pairwise (fun a b => a.1 < b.1) := by
  induction l with
  | nil => simp [place]
  | cons x rest ih =>
    obtain ⟨k', v'⟩ := x
    rw [List.pairwise_cons] at h
    simp only [place]
    split
    · next hlt =>
      refine List.Pairwise.cons (fun e he => ?_) (List.Pairwise.cons h.1 h.2)
      rcases List.mem_cons.1 he with rfl | he
      · exact hlt
      · exact String.lt_trans hlt (h.1 e he)
    · split
      · next heq =>
        subst heq
        exact List.Pairwise.cons h.1 h.2
      -- the new key is above the head, so the head stays below everything after it
      · next hlt hne =>
        have hgt : k' < k := Std.lt_of_le_of_ne (String.not_lt.1 hlt) (Ne.symm hne)
        refine List.Pairwise.cons (fun e he => ?_) (ih h.2)
        rcases mem_place he with rfl | he
        · exact hgt
        · exact h.1 e he

/-- The table with a value under a key. -/
def insert (t : Table α) (k : String) (v : α) : Table α :=
  ⟨place k v t.entries, pairwise_place k v t.ascending⟩

/-- The table without a key. -/
def erase (t : Table α) (k : String) : Table α :=
  ⟨t.entries.filter (·.1 != k), t.ascending.filter _⟩

/-- The keys, in ascending order. -/
def keys (t : Table α) : List String := t.entries.map (·.1)

/-- A table lists each key once. -/
theorem keys_nodup (t : Table α) : t.keys.Nodup :=
  t.ascending.map _ fun _ _ h heq => String.lt_irrefl _ (heq ▸ h)

/-- The table with the value under a key changed, if the key is present. -/
def modify (t : Table α) (k : String) (f : α → α) : Table α :=
  match t.get? k with
  | some v => t.insert k (f v)
  | none => t

theorem find?_place_self (k : String) (v : α) (l : List (String × α)) :
    (place k v l).find? (·.1 == k) = some (k, v) := by
  induction l with
  | nil => simp [place]
  | cons e rest ih =>
    obtain ⟨k', v'⟩ := e
    simp only [place]
    split
    · simp
    · split
      · simp
      · rename_i h₁ h₂
        have hne : (k' == k) = false := by
          simp only [beq_eq_false_iff_ne]
          exact fun h => h₂ h.symm
        simp [hne, ih]

theorem find?_place_of_ne {k j : String} (v : α) (l : List (String × α)) (h : k ≠ j) :
    (place k v l).find? (·.1 == j) = l.find? (·.1 == j) := by
  induction l with
  | nil => simp [place, h]
  | cons e rest ih =>
    obtain ⟨k', v'⟩ := e
    simp only [place]
    split
    · simp [h]
    · split
      · rename_i _ he
        subst he
        simp [h]
      · simp only [List.find?_cons]
        split <;> simp_all

/-- Reading a key just written gives the written value. -/
@[simp] theorem get?_insert_self (t : Table α) (k : String) (v : α) :
    (t.insert k v).get? k = some v := by
  simp [get?, insert, find?_place_self]

/-- Writing one key leaves the others as they were. -/
theorem get?_insert_of_ne (t : Table α) {k j : String} (v : α) (h : k ≠ j) :
    (t.insert k v).get? j = t.get? j := by
  simp [get?, insert, find?_place_of_ne v t.entries h]

/-- After erasing a key it is absent, and every other key reads as before. -/
theorem get?_erase (t : Table α) (k j : String) :
    (t.erase k).get? j = if k = j then none else t.get? j := by
  simp only [get?, erase]
  split
  · rename_i h
    subst h
    rw [List.find?_filter]
    simp
  · rename_i h
    rw [List.find?_filter]
    congr 2
    funext e
    by_cases he : e.1 = j
    · have : e.1 ≠ k := fun h' => h (h'.symm.trans he)
      simp [he, Ne.symm h]
    · simp [he]

end Table

end Turnstile
