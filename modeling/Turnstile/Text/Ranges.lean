/-!
# Character classes as range tables

A class of characters is stored as an array of inclusive code-point ranges.
`Text.inRanges` is membership: a code point belongs to the class exactly when
one of the ranges contains it (`inRanges_iff`).
-/

namespace Turnstile.Text

/-- Whether some inclusive range of the table contains the code point `c`. -/
def inRanges (table : Array (Nat × Nat)) (c : Nat) : Bool :=
  table.any fun r => r.1 ≤ c && c ≤ r.2

/-- Membership in a range table is containment in one of its ranges. -/
theorem inRanges_iff (table : Array (Nat × Nat)) (c : Nat) :
    inRanges table c = true ↔ ∃ r ∈ table, r.1 ≤ c ∧ c ≤ r.2 := by
  rw [inRanges, Array.any_eq_true]
  constructor
  · rintro ⟨i, hi, h⟩
    exact ⟨table[i], Array.getElem_mem hi, by simpa using h⟩
  · rintro ⟨r, hr, h⟩
    obtain ⟨i, hi, rfl⟩ := Array.mem_iff_getElem.1 hr
    exact ⟨i, hi, by simpa using h⟩

end Turnstile.Text
