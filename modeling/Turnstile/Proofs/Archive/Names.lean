import Turnstile.Proofs.Time.Rfc3339Text
import Turnstile.Archive.Naming

/-!
# Archive names tell their batches apart

An archive object is named `<subject>/detail-log-<year>-<MM>-<DD>T<HH>-<MM>-<SS>[-<attempt>].json`.
Main statement (`archiveObject_eq_iff`): two names are equal exactly when their subjects, their
attempts and the shown date and time (year, month, day, hour, minute and shown second) are. So
the batches of two subjects, or two attempts for one batch, never compete for a name, and a name
gives its subject and drain second back.

The proof reads a name from the left. A subject holds no `/`, so it ends at the first one. A year
is a sign or a digit followed by digits, so it ends at the next `-` (`yearValue` reads it back).
Month, day, hour, minute and second are fields of two digits each. What is left before `.json`
is the attempt: nothing for the first, `-` and its digits after it.
-/

namespace Turnstile

namespace Naming

open Instant Rfc3339

/-- Month, day, hour, minute and second of a name, each of two digits. -/
def stampText (t : Instant) : String :=
  padded 2 t.date.2.1 ++ "-" ++ padded 2 t.date.2.2 ++ "T" ++ padded 2 t.clock.1 ++ "-" ++
    padded 2 t.clock.2.1 ++ "-" ++ padded 2 t.clock.2.2

/-- The attempt part of a name: nothing for the first attempt, `-<attempt>` after it. -/
def attemptText (attempt : Nat) : String := if attempt = 0 then "" else "-" ++ toString attempt

/-- A name is the subject, the year, the fixed-width stamp and the attempt, in that order. -/
theorem archiveObject_toList (s : Segment) (t : Instant) (a : Nat) :
    (archiveObject s t a).toList = s.text.toList ++ '/' :: ("detail-log-".toList ++
      ((yearText t.date.1).toList ++ '-' :: ((stampText t).toList ++
        ((attemptText a).toList ++ ".json".toList)))) := by
  have hslash : "/detail-log-".toList = '/' :: "detail-log-".toList := rfl
  have hdash : "-".toList = ['-'] := rfl
  have hT : "T".toList = ['T'] := rfl
  simp only [archiveObject, fields, stampText, attemptText, String.toList_append, hslash, hdash, hT,
    List.append_assoc, List.cons_append, List.nil_append]

/-- A character that ends a part which does not hold it separates that part from the rest. -/
theorem append_sep_inj {c : Char} {u w x y : List Char} (hu : c ∉ u) (hw : c ∉ w)
    (h : u ++ c :: x = w ++ c :: y) : u = w ∧ x = y := by
  have hsplit := congrArg (List.splitOn c) h
  rw [List.splitOn_append_cons_self_of_not_mem hu,
    List.splitOn_append_cons_self_of_not_mem hw] at hsplit
  obtain rfl := (List.cons.inj hsplit).1
  exact ⟨rfl, (List.cons.inj (List.append_cancel_left h)).2⟩

/-! ### Numbers -/

/-- A padded number reads back as its value, however wide. -/
theorem digitValue_padded (w n : Nat) : digitValue (padded w n).toList = n := by
  rw [padded_toList, digitValue_zeros, digitValue_eq_ofDigitChars, Nat.ofDigitChars_ten_toDigits]

/-- A number's decimal text reads back as the number. -/
theorem digitValue_toString (n : Nat) : digitValue (toString n).toList = n := by
  rw [show toString n = Nat.repr n from rfl, Nat.repr_eq_ofList_toDigits, String.toList_ofList,
    digitValue_eq_ofDigitChars, Nat.ofDigitChars_ten_toDigits]

theorem padded_inj {w n m : Nat} (h : (padded w n).toList = (padded w m).toList) : n = m := by
  rw [← digitValue_padded w n, h, digitValue_padded]

theorem isDigit_of_mem_padded {w n : Nat} {c : Char} (hc : c ∈ (padded w n).toList) :
    c.isDigit = true := by
  rw [padded_toList] at hc
  rcases List.mem_append.1 hc with hc | hc
  · rw [List.eq_of_mem_replicate hc]
    rfl
  · exact Nat.isDigit_of_mem_toDigits (by decide) (by decide) hc

/-- A field of two digits followed by anything splits off the rest. -/
theorem padded_two_cancel {n m : Nat} {x y : List Char} (hn : n < 100) (hm : m < 100)
    (h : (padded 2 n).toList ++ x = (padded 2 m).toList ++ y) : n = m ∧ x = y := by
  obtain ⟨h1, h2⟩ := List.append_inj h
    (by rw [length_padded 2 n (by decide) hn, length_padded 2 m (by decide) hm])
  exact ⟨padded_inj h1, h2⟩

/-! ### Years -/

/-- Reads a year written with an optional sign. -/
def yearValue : List Char → Int
  | '-' :: ds => -(digitValue ds : Int)
  | '+' :: ds => digitValue ds
  | ds => digitValue ds

/-- A year reads back from its text. -/
theorem yearValue_yearText (y : Int) : yearValue (yearText y).toList = y := by
  unfold yearText
  split
  · next hy =>
    -- four digits: the text starts with a digit, not a sign
    obtain ⟨c, cs, hcs⟩ : ∃ c cs, (padded 4 y.toNat).toList = c :: cs := by
      cases h : (padded 4 y.toNat).toList with
      | nil =>
        have := length_padded 4 y.toNat (by decide) (by omega)
        rw [h] at this
        cases this
      | cons c cs => exact ⟨c, cs, rfl⟩
    have hc : c.isDigit = true := isDigit_of_mem_padded (hcs ▸ List.mem_cons_self)
    have hval := digitValue_padded 4 y.toNat
    rw [hcs] at hval ⊢
    unfold yearValue
    split
    · next _ ds heq =>
      obtain ⟨rfl, -⟩ := List.cons.inj heq
      exact absurd hc (by decide)
    · next _ ds heq =>
      obtain ⟨rfl, -⟩ := List.cons.inj heq
      exact absurd hc (by decide)
    · omega
  · next hy =>
    have hsign : (if y < 0 then "-" else "+").toList = [if y < 0 then '-' else '+'] := by
      split <;> rfl
    rw [String.toList_append, hsign, List.singleton_append]
    by_cases hneg : y < 0
    · simp only [hneg, ↓reduceIte, yearValue, digitValue_padded]
      omega
    · simp only [hneg, ↓reduceIte, yearValue, digitValue_padded]
      omega

/-- A year's text is a sign or a digit followed by digits, so it holds no `-` after its first
character. -/
theorem yearText_toList_cons (y : Int) :
    ∃ c ds, (yearText y).toList = c :: ds ∧ '-' ∉ ds := by
  have hnot : ∀ {w n : Nat} {ds : List Char}, ds <:+ (padded w n).toList → '-' ∉ ds :=
    fun hs hm => by cases isDigit_of_mem_padded (hs.subset hm)
  unfold yearText
  split
  · next hy =>
    cases h : (padded 4 y.toNat).toList with
    | nil =>
      have := length_padded 4 y.toNat (by decide) (by omega)
      rw [h] at this
      cases this
    | cons c cs => exact ⟨c, cs, rfl, hnot (h ▸ List.suffix_cons c cs)⟩
  · have hsign : (if y < 0 then "-" else "+").toList = [if y < 0 then '-' else '+'] := by
      split <;> rfl
    rw [String.toList_append, hsign, List.singleton_append]
    exact ⟨_, _, rfl, hnot (List.suffix_refl _)⟩

/-- A year followed by `-` splits off the rest, and the years are equal. -/
theorem year_cancel {y₁ y₂ : Int} {x z : List Char}
    (h : (yearText y₁).toList ++ '-' :: x = (yearText y₂).toList ++ '-' :: z) :
    y₁ = y₂ ∧ x = z := by
  obtain ⟨c₁, ds₁, h₁, hn₁⟩ := yearText_toList_cons y₁
  obtain ⟨c₂, ds₂, h₂, hn₂⟩ := yearText_toList_cons y₂
  rw [h₁, h₂, List.cons_append, List.cons_append, List.cons.injEq] at h
  obtain ⟨rfl, h⟩ := h
  obtain ⟨rfl, hxz⟩ := append_sep_inj hn₁ hn₂ h
  refine ⟨?_, hxz⟩
  rw [← yearValue_yearText y₁, ← yearValue_yearText y₂, h₁, h₂]

/-! ### The fixed-width stamp -/

/-- Month and day are below a hundred. -/
theorem date_fields_lt (t : Instant) : t.date.2.1 < 100 ∧ t.date.2.2 < 100 := by
  have hv := Civil.isValid_dateOf t.day
  have hm := monthLength_le (Civil.dateOf t.day).1 (Civil.dateOf t.day).2.1
  simp only [Civil.isValid, decide_eq_true_eq] at hv
  simp only [date]
  omega

/-- Hour, minute and shown second are below a hundred. -/
theorem clock_fields_lt (t : Instant) :
    t.clock.1 < 100 ∧ t.clock.2.1 < 100 ∧ t.clock.2.2 < 100 := by
  have := t.second_lt
  simp only [clock]
  split <;> omega

/-- The stamp is its five fields of two digits, joined by `-`, `T`, `-` and `-`. -/
theorem stampText_toList (t : Instant) :
    (stampText t).toList = (padded 2 t.date.2.1).toList ++ '-' :: ((padded 2 t.date.2.2).toList ++
      'T' :: ((padded 2 t.clock.1).toList ++ '-' :: ((padded 2 t.clock.2.1).toList ++
        '-' :: (padded 2 t.clock.2.2).toList))) := by
  have hdash : "-".toList = ['-'] := rfl
  have hT : "T".toList = ['T'] := rfl
  simp only [stampText, String.toList_append, hdash, hT, List.append_assoc, List.cons_append,
    List.nil_append]

/-- A stamp followed by anything splits off the rest, and the stamps show the same month, day
and time. -/
theorem stamp_cancel {t₁ t₂ : Instant} {x y : List Char}
    (h : (stampText t₁).toList ++ x = (stampText t₂).toList ++ y) :
    t₁.date.2 = t₂.date.2 ∧ t₁.clock = t₂.clock ∧ x = y := by
  obtain ⟨hmo₁, hd₁⟩ := date_fields_lt t₁
  obtain ⟨hmo₂, hd₂⟩ := date_fields_lt t₂
  obtain ⟨hh₁, hmi₁, hs₁⟩ := clock_fields_lt t₁
  obtain ⟨hh₂, hmi₂, hs₂⟩ := clock_fields_lt t₂
  rw [stampText_toList, stampText_toList] at h
  simp only [List.append_assoc, List.cons_append] at h
  -- five fields of two digits, one after another
  obtain ⟨hmo, h⟩ := padded_two_cancel hmo₁ hmo₂ h
  obtain ⟨-, h⟩ := List.cons.inj h
  obtain ⟨hd, h⟩ := padded_two_cancel hd₁ hd₂ h
  obtain ⟨-, h⟩ := List.cons.inj h
  obtain ⟨hh, h⟩ := padded_two_cancel hh₁ hh₂ h
  obtain ⟨-, h⟩ := List.cons.inj h
  obtain ⟨hmi, h⟩ := padded_two_cancel hmi₁ hmi₂ h
  obtain ⟨-, h⟩ := List.cons.inj h
  obtain ⟨hs, h⟩ := padded_two_cancel hs₁ hs₂ h
  exact ⟨Prod.ext hmo hd, Prod.ext hh (Prod.ext hmi hs), h⟩

/-- Attempts are told apart by their parts of the name. -/
theorem attemptText_inj {a₁ a₂ : Nat}
    (h : (attemptText a₁).toList = (attemptText a₂).toList) : a₁ = a₂ := by
  have hdash : "-".toList = ['-'] := rfl
  unfold attemptText at h
  by_cases h₁ : a₁ = 0 <;> by_cases h₂ : a₂ = 0
  · rw [h₁, h₂]
  · simp [h₁, h₂, String.toList_append, hdash] at h
  · simp [h₁, h₂, String.toList_append, hdash] at h
  · simp only [h₁, h₂, ↓reduceIte, String.toList_append, hdash, List.singleton_append,
      List.cons.injEq, true_and, String.toList_inj] at h
    rw [← digitValue_toString a₁, h, digitValue_toString]

/-- Two archive names are equal exactly when their subjects, their attempts, and the shown
year, month, day, hour, minute and second of their moments are. -/
theorem archiveObject_eq_iff {s₁ s₂ : Segment} {t₁ t₂ : Instant} {a₁ a₂ : Nat} :
    archiveObject s₁ t₁ a₁ = archiveObject s₂ t₂ a₂ ↔
      s₁ = s₂ ∧ a₁ = a₂ ∧ t₁.date = t₂.date ∧ t₁.clock = t₂.clock := by
  constructor
  · intro h
    have hl := congrArg String.toList h
    rw [archiveObject_toList, archiveObject_toList] at hl
    -- the subject ends at the first `/`
    obtain ⟨hs, hl⟩ := append_sep_inj s₁.slash_not_mem s₂.slash_not_mem hl
    -- the year ends at the next `-`
    obtain ⟨hy, hl⟩ := year_cancel (List.append_cancel_left hl)
    obtain ⟨hmd, hclock, hl⟩ := stamp_cancel hl
    have ha := attemptText_inj (List.append_cancel_right hl)
    obtain ⟨text₁, _, _⟩ := s₁
    obtain ⟨text₂, _, _⟩ := s₂
    obtain rfl : text₁ = text₂ := String.toList_inj.1 hs
    exact ⟨rfl, ha, Prod.ext hy hmd, hclock⟩
  · rintro ⟨rfl, rfl, hd, hc⟩
    simp only [archiveObject, fields, hd, hc]

end Naming

end Turnstile
