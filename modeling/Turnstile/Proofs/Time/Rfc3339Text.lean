import Mathlib.Data.Nat.Digits.Defs
import Turnstile.Time.Rfc3339
import Turnstile.Proofs.Time.Calendar

/-!
# RFC 3339 text: written instants read back

`Instant.wholeText` writes an instant in UTC to the second and
`Instant.ofRfc3339` reads RFC 3339 text. Reading the text of an instant gives
the instant cut to the whole second (`ofRfc3339_wholeText`) when its year has
four digits and a leap second in it ends a minute. The second condition holds
of everything the reader gives (`ofRfc3339_leap`): an offset is a whole number
of minutes, so a second written as 60 stays the last second of a UTC minute.
-/

namespace Turnstile

namespace Rfc3339

theorem length_le_byteLength (cs : List Char) : cs.length ≤ byteLength cs := by
  induction cs with
  | nil => simp [byteLength]
  | cons c cs ih =>
    have := Char.utf8Size_pos c
    simp only [byteLength, List.map_cons, List.foldr_cons, List.length_cons] at *
    omega

theorem byteLength_append (a b : List Char) : byteLength (a ++ b) = byteLength a + byteLength b := by
  induction a with
  | nil => simp [byteLength]
  | cons c cs ih =>
    simp only [byteLength, List.map_cons, List.foldr_cons, List.cons_append] at *
    omega

theorem digitValue_eq_ofDigitChars (ds : List Char) : digitValue ds = Nat.ofDigitChars 10 ds 0 := by
  simp only [digitValue, Nat.ofDigitChars, Nat.mul_comm]

theorem digitValue_zeros (k : Nat) (ds : List Char) :
    digitValue (List.replicate k '0' ++ ds) = digitValue ds := by
  induction k with
  | zero => rfl
  | succ k ih =>
    simp only [digitValue, List.replicate_succ, List.cons_append, List.foldl_cons] at *
    exact ih

theorem ok_bind {ε α β : Type} (a : α) (f : α → Except ε β) : (Except.ok a >>= f) = f a := rfl

theorem expect_self (c : Char) (rest : List Char) : expect (c :: rest) c = .ok rest := by
  simp [expect]

theorem within_of_le {v lo hi : Nat} (h0 : lo ≤ v) (h1 : v ≤ hi) : within v lo hi = .ok v := by
  simp [within, h0, h1]

theorem require_of {c : Prop} [Decidable c] (h : c) (e : TimeFault) : require c e = .ok () := by
  rw [require, if_pos h]
  rfl

theorem nanos_utc : nanos ['Z'] = .ok (0, ['Z']) := rfl

theorem offset_utc : offset ['Z'] = .ok (0, []) := rfl

end Rfc3339

namespace Instant

theorem padded_toList (w n : Nat) :
    (padded w n).toList = List.replicate (w - (Nat.toDigits 10 n).length) '0' ++ Nat.toDigits 10 n := by
  simp [padded, Nat.repr_eq_ofList_toDigits, String.toList_append, String.toList_ofList]

theorem length_padded (w n : Nat) (hw : 0 < w) (hn : n < 10 ^ w) : (padded w n).toList.length = w := by
  have hlen : (Nat.toDigits 10 n).length ≤ w := (Nat.length_toDigits_le_iff (by decide) hw).mpr hn
  rw [padded_toList]
  simp only [List.length_append, List.length_replicate]
  omega

end Instant

open Rfc3339 in
/-- A number padded to its width is read back as a field of that width. -/
theorem fixedDigits_padded (w n : Nat) (rest : List Char) (hw : 0 < w) (hn : n < 10 ^ w) :
    fixedDigits ((Instant.padded w n).toList ++ rest) w = .ok (n, rest) := by
  have hw' := Instant.length_padded w n hw hn
  have hbytes : ¬ byteLength ((Instant.padded w n).toList ++ rest) < w := by
    have := length_le_byteLength ((Instant.padded w n).toList ++ rest)
    simp only [List.length_append] at this
    omega
  have hdig : ((Instant.padded w n).toList).all Char.isDigit = true := by
    rw [Instant.padded_toList, List.all_append, Bool.and_eq_true]
    constructor
    · simp [List.all_replicate]
    · simp only [List.all_eq_true]
      intro c hc
      exact Nat.isDigit_of_mem_toDigits (by decide) (by decide) hc
  simp only [fixedDigits, hbytes, if_false, List.take_left' hw', hdig, if_true, List.drop_left' hw']
  rw [Instant.padded_toList, digitValue_zeros, digitValue_eq_ofDigitChars, Nat.ofDigitChars_ten_toDigits]

namespace Instant

/-- The instant cut to the whole second; a leap second stays a leap second. -/
def wholeSecond (t : Instant) : Instant :=
  ⟨t.day, t.second, if 1000000000 ≤ t.nano then 1000000000 else 0, t.second_lt, by split <;> omega⟩

/-- A leap second, if the instant is in one, is the last second of a minute. -/
def LeapAtMinuteEnd (t : Instant) : Prop := 1000000000 ≤ t.nano → t.second % 60 = 59

instance (t : Instant) : Decidable t.LeapAtMinuteEnd := inferInstanceAs (Decidable (_ → _))

/-- The UTC year has the four digits RFC 3339 text gives it without a sign. -/
def HasFourDigitYear (t : Instant) : Prop := 0 ≤ t.date.1 ∧ t.date.1 ≤ 9999

instance (t : Instant) : Decidable t.HasFourDigitYear := inferInstanceAs (Decidable (_ ∧ _))

theorem yearText_of_le (y : Int) (h0 : 0 ≤ y) (h1 : y ≤ 9999) : yearText y = padded 4 y.toNat := by
  simp [yearText, h0, h1]

/-- The text of an instant with a four-digit year, field by field. -/
theorem wholeText_toList (t : Instant) (h0 : 0 ≤ t.date.1) (h1 : t.date.1 ≤ 9999) :
    t.wholeText.toList = (padded 4 t.date.1.toNat).toList ++ '-' :: ((padded 2 t.date.2.1).toList ++
      '-' :: ((padded 2 t.date.2.2).toList ++ 'T' :: ((padded 2 t.clock.1).toList ++
      ':' :: ((padded 2 t.clock.2.1).toList ++ ':' :: ((padded 2 t.clock.2.2).toList ++ ['Z']))))) := by
  have hd : t.dateTimeText = yearText t.date.1 ++ "-" ++ padded 2 t.date.2.1 ++ "-" ++
      padded 2 t.date.2.2 ++ "T" ++ padded 2 t.clock.1 ++ ":" ++ padded 2 t.clock.2.1 ++ ":" ++
      padded 2 t.clock.2.2 := rfl
  have hdash : ("-" : String).toList = ['-'] := by decide
  have hT : ("T" : String).toList = ['T'] := by decide
  have hcolon : (":" : String).toList = [':'] := by decide
  have hZ : ("Z" : String).toList = ['Z'] := by decide
  simp only [wholeText, hd, yearText_of_le _ h0 h1, String.toList_append, List.append_assoc,
    hdash, hT, hcolon, hZ, List.cons_append, List.nil_append]

theorem utf8ByteSize_eq_byteLength (s : String) : s.utf8ByteSize = Rfc3339.byteLength s.toList := by
  rw [← String.ofList_toList (s := s)]
  rw [String.toList_ofList]
  induction s.toList with
  | nil => rfl
  | cons c cs ih =>
    rw [String.ofList_cons, String.utf8ByteSize_append, String.utf8ByteSize_singleton, ih]
    simp only [Rfc3339.byteLength, List.map_cons, List.foldr_cons]

/-- Days whose year has four digits are days instants can have. -/
theorem day_in_range (z : Int) (h0 : 0 ≤ (Civil.dateOf z).1) (h1 : (Civil.dateOf z).1 ≤ 9999) :
    firstDay ≤ z ∧ z ≤ lastDay := by
  have hb := Civil.dateOf_year_bounds z
  have hf : firstDay = -96465292 := by decide
  have hl : lastDay = 95026236 := by decide
  omega

theorem make?_wholeSecond (t : Instant) (h : firstDay ≤ t.day ∧ t.day ≤ lastDay) :
    make? t.day t.second (if 1000000000 ≤ t.nano then 1000000000 else 0) = some t.wholeSecond := by
  have hs := t.second_lt
  have hn : (if 1000000000 ≤ t.nano then 1000000000 else 0) < 2000000000 := by split <;> omega
  simp only [make?, hs, hn, and_self, dif_pos, h, if_true]
  rfl

/-- The shown second is 60 exactly in a leap second, and the clock adds up to the second of
the day, a leap second counting as the second before it. -/
theorem clock_wall (t : Instant) (hleap : t.LeapAtMinuteEnd) :
    (t.clock.2.2 = 60 ↔ 1000000000 ≤ t.nano) ∧
      t.clock.1 * 3600 + t.clock.2.1 * 60 + (if t.clock.2.2 = 60 then 59 else t.clock.2.2) =
        t.second := by
  unfold clock
  by_cases hn : 1000000000 ≤ t.nano
  · have h59 := hleap hn
    simp only [hn, if_true, iff_true]
    refine ⟨by omega, ?_⟩
    rw [if_pos (by omega)]
    omega
  · simp only [hn, if_false, iff_false]
    refine ⟨by omega, ?_⟩
    rw [if_neg (by omega)]
    omega

theorem monthLength_le (y : Int) (m : Nat) : Civil.monthLength y m ≤ 31 := by
  unfold Civil.monthLength
  split <;> (try split) <;> omega

/-- Reading the text of an instant gives the instant cut to the whole second. -/
theorem ofRfc3339_wholeText (t : Instant) (hleap : t.LeapAtMinuteEnd) (hy : t.HasFourDigitYear) :
    ofRfc3339 t.wholeText = .ok t.wholeSecond := by
  obtain ⟨h0, h1⟩ := hy
  have hlist := wholeText_toList t h0 h1
  have hv : Civil.isValid t.date.1 t.date.2.1 t.date.2.2 = true := Civil.isValid_dateOf t.day
  have hml := monthLength_le t.date.1 t.date.2.1
  have hv' := hv
  simp only [Civil.isValid, decide_eq_true_eq] at hv'
  have hy4 : t.date.1.toNat < 10 ^ 4 := by omega
  have hmo : t.date.2.1 < 10 ^ 2 := by omega
  have hd : t.date.2.2 < 10 ^ 2 := by omega
  have hs := t.second_lt
  have hh : t.clock.1 < 10 ^ 2 := by simp only [clock]; omega
  have hmi : t.clock.2.1 < 10 ^ 2 := by simp only [clock]; omega
  have hsc : t.clock.2.2 < 10 ^ 2 := by simp only [clock]; split <;> omega
  have hsize : 20 ≤ t.wholeText.utf8ByteSize := by
    have hb := Rfc3339.length_le_byteLength t.wholeText.toList
    rw [utf8ByteSize_eq_byteLength]
    rw [hlist] at hb ⊢
    simp only [List.length_append, List.length_cons] at hb
    rw [length_padded 4 _ (by decide) hy4, length_padded 2 _ (by decide) hmo,
      length_padded 2 _ (by decide) hd, length_padded 2 _ (by decide) hh,
      length_padded 2 _ (by decide) hmi, length_padded 2 _ (by decide) hsc] at hb
    omega
  have w1 : Rfc3339.within t.date.2.1 1 12 = .ok t.date.2.1 :=
    Rfc3339.within_of_le hv'.1 hv'.2.1
  have w2 : Rfc3339.within t.date.2.2 1 31 = .ok t.date.2.2 :=
    Rfc3339.within_of_le hv'.2.2.1 (by omega)
  have w3 : Rfc3339.within t.clock.1 0 23 = .ok t.clock.1 :=
    Rfc3339.within_of_le (Nat.zero_le _) (by simp only [clock]; omega)
  have w4 : Rfc3339.within t.clock.2.1 0 59 = .ok t.clock.2.1 :=
    Rfc3339.within_of_le (Nat.zero_le _) (by simp only [clock]; omega)
  have w5 : Rfc3339.within t.clock.2.2 0 60 = .ok t.clock.2.2 :=
    Rfc3339.within_of_le (Nat.zero_le _) (by simp only [clock]; split <;> omega)
  unfold ofRfc3339
  simp only [Rfc3339.require_of hsize, hlist, Rfc3339.readDate, Rfc3339.readClock,
    fixedDigits_padded _ _ _ (by decide) hy4,
    fixedDigits_padded _ _ _ (by decide) hmo, fixedDigits_padded _ _ _ (by decide) hd,
    fixedDigits_padded _ _ _ (by decide) hh, fixedDigits_padded _ _ _ (by decide) hmi,
    fixedDigits_padded _ _ _ (by decide) hsc, Rfc3339.ok_bind, Rfc3339.expect_self,
    w1, w2, w3, w4, w5, true_or, if_true, pure_bind, Rfc3339.nanos_utc, Rfc3339.offset_utc]
  simp only [Rfc3339.ok_bind, Int.natAbs_zero, Int.toNat_of_nonneg h0, hv,
    Rfc3339.require_of (Nat.zero_le _), Rfc3339.require_of List.isEmpty_nil]
  obtain ⟨hsixty, hwall⟩ := clock_wall t hleap
  have hnano : (0 + if t.clock.2.2 = 60 then 1000000000 else 0) =
      (if 1000000000 ≤ t.nano then 1000000000 else 0) := by
    by_cases hn : 1000000000 ≤ t.nano
    · rw [if_pos (hsixty.mpr hn), if_pos hn]
    · rw [if_neg (fun h => hn (hsixty.mp h)), if_neg hn]
  have hdiv : ((t.second : Nat) : Int) / 86400 = 0 := by omega
  have hmod : (((t.second : Nat) : Int) % 86400).toNat = t.second := by omega
  have hdays : Civil.daysFrom t.date.1 t.date.2.1 t.date.2.2 = t.day := Civil.daysFrom_dateOf t.day
  simp only [Rfc3339.require_of trivial, Rfc3339.ok_bind, ofFields, Int.toNat_of_nonneg h0, hwall,
    hnano, Int.sub_zero, hdiv, hmod, hdays, Int.add_zero,
    make?_wholeSecond t (day_in_range t.day h0 h1)]
  rfl

end Instant

/-- A chain of steps succeeds when its first step does and the rest does from that value. -/
theorem Except.bind_eq_ok {ε α β : Type} {x : Except ε α} {f : α → Except ε β} {b : β} :
    (x >>= f) = .ok b ↔ ∃ a, x = .ok a ∧ f a = .ok b := by
  cases x with
  | error e => simp [bind, Except.bind]
  | ok a => simp [bind, Except.bind]

theorem Rfc3339.toNat_of_isDigit {d : Char} (hd : d.isDigit = true) : 48 ≤ d.toNat ∧ d.toNat ≤ 57 := by
  simp only [Char.isDigit, Bool.and_eq_true, decide_eq_true_eq] at hd
  exact ⟨UInt32.le_iff_toNat_le.mp hd.1, UInt32.le_iff_toNat_le.mp hd.2⟩

/-- Digits read onto `acc` stay below `acc + 1` shifted by their count. -/
theorem Rfc3339.foldl_digits_lt (ds : List Char) (acc : Nat) (h : ∀ d ∈ ds, d.isDigit = true) :
    ds.foldl (fun n c => n * 10 + (c.toNat - '0'.toNat)) acc < (acc + 1) * 10 ^ ds.length := by
  induction ds generalizing acc with
  | nil => simp
  | cons d ds ih =>
    have hd := Rfc3339.toNat_of_isDigit (h d (by simp))
    have hv : d.toNat - '0'.toNat ≤ 9 := by
      change d.toNat - 48 ≤ 9
      omega
    have hrest := ih (acc * 10 + (d.toNat - '0'.toNat)) (fun x hx => h x (by simp [hx]))
    simp only [List.foldl_cons, List.length_cons]
    calc _ < (acc * 10 + (d.toNat - '0'.toNat) + 1) * 10 ^ ds.length := hrest
      _ ≤ ((acc + 1) * 10) * 10 ^ ds.length := Nat.mul_le_mul_right _ (by omega)
      _ = (acc + 1) * 10 ^ (ds.length + 1) := by rw [Nat.pow_succ, Nat.mul_assoc, Nat.mul_comm 10]

/-- A fraction of a second is less than a second. -/
theorem Rfc3339.fraction_lt {cs rest : List Char} {n : Nat} (h : Rfc3339.fraction cs = .ok (n, rest)) :
    n < 1000000000 := by
  unfold Rfc3339.fraction at h
  split at h
  · cases h
  split at h
  · cases h
  cases h
  generalize hds : List.take 9 (List.takeWhile Char.isDigit _) = ds
  have hdig : ∀ d ∈ ds, d.isDigit = true := fun d hd => by
    rw [← hds] at hd
    exact List.all_eq_true.mp List.all_takeWhile d (List.mem_of_mem_take hd)
  have hlen : ds.length ≤ 9 := by
    rw [← hds]
    exact List.length_take_le _ _
  have hlt := Rfc3339.foldl_digits_lt ds 0 hdig
  simp only [Nat.zero_add, Nat.one_mul] at hlt
  have hpow : 10 ^ ds.length * 10 ^ (9 - ds.length) = 1000000000 := by
    rw [← Nat.pow_add, Nat.add_sub_cancel' hlen]
  calc Rfc3339.digitValue ds * Nat.pow 10 (9 - ds.length)
      < 10 ^ ds.length * 10 ^ (9 - ds.length) :=
        Nat.mul_lt_mul_of_pos_right hlt (Nat.pow_pos (by decide))
    _ = 1000000000 := hpow

/-- Every value a computation that may fail gives has the property. -/
def Except.Yields {ε α : Type} (x : Except ε α) (P : α → Prop) : Prop := ∀ a, x = .ok a → P a

theorem Except.yields_pure {ε α : Type} {P : α → Prop} {a : α} (h : P a) :
    Except.Yields (pure a : Except ε α) P := by
  intro b hb
  cases hb
  exact h

theorem Except.yields_throw {ε α : Type} {P : α → Prop} (e : ε) : Except.Yields (throw e : Except ε α) P := by
  intro b hb
  cases hb

theorem Except.Yields.bind {ε α β : Type} {x : Except ε α} {f : α → Except ε β} {Q : α → Prop}
    {P : β → Prop} (hx : Except.Yields x Q) (hf : ∀ a, Q a → Except.Yields (f a) P) : Except.Yields (x >>= f) P := by
  intro b hb
  obtain ⟨a, ha, hb⟩ := Except.bind_eq_ok.mp hb
  exact hf a (hx a ha) b hb

theorem Except.yields_any {ε α : Type} (x : Except ε α) : Except.Yields x fun _ => True := fun _ _ => trivial

/-- An offset is a whole number of minutes. -/
theorem Rfc3339.offset_dvd (cs : List Char) :
    Except.Yields (Rfc3339.offset cs) fun p => p.1 % 60 = 0 := by
  unfold Rfc3339.offset
  split
  · exact Except.yields_throw _
  split
  · exact Except.yields_pure (by simp)
  -- past the sign, the hour digits, the check on them, the colon and the minutes, the offset is
  -- plus or minus hours and minutes
  refine (Except.yields_any _).bind fun negative _ => (Except.yields_any _).bind fun p _ => ?_
  obtain ⟨h1, h2⟩ := p
  refine (Except.yields_any _).bind fun _ _ => (Except.yields_any _).bind fun rest _ =>
    (Except.yields_any _).bind fun minutes _ => Except.yields_pure ?_
  dsimp only
  split <;> omega

theorem Instant.make?_some {day : Int} {second nano : Nat} {t : Instant}
    (h : Instant.make? day second nano = some t) : t.day = day ∧ t.second = second ∧ t.nano = nano := by
  unfold Instant.make? at h
  split at h
  · split at h
    · cases h
      exact ⟨rfl, rfl, rfl⟩
    · cases h
  · cases h

/-- The instant made from a wall clock and an offset of whole minutes: only a second written
as 60, at the end of a wall-clock minute, is a leap second. -/
theorem Instant.make?_leap {D W off : Int} {second n0 : Nat} {t : Instant}
    (h : Instant.make? D ((W - off) % 86400).toNat (n0 + if second = 60 then 1000000000 else 0) = some t)
    (hn : n0 < 1000000000) (hoff : off % 60 = 0) (hW : second = 60 → W % 60 = 59) :
    t.LeapAtMinuteEnd := by
  obtain ⟨_, hs, hnano⟩ := Instant.make?_some h
  intro hbig
  rw [hs]
  by_cases h60 : second = 60
  · have := hW h60
    omega
  · rw [if_neg h60] at hnano
    omega

/-- The nanoseconds read after the seconds are less than a second. -/
theorem Rfc3339.nanos_yields (cs : List Char) :
    Except.Yields (Rfc3339.nanos cs) fun p => p.1 < 1000000000 := by
  unfold Rfc3339.nanos
  split
  · exact fun _ h => Rfc3339.fraction_lt h
  · exact Except.yields_pure (by simp)

/-- Fields with less than a second of nanoseconds, at an offset of whole minutes, make an instant
whose leap second, if any, ends a minute: the wall clock of a second written as 60 is the last
second of its minute, and the offset keeps it so. -/
theorem Instant.ofFields_leap {year month day hour minute second nano : Nat} {off : Int}
    (hn : nano < 1000000000) (hoff : off % 60 = 0) :
    Except.Yields (Instant.ofFields year month day hour minute second nano off)
      Instant.LeapAtMinuteEnd := by
  unfold Instant.ofFields
  dsimp only
  split
  · next t h =>
    exact Except.yields_pure (Instant.make?_leap h hn hoff fun h60 => by
      simp only [h60, ↓reduceIte]
      omega)
  · exact Except.yields_throw _

/-- Every instant read has a leap second only at the end of a minute. -/
theorem Instant.ofRfc3339_leap (s : String) :
    Except.Yields (Instant.ofRfc3339 s) Instant.LeapAtMinuteEnd := by
  unfold Instant.ofRfc3339
  -- the date and the clock only narrow the text, and the checks after the offset pass on or fail;
  -- the nanoseconds and the offset are what the fields need
  refine (Except.yields_any _).bind fun _ _ => (Except.yields_any _).bind fun p _ => ?_
  obtain ⟨⟨year, month, day⟩, cs⟩ := p
  refine (Except.yields_any _).bind fun p _ => ?_
  obtain ⟨⟨hour, minute, second⟩, cs⟩ := p
  refine (Rfc3339.nanos_yields _).bind fun p hn => ?_
  obtain ⟨nano, cs⟩ := p
  refine (Rfc3339.offset_dvd _).bind fun p hoff => ?_
  obtain ⟨off, cs⟩ := p
  refine (Except.yields_any _).bind fun _ _ => (Except.yields_any _).bind fun _ _ =>
    (Except.yields_any _).bind fun _ _ => ?_
  exact Instant.ofFields_leap hn hoff

end Turnstile
