import Turnstile.Time.Civil

/-!
# The civil calendar: day counts and dates are inverse

`Civil.dateOf` turns a day count into a date by the era method and
`Civil.daysFrom` turns a date back into a day count. The main statements:
every date `dateOf` gives is a real date (`isValid_dateOf`), counting its days
gives the day back (`daysFrom_dateOf`), and its year lies in the 400-year era
of the day (`dateOf_year_bounds`).

The proof splits a day of an era into its century, four-year block, year of
the block and day of a year that starts in March (`EraDay`). Each division of
`dateOf` is then fixed by one small fact, and `omega` does the rest; on the
undivided formula `omega` alone does not find the argument.
-/

namespace Turnstile.Civil

/-- A day of a 400-year era as a century, a four-year block of it, a year of the block and
a day of that year. Years start in March, so a leap day is the last day of its year: only
the last year of a block has one, and the last block of a century only in the era's last
century. -/
structure EraDay where
  century : Int
  block : Int
  year : Int
  day : Int
  century_le : 0 ≤ century ∧ century ≤ 3
  block_le : 0 ≤ block ∧ block ≤ 24
  year_le : 0 ≤ year ∧ year ≤ 3
  day_le : 0 ≤ day ∧ day ≤ 364 ∨ day = 365 ∧ year = 3 ∧ (block < 24 ∨ century = 3)

namespace EraDay

/-- The days from the start of the era: centuries of 36524 days, blocks of 1461. -/
def offset (p : EraDay) : Int := 36524 * p.century + 1461 * p.block + 365 * p.year + p.day

/-- The year of the era, counted from March of its first year. -/
def yearOfEra (p : EraDay) : Int := 100 * p.century + 4 * p.block + p.year

theorem offset_le (p : EraDay) : 0 ≤ p.offset ∧ p.offset ≤ 146096 := by
  have := p.century_le; have := p.block_le; have := p.year_le; have := p.day_le
  unfold offset
  omega

theorem yearOfEra_le (p : EraDay) : 0 ≤ p.yearOfEra ∧ p.yearOfEra ≤ 399 := by
  have := p.century_le; have := p.block_le; have := p.year_le
  unfold yearOfEra
  omega

/-- Every day of an era has its split. -/
theorem exists_offset (doe : Int) (h0 : 0 ≤ doe) (h1 : doe ≤ 146096) :
    ∃ p : EraDay, p.offset = doe := by
  -- the last century has one day more, so its index is capped at 3
  let k := min (doe / 36524) 3
  let j := (doe - 36524 * k) / 1461
  let i := min ((doe - 36524 * k - 1461 * j) / 365) 3
  refine ⟨⟨k, j, i, doe - 36524 * k - 1461 * j - 365 * i, ?_, ?_, ?_, ?_⟩, ?_⟩
  · omega
  · omega
  · omega
  · omega
  · simp only [offset]
    omega

/-- The four-year count of `dateOf`: one more than the blocks only late in a leap year. -/
theorem offset_div_1460 (p : EraDay) :
    p.offset / 1460 = 25 * p.century + p.block ∧
        24 * p.century + p.block + 365 * p.year + p.day < 1460 ∨
      p.offset / 1460 = 25 * p.century + p.block + 1 ∧
        1460 ≤ 24 * p.century + p.block + 365 * p.year + p.day := by
  have := p.century_le; have := p.block_le; have := p.year_le; have := p.day_le
  unfold offset
  omega

theorem offset_div_century (p : EraDay) (h : p.offset < 146096) :
    p.offset / 36524 = p.century ∧ p.offset / 146096 = 0 := by
  have := p.century_le; have := p.block_le; have := p.year_le; have := p.day_le
  unfold offset at *
  omega

/-- The year of the era that `dateOf` computes is the split's. -/
theorem yoe_eq (p : EraDay) :
    (p.offset - p.offset / 1460 + p.offset / 36524 - p.offset / 146096) / 365 = p.yearOfEra := by
  have := p.century_le; have := p.block_le; have := p.year_le; have := p.day_le
  by_cases hend : p.offset < 146096
  · obtain ⟨h1, h2⟩ := p.offset_div_century hend
    rcases p.offset_div_1460 with ⟨h3, h4⟩ | ⟨h3, h4⟩
    · rw [h1, h2, h3]
      unfold yearOfEra offset at *
      omega
    · rw [h1, h2, h3]
      unfold yearOfEra offset at *
      omega
  · -- the era's last day, a leap day
    have hlast : p.offset = 146096 := by
      unfold offset at *
      omega
    rw [hlast]
    unfold yearOfEra offset at *
    omega

/-- The day of the year that `dateOf` computes is the split's. -/
theorem doy_eq (p : EraDay) :
    p.offset - (365 * p.yearOfEra + p.yearOfEra / 4 - p.yearOfEra / 100) = p.day := by
  have := p.century_le; have := p.block_le; have := p.year_le; have := p.day_le
  unfold yearOfEra offset
  omega

end EraDay

/-- Every day is a day of some era. -/
theorem exists_era (z : Int) : ∃ era, ∃ p : EraDay, z + 719468 = era * 146097 + p.offset := by
  obtain ⟨p, hp⟩ :=
    EraDay.exists_offset (z + 719468 - (z + 719468) / 146097 * 146097) (by omega) (by omega)
  exact ⟨(z + 719468) / 146097, p, by omega⟩

/-- The month of a year that starts in March: 0 for March, 11 for February. -/
def marchMonth (d : Int) : Int := (5 * d + 2) / 153

/-- The calendar month of a day of a year that starts in March. -/
def monthOf (d : Int) : Nat := (if marchMonth d < 10 then marchMonth d + 3 else marchMonth d - 9).toNat

/-- The day of the month of a day of a year that starts in March. -/
def dayOf (d : Int) : Nat := (d - (153 * marchMonth d + 2) / 5 + 1).toNat

/-- The calendar year of a split day: January and February belong to the next year. -/
def yearOf (era : Int) (p : EraDay) : Int :=
  era * 400 + p.yearOfEra + (if marchMonth p.day < 10 then 0 else 1)

theorem marchMonth_le (p : EraDay) : 0 ≤ marchMonth p.day ∧ marchMonth p.day ≤ 11 := by
  have := p.day_le
  unfold marchMonth
  omega

/-- `dateOf` read through the split of its day. -/
theorem dateOf_eq (z era : Int) (p : EraDay) (h : z + 719468 = era * 146097 + p.offset) :
    dateOf z = (yearOf era p, monthOf p.day, dayOf p.day) := by
  have hp := p.offset_le
  have hera : (z + 719468) / 146097 = era := by omega
  have hdoe : z + 719468 - era * 146097 = p.offset := by omega
  simp only [dateOf, hera, hdoe, EraDay.yoe_eq, EraDay.doy_eq]
  rw [show (5 * p.day + 2) / 153 = marchMonth p.day from rfl]
  have hm := marchMonth_le p
  simp only [yearOf, monthOf, dayOf]
  congr 1
  by_cases h10 : marchMonth p.day < 10
  · rw [if_pos h10, if_pos h10, if_neg (by omega)]
    omega
  · rw [if_neg h10, if_neg h10, if_pos (by omega)]
    omega

theorem monthOf_range (p : EraDay) : 1 ≤ monthOf p.day ∧ monthOf p.day ≤ 12 := by
  have := marchMonth_le p
  unfold monthOf
  split <;> omega

theorem dayOf_pos (d : Int) : 1 ≤ dayOf d := by
  unfold dayOf marchMonth
  omega

/-- The day of the month stays within the month; February 29 only in a leap year. -/
theorem dayOf_le_monthLength (era : Int) (p : EraDay) :
    dayOf p.day ≤ monthLength (yearOf era p) (monthOf p.day) := by
  rcases p.day_le with hd | ⟨hd, hy, hb⟩
  · unfold monthLength monthOf dayOf marchMonth
    split <;> split <;> (try split) <;> omega
  · -- the leap day: the next calendar year is divisible by 4, and by 400 if by 100
    have hc := p.century_le
    have hj := p.block_le
    have hleap : isLeap (yearOf era p) = true := by
      have h11 : marchMonth 365 = 11 := rfl
      simp only [isLeap, yearOf, EraDay.yearOfEra, hd, hy, h11, Int.reduceLT, ↓reduceIte,
        decide_eq_true_eq]
      omega
    rw [hd, show monthOf 365 = 2 from rfl, show dayOf 365 = 29 from rfl]
    simp [monthLength, hleap]

/-- Counting the days of a split day's date gives the day back. -/
theorem daysFrom_yearOf (era : Int) (p : EraDay) :
    daysFrom (yearOf era p) (monthOf p.day) (dayOf p.day) = era * 146097 + p.offset - 719468 := by
  have hd := p.day_le
  have hm := marchMonth_le p
  have hY := p.yearOfEra_le
  have hyear : (if monthOf p.day ≤ 2 then yearOf era p - 1 else yearOf era p) =
      era * 400 + p.yearOfEra := by
    unfold monthOf yearOf
    split <;> split <;> omega
  have hmp : (if monthOf p.day > 2 then (monthOf p.day : Int) - 3 else (monthOf p.day : Int) + 9) =
      marchMonth p.day := by
    unfold monthOf
    split <;> split <;> omega
  have hdoy : (153 * marchMonth p.day + 2) / 5 + (dayOf p.day : Int) - 1 = p.day := by
    unfold dayOf marchMonth
    omega
  have hdoe := p.doy_eq
  simp only [daysFrom, hyear, hmp, hdoy]
  omega

/-- Every date `dateOf` gives is a real date. -/
theorem isValid_dateOf (z : Int) : isValid (dateOf z).1 (dateOf z).2.1 (dateOf z).2.2 = true := by
  obtain ⟨era, p, h⟩ := exists_era z
  rw [dateOf_eq z era p h]
  have := monthOf_range p
  have := dayOf_pos p.day
  have := dayOf_le_monthLength era p
  simp only [isValid, decide_eq_true_eq]
  omega

/-- Counting the days of the date of a day gives the day back. -/
theorem daysFrom_dateOf (z : Int) : daysFrom (dateOf z).1 (dateOf z).2.1 (dateOf z).2.2 = z := by
  obtain ⟨era, p, h⟩ := exists_era z
  rw [dateOf_eq z era p h, daysFrom_yearOf]
  omega

/-- The year of a day lies in the 400-year era of the day. -/
theorem dateOf_year_bounds (z : Int) :
    (z + 719468) / 146097 * 400 ≤ (dateOf z).1 ∧ (dateOf z).1 ≤ (z + 719468) / 146097 * 400 + 400 := by
  obtain ⟨era, p, h⟩ := exists_era z
  have hp := p.offset_le
  have hY := p.yearOfEra_le
  have hera : (z + 719468) / 146097 = era := by omega
  rw [dateOf_eq z era p h, hera]
  simp only [yearOf]
  split <;> omega

end Turnstile.Civil
