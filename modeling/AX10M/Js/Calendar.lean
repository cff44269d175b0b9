/-
  The months of the calendar of `Js.Date`.

  `monthIndex` counts the months since the year 0, `monthStart` is the instant a month
  starts at.  The main result is `monthIndex_eq_iff`: an instant is in the month its year
  and its month say, so that two instants are in one month exactly when they lie between
  the same two starts.
-/
import AX10M.Js.Date
import Mathlib.Order.Basic

namespace Js.Date

/-- The month of an instant, counted from the first of the year 0. -/
def monthIndex (ms : ℤ) : ℤ := 12 * year ms + month ms

/-- The day a month starts on. -/
def monthStartDay (n : ℤ) : ℤ := daysFromCivil (n / 12) (n % 12 + 1) 1

/-- The instant a month starts at. -/
def monthStart (n : ℤ) : ℤ := monthStartDay n * msPerDay

theorem utc_eq_monthStart (y m : ℤ) : utc y m 1 = monthStart (12 * y + m) := by
  have hy : y + m / 12 = (12 * y + m) / 12 := by omega
  have hm : m % 12 = (12 * y + m) % 12 := by omega
  rw [utc, monthStart, monthStartDay, hy, hm]

/-! ### Years from March to February -/

/-- The first of March of a year: leap days come last, so a year has one length
    but for its last day. -/
def yearStart (y : ℤ) : ℤ :=
  y / 400 * 146097 + (y % 400 * 365 + y % 400 / 4 - y % 400 / 100) - 719468

theorem yearStart_succ (y : ℤ) :
    yearStart y + 365 ≤ yearStart (y + 1) ∧ yearStart (y + 1) ≤ yearStart y + 366 := by
  unfold yearStart
  constructor
  · omega
  · omega

theorem monthStartDay_eq (n : ℤ) :
    monthStartDay n = yearStart ((n - 2) / 12) + (153 * ((n - 2) % 12) + 2) / 5 := by
  have hmod : ∀ y : ℤ, y - y / 400 * 400 = y % 400 := by
    intro y
    omega
  unfold monthStartDay daysFromCivil yearStart
  by_cases h : n % 12 + 1 ≤ 2
  · have hgt : ¬ n % 12 + 1 > 2 := by omega
    have hy : (n - 2) / 12 = n / 12 - 1 := by omega
    have hm : (n - 2) % 12 = n % 12 + 1 + 9 := by omega
    simp only [h, if_true, hgt, if_false, hmod, hy, hm]
    omega
  · have hgt : n % 12 + 1 > 2 := by omega
    have hy : (n - 2) / 12 = n / 12 := by omega
    have hm : (n - 2) % 12 = n % 12 + 1 - 3 := by omega
    simp only [h, if_true, hgt, if_false, hmod, hy, hm]
    omega

theorem monthStartDay_succ (n : ℤ) : monthStartDay n + 28 ≤ monthStartDay (n + 1) := by
  have h := yearStart_succ ((n - 2) / 12)
  rw [monthStartDay_eq, monthStartDay_eq]
  by_cases hm : (n - 2) % 12 = 11
  · have hy : (n + 1 - 2) / 12 = (n - 2) / 12 + 1 := by omega
    rw [hy]
    omega
  · have hy : (n + 1 - 2) / 12 = (n - 2) / 12 := by omega
    rw [hy]
    omega

theorem monthStartDay_succ_le (n : ℤ) : monthStartDay (n + 1) ≤ monthStartDay n + 31 := by
  have h := yearStart_succ ((n - 2) / 12)
  rw [monthStartDay_eq, monthStartDay_eq]
  by_cases hm : (n - 2) % 12 = 11
  · have hy : (n + 1 - 2) / 12 = (n - 2) / 12 + 1 := by omega
    rw [hy]
    omega
  · have hy : (n + 1 - 2) / 12 = (n - 2) / 12 := by omega
    rw [hy]
    omega

theorem monthStartDay_le {n k : ℤ} (h : n ≤ k) : monthStartDay n ≤ monthStartDay k := by
  induction k, h using Int.leInduction with
  | base => exact Int.le_refl _
  | succ k _ ih =>
    have hk := monthStartDay_succ k
    omega

theorem monthStart_le {n k : ℤ} (h : n ≤ k) : monthStart n ≤ monthStart k := by
  have hd := monthStartDay_le h
  unfold monthStart msPerDay
  omega

/-! ### The day of a number -/

/-- The day of its era of 400 years. -/
def dayOfEra (z : ℤ) : ℤ := z + 719468 - (z + 719468) / 146097 * 146097

/-- The year of the era a day is in. -/
def yearOfEra (doe : ℤ) : ℤ := (doe - doe / 1460 + doe / 36524 - doe / 146096) / 365

/-- The day of the year, from March. -/
def dayOfYear (doe : ℤ) : ℤ :=
  doe - (365 * yearOfEra doe + yearOfEra doe / 4 - yearOfEra doe / 100)

theorem yearOfEra_bounds {doe : ℤ} (h0 : 0 ≤ doe) (h1 : doe < 146097) :
    0 ≤ yearOfEra doe ∧ yearOfEra doe < 400 := by
  unfold yearOfEra
  omega

/-- A day is in its year of the era: not before it, and before the next one. -/
theorem dayOfYear_bounds {doe : ℤ} (h0 : 0 ≤ doe) (h1 : doe < 146097) :
    0 ≤ dayOfYear doe ∧ dayOfYear doe ≤ 365 ∧ (yearOfEra doe = 399 ∨
      doe < 365 * (yearOfEra doe + 1) + (yearOfEra doe + 1) / 4 - (yearOfEra doe + 1) / 100) := by
  have hf : doe / 36524 = 0 ∨ doe / 36524 = 1 ∨ doe / 36524 = 2 ∨ doe / 36524 = 3 ∨
      doe / 36524 = 4 := by omega
  have hg : doe / 146096 = 0 ∨ doe / 146096 = 1 := by omega
  have he : doe = 1460 * (doe / 1460) + doe % 1460 := by omega
  have hr : 0 ≤ doe % 1460 ∧ doe % 1460 < 1460 := by omega
  unfold dayOfYear
  generalize hy : yearOfEra doe = yoe
  unfold yearOfEra at hy
  generalize doe % 1460 = r at *
  generalize doe / 1460 = e at *
  -- the bounds are tight at the ends of the centuries, so they are counted one by one
  have hd : yoe / 100 = 0 ∨ yoe / 100 = 1 ∨ yoe / 100 = 2 ∨ yoe / 100 = 3 := by omega
  have hl : yoe % 100 = 99 ∨ (yoe + 1) / 100 = yoe / 100 := by omega
  rcases hf with hf | hf | hf | hf | hf <;> rcases hd with hd | hd | hd | hd <;>
    rcases hg with hg | hg <;> rcases hl with hl | hl <;> rw [hf, hg] at hy <;> rw [hd] <;>
    refine ⟨?_, ?_, ?_⟩ <;> omega

/-- Months counted from March, months counted from January. -/
theorem monthFromMarch (y mp : ℤ) (h0 : 0 ≤ mp) (h1 : mp ≤ 11) :
    12 * (y + if (if mp < 10 then mp + 3 else mp - 9) ≤ 2 then 1 else 0) +
      ((if mp < 10 then mp + 3 else mp - 9) - 1) = 12 * y + mp + 2 := by
  split_ifs <;> omega

/-- The day `z` is in the month `mp` (from March) of a year `y` (from March). -/
theorem civilFromDays_spec (z : ℤ) : ∃ y mp : ℤ, 0 ≤ mp ∧ mp ≤ 11 ∧
    12 * (civilFromDays z).1 + ((civilFromDays z).2.1 - 1) = 12 * y + mp + 2 ∧
    yearStart y + (153 * mp + 2) / 5 + (civilFromDays z).2.2 - 1 = z ∧
    yearStart y + (153 * mp + 2) / 5 ≤ z ∧ z < yearStart (y + 1) ∧
    (mp < 11 → z < yearStart y + (153 * (mp + 1) + 2) / 5) := by
  have h0 : 0 ≤ dayOfEra z := by unfold dayOfEra; omega
  have h1 : dayOfEra z < 146097 := by unfold dayOfEra; omega
  obtain ⟨hdoy, hlast, hnext⟩ := dayOfYear_bounds h0 h1
  obtain ⟨hy0, hy1⟩ := yearOfEra_bounds h0 h1
  have hindex := monthFromMarch (yearOfEra (dayOfEra z) + (z + 719468) / 146097 * 400)
    ((5 * dayOfYear (dayOfEra z) + 2) / 153) (by omega) (by omega)
  have hz : z = dayOfEra z + (z + 719468) / 146097 * 146097 - 719468 := by
    unfold dayOfEra
    omega
  have hdoe : dayOfEra z = dayOfYear (dayOfEra z) + (365 * yearOfEra (dayOfEra z) +
      yearOfEra (dayOfEra z) / 4 - yearOfEra (dayOfEra z) / 100) := by
    unfold dayOfYear
    omega
  have hday : (civilFromDays z).2.2 = dayOfYear (dayOfEra z) -
      (153 * ((5 * dayOfYear (dayOfEra z) + 2) / 153) + 2) / 5 + 1 := rfl
  refine ⟨yearOfEra (dayOfEra z) + (z + 719468) / 146097 * 400,
    (5 * dayOfYear (dayOfEra z) + 2) / 153, by omega, by omega, hindex, ?_⟩
  rw [hday]
  clear hindex hday
  generalize (z + 719468) / 146097 = era at *
  generalize dayOfYear (dayOfEra z) = doy at *
  generalize yearOfEra (dayOfEra z) = yoe at *
  generalize dayOfEra z = doe at *
  have hstart : yearStart (yoe + era * 400) =
      era * 146097 + (yoe * 365 + yoe / 4 - yoe / 100) - 719468 := by
    have hera : (yoe + era * 400) / 400 = era := by omega
    have hyoe : (yoe + era * 400) % 400 = yoe := by omega
    rw [yearStart, hera, hyoe]
  refine ⟨by omega, by omega, ?_, by omega⟩
  by_cases hc : yoe = 399
  · have hera : (yoe + era * 400 + 1) / 400 = era + 1 := by omega
    have hyoe : (yoe + era * 400 + 1) % 400 = 0 := by omega
    rw [yearStart, hera, hyoe]
    omega
  · have hera : (yoe + era * 400 + 1) / 400 = era := by omega
    have hyoe : (yoe + era * 400 + 1) % 400 = yoe + 1 := by omega
    rw [yearStart, hera, hyoe]
    omega

/-- There are twelve months. -/
theorem civilFromDays_month (z : ℤ) :
    1 ≤ (civilFromDays z).2.1 ∧ (civilFromDays z).2.1 ≤ 12 := by
  have h0 : 0 ≤ dayOfEra z := by unfold dayOfEra; omega
  have h1 : dayOfEra z < 146097 := by unfold dayOfEra; omega
  obtain ⟨hdoy, hlast, -⟩ := dayOfYear_bounds h0 h1
  have hmonth : (civilFromDays z).2.1 = if (5 * dayOfYear (dayOfEra z) + 2) / 153 < 10 then
      (5 * dayOfYear (dayOfEra z) + 2) / 153 + 3
    else (5 * dayOfYear (dayOfEra z) + 2) / 153 - 9 := rfl
  rw [hmonth]
  split_ifs <;> omega

/-- A day is in the month its date says. -/
theorem monthStartDay_bounds (z : ℤ) :
    monthStartDay (12 * (civilFromDays z).1 + ((civilFromDays z).2.1 - 1)) ≤ z ∧
    z < monthStartDay (12 * (civilFromDays z).1 + ((civilFromDays z).2.1 - 1) + 1) := by
  obtain ⟨y, mp, h0, h11, hn, -, hle, hyear, hlt⟩ := civilFromDays_spec z
  rw [hn, monthStartDay_eq, monthStartDay_eq]
  have hy : (12 * y + mp + 2 - 2) / 12 = y := by omega
  have hm : (12 * y + mp + 2 - 2) % 12 = mp := by omega
  rw [hy, hm]
  constructor
  · exact hle
  · by_cases hmp : mp < 11
    · have hy' : (12 * y + mp + 2 + 1 - 2) / 12 = y := by omega
      have hm' : (12 * y + mp + 2 + 1 - 2) % 12 = mp + 1 := by omega
      rw [hy', hm']
      exact hlt hmp
    · have hy' : (12 * y + mp + 2 + 1 - 2) / 12 = y + 1 := by omega
      have hm' : (12 * y + mp + 2 + 1 - 2) % 12 = 0 := by omega
      rw [hy', hm']
      omega

/-- The day of the month counts the days from the start of the month. -/
theorem civilFromDays_day (z : ℤ) : (civilFromDays z).2.2 =
    z - monthStartDay (12 * (civilFromDays z).1 + ((civilFromDays z).2.1 - 1)) + 1 := by
  obtain ⟨y, mp, h0, h11, hn, hday, -⟩ := civilFromDays_spec z
  rw [hn, monthStartDay_eq]
  have hy : (12 * y + mp + 2 - 2) / 12 = y := by omega
  have hm : (12 * y + mp + 2 - 2) % 12 = mp := by omega
  rw [hy, hm]
  omega

/-! ### The month of an instant -/

theorem month_bounds (ms : ℤ) : 0 ≤ month ms ∧ month ms ≤ 11 := by
  have h := civilFromDays_month (ms / msPerDay)
  unfold month
  omega

theorem date_eq (ms : ℤ) : date ms = ms / msPerDay - monthStartDay (monthIndex ms) + 1 :=
  civilFromDays_day (ms / msPerDay)

theorem monthStart_monthIndex (ms : ℤ) :
    monthStart (monthIndex ms) ≤ ms ∧ ms < monthStart (monthIndex ms + 1) := by
  obtain ⟨hle, hlt⟩ := monthStartDay_bounds (ms / msPerDay)
  unfold monthStart monthIndex year month
  unfold msPerDay at *
  omega

/-- An instant is in a month exactly between its start and the start of the next. -/
theorem monthIndex_eq_iff {ms n : ℤ} :
    monthIndex ms = n ↔ monthStart n ≤ ms ∧ ms < monthStart (n + 1) := by
  obtain ⟨hle, hlt⟩ := monthStart_monthIndex ms
  constructor
  · rintro rfl
    exact ⟨hle, hlt⟩
  · rintro ⟨hle', hlt'⟩
    rcases Int.lt_trichotomy (monthIndex ms) n with h | h | h
    · have := monthStart_le (show monthIndex ms + 1 ≤ n by omega)
      omega
    · exact h
    · have := monthStart_le (show n + 1 ≤ monthIndex ms by omega)
      omega

theorem monthStart_lt (n : ℤ) : monthStart n + 28 * msPerDay ≤ monthStart (n + 1) := by
  have h := monthStartDay_succ n
  unfold monthStart msPerDay
  omega

/-- An instant in the first four weeks of a month is of that month. -/
theorem monthIndex_monthStart_add {n d : ℤ} (h0 : 0 ≤ d) (h1 : d < 28 * msPerDay) :
    monthIndex (monthStart n + d) = n := by
  have hn := monthStart_lt n
  rw [monthIndex_eq_iff]
  omega

example : monthIndex 1786881600000 = 12 * 2026 + 7 := by decide +kernel

end Js.Date
