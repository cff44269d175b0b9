/-
  The times of retries (`@ax10m/recovery-engine`, `timing.ts`).

  `PaydayAfter`: the noon of the first 1st or 15th of a month after the day of an instant.
  `retryInstant_iff`: a retry keeps the interval of the guardrail, and one for lack of funds is
  timed to two days from now or to the payday, exactly when the year is not taken for one of the
  twentieth century, or two days from now are chosen before the payday is.
-/
import AX10M.Guardrail
import AX10M.Js.Calendar
import AX10M.Js.Instants
import AX10M.RecoveryEngine.Objective

namespace AX10M

open Js Js.Date

/-! ## Paydays -/

/-- Noon of a 1st or a 15th. -/
def IsPayday (t : ℤ) : Prop := t % msPerDay = 12 * msPerHour ∧ (date t = 1 ∨ date t = 15)

/-- The first payday on a day after the day of an instant. -/
def PaydayAfter (now t : ℤ) : Prop :=
  IsPayday t ∧ now / msPerDay < t / msPerDay ∧
    ∀ t', IsPayday t' → now / msPerDay < t' / msPerDay → t ≤ t'

theorem PaydayAfter.unique {now t t' : ℤ} (h : PaydayAfter now t) (h' : PaydayAfter now t') :
    t = t' :=
  le_antisymm (h.2.2 t' h'.1 h'.2.1) (h'.2.2 t h.1 h.2.1)

/-- The payday of a month: noon of its 15th, or of the 1st of the next month. -/
def payday (now : ℤ) : ℤ :=
  if date now < 15 then monthStart (monthIndex now) + 14 * msPerDay + 12 * msPerHour
  else monthStart (monthIndex now + 1) + 12 * msPerHour

/-- An instant of a month, by its day and the time of the day. -/
theorem of_monthStart {n d r : ℤ} (hd : 0 ≤ d ∧ d < 28) (hr : 0 ≤ r ∧ r < msPerDay) :
    monthIndex (monthStart n + d * msPerDay + r) = n ∧
      date (monthStart n + d * msPerDay + r) = d + 1 ∧
      (monthStart n + d * msPerDay + r) / msPerDay = monthStartDay n + d ∧
      (monthStart n + d * msPerDay + r) % msPerDay = r := by
  have hindex : monthIndex (monthStart n + (d * msPerDay + r)) = n := by
    refine monthIndex_monthStart_add ?_ ?_
    · unfold msPerDay at *
      omega
    · unfold msPerDay at *
      omega
  rw [← add_assoc] at hindex
  have hday : (monthStart n + d * msPerDay + r) / msPerDay = monthStartDay n + d := by
    unfold monthStart msPerDay at *
    omega
  refine ⟨hindex, ?_, hday, ?_⟩
  · rw [date_eq, hindex, hday]
    omega
  · unfold monthStart msPerDay at *
    omega

/-- The day of an instant is one of its month. -/
theorem day_bounds (t : ℤ) : 1 ≤ date t ∧
    t / msPerDay = monthStartDay (monthIndex t) + (date t - 1) ∧
    t / msPerDay < monthStartDay (monthIndex t + 1) := by
  have hbounds : monthStartDay (monthIndex t) ≤ t / msPerDay ∧
      t / msPerDay < monthStartDay (monthIndex t + 1) := monthStartDay_bounds (t / msPerDay)
  have hdate := date_eq t
  omega

/-- Of two instants at one time of their days, the one on the earlier day is earlier. -/
theorem le_of_day_le {t t' : ℤ} (h : t % msPerDay = t' % msPerDay)
    (hle : t / msPerDay ≤ t' / msPerDay) : t ≤ t' := by
  unfold msPerDay at *
  omega

theorem noon_lt : 0 ≤ 12 * msPerHour ∧ 12 * msPerHour < msPerDay := by
  decide

/-- **The payday** is the first one after the day of the instant. -/
theorem paydayAfter_payday (now : ℤ) : PaydayAfter now (payday now) := by
  obtain ⟨hdate, hday, hend⟩ := day_bounds now
  unfold payday
  set n := monthIndex now
  have hnext := monthStartDay_succ n
  -- the month of a payday after the day is this one, or a later one
  have hmonth (t' : ℤ) (hlt : now / msPerDay < t' / msPerDay) : n ≤ monthIndex t' := by
    by_contra hbefore
    have hle := monthStartDay_le (show monthIndex t' + 1 ≤ n by omega)
    have ht' := (day_bounds t').2.2
    omega
  split_ifs with h15
  · obtain ⟨-, hd, hz, hr⟩ := of_monthStart (n := n) (d := 14) (by omega) noon_lt
    refine ⟨⟨hr, Or.inr hd⟩, by omega, fun t' ht' hlt => le_of_day_le (hr.trans ht'.1.symm) ?_⟩
    obtain ⟨-, hday', -⟩ := day_bounds t'
    rcases Int.lt_or_eq_of_le (hmonth t' hlt) with hlater | hsame
    · have hle := monthStartDay_le (show n + 1 ≤ monthIndex t' by omega)
      have hdate' := (day_bounds t').1
      omega
    · rw [← hsame] at hday'
      rcases ht'.2 with h1 | h1
      · omega
      · omega
  · obtain ⟨-, hd, hz, hr⟩ := of_monthStart (n := n + 1) (d := 0) (by omega) noon_lt
    rw [Int.zero_mul, Int.add_zero] at hd hz hr
    refine ⟨⟨hr, Or.inl hd⟩, by omega, fun t' ht' hlt => le_of_day_le (hr.trans ht'.1.symm) ?_⟩
    obtain ⟨-, hday', -⟩ := day_bounds t'
    rcases Int.lt_or_eq_of_le (hmonth t' hlt) with hlater | hsame
    · have hle := monthStartDay_le (show n + 1 ≤ monthIndex t' by omega)
      have hdate' := (day_bounds t').1
      omega
    · rw [← hsame] at hday'
      rcases ht'.2 with h1 | h1
      · omega
      · omega

/-! ## What the code takes for the payday -/

/-- The year of the instant is one that `Date.UTC` reads as of the twentieth century. -/
def TwoDigitYear (now : ℤ) : Prop := 0 ≤ year now ∧ year now ≤ 99

instance (now : ℤ) : Decidable (TwoDigitYear now) := inferInstanceAs (Decidable (_ ∧ _))

theorem utc_eq (y m d : ℤ) : utc y m d = monthStart (12 * y + m) + (d - 1) * msPerDay := by
  have hday : daysFromCivil (y + m / 12) (m % 12 + 1) d =
      daysFromCivil (y + m / 12) (m % 12 + 1) 1 + (d - 1) := by
    simp only [daysFromCivil]
    omega
  rw [← utc_eq_monthStart, utc, utc, hday, Int.add_mul]

theorem nextPaydayProxy_def (now : ℤ) : nextPaydayProxy now =
    if date now < 15 then utcHours (year now) (month now) 15 12
    else utcHours (year now) (month now + 1) 1 12 := rfl

/-- In other years, the code finds the payday. -/
theorem nextPaydayProxy_eq {now : ℤ} (h : ¬ TwoDigitYear now) :
    nextPaydayProxy now = payday now := by
  have hnext : 12 * year now + (month now + 1) = monthIndex now + 1 := by
    unfold monthIndex
    omega
  have hyear (m d : ℤ) : utcHours (year now) m d 12 =
      monthStart (12 * year now + m) + (d - 1) * msPerDay + 12 * msPerHour := by
    have hsame : (if 0 ≤ year now ∧ year now ≤ 99 then 1900 + year now else year now) =
        year now := if_neg h
    rw [utcHours, hsame, utc_eq]
  rw [nextPaydayProxy_def, payday]
  split_ifs
  · rw [hyear]
    rfl
  · rw [hyear, hnext, Int.sub_self, Int.zero_mul, Int.add_zero]

/-- In these years, the code is some 1900 years late, though not later than the year 2000. -/
theorem nextPaydayProxy_bounds {now : ℤ} (h : TwoDigitYear now) :
    monthStart (monthIndex now + 2) ≤ nextPaydayProxy now ∧
      nextPaydayProxy now ≤ 946684800000 + 15 * msPerDay := by
  have hmonth := month_bounds now
  have hyear (m d : ℤ) : utcHours (year now) m d 12 =
      monthStart (12 * (1900 + year now) + m) + (d - 1) * msPerDay + 12 * msPerHour := by
    have hlate : (if 0 ≤ year now ∧ year now ≤ 99 then 1900 + year now else year now) =
        1900 + year now := if_pos h
    rw [utcHours, hlate, utc_eq]
  have hlow (m : ℤ) (hm : month now ≤ m) : monthStart (monthIndex now + 2) ≤
      monthStart (12 * (1900 + year now) + m) := monthStart_le (by
    unfold monthIndex
    omega)
  have hhigh (m : ℤ) (hm : m ≤ 12) : monthStart (12 * (1900 + year now) + m) ≤ 946684800000 := by
    have hlast : monthStart 24000 = 946684800000 := by decide +kernel
    rw [← hlast]
    refine monthStart_le ?_
    have hy := h.2
    omega
  have hnoon := noon_lt
  rw [nextPaydayProxy_def]
  split_ifs
  · have h1 := hlow (month now) le_rfl
    have h2 := hhigh (month now) (by omega)
    rw [hyear]
    unfold msPerDay at *
    omega
  · have h1 := hlow (month now + 1) (by omega)
    have h2 := hhigh (month now + 1) (by omega)
    rw [hyear]
    unfold msPerDay at *
    omega

/-! ## Bounds -/

/-- The payday is half a day after the instant at least, and less than 18 days. -/
theorem payday_bounds (now : ℤ) :
    now + 12 * msPerHour < payday now ∧ payday now < now + 18 * msPerDay := by
  obtain ⟨⟨hnoon, -⟩, hlt, -⟩ := paydayAfter_payday now
  obtain ⟨hdate, hday, hend⟩ := day_bounds now
  have hnext := monthStartDay_succ_le (monthIndex now)
  have hhour : 12 * msPerHour = 43200000 := rfl
  constructor
  · unfold msPerDay at *
    omega
  · unfold payday
    split_ifs with h15
    · unfold monthStart msPerDay at *
      omega
    · unfold monthStart msPerDay at *
      omega

/-- What the retry of a decline other than lack of funds waits for. -/
theorem retryInstant_other {code : DeclineCode} (h : code ≠ .insufficientFunds)
    (attemptNumber now : ℤ) : ∃ ms, (retryInstant code attemptNumber now).1 = now + ms ∧
      2 * msPerHour ≤ ms ∧ ms ≤ 14 * msPerDay := by
  have hhours (i : ℕ) : 2 * msPerHour ≤ ([2, 6].getD i 24 : ℕ) * msPerHour ∧
      ([2, 6].getD i 24 : ℕ) * msPerHour ≤ 14 * msPerDay := by
    rcases i with _ | _ | i
    · decide
    · decide
    · exact (by decide : 2 * msPerHour ≤ 24 * msPerHour ∧ 24 * msPerHour ≤ 14 * msPerDay)
  have hdays (i : ℕ) : 2 * msPerHour ≤ ([1, 3, 7].getD i 14 : ℕ) * msPerDay ∧
      ([1, 3, 7].getD i 14 : ℕ) * msPerDay ≤ 14 * msPerDay := by
    rcases i with _ | _ | _ | i
    · decide
    · decide
    · decide
    · exact (by decide : 2 * msPerHour ≤ 14 * msPerDay ∧ 14 * msPerDay ≤ 14 * msPerDay)
  cases code with
  | insufficientFunds => exact absurd rfl h
  | issuerUnavailable | processingError | tryAgainLater => exact ⟨_, rfl, hhours _⟩
  | velocityLimitExceeded => exact ⟨24 * msPerHour, rfl, by decide⟩
  | authenticationRequired => exact ⟨12 * msPerHour, rfl, by decide⟩
  | _ => exact ⟨_, rfl, hdays _⟩

theorem retryInstant_funds (attemptNumber now : ℤ) :
    (retryInstant .insufficientFunds attemptNumber now).1 =
      if max 1 attemptNumber = 1 ∧ now + 2 * msPerDay < nextPaydayProxy now then
        now + 2 * msPerDay else nextPaydayProxy now := rfl

/-- The range in which the instant that the code takes for the payday is. -/
theorem nextPaydayProxy_range (now : ℤ) : now + 12 * msPerHour ≤ nextPaydayProxy now ∧
    (nextPaydayProxy now < now + 18 * msPerDay ∨
      nextPaydayProxy now ≤ 946684800000 + 15 * msPerDay) := by
  by_cases h : TwoDigitYear now
  · obtain ⟨hlow, hhigh⟩ := nextPaydayProxy_bounds h
    have hnow := (monthStart_monthIndex now).2
    have hnext := monthStart_lt (monthIndex now + 1)
    have hhour : 12 * msPerHour = 43200000 := rfl
    rw [show monthIndex now + 1 + 1 = monthIndex now + 2 by omega] at hnext
    unfold msPerDay at *
    omega
  · rw [nextPaydayProxy_eq h]
    obtain ⟨hlow, hhigh⟩ := payday_bounds now
    omega

/-! ## The times -/

/-- A retry keeps the interval that every network asks for, and one for lack of funds is two days
    from now, on a first attempt and if that is before the payday, or on the payday. -/
def WellTimed (code : DeclineCode) (attemptNumber now t : ℤ) : Prop :=
  (∀ caps, defaultGuardrailPolicy.networkCaps = some caps → ∀ network : CardNetwork,
    (caps network).minMinutesBetween * 60000 ≤ ((t - now : ℤ) : ℚ)) ∧
  (code = .insufficientFunds →
    (attemptNumber ≤ 1 ∧ t = now + 2 * msPerDay ∧ ∃ p, PaydayAfter now p ∧ t < p) ∨
      PaydayAfter now t)

/-- The code finds the payday, or does not need it. -/
def FindsPayday (code : DeclineCode) (attemptNumber now : ℤ) : Prop :=
  code ≠ .insufficientFunds ∨ ¬ TwoDigitYear now ∨
    (attemptNumber ≤ 1 ∧ ∃ p, PaydayAfter now p ∧ now + 2 * msPerDay ≤ p)

theorem spacing_of_le {now t : ℤ} (h : now + 2 * msPerHour ≤ t) :
    ∀ caps, defaultGuardrailPolicy.networkCaps = some caps → ∀ network : CardNetwork,
      (caps network).minMinutesBetween * 60000 ≤ ((t - now : ℤ) : ℚ) := by
  intro caps hcaps network
  have hcap : (caps network).minMinutesBetween = 60 := by
    obtain rfl := Option.some.inj hcaps
    cases network <;> rfl
  have hhour : 2 * msPerHour = 7200000 := rfl
  have hle : (7200000 : ℤ) ≤ t - now := by omega
  have hcast : ((7200000 : ℤ) : ℚ) ≤ ((t - now : ℤ) : ℚ) := Int.cast_le.2 hle
  rw [hcap]
  push_cast at hcast ⊢
  linarith

/-- A retry is two hours from now at least, and a date. -/
theorem retryInstant_range (code : DeclineCode) (attemptNumber : ℤ) {now : ℤ} (hnow : IsDate now)
    (hend : now + 59 * msPerDay ≤ 8640000000000000) :
    now + 2 * msPerHour ≤ (retryInstant code attemptNumber now).1 ∧
      IsDate (retryInstant code attemptNumber now).1 := by
  have hhour : msPerHour = 3600000 := rfl
  have hday : msPerDay = 86400000 := rfl
  rw [hday] at hend
  unfold IsDate at *
  by_cases hcode : code = .insufficientFunds
  · subst hcode
    obtain ⟨hlow, hhigh⟩ := nextPaydayProxy_range now
    rw [retryInstant_funds]
    rw [hhour] at *
    rw [hday] at *
    split_ifs
    · omega
    · omega
  · obtain ⟨ms, hms, hlow, hhigh⟩ := retryInstant_other hcode attemptNumber now
    rw [hms]
    rw [hhour] at *
    rw [hday] at *
    omega

/-- In a year that is taken for a later one, the code is later than any payday to wait for. -/
theorem late_nextPaydayProxy {now : ℤ} (h : TwoDigitYear now) :
    now + 28 * msPerDay < nextPaydayProxy now := by
  have hlow := (nextPaydayProxy_bounds h).1
  have hnow := (monthStart_monthIndex now).2
  have hnext := monthStart_lt (monthIndex now + 1)
  rw [show monthIndex now + 1 + 1 = monthIndex now + 2 by omega] at hnext
  omega

/-- For lack of funds, a retry is timed right exactly if the code finds the payday, or does not
    need it. -/
theorem funds_iff (attemptNumber now : ℤ) :
    (attemptNumber ≤ 1 ∧
        (retryInstant .insufficientFunds attemptNumber now).1 = now + 2 * msPerDay ∧
        (∃ p, PaydayAfter now p ∧ (retryInstant .insufficientFunds attemptNumber now).1 < p) ∨
      PaydayAfter now (retryInstant .insufficientFunds attemptNumber now).1) ↔
    (¬ TwoDigitYear now ∨
      (attemptNumber ≤ 1 ∧ ∃ p, PaydayAfter now p ∧ now + 2 * msPerDay ≤ p)) := by
  have hpayday := paydayAfter_payday now
  have hday : msPerDay = 86400000 := rfl
  rw [retryInstant_funds]
  by_cases hyear : TwoDigitYear now
  · have hlate := late_nextPaydayProxy hyear
    have hbounds := payday_bounds now
    have htwo : now + 2 * msPerDay < nextPaydayProxy now := by omega
    by_cases hfirst : max 1 attemptNumber = 1
    · have hattempt : attemptNumber ≤ 1 := by omega
      rw [if_pos ⟨hfirst, htwo⟩]
      constructor
      · rintro (⟨-, -, p, hp, hlt⟩ | hp)
        · exact Or.inr ⟨hattempt, p, hp, hlt.le⟩
        · exact Or.inr ⟨hattempt, _, hp, le_rfl⟩
      · rintro (hnot | ⟨-, p, hp, hle⟩)
        · exact absurd hyear hnot
        · rcases Int.lt_or_eq_of_le hle with hlt | heq
          · exact Or.inl ⟨hattempt, rfl, p, hp, hlt⟩
          · exact Or.inr (heq ▸ hp)
    · rw [if_neg fun h => hfirst h.1]
      constructor
      · rintro (⟨-, heq, -⟩ | hp)
        · omega
        · have heq := hp.unique hpayday
          omega
      · rintro (hnot | ⟨hattempt, -⟩)
        · exact absurd hyear hnot
        · omega
  · rw [nextPaydayProxy_eq hyear]
    refine iff_of_true ?_ (Or.inl hyear)
    split_ifs with h
    · exact Or.inl ⟨by omega, rfl, payday now, hpayday, h.2⟩
    · exact Or.inr hpayday

/-- **The times of retries.**  The text of a retry is that of a date; its time keeps the interval of
    the guardrail, and for lack of funds waits for two days or the payday, exactly when the code
    finds the payday or does not need it. -/
theorem retryInstant_iff {now : ℤ} (hnow : IsDate now)
    (hend : now + 59 * msPerDay ≤ 8640000000000000) (code : DeclineCode) (attemptNumber : ℤ) :
    let t := (retryInstant code attemptNumber now).1
    (∀ f nowIso, f.declineCode = code → (f.attemptNumber : ℤ) = attemptNumber →
      Date.parse nowIso = some now → ∃ timing, optimalRetryTime f nowIso = some timing ∧
        timing.retryAt = toISOString t) ∧ IsDate t ∧
    (WellTimed code attemptNumber now t ↔ FindsPayday code attemptNumber now) := by
  intro t
  obtain ⟨hlow, hdate⟩ := retryInstant_range code attemptNumber hnow hend
  refine ⟨?_, hdate, ?_⟩
  · rintro f nowIso rfl rfl hparse
    exact ⟨_, by rw [optimalRetryTime, hparse, Option.map_some], rfl⟩
  · have hspacing := spacing_of_le hlow
    by_cases hcode : code = .insufficientFunds
    · subst hcode
      have hiff := funds_iff attemptNumber now
      constructor
      · rintro ⟨-, h⟩
        exact Or.inr (hiff.1 (h rfl))
      · rintro (h | h)
        · exact absurd rfl h
        · exact ⟨hspacing, fun _ => hiff.2 h⟩
    · exact iff_of_true ⟨hspacing, fun h => absurd h hcode⟩ (Or.inl hcode)

/-- A second attempt, at noon of 16 August 2026: the 1st of September. -/
theorem retryInstant_august :
    WellTimed .insufficientFunds 2 1786881600000
      (retryInstant .insufficientFunds 2 1786881600000).1 :=
  (retryInstant_iff (show IsDate 1786881600000 from ⟨by decide, by decide⟩) (by decide)
    .insufficientFunds 2).2.2.2 (Or.inr (Or.inl (by decide +kernel)))

/-- In the year 50, the payday is found in 1950. -/
theorem retryInstant_fails :
    ((optimalRetryTime { firstFailure with attemptNumber := 2 } "0050-03-01T12:00:00.000Z").map
        RetryTiming.retryAt = some "1950-03-15T12:00:00.000Z") ∧
      ∃ now, Date.parse "0050-03-01T12:00:00.000Z" = some now ∧
        ¬ WellTimed .insufficientFunds 2 now (retryInstant .insufficientFunds 2 now).1 := by
  have hretry : (retryInstant .insufficientFunds 2 (-60584155200000)).1 = -624801600000 := by
    decide +kernel
  refine ⟨by decide +kernel, -60584155200000, by decide +kernel, ?_⟩
  rintro ⟨-, hfunds⟩
  rw [hretry] at hfunds
  rcases hfunds rfl with ⟨hfirst, -⟩ | hpayday
  · exact absurd hfirst (by decide)
  · have heq := hpayday.unique (paydayAfter_payday (-60584155200000))
    exact absurd heq (by decide +kernel)

end AX10M
