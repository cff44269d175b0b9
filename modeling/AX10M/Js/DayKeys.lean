/-
  The texts of days.

  The first ten characters of the ISO text of an instant are its date, in the years of four digits;
  in the other years, whose texts have a sign and six digits, they are its year and its month
  (`dayText_eq_iff`).
-/
import AX10M.Js.Calendar
import AX10M.Js.Instants
import Mathlib.Tactic.LinearCombination

namespace Js.Date

/-- The text of the day of an instant (`new Date(ms).toISOString().slice(0, 10)`). -/
def dayText (ms : ℤ) : String := String.ofList ((toISOString ms).toList.take 10)

/-- The year of an instant is not one of four digits. -/
def LongYear (ms : ℤ) : Prop := ¬ (0 ≤ year ms ∧ year ms ≤ 9999)

instance (ms : ℤ) : Decidable (LongYear ms) := inferInstanceAs (Decidable (¬ _))

instance (ms : ℤ) : Decidable (IsDate ms) := inferInstanceAs (Decidable (_ ∧ _))

/-! ### Digits -/

@[simp] theorem length_pad (n : ℕ) (x : ℤ) : (pad n x).length = n := by
  simp [pad]

theorem pad_succ (n : ℕ) (x : ℤ) :
    pad (n + 1) x = Char.ofNat (48 + ((x / 10 ^ n) % 10).toNat) :: pad n x := by
  rw [pad, List.range_succ, List.reverse_append]
  rfl

/-- Digits are told apart by their characters. -/
theorem digit_injective :
    ∀ a < 10, ∀ b < 10, Char.ofNat (48 + a) = Char.ofNat (48 + b) → a = b := by
  decide

theorem digit_ne_sign : ∀ a < 10, Char.ofNat (48 + a) ≠ '-' ∧ Char.ofNat (48 + a) ≠ '+' := by
  decide

theorem toNat_digit_lt (x : ℤ) : (x % 10).toNat < 10 := by
  omega

theorem emod_pow_succ (x : ℤ) (n : ℕ) :
    x % 10 ^ (n + 1) = x % 10 ^ n + 10 ^ n * (x / 10 ^ n % 10) := by
  have hq : x / 10 ^ (n + 1) = x / 10 ^ n / 10 := by
    rw [pow_succ, Int.ediv_ediv_of_nonneg (by positivity)]
  have h := Int.emod_add_mul_ediv x (10 ^ n)
  have h' := Int.emod_add_mul_ediv x (10 ^ (n + 1))
  have hten := Int.emod_add_mul_ediv (x / 10 ^ n) 10
  rw [hq] at h'
  rw [pow_succ] at h' ⊢
  linear_combination h' - h - 10 ^ n * hten

/-- Numbers with the same last digits. -/
theorem emod_of_pad_eq {n : ℕ} {x y : ℤ} (h : pad n x = pad n y) : x % 10 ^ n = y % 10 ^ n := by
  induction n with
  | zero => simp
  | succ n ih =>
    rw [pad_succ, pad_succ, List.cons.injEq] at h
    have hdigit := digit_injective _ (toNat_digit_lt _) _ (toNat_digit_lt _) h.1
    have hsame : x / 10 ^ n % 10 = y / 10 ^ n % 10 := by omega
    rw [emod_pow_succ, emod_pow_succ, ih h.2, hsame]

theorem pad_injective {n : ℕ} {x y : ℤ} (hx : 0 ≤ x ∧ x < 10 ^ n) (hy : 0 ≤ y ∧ y < 10 ^ n)
    (h : pad n x = pad n y) : x = y := by
  have hmod := emod_of_pad_eq h
  rwa [Int.emod_eq_of_lt hx.1 hx.2, Int.emod_eq_of_lt hy.1 hy.2] at hmod

/-! ### The years and the days of dates -/

theorem date_bounds (ms : ℤ) : 1 ≤ date ms ∧ date ms ≤ 31 := by
  have hbounds : monthStartDay (monthIndex ms) ≤ ms / msPerDay ∧
      ms / msPerDay < monthStartDay (monthIndex ms + 1) := monthStartDay_bounds (ms / msPerDay)
  have hnext := monthStartDay_succ_le (monthIndex ms)
  have hdate := date_eq ms
  omega

theorem year_bounds {ms : ℤ} (h : IsDate ms) : -1000000 < year ms ∧ year ms < 1000000 := by
  obtain ⟨hstart, hend⟩ := monthStart_monthIndex ms
  have hmonth := month_bounds ms
  have hlow : monthStart (-11999988) < -8640000000000000 := by decide +kernel
  have hhigh : 8640000000000000 < monthStart 12000000 := by decide +kernel
  obtain ⟨hmin, hmax⟩ := h
  constructor
  · by_contra hle
    have hindex : monthIndex ms + 1 ≤ -11999988 := by
      unfold monthIndex
      omega
    have := monthStart_le hindex
    omega
  · by_contra hle
    have hindex : 12000000 ≤ monthIndex ms := by
      unfold monthIndex
      omega
    have := monthStart_le hindex
    omega

theorem monthIndex_inj {ms ms' : ℤ} (h : monthIndex ms = monthIndex ms') :
    year ms = year ms' ∧ month ms = month ms' := by
  have hmonth := month_bounds ms
  have hmonth' := month_bounds ms'
  unfold monthIndex at h
  omega

/-- Instants of one date are of one day. -/
theorem day_eq_of_date {ms ms' : ℤ} (h : monthIndex ms = monthIndex ms')
    (hdate : date ms = date ms') : ms / msPerDay = ms' / msPerDay := by
  rw [date_eq, date_eq, h] at hdate
  omega

theorem monthIndex_of_day {ms ms' : ℤ} (h : ms / msPerDay = ms' / msPerDay) :
    monthIndex ms = monthIndex ms' ∧ date ms = date ms' := by
  unfold monthIndex year month date
  rw [h]
  exact ⟨rfl, rfl⟩

/-! ### The texts -/

/-- The month of an instant, from 1, in two digits. -/
def monthDigits (ms : ℤ) : List Char := pad 2 (civilFromDays (ms / msPerDay)).2.1

theorem dayText_short {ms : ℤ} (h : ¬ LongYear ms) : dayText ms =
    String.ofList (pad 4 (year ms) ++ '-' :: (monthDigits ms ++ '-' :: pad 2 (date ms))) := by
  have hyear : 0 ≤ year ms ∧ year ms ≤ 9999 := not_not.1 h
  have hiso : toISOString ms = String.ofList (pad 4 (year ms) ++ '-' :: monthDigits ms ++
      '-' :: pad 2 (date ms) ++ 'T' :: pad 2 (ms % msPerDay / 3600000) ++
      ':' :: pad 2 (ms % msPerDay / 60000 % 60) ++ ':' :: pad 2 (ms % msPerDay / 1000 % 60) ++
      '.' :: pad 3 (ms % msPerDay % 1000) ++ ['Z']) := by
    have hyears : (if 0 ≤ year ms ∧ year ms ≤ 9999 then pad 4 (year ms)
        else if year ms < 0 then '-' :: pad 6 (-year ms) else '+' :: pad 6 (year ms)) =
          pad 4 (year ms) := if_pos hyear
    rw [← hyears]
    rfl
  rw [dayText, hiso, String.toList_ofList]
  rfl

/-- The sign of a year. -/
def yearSign (ms : ℤ) : Char := if year ms < 0 then '-' else '+'

theorem dayText_long {ms : ℤ} (h : LongYear ms) : dayText ms =
    String.ofList (yearSign ms :: pad 6 |year ms| ++ '-' :: monthDigits ms) := by
  have hiso : toISOString ms = String.ofList (yearSign ms :: pad 6 |year ms| ++
      '-' :: monthDigits ms ++ '-' :: pad 2 (date ms) ++ 'T' :: pad 2 (ms % msPerDay / 3600000) ++
      ':' :: pad 2 (ms % msPerDay / 60000 % 60) ++ ':' :: pad 2 (ms % msPerDay / 1000 % 60) ++
      '.' :: pad 3 (ms % msPerDay % 1000) ++ ['Z']) := by
    have hyears : (if 0 ≤ year ms ∧ year ms ≤ 9999 then pad 4 (year ms)
        else if year ms < 0 then '-' :: pad 6 (-year ms) else '+' :: pad 6 (year ms)) =
          yearSign ms :: pad 6 |year ms| := by
      rw [if_neg h, yearSign]
      split_ifs with hneg
      · rw [abs_of_neg hneg]
      · rw [abs_of_nonneg (by omega)]
    rw [← hyears]
    rfl
  rw [dayText, hiso, String.toList_ofList]
  rfl

theorem monthDigits_eq_iff {ms ms' : ℤ} : monthDigits ms = monthDigits ms' ↔
    month ms = month ms' := by
  have hmonth := civilFromDays_month (ms / msPerDay)
  have hmonth' := civilFromDays_month (ms' / msPerDay)
  unfold monthDigits month
  constructor
  · intro h
    rw [pad_injective (by omega) (by omega) h]
  · intro h
    rw [(Int.sub_left_inj 1).1 h]

theorem longYear_congr {ms ms' : ℤ} (h : year ms = year ms') (hlong : LongYear ms) :
    LongYear ms' := by
  unfold LongYear at *
  rwa [← h]

/-- The texts of a year of four digits and of another one. -/
theorem dayText_ne {ms ms' : ℤ} (h : ¬ LongYear ms) (h' : LongYear ms') :
    dayText ms ≠ dayText ms' := by
  intro heq
  rw [dayText_short h, dayText_long h', String.ofList_inj, pad_succ] at heq
  have hhead := (List.cons.inj heq).1
  obtain ⟨hminus, hplus⟩ := digit_ne_sign _ (toNat_digit_lt (year ms / 10 ^ 3))
  rw [yearSign] at hhead
  split_ifs at hhead
  · exact hminus hhead
  · exact hplus hhead

/-- Dates have one text if they are of one day, or of one month in a year that has not four
    digits. -/
theorem dayText_eq_iff {ms ms' : ℤ} (h : IsDate ms) (h' : IsDate ms') :
    dayText ms = dayText ms' ↔ ms / msPerDay = ms' / msPerDay ∨
      (LongYear ms ∧ monthIndex ms = monthIndex ms') := by
  constructor
  · intro heq
    by_cases hlong : LongYear ms
    · have hlong' : LongYear ms' := by
        by_contra hshort
        exact dayText_ne hshort hlong heq.symm
      rw [dayText_long hlong, dayText_long hlong', String.ofList_inj] at heq
      obtain ⟨hyears, hmonths⟩ := List.append_inj heq (by simp)
      obtain ⟨hsign, hdigits⟩ := List.cons.inj hyears
      have hy := year_bounds h
      have hy' := year_bounds h'
      have habs := pad_injective ⟨abs_nonneg _, abs_lt.2 hy⟩ ⟨abs_nonneg _, abs_lt.2 hy'⟩ hdigits
      have hyear : year ms = year ms' := by
        unfold yearSign at hsign
        rcases abs_eq_abs.1 habs with hsame | hneg
        · exact hsame
        · split_ifs at hsign with h1 h2 h2
          · omega
          · cases hsign
          · cases hsign
          · omega
      have hmonth := monthDigits_eq_iff.1 (List.cons.inj hmonths).2
      refine Or.inr ⟨hlong, ?_⟩
      unfold monthIndex
      rw [hyear, hmonth]
    · have hshort' : ¬ LongYear ms' := fun hlong' => dayText_ne hlong hlong' heq
      rw [dayText_short hlong, dayText_short hshort', String.ofList_inj] at heq
      obtain ⟨hyears, hrest⟩ := List.append_inj heq (by simp)
      obtain ⟨hmonths, hdays⟩ := List.append_inj (List.cons.inj hrest).2 (by simp [monthDigits])
      have hy := not_not.1 hlong
      have hy' := not_not.1 hshort'
      have hd := date_bounds ms
      have hd' := date_bounds ms'
      have hyear := pad_injective (by omega) (by omega) hyears
      have hmonth := monthDigits_eq_iff.1 hmonths
      have hdate := pad_injective (by omega) (by omega) (List.cons.inj hdays).2
      refine Or.inl (day_eq_of_date ?_ hdate)
      unfold monthIndex
      rw [hyear, hmonth]
  · rintro (hday | ⟨hlong, hindex⟩)
    · obtain ⟨hindex, hdate⟩ := monthIndex_of_day hday
      obtain ⟨hyear, hmonth⟩ := monthIndex_inj hindex
      by_cases hlong : LongYear ms
      · rw [dayText_long hlong, dayText_long (longYear_congr hyear hlong), yearSign, yearSign,
          hyear, monthDigits_eq_iff.2 hmonth]
      · have hshort : ¬ LongYear ms' := fun hlong' => hlong (longYear_congr hyear.symm hlong')
        rw [dayText_short hlong, dayText_short hshort, hyear, hdate, monthDigits_eq_iff.2 hmonth]
    · obtain ⟨hyear, hmonth⟩ := monthIndex_inj hindex
      rw [dayText_long hlong, dayText_long (longYear_congr hyear hlong), yearSign, yearSign, hyear,
        monthDigits_eq_iff.2 hmonth]

theorem ediv_day (d : ℤ) : d * msPerDay / msPerDay = d :=
  Int.mul_ediv_cancel d (by decide)

/-- The instants that have the text of a day. -/
theorem dayText_eq_day_iff {ms d : ℤ} (h : IsDate ms) (hd : IsDate (d * msPerDay)) :
    dayText ms = dayText (d * msPerDay) ↔ ms / msPerDay = d ∨
      (LongYear (d * msPerDay) ∧ monthIndex ms = monthIndex (d * msPerDay)) := by
  have hiff := dayText_eq_iff hd h
  rw [ediv_day] at hiff
  constructor
  · intro heq
    rcases hiff.1 heq.symm with hday | ⟨hlong, hmonth⟩
    · exact Or.inl hday.symm
    · exact Or.inr ⟨hlong, hmonth.symm⟩
  · rintro (hday | ⟨hlong, hmonth⟩)
    · exact (hiff.2 (Or.inl hday.symm)).symm
    · exact (hiff.2 (Or.inr ⟨hlong, hmonth.symm⟩)).symm

/-! ### Years of six digits -/

/-- `Date.parse`, which also reads a date whose year has a sign and six digits. -/
def parseExpanded (s : String) : Option ℤ :=
  match s.toList with
  | sign :: a :: b :: c :: d :: e :: f :: '-' :: g :: h :: '-' :: i :: j :: rest =>
    if sign = '+' ∨ sign = '-' then do
      let y ← digits [a, b, c, d, e, f]
      let ms := daysFromCivil (if sign = '-' then -y else y) (← within 1 12 [g, h])
        (← within 1 31 [i, j]) * msPerDay + (← time rest)
      if IsDate ms ∧ ¬ (sign = '-' ∧ y = 0) then some ms else none
    else parse s
  | _ => parse s

theorem parseExpanded_isDate {s : String} {ms : ℤ} (h : parseExpanded s = some ms) :
    IsDate ms := by
  unfold parseExpanded at h
  split at h
  · split at h
    · obtain ⟨y, -, h⟩ := Option.bind_eq_some_iff.1 h
      obtain ⟨m, -, h⟩ := Option.bind_eq_some_iff.1 h
      obtain ⟨d, -, h⟩ := Option.bind_eq_some_iff.1 h
      obtain ⟨t, -, h⟩ := Option.bind_eq_some_iff.1 h
      obtain ⟨hdate, h⟩ := Option.ite_none_right_eq_some.1 h
      obtain rfl := Option.some.inj h
      exact hdate.1
    · exact parse_isDate h
  · exact parse_isDate h

example : parseExpanded "+010000-01-15T12:00:00.000Z" = some 253403553600000 := by decide +kernel

end Js.Date
