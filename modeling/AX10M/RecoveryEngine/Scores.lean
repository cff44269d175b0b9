/-
  Which snapshots have scores (`training.ts`, `features.ts` and `logistic.ts` of
  `@ax10m/recovery-engine`).

  An entry of a vector is `NaN` if a field of the snapshot is taken for `NaN` (`entry_nan`), and only
  that of the amount may be infinite (`entry_fin`, `entry_inf`).  So the value of a model with finite
  weights is a number, unless a field is taken for `NaN`, or the amount for infinity while its weight
  is zero (`addable_terms_iff`).
-/
import AX10M.RecoveryEngine.Fit
import AX10M.Regression.NonFinite
import Mathlib.Data.Rat.Cast.Order

namespace AX10M

open Js Draws Regression

/-! ## What the fields are taken for -/

/-- The fields of the entries after the regions. -/
def SnapshotNumbers.history (n : SnapshotNumbers) : List (Double ℚ) :=
  [n.customerTenureDays, n.priorRecoveryRate, n.attemptNumber, n.daysSinceFirstFail,
    n.issuerApprovalPrior]

/-- No field is taken for `NaN`. -/
def SnapshotNumbers.Numeric (n : SnapshotNumbers) : Prop :=
  n.amountMinor ≠ .nan ∧ .nan ∉ n.history

/-- Nor is the amount infinite. -/
def SnapshotNumbers.Finite (n : SnapshotNumbers) : Prop :=
  n.Numeric ∧ n.amountMinor ≠ .inf false

theorem max_zero (v : Double ℚ) : v = .nan ∧ Double.max 0 v = .nan ∨
    (v = .inf false ∧ Double.max 0 v = .inf false) ∨
    (v ≠ .nan ∧ v ≠ .inf false ∧ ∃ x, Double.max 0 v = .fin x) := by
  cases v with
  | fin x =>
    refine Or.inr (Or.inr ⟨by simp, by simp, ?_⟩)
    show ∃ y, (if decide (0 < x) = true then Double.fin x else .fin 0) = .fin y
    split_ifs
    · exact ⟨x, rfl⟩
    · exact ⟨0, rfl⟩
  | inf s =>
    cases s with
    | false => exact Or.inr (Or.inl ⟨rfl, rfl⟩)
    | true => exact Or.inr (Or.inr ⟨by simp, by simp, 0, rfl⟩)
  | nan => exact Or.inl ⟨rfl, rfl⟩

theorem min_fin (v : Double ℚ) (cap : ℚ) (h : v = .inf false ∨ ∃ x, v = .fin x) :
    ∃ x, Double.min v (.fin cap) = .fin x := by
  rcases h with rfl | ⟨x, rfl⟩
  · exact ⟨cap, rfl⟩
  · show ∃ y, (if decide (cap < x) = true then Double.fin cap else .fin x) = .fin y
    split_ifs
    · exact ⟨cap, rfl⟩
    · exact ⟨x, rfl⟩

/-- A number is `NaN` for one that is `NaN`, and finite for the others. -/
def Keeps {L : Type} (v : Double ℚ) (w : Double L) : Prop :=
  v = .nan ∧ w = .nan ∨ v ≠ .nan ∧ ∃ x, w = .fin x

theorem keeps_capped (v : Double ℚ) {unit cap : ℚ} (hunit : 0 < unit) :
    Keeps v (capped v unit cap) := by
  unfold capped
  rcases max_zero v with ⟨hv, hmax⟩ | ⟨rfl, hmax⟩ | ⟨hne, -, x, hmax⟩
  · left
    rw [hmax, Double.nan_div]
    exact ⟨hv, rfl⟩
  · right
    refine ⟨by simp, ?_⟩
    rw [hmax]
    refine min_fin _ cap (Or.inl ?_)
    exact congrArg Double.inf (by rw [decide_eq_false hunit.not_gt]; rfl)
  · right
    refine ⟨hne, ?_⟩
    rw [hmax, Double.fin_div hunit.ne']
    exact min_fin _ cap (Or.inr ⟨_, rfl⟩)

theorem keeps_clampNumber (v : Double ℚ) : Keeps v (clampNumber v) := by
  unfold clampNumber
  cases v with
  | fin x =>
    refine Or.inr ⟨by simp, ?_⟩
    split_ifs
    · exact ⟨0, rfl⟩
    · exact ⟨1, rfl⟩
    · exact ⟨x, rfl⟩
  | inf s =>
    refine Or.inr ⟨by simp, ?_⟩
    cases s with
    | false => exact ⟨1, rfl⟩
    | true => exact ⟨0, rfl⟩
  | nan => exact Or.inl ⟨rfl, rfl⟩

theorem keeps_attempts (v : Double ℚ) :
    Keeps v (Double.min (Double.max 0 (v - 1)) (.fin 6) / .fin 6) := by
  have hless : v = .nan ∧ v - 1 = .nan ∨ v ≠ .nan ∧ v - 1 ≠ .nan := by
    cases v with
    | fin x => exact Or.inr ⟨by simp, by simp [Double.one_def]⟩
    | inf s => exact Or.inr ⟨by simp, by intro h; cases h⟩
    | nan => exact Or.inl ⟨rfl, rfl⟩
  have hdiv : ∀ w : Double ℚ, (∃ x, w = .fin x) → ∃ x, w / .fin 6 = .fin x := by
    rintro w ⟨x, rfl⟩
    exact ⟨_, Double.fin_div (by norm_num)⟩
  rcases hless with ⟨hv, hnan⟩ | ⟨hv, hne⟩
  · left
    rw [hnan]
    exact ⟨hv, rfl⟩
  · refine Or.inr ⟨hv, hdiv _ (min_fin _ 6 ?_)⟩
    rcases max_zero (v - 1) with ⟨hnan, -⟩ | ⟨-, hmax⟩ | ⟨-, -, x, hmax⟩
    · exact absurd hnan hne
    · exact Or.inl hmax
    · exact Or.inr ⟨x, hmax⟩

theorem keeps_nan {L : Type} {vs : List (Double ℚ)} {ws : List (Double L)}
    (h : List.Forall₂ Keeps vs ws) (hnan : .nan ∈ vs) : .nan ∈ ws := by
  induction h with
  | nil => cases hnan
  | cons hkeep _ ih =>
    rcases List.mem_cons.1 hnan with rfl | hnan
    · rcases hkeep with ⟨-, rfl⟩ | ⟨hne, -⟩
      · exact List.mem_cons_self
      · exact absurd rfl hne
    · exact List.mem_cons_of_mem _ (ih hnan)

theorem keeps_fin {L : Type} {vs : List (Double ℚ)} {ws : List (Double L)}
    (h : List.Forall₂ Keeps vs ws) (hnan : .nan ∉ vs) : ∀ w ∈ ws, ∃ x, w = .fin x := by
  induction h with
  | nil => exact fun w hw => absurd hw List.not_mem_nil
  | cons hkeep _ ih =>
    rw [List.mem_cons, not_or] at hnan
    intro w hw
    rcases List.mem_cons.1 hw with rfl | hw
    · rcases hkeep with ⟨rfl, -⟩ | ⟨-, hfin⟩
      · exact absurd rfl hnan.1
      · exact hfin
    · exact ih hnan.2 w hw

section

variable {K : Type} [Field K]

theorem Keeps.toField {v w : Double ℚ} (h : Keeps v w) : Keeps v (toField w : Double K) := by
  rcases h with ⟨hv, rfl⟩ | ⟨hv, x, rfl⟩
  · exact Or.inl ⟨hv, rfl⟩
  · exact Or.inr ⟨hv, _, rfl⟩

theorem oneHotText_fin {order : List String} {v : Option Json} {x : Double K}
    (h : x ∈ oneHotText order v) : ∃ y, x = .fin y := by
  obtain ⟨s, -, rfl⟩ := List.mem_map.1 h
  split_ifs
  · exact ⟨1, rfl⟩
  · exact ⟨0, rfl⟩

/-- The entries after the regions are as the fields. -/
theorem historyEntries_keeps (n : SnapshotNumbers) :
    List.Forall₂ Keeps n.history (historyEntries n : List (Double K)) := by
  refine .cons ?_ (.cons ?_ (.cons ?_ (.cons ?_ (.cons ?_ .nil))))
  · exact (keeps_capped _ (by norm_num)).toField
  · exact (keeps_clampNumber _).toField
  · exact (keeps_attempts _).toField
  · exact (keeps_capped _ (by norm_num)).toField
  · exact (keeps_clampNumber _).toField

variable [LinearOrder K]

/-! ## Vectors -/

/-- The index of the amount. -/
def amountIndex : Fin featureDim := ⟨declineOrder.length, by decide⟩

theorem mem_of_getElem?_middle {α : Type} {before after : List α} {a v : α} {i : ℕ}
    (hi : (before ++ a :: after)[i]? = some v) (hne : i ≠ before.length) :
    v ∈ before ++ after := by
  rw [List.getElem?_append] at hi
  split_ifs at hi with hlt
  · exact List.mem_append_left _ (List.mem_of_getElem? hi)
  · obtain ⟨k, hk⟩ : ∃ k, i - before.length = k + 1 := ⟨i - before.length - 1, by omega⟩
    rw [hk, List.getElem?_cons_succ] at hi
    exact List.mem_append_right _ (List.mem_of_getElem? hi)

theorem getElem?_toList {α : Type} {d : ℕ} (x : Vector α d) (i : Fin d) :
    x.toList[(i : ℕ)]? = some (x.get i) := by
  simp [Vector.get]

variable {math : LogisticMath K} {f : Json} {n : SnapshotNumbers}
  {x : Vector (Double K) featureDim}

theorem encodeSnapshot_eq_ok : encodeSnapshot math f = .ok x ↔
    ∃ n, readNumbers f = .ok n ∧ x.toList = snapshotEntries math f n := by
  rw [encodeSnapshot, map_eq_ok]
  refine exists_congr fun n => and_congr_right fun _ => ?_
  rw [← Vector.toArray_inj, ← Array.toList_inj]
  exact eq_comm

section

variable (hread : readNumbers f = .ok n) (hencode : encodeSnapshot math f = .ok x)

include hread hencode

theorem toList_encodeSnapshot : x.toList = snapshotEntries math f n := by
  obtain ⟨n', hn', hx⟩ := encodeSnapshot_eq_ok.1 hencode
  rw [hread] at hn'
  rw [hx, Except.ok.inj hn']

theorem entry_amount : x.get amountIndex = amountEntry math n := by
  have hget := getElem?_toList x amountIndex
  rw [toList_encodeSnapshot hread hencode] at hget
  have hmiddle : (snapshotEntries math f n)[declineOrder.length]? = some (amountEntry math n) := by
    have hlength : (oneHotText (declineOrder.map DeclineCode.text)
        (snapshotField f "declineCode") : List (Double K)).length = declineOrder.length := by
      rw [oneHotText, List.length_map, List.length_map]
    rw [snapshotEntries, List.getElem?_append_right hlength.le, hlength, Nat.sub_self]
    rfl
  exact Option.some.inj (hget.symm.trans hmiddle)

/-- The entries of the texts are finite, and those of the history. -/
theorem entry_fin (hnum : n.Numeric) {i : Fin featureDim} (hi : i ≠ amountIndex) :
    ∃ y, x.get i = .fin y := by
  have hget := getElem?_toList x i
  rw [toList_encodeSnapshot hread hencode, snapshotEntries] at hget
  have hne : (i : ℕ) ≠ (oneHotText (declineOrder.map DeclineCode.text)
      (snapshotField f "declineCode") : List (Double K)).length := by
    rw [oneHotText, List.length_map, List.length_map]
    exact fun h => hi (Fin.ext h)
  have hmem := mem_of_getElem?_middle hget hne
  simp only [List.mem_append] at hmem
  rcases hmem with hmem | hmem | hmem | hmem
  · exact oneHotText_fin hmem
  · exact oneHotText_fin hmem
  · exact keeps_fin (historyEntries_keeps n) hnum.2 _ hmem
  · exact oneHotText_fin hmem

theorem entry_nan (hnum : ¬ n.Numeric) : ∃ i : Fin featureDim, x.get i = .nan := by
  have hmem : .nan ∈ snapshotEntries math f n := by
    simp only [snapshotEntries, List.mem_append, List.mem_cons]
    rw [SnapshotNumbers.Numeric, not_and_or, not_not, not_not] at hnum
    rcases hnum with hamount | hhistory
    · refine Or.inr (Or.inl ?_)
      rw [amountEntry, hamount]
      rfl
    · exact Or.inr (Or.inr (Or.inr (Or.inl (keeps_nan (historyEntries_keeps n) hhistory))))
  rw [← toList_encodeSnapshot hread hencode] at hmem
  obtain ⟨i, hi, hx⟩ := List.getElem_of_mem hmem
  refine ⟨⟨i, by simpa using hi⟩, ?_⟩
  rw [← hx]
  simp [Vector.get]

end

/-! ## Summands of a value -/

/-- The summands of a model with finite weights. -/
theorem product_cases {m : Linear K featureDim} (i : Fin featureDim)
    (hother : i ≠ amountIndex → ∃ y, x.get i = .fin y)
    (hamount : (∃ y, x.get amountIndex = .fin y) ∨
      x.get amountIndex = .inf false ∧ m.w.get amountIndex ≠ 0) :
    (∃ y, (m.map .fin).w.get i * x.get i = .fin y) ∨
      i = amountIndex ∧ ∃ s, (m.map .fin).w.get i * x.get i = .inf s := by
  rw [Linear.get_map]
  by_cases hi : i = amountIndex
  · rw [hi]
    rcases hamount with ⟨y, hy⟩ | ⟨hinf, hw⟩
    · left
      rw [hy]
      exact ⟨_, rfl⟩
    · right
      rw [hinf]
      exact ⟨rfl, _, if_neg hw⟩
  · left
    obtain ⟨y, hy⟩ := hother hi
    rw [hy]
    exact ⟨_, rfl⟩

/-- Finite summands and one that may be infinite have a sum. -/
theorem addable_terms {m : Linear K featureDim}
    (hproduct : ∀ i, (∃ y, (m.map .fin).w.get i * x.get i = .fin y) ∨
      i = amountIndex ∧ ∃ s, (m.map .fin).w.get i * x.get i = .inf s) :
    Double.Addable (terms (m.map .fin) x) := by
  have hmem {v : Double K} (hv : v ∈ terms (m.map .fin) x) :
      (∃ y, v = .fin y) ∨ v = (m.map .fin).w.get amountIndex * x.get amountIndex ∧ v ≠ .nan := by
    rcases List.mem_cons.1 hv with rfl | hv
    · exact Or.inl ⟨m.b, rfl⟩
    · obtain ⟨i, -, rfl⟩ := List.mem_map.1 hv
      rcases hproduct i with hfin | ⟨rfl, s, hs⟩
      · exact Or.inl hfin
      · refine Or.inr ⟨rfl, ?_⟩
        rw [hs]
        simp
  constructor
  · intro hnan
    rcases hmem hnan with ⟨y, hy⟩ | ⟨-, hne⟩
    · cases hy
    · exact hne rfl
  · rintro ⟨hpos, hneg⟩
    rcases hmem hpos with ⟨y, hy⟩ | ⟨hpos, -⟩
    · cases hy
    · rcases hmem hneg with ⟨y, hy⟩ | ⟨hneg, -⟩
      · cases hy
      · exact absurd (hpos.trans hneg.symm) (by simp)

/-- The logistic function, of finite numbers. -/
def logistic (math : LogisticMath K) (z : K) : K :=
  if 0 ≤ z then 1 / (1 + math.exp (-z)) else math.exp z / (1 + math.exp z)

variable [IsStrictOrderedRing K]

/-- The entry of the amount. -/
theorem amountEntry_cases (math : LogisticMath K) (n : SnapshotNumbers) :
    n.amountMinor = .nan ∧ amountEntry math n = .nan ∨
      (n.amountMinor = .inf false ∧ amountEntry math n = .inf false) ∨
        (n.amountMinor ≠ .nan ∧ n.amountMinor ≠ .inf false ∧
          ∃ x, amountEntry math n = .fin x) := by
  have htwelve : (0 : K) < (12 : ℕ) := by positivity
  unfold amountEntry
  rcases max_zero n.amountMinor with ⟨hv, hmax⟩ | ⟨hv, hmax⟩ | ⟨hne, hfin, x, hmax⟩
  · left
    rw [hmax]
    exact ⟨hv, rfl⟩
  · right; left
    rw [hmax]
    refine ⟨hv, ?_⟩
    exact congrArg Double.inf (by rw [decide_eq_false htwelve.not_gt]; rfl)
  · right; right
    rw [hmax]
    exact ⟨hne, hfin, _, Double.fin_div htwelve.ne'⟩

section

variable (hread : readNumbers f = .ok n) (hencode : encodeSnapshot math f = .ok x)

include hread hencode

/-- An infinite amount has an infinite entry. -/
theorem entry_inf (h : n.amountMinor = .inf false) : x.get amountIndex = .inf false := by
  rw [entry_amount hread hencode]
  rcases amountEntry_cases math n with ⟨hnan, -⟩ | ⟨-, hinf⟩ | ⟨-, hne, -⟩
  · rw [h] at hnan
    cases hnan
  · exact hinf
  · exact absurd h hne

/-- The entries of a snapshot whose fields are taken for finite numbers. -/
theorem entries_fin (h : n.Finite) (i : Fin featureDim) : ∃ y, x.get i = .fin y := by
  by_cases hi : i = amountIndex
  · rw [hi, entry_amount hread hencode]
    rcases amountEntry_cases math n with ⟨hnan, -⟩ | ⟨hinf, -⟩ | ⟨-, -, hfin⟩
    · exact absurd hnan h.1.1
    · exact absurd hinf h.2
    · exact hfin
  · exact entry_fin hread hencode h.1 hi

end

/-- A model with finite weights has a value on a snapshot that is no `NaN` if no field is taken
    for `NaN` and no infinite amount meets the weight zero. -/
theorem addable_terms_iff (hread : readNumbers f = .ok n) (hencode : encodeSnapshot math f = .ok x)
    (m : Linear K featureDim) : Double.Addable (terms (m.map .fin) x) ↔
      n.Numeric ∧ (n.amountMinor = .inf false → m.w.get amountIndex ≠ 0) := by
  have hnot {i : Fin featureDim} (hi : (m.map .fin).w.get i * x.get i = .nan) :
      ¬ Double.Addable (terms (m.map .fin) x) := by
    refine Double.not_addable_of_nan (List.mem_cons_of_mem _ ?_)
    rw [← hi]
    exact List.mem_map_of_mem (List.mem_finRange i)
  constructor
  · intro hadd
    constructor
    · by_contra hnum
      obtain ⟨i, hi⟩ := entry_nan hread hencode hnum
      refine hnot (i := i) ?_ hadd
      rw [hi, Double.mul_nan]
    · intro hinf hw
      refine hnot (i := amountIndex) ?_ hadd
      rw [entry_inf hread hencode hinf, Linear.get_map, hw]
      exact infMul_zero false
  · rintro ⟨hnum, hw⟩
    refine addable_terms fun i => product_cases i (entry_fin hread hencode hnum) ?_
    rw [entry_amount hread hencode]
    rcases amountEntry_cases math n with ⟨hnan, -⟩ | ⟨hinf, hentry⟩ | ⟨-, -, hfin⟩
    · exact absurd hnan hnum.1
    · exact Or.inr ⟨hentry, hw hinf⟩
    · exact Or.inl hfin

/-! ## Scores -/

theorem saturates_sigmoid : Saturates (sigmoid math) where
  nan := rfl
  high := by
    show (Double.fin 1 / (.fin 1 + .fin 0) : Double K) = .fin 1
    rw [Double.fin_add, add_zero, Double.fin_div one_ne_zero, div_one]
  low := by
    show (Double.fin 0 / (.fin 1 + .fin 0) : Double K) = .fin 0
    rw [Double.fin_add, add_zero, Double.fin_div one_ne_zero, zero_div]

variable (hexp : ∀ z, 0 ≤ math.exp z)

include hexp

theorem sigmoid_fin (z : K) : sigmoid math (.fin z) = .fin (logistic math z) := by
  have hpos (z : K) : 1 + math.exp z ≠ 0 := (add_pos_of_pos_of_nonneg one_pos (hexp z)).ne'
  unfold sigmoid logistic
  by_cases hz : 0 ≤ z
  · have hle : Double.le 0 (.fin z) = true := decide_eq_true hz
    rw [if_pos hle, if_pos hz]
    exact Double.fin_div (hpos (-z))
  · have hle : ¬ Double.le 0 (.fin z) = true := by
      rw [Bool.not_eq_true]
      exact decide_eq_false hz
    rw [if_neg hle, if_neg hz]
    exact Double.fin_div (hpos z)

theorem clampScore_sigmoid (v : Double K) :
    (clampScore (sigmoid math v)).isSome ↔ v ≠ .nan := by
  cases v with
  | fin z =>
    rw [sigmoid_fin hexp]
    exact iff_of_true rfl (by simp)
  | inf s =>
    refine iff_of_true ?_ (by simp)
    cases s with
    | false =>
      rw [saturates_sigmoid.high]
      rfl
    | true =>
      rw [saturates_sigmoid.low]
      rfl
  | nan =>
    rw [saturates_sigmoid.nan]
    exact iff_of_false Bool.false_ne_true (by simp)

/-- A model gives a vector a score if the summands of its value have a sum. -/
theorem score_isSome (m : Linear (Double K) featureDim) (x : Vector (Double K) featureDim) :
    (clampScore (sigmoid math (m.value x))).isSome ↔ Double.Addable (terms m x) := by
  rw [clampScore_sigmoid hexp, value_ne_nan]

end

end AX10M
