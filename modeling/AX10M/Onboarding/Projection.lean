/-
  What a shadow projection adds up to (`@ax10m/onboarding`, `projection.ts`).

  `shadow_conservative`: of amounts that are not negative, a projection is between nothing and what
  the baseline missed, the conservative one is no more than the expected one, what the baseline
  recovered is projected nowhere, and the families add up to the totals, values up to one minor
  unit of rounding for each family.
-/
import AX10M.Js.Groups
import AX10M.Onboarding.Observed
import Mathlib.Algebra.Order.BigOperators.Group.List

namespace AX10M

open Js

/-! ## Rounding -/

theorem abs_round_sub_le (x : ℚ) : |(Js.round x : ℚ) - x| ≤ 1 / 2 := by
  rw [abs_le]
  constructor
  · linarith [Js.lt_round x]
  · linarith [Js.round_le x]

/-- Values that are rounded add up to their sum, up to a half for each. -/
theorem abs_sum_round_sub_le (xs : List ℚ) :
    |((xs.map Js.round).sum : ℚ) - xs.sum| ≤ (xs.length : ℚ) / 2 := by
  induction xs with
  | nil => simp
  | cons x xs ih =>
    have hsplit : (((x :: xs).map Js.round).sum : ℚ) - (x :: xs).sum =
        ((Js.round x : ℚ) - x) + (((xs.map Js.round).sum : ℚ) - xs.sum) := by
      rw [List.map_cons, List.sum_cons, List.sum_cons]
      push_cast
      ring
    have hlength : (((x :: xs).length : ℕ) : ℚ) / 2 = 1 / 2 + (xs.length : ℚ) / 2 := by
      rw [List.length_cons]
      push_cast
      ring
    rw [hsplit, hlength]
    exact (abs_add_le _ _).trans (add_le_add (abs_round_sub_le x) ih)

/-- Values that are rounded add up to their rounded sum, up to one for each. -/
theorem abs_sum_round_sub_round_le (xs : List ℚ) :
    |(xs.map Js.round).sum - Js.round xs.sum| ≤ (xs.length : ℤ) := by
  cases xs with
  | nil => simp
  | cons x xs =>
    have hsum := abs_le.1 (abs_sum_round_sub_le (x :: xs))
    have htotal := abs_le.1 (abs_round_sub_le (x :: xs).sum)
    have hlength : (1 : ℚ) ≤ ((x :: xs).length : ℚ) := by
      rw [List.length_cons]
      push_cast
      linarith [(Nat.cast_nonneg xs.length : (0 : ℚ) ≤ xs.length)]
    have hcast : |((((x :: xs).map Js.round).sum - Js.round (x :: xs).sum : ℤ) : ℚ)| ≤
        (((x :: xs).length : ℤ) : ℚ) := by
      rw [abs_le, Int.cast_sub, Int.cast_natCast]
      constructor <;> linarith
    exact_mod_cast hcast

/-! ## The families -/

/-- Every prior is a probability. -/
theorem captureOfRemaining_mem (code : DeclineCode) :
    0 ≤ captureOfRemaining code ∧ captureOfRemaining code ≤ 1 := by
  cases code <;> norm_num [captureOfRemaining, captureOfRemainingByCode,
    captureOfRemainingByFamily, familyOf]

/-- The observations of a family. -/
def ofFamily (l : List ShadowObservation) (f : DeclineFamily) : List ShadowObservation :=
  itemsOf (fun o => familyOf o.declineCode) f l

/-- The families that were observed. -/
def familiesOf (l : List ShadowObservation) : List DeclineFamily :=
  (groupBy (fun o : ShadowObservation => familyOf o.declineCode) ShadowTotals.observe {} l).keys

variable {l : List ShadowObservation} {elapsedDays : NumOrNaN} {config : ProjectionConfig}

/-- The lines of a projection, up to their order: one for each family that was observed. -/
theorem byFamily_perm : (projectShadow l elapsedDays config).byFamily.Perm
    ((familiesOf l).map fun f => familyProjection f (shadowTotals (ofFamily l f))) := by
  have hentries : (groupBy (fun o : ShadowObservation => familyOf o.declineCode)
      ShadowTotals.observe {} l).entries.map (fun p => familyProjection p.1 p.2) =
      (familiesOf l).map fun f => familyProjection f (shadowTotals (ofFamily l f)) := by
    rw [entries_groupBy, List.map_map]
    rfl
  rw [← hentries]
  exact List.mergeSort_perm _ _

/-! ## Totals -/

theorem observe_failures (t : ShadowTotals) (o : ShadowObservation) :
    (t.observe o).failures = t.failures + 1 := by
  unfold ShadowTotals.observe
  split_ifs <;> rfl

/-- What the families add up to, of a total that every observation adds to. -/
theorem sum_ofFamily {M : Type} [AddCommMonoid M] (total : ShadowTotals → M)
    (gain : ShadowObservation → M) (h : ∀ t o, total (t.observe o) = total t + gain o)
    (h0 : total {} = 0) :
    ((familiesOf l).map fun f => total (shadowTotals (ofFamily l f))).sum =
      total (shadowTotals l) := by
  have hsum (l : List ShadowObservation) : total (shadowTotals l) = (l.map gain).sum := by
    rw [shadowTotals, foldl_observe total gain h, h0, zero_add]
  simp only [hsum]
  exact sum_itemsOf gain (Map.keys_nodup _) fun o ho => mem_keys_groupBy.2 ⟨o, ho, rfl⟩

theorem length_byFamily :
    (projectShadow l elapsedDays config).byFamily.length = (familiesOf l).length := by
  rw [byFamily_perm.length_eq, List.length_map]

theorem sum_failures : ((projectShadow l elapsedDays config).byFamily.map
    FamilyProjection.failures).sum = (projectShadow l elapsedDays config).observedFailures := by
  have hlength : (shadowTotals l).failures = l.length := by
    rw [shadowTotals, foldl_observe ShadowTotals.failures (fun _ => 1) observe_failures]
    simp
  rw [(byFamily_perm.map _).sum_eq, List.map_map]
  exact (sum_ofFamily ShadowTotals.failures _ observe_failures rfl).trans hlength

/-- Values of families that are rounded add up to a total that is rounded. -/
theorem sum_rounded (value : FamilyProjection → ℤ) (total : ShadowTotals → ℚ)
    (gain : ShadowObservation → ℚ) (h : ∀ t o, total (t.observe o) = total t + gain o)
    (h0 : total {} = 0) (hvalue : ∀ f t, value (familyProjection f t) = Js.round (total t)) :
    |(((projectShadow l elapsedDays config).byFamily.map value).sum : ℚ) -
        Js.round (total (shadowTotals l))| ≤
      (projectShadow l elapsedDays config).byFamily.length := by
  have hround := abs_sum_round_sub_round_le
    ((familiesOf l).map fun f => total (shadowTotals (ofFamily l f)))
  rw [sum_ofFamily total gain h h0, List.length_map, List.map_map] at hround
  rw [(byFamily_perm.map _).sum_eq, List.map_map, length_byFamily]
  have hlines : value ∘ (fun f => familyProjection f (shadowTotals (ofFamily l f))) =
      Js.round ∘ fun f => total (shadowTotals (ofFamily l f)) := funext fun f => hvalue f _
  rw [hlines]
  exact_mod_cast hround

/-! ## Invoices that the baseline recovered -/

/-- A value of a family in a projection, nothing if it has no line. -/
def ShadowProjection.familyValue (p : ShadowProjection) (value : FamilyProjection → ℤ)
    (f : DeclineFamily) : ℤ :=
  ((p.byFamily.filter fun line => line.family = f).map value).sum

/-- The projections have the same missed and projected values, in total and of each family. -/
def SameValues (p p' : ShadowProjection) : Prop :=
  p.missedValue = p'.missedValue ∧
    p.projectedIncrementalRecoveries = p'.projectedIncrementalRecoveries ∧
    p.projectedWindowValue = p'.projectedWindowValue ∧
    p.projectedMonthlyValue = p'.projectedMonthlyValue ∧
    p.projectedMonthlyConservative = p'.projectedMonthlyConservative ∧
    p.projectedMonthlyFee = p'.projectedMonthlyFee ∧
    ∀ f, p.familyValue FamilyProjection.missedValue f =
        p'.familyValue FamilyProjection.missedValue f ∧
      p.familyValue FamilyProjection.projectedValue f =
        p'.familyValue FamilyProjection.projectedValue f

theorem familyValue_eq (value : FamilyProjection → ℤ) (total : ShadowTotals → ℚ)
    (h0 : total {} = 0) (hvalue : ∀ f t, value (familyProjection f t) = Js.round (total t))
    (f : DeclineFamily) : (projectShadow l elapsedDays config).familyValue value f =
      Js.round (total (shadowTotals (ofFamily l f))) := by
  have hlines : ((projectShadow l elapsedDays config).byFamily.filter
      fun line => line.family = f).Perm (((familiesOf l).filter fun f' => f' = f).map
        fun f => familyProjection f (shadowTotals (ofFamily l f))) := by
    refine (byFamily_perm.filter _).trans ?_
    rw [List.filter_map]
    exact List.Perm.refl _
  have hnodup : (familiesOf l).Nodup := Map.keys_nodup _
  rw [ShadowProjection.familyValue, (hlines.map value).sum_eq, List.map_map]
  by_cases hf : f ∈ familiesOf l
  · rw [List.filter_eq, List.count_eq_one_of_mem hnodup hf, List.replicate_one, List.map_singleton,
      List.sum_singleton]
    exact hvalue f _
  · have hnil : ofFamily l f = [] := itemsOf_eq_nil.2 fun o ho heq =>
      hf (mem_keys_groupBy.2 ⟨o, ho, heq⟩)
    rw [List.filter_eq, List.count_eq_zero_of_not_mem hf, hnil]
    show 0 = Js.round (total {})
    rw [h0, Js.round_zero]

theorem missed_eq_zero {worth : ShadowObservation → ℚ} {o : ShadowObservation}
    (h : o.baselineRecovered = true) : missed worth o = 0 := if_pos h

/-- What the baseline recovered adds to no total that it does not count in. -/
theorem total_of_recovered {total : ShadowTotals → ℚ} {worth : ShadowObservation → ℚ}
    (h : ∀ t o, total (t.observe o) = total t + missed worth o) {l' : List ShadowObservation}
    {o : ShadowObservation} (ho : o.baselineRecovered = true) (hl : l.Perm (o :: l')) :
    total (shadowTotals l) = total (shadowTotals l') := by
  rw [shadowTotals_of_perm total _ h hl, missed_eq_zero ho, add_zero]

/-- **What the baseline recovered** is projected nowhere. -/
theorem sameValues_of_recovered {l₁ l₂ : List ShadowObservation} {o : ShadowObservation}
    (ho : o.baselineRecovered = true) :
    SameValues (projectShadow (l₁ ++ o :: l₂) elapsedDays config)
      (projectShadow (l₁ ++ l₂) elapsedDays config) := by
  have hperm : (l₁ ++ o :: l₂).Perm (o :: (l₁ ++ l₂)) := List.perm_middle
  have hmissed := total_of_recovered observe_missedValue ho hperm
  have hvalue := total_of_recovered observe_projectedValue ho hperm
  have hcount := total_of_recovered observe_projectedRecoveries ho hperm
  have hfamily (total : ShadowTotals → ℚ) (worth : ShadowObservation → ℚ)
      (h : ∀ t o, total (t.observe o) = total t + missed worth o) (f : DeclineFamily) :
      total (shadowTotals (ofFamily (l₁ ++ o :: l₂) f)) =
        total (shadowTotals (ofFamily (l₁ ++ l₂) f)) := by
    by_cases hf : familyOf o.declineCode = f
    · have hof : (ofFamily (l₁ ++ o :: l₂) f).Perm (o :: ofFamily (l₁ ++ l₂) f) := by
        refine (itemsOf_perm hperm f).trans ?_
        rw [itemsOf, List.filter_cons_of_pos (by simpa using hf)]
        exact List.Perm.refl _
      exact total_of_recovered h ho hof
    · have hsame : ofFamily (l₁ ++ o :: l₂) f = ofFamily (l₁ ++ l₂) f := by
        rw [ofFamily, itemsOf, List.filter_append, List.filter_cons_of_neg (by simpa using hf),
          ← List.filter_append]
        rfl
      rw [hsame]
  unfold shadowTotals at hmissed hvalue hcount
  refine ⟨?_, ?_, ?_, ?_, ?_, ?_, fun f => ⟨?_, ?_⟩⟩
  · simp only [projectShadow, hmissed]
  · simp only [projectShadow, hcount]
  · simp only [projectShadow, hvalue]
  · simp only [projectShadow, hvalue]
  · simp only [projectShadow, hvalue]
  · simp only [projectShadow, hvalue]
  · rw [familyValue_eq _ ShadowTotals.missedValue rfl fun _ _ => rfl,
      familyValue_eq _ ShadowTotals.missedValue rfl fun _ _ => rfl,
      hfamily _ _ observe_missedValue f]
  · rw [familyValue_eq _ ShadowTotals.projectedValue rfl fun _ _ => rfl,
      familyValue_eq _ ShadowTotals.projectedValue rfl fun _ _ => rfl,
      hfamily _ _ observe_projectedValue f]

/-! ## Bounds -/

/-- What is projected is between nothing and what was missed. -/
theorem projectedValue_bounds (h : ∀ o ∈ l, 0 ≤ o.amount) :
    0 ≤ (shadowTotals l).projectedValue ∧
      (shadowTotals l).projectedValue ≤ (shadowTotals l).missedValue := by
  have hvalue := foldl_observe _ _ observe_projectedValue l {}
  have hmissed := foldl_observe _ _ observe_missedValue l {}
  have hgain : ∀ o ∈ l, 0 ≤ missed (fun o => o.amount * captureOfRemaining o.declineCode) o ∧
      missed (fun o => o.amount * captureOfRemaining o.declineCode) o ≤
        missed (fun o => o.amount) o := by
    intro o ho
    have hcapture := captureOfRemaining_mem o.declineCode
    unfold missed
    split_ifs
    · exact ⟨le_rfl, le_rfl⟩
    · exact ⟨mul_nonneg (h o ho) hcapture.1, mul_le_of_le_one_right (h o ho) hcapture.2⟩
  rw [shadowTotals, hvalue, hmissed, zero_add, zero_add]
  constructor
  · refine List.sum_nonneg fun v hv => ?_
    obtain ⟨o, ho, rfl⟩ := List.mem_map.1 hv
    exact (hgain o ho).1
  · exact List.sum_le_sum fun o ho => (hgain o ho).2

/-- The days are scaled by a factor that is not negative. -/
theorem monthly_nonneg (h : ∀ o ∈ l, 0 ≤ o.amount) (hdays : 0 ≤ config.monthlyDays)
    (elapsedDays : NumOrNaN) : 0 ≤ (shadowTotals l).projectedValue * (match elapsedDays with
      | some days => if days > 0 then config.monthlyDays / days else 1
      | none => 1) := by
  refine mul_nonneg (projectedValue_bounds h).1 ?_
  cases elapsedDays with
  | none => exact zero_le_one
  | some days =>
    show 0 ≤ if days > 0 then config.monthlyDays / days else 1
    split_ifs with hpos
    · exact div_nonneg hdays hpos.le
    · exact zero_le_one

/-- **A shadow projection never over-claims.** -/
theorem shadow_conservative {observations : List ShadowObservation}
    (hamount : ∀ o ∈ observations, 0 ≤ o.amount) (elapsedDays : NumOrNaN)
    {config : ProjectionConfig} (hdays : 0 ≤ config.monthlyDays)
    (hhaircut : 0 ≤ config.conservativeHaircut ∧ config.conservativeHaircut ≤ 1) :
    let p := projectShadow observations elapsedDays config
    0 ≤ p.projectedWindowValue.amount ∧
    p.projectedWindowValue.amount ≤ p.missedValue.amount ∧
    p.projectedMonthlyConservative.amount ≤ p.projectedMonthlyValue.amount ∧
    (∀ l₁ o l₂, observations = l₁ ++ o :: l₂ → o.baselineRecovered = true →
      SameValues p (projectShadow (l₁ ++ l₂) elapsedDays config)) ∧
    (p.byFamily.map FamilyProjection.failures).sum = p.observedFailures ∧
    |((p.byFamily.map FamilyProjection.missedValue).sum : ℚ) - p.missedValue.amount| ≤
      p.byFamily.length ∧
    |((p.byFamily.map FamilyProjection.projectedValue).sum : ℚ) - p.projectedWindowValue.amount| ≤
      p.byFamily.length := by
  intro p
  have hbounds := projectedValue_bounds hamount
  have hmonthly := monthly_nonneg hamount hdays elapsedDays
  refine ⟨?_, ?_, ?_, ?_, sum_failures, ?_, ?_⟩
  · exact Int.cast_nonneg (Js.round_nonneg hbounds.1)
  · exact Int.cast_le.2 (Js.round_mono hbounds.2)
  · exact Int.cast_le.2 (Js.round_mono (mul_le_of_le_one_right hmonthly hhaircut.2))
  · rintro l₁ o l₂ rfl ho
    exact sameValues_of_recovered ho
  · exact sum_rounded FamilyProjection.missedValue ShadowTotals.missedValue _
      observe_missedValue rfl fun _ _ => rfl
  · exact sum_rounded FamilyProjection.projectedValue ShadowTotals.projectedValue _
      observe_projectedValue rfl fun _ _ => rfl

/-- An invoice that was missed and one that was not, in two weeks. -/
theorem shadow_conservative_two :
    let p := projectShadow [⟨.insufficientFunds, 10000, false⟩, ⟨.expiredCard, 5000, true⟩]
      (some 14)
    p.projectedMonthlyConservative.amount ≤ p.projectedMonthlyValue.amount :=
  (shadow_conservative (by decide) (some 14) (by decide) (by
    norm_num [defaultProjectionConfig])).2.2.1

end AX10M
