/-
  When an evaluation ends (`training.ts` of `@ax10m/recovery-engine`).

  The area under the curve of one class is a half; for two classes the loop ends if every score is a
  number, and on no other scores (`evaluateModel_ok`, `of_evaluateModel`).
-/
import AX10M.RecoveryEngine.Fitted

namespace AX10M

open Js Draws Regression

/-! ## Areas under curves -/

section

variable {S : Type} [LinearOrder S] {preds : List (Prediction S)}

theorem auc_one_class (fuel : ℕ) {y : ℤ} (hy : y = 1 ∨ y = 0) (h : ∀ d ∈ preds, d.y ≠ y) :
    auc fuel preds = some (1 / 2) := by
  have hempty : scoresOf preds y = [] := by
    rw [scoresOf, List.filter_eq_nil_iff.2, List.map_nil]
    intro d hd
    rw [decide_eq_true_eq]
    exact h d hd
  refine if_pos ?_
  rcases hy with rfl | rfl
  · exact Or.inl (by rw [hempty, List.length_nil])
  · exact Or.inr (by rw [hempty, List.length_nil])

/-- The loop on two classes does not end if a score is `NaN`. -/
theorem auc_nan (fuel : ℕ) (hpos : ∃ d ∈ preds, d.y = 1) (hneg : ∃ d ∈ preds, d.y = 0)
    (hnan : ∃ d ∈ preds, d.p = none) : auc fuel preds = none := by
  have hmem : none ∈ sortScores (preds.map Prediction.p) := by
    obtain ⟨d, hd, hp⟩ := hnan
    rw [sortScores, List.mem_insertionSort, ← hp]
    exact List.mem_map_of_mem hd
  rw [auc, if_neg (by
    rintro (h | h)
    · exact scoresOf_ne_nil hpos h
    · exact scoresOf_ne_nil hneg h)]
  rw [rankBlocks_nan fuel 0 hmem, Option.bind_none]

end

/-! ## Evaluations -/

/-- All samples have one outcome. -/
def OneClass (samples : List TrainingSample) : Prop :=
  ∃ b, ∀ s ∈ samples, s.recovered = b

section

variable {K : Type} [Field K] [LinearOrder K] (math : LogisticMath K)

/-- The prediction for a sample. -/
def predicted (m : Linear (Double K) featureDim) (s : TrainingSample) : Prediction K :=
  ⟨clampScore (sigmoid math (m.value (snapshotVector math s.features))),
    if s.recovered then 1 else 0⟩

variable {math} {m : Linear (Double K) featureDim} {samples : List TrainingSample}

theorem predictions_eq (h : ∀ s ∈ samples, Converts s.features) :
    predictions math m samples = .ok (samples.map (predicted math m)) := by
  refine mapM_eq_ok.2 (List.forall₂_map_right_iff.2 (List.forall₂_same.2 fun s hs => ?_))
  rw [scoreOf, encodeSnapshot_of_converts math (h s hs)]
  rfl

theorem converts_of_evaluateModel {fuel : ℕ} {metrics : EvalMetrics K}
    (h : evaluateModel math fuel m samples = .ok metrics) :
    ∀ s ∈ samples, Converts s.features := by
  intro s hs
  unfold evaluateModel at h
  cases hpreds : predictions math m samples with
  | error e =>
    rw [hpreds] at h
    cases h
  | ok preds =>
    obtain ⟨d, hd⟩ := ok_of_mapM hpreds hs
    obtain ⟨p, hp, -⟩ := map_eq_ok.1 hd
    obtain ⟨x, hx, -⟩ := map_eq_ok.1 hp
    exact converts_of_encode hx

theorem evaluateModel_eq (fuel : ℕ) (h : ∀ s ∈ samples, Converts s.features) :
    evaluateModel math fuel m samples = (auc fuel (samples.map (predicted math m))).elim
      (.error .running) fun a => .ok (metricsOf math (samples.map (predicted math m)) a) := by
  cases ha : auc fuel (samples.map (predicted math m)) with
  | none => simp only [evaluateModel, predictions_eq h, ha, Option.elim]
  | some a => simp only [evaluateModel, predictions_eq h, ha, Option.elim]

theorem predicted_label (s : TrainingSample) :
    (predicted math m s).y = if s.recovered then 1 else 0 := rfl

/-- Samples of two outcomes have predictions of both labels. -/
theorem exists_label (h : ¬ OneClass samples) (b : Bool) :
    ∃ d ∈ samples.map (predicted math m), d.y = if b then 1 else 0 := by
  by_contra hnone
  refine h ⟨!b, fun s hs => ?_⟩
  by_contra hne
  refine hnone ⟨predicted math m s, List.mem_map_of_mem hs, ?_⟩
  rw [predicted_label, Bool.ne_not.1 hne]

variable (math) in
/-- A model has a number for each sample. -/
def Scored (m : Linear (Double K) featureDim) (samples : List TrainingSample) : Prop :=
  ∀ s ∈ samples, Double.Addable (terms m (snapshotVector math s.features))

variable [IsStrictOrderedRing K] (hexp : ∀ z, 0 ≤ math.exp z)

include hexp

/-- **An evaluation ends** on one class, or if the model has a number for each sample. -/
theorem evaluateModel_ok {fuel : ℕ} (hconverts : ∀ s ∈ samples, Converts s.features)
    (h : OneClass samples ∨ Scored math m samples) (hfuel : samples.length ≤ fuel) :
    ∃ metrics, evaluateModel math fuel m samples = .ok metrics := by
  obtain ⟨a, ha⟩ : ∃ a, auc fuel (samples.map (predicted math m)) = some a := by
    by_cases hone : OneClass samples
    · obtain ⟨b, hb⟩ := hone
      have hlabel {y : ℤ} (hy : y ≠ if b then 1 else 0) :
          ∀ d ∈ samples.map (predicted math m), d.y ≠ y := by
        intro d hd
        obtain ⟨s, hs, rfl⟩ := List.mem_map.1 hd
        rw [predicted_label, hb s hs]
        exact hy.symm
      cases b with
      | false => exact ⟨_, auc_one_class fuel (Or.inl rfl) (hlabel (by simp))⟩
      | true => exact ⟨_, auc_one_class fuel (Or.inr rfl) (hlabel (by simp))⟩
    · have hscored := h.resolve_left hone
      refine ⟨_, auc_eq ?_ ?_ (exists_label hone true) (exists_label hone false) ?_⟩
      · intro d hd
        obtain ⟨s, hs, rfl⟩ := List.mem_map.1 hd
        exact (score_isSome hexp m _).2 (hscored s hs)
      · intro d hd
        obtain ⟨s, hs, rfl⟩ := List.mem_map.1 hd
        rw [predicted_label]
        split_ifs
        · exact Or.inl rfl
        · exact Or.inr rfl
      · rw [List.length_map]
        exact hfuel
  rw [evaluateModel_eq fuel hconverts, ha]
  exact ⟨_, rfl⟩

/-- And on no other samples. -/
theorem of_evaluateModel {fuel : ℕ} {metrics : EvalMetrics K}
    (h : evaluateModel math fuel m samples = .ok metrics) :
    OneClass samples ∨ Scored math m samples := by
  by_contra hnot
  rw [not_or] at hnot
  obtain ⟨hone, hscored⟩ := hnot
  have hnan : ∃ d ∈ samples.map (predicted math m), d.p = none := by
    by_contra hall
    refine hscored fun s hs => (score_isSome hexp m _).1 ?_
    refine Option.isSome_iff_ne_none.2 fun hp => ?_
    exact hall ⟨predicted math m s, List.mem_map_of_mem hs, hp⟩
  rw [evaluateModel_eq fuel (converts_of_evaluateModel h),
    auc_nan fuel (exists_label hone true) (exists_label hone false) hnan] at h
  cases h

end

end AX10M
