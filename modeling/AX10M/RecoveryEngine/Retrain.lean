/-
  The retraining job (`retrain.ts` of `@ax10m/recovery-engine`).

  Samples of a ledger pass the gates on their counts, a challenger is fitted to a part of them and
  compared with the champion on the rest.

  `retrainFromLedger_iff`: exactly when the job gives a report.  It throws if no sample is left to
  train on, if a field has no number, or if the champion has another number of weights; and on
  samples of two outcomes its evaluations do not end if a score is `NaN`.
-/
import AX10M.RecoveryEngine.Evaluation
import Mathlib.Analysis.SpecialFunctions.Log.Basic

namespace AX10M

open Js Draws Regression

/-! ## The job -/

structure RetrainConfig where
  /-- Reject the run if there are fewer samples. -/
  minSamples : ℕ := 500
  minPositives : ℕ := 50
  minNegatives : ℕ := 50
  /-- The share that is held out. -/
  testFraction : ℚ := 1 / 4
  fraction_mem : 0 ≤ testFraction ∧ testFraction ≤ 1 := by norm_num
  splitSeed : UInt32 := 13
  trainOptions : TrainOptions := ⟨2500, 2 / 5, 1 / 10000, 17⟩
  /-- How far the challenger must beat the champion. -/
  promoteMarginAuc : ℚ := 5 / 1000
  weightByAmount : Bool := true

inductive RetrainRejection where
  | insufficientSamples
  | insufficientPositives
  | insufficientNegatives

structure RetrainReport (K : Type) where
  accepted : Bool
  reason : Option RetrainRejection := none
  nSamples : ℕ
  nPositives : ℕ
  nNegatives : ℕ
  champion : Option (EvalMetrics K) := none
  challenger : Option (EvalMetrics K) := none
  promoted : Bool := false
  weights : Option (RecoverabilityWeights (Double K)) := none

/-- How many samples recovered. -/
def positives (samples : List TrainingSample) : ℕ := samples.countP TrainingSample.recovered

/-- How many did not. -/
def negatives (samples : List TrainingSample) : ℕ := samples.length - positives samples

/-- The first gate that the counts do not pass. -/
def rejection (cfg : RetrainConfig) (samples : List TrainingSample) : Option RetrainRejection :=
  if samples.length < cfg.minSamples then some .insufficientSamples
  else if positives samples < cfg.minPositives then some .insufficientPositives
  else if negatives samples < cfg.minNegatives then some .insufficientNegatives
  else none

/-- Four decimals of an area. -/
def roundAuc (x : ℚ) : ℚ := Js.round (x * 10000) / 10000

/-- The report of a comparison: promote only an improvement that is better than random. -/
def compared {K : Type} (cfg : RetrainConfig) (samples : List TrainingSample)
    (weights : RecoverabilityWeights (Double K))
    (championMetrics challengerMetrics : EvalMetrics K) : RetrainReport K :=
  let promoted : Bool := 1 / 2 < challengerMetrics.auc ∧
    championMetrics.auc + cfg.promoteMarginAuc ≤ challengerMetrics.auc
  let provenance : ModelMeta :=
    { corpus := "ledger"
      nSamples := samples.length
      nPositives := positives samples
      challengerAuc := roundAuc challengerMetrics.auc
      championAuc := roundAuc championMetrics.auc
      promoted }
  { accepted := true
    nSamples := samples.length
    nPositives := positives samples
    nNegatives := negatives samples
    champion := some championMetrics
    challenger := some challengerMetrics
    promoted
    weights := some { weights with provenance := some provenance } }

/-- The samples to train on. -/
def trainPart (cfg : RetrainConfig) (samples : List TrainingSample) : List TrainingSample :=
  (splitTrainTest samples cfg.testFraction cfg.splitSeed).1

/-- The samples that are held out. -/
def testPart (cfg : RetrainConfig) (samples : List TrainingSample) : List TrainingSample :=
  (splitTrainTest samples cfg.testFraction cfg.splitSeed).2

section

variable {K : Type} [Field K] [LinearOrder K] (math : LogisticMath K)

/-- Fit a challenger and compare it with the champion. -/
def challenge (fuel : ℕ) (champion : RecoverabilityWeights (Double K)) (cfg : RetrainConfig)
    (samples : List TrainingSample) : Except Halt (RetrainReport K) := do
  let train := trainPart cfg samples
  let test := testPart cfg samples
  let result ← (trainLogisticRecoverability math train cfg.trainOptions).mapError .threw
  let championModel ← (logisticRecoverability champion).mapError .threw
  let championMetrics ← evaluateModel math fuel championModel test
  let challengerModel ← (logisticRecoverability result.weights).mapError .threw
  let challengerMetrics ← evaluateModel math fuel challengerModel test
  pure (compared cfg samples result.weights championMetrics challengerMetrics)

/-- Retrain from a ledger and decide whether to promote. -/
def retrainFromLedger (fuel : ℕ) (entries : List LedgerEntry)
    (champion : RecoverabilityWeights (Double K)) (cfg : RetrainConfig) :
    Except Halt (RetrainReport K) := do
  let samples ← (samplesFromLedger entries cfg.weightByAmount).mapError .threw
  match rejection cfg samples with
  | some reason =>
    pure
      { accepted := false
        reason := some reason
        nSamples := samples.length
        nPositives := positives samples
        nNegatives := negatives samples }
  | none => challenge math fuel champion cfg samples

end

/-! ## The split -/

variable {cfg : RetrainConfig} {samples : List TrainingSample}

/-- The parts are the samples. -/
theorem trainPart_append_testPart (cfg : RetrainConfig) (samples : List TrainingSample) :
    (trainPart cfg samples ++ testPart cfg samples).Perm samples :=
  others_append_chosen _ _

theorem mem_samples_iff {s : TrainingSample} :
    s ∈ samples ↔ s ∈ trainPart cfg samples ∨ s ∈ testPart cfg samples := by
  rw [← (trainPart_append_testPart cfg samples).mem_iff, List.mem_append]

/-- Samples are left to train on if not all are held out. -/
theorem trainPart_ne_nil : trainPart cfg samples ≠ [] ↔
    (Js.round (samples.length * cfg.testFraction)).toNat < samples.length := by
  obtain ⟨hnodup, hlt, hlength⟩ := drawn_places samples.length
    (Js.round (samples.length * cfg.testFraction)).toNat (mulberry32 cfg.splitSeed)
  rw [← List.length_pos_iff, trainPart, splitTrainTest, testPlaces,
    length_others hnodup hlt, hlength]
  omega

/-- As many are held out as the share says, to the next whole number. -/
theorem length_testPart (cfg : RetrainConfig) (samples : List TrainingSample) :
    (testPart cfg samples).length =
      (Js.round (samples.length * cfg.testFraction)).toNat := by
  obtain ⟨hnodup, hlt, hlength⟩ := drawn_places samples.length
    (Js.round (samples.length * cfg.testFraction)).toNat (mulberry32 cfg.splitSeed)
  have hshare : samples.length * cfg.testFraction ≤ samples.length :=
    mul_le_of_le_one_right (Nat.cast_nonneg _) cfg.fraction_mem.2
  have hround : Js.round (samples.length * cfg.testFraction) ≤ samples.length := by
    refine Int.lt_add_one_iff.1 (Int.floor_lt.2 ?_)
    push_cast
    linarith
  rw [testPart, splitTrainTest, testPlaces, length_chosen hnodup hlt, hlength]
  omega

/-! ## Models -/

section

variable {K : Type} {weights : RecoverabilityWeights (Double K)} {m : Linear (Double K) featureDim}

theorem logisticRecoverability_ok (h : weights.w.length = featureDim) :
    ∃ m, logisticRecoverability weights = .ok m := ⟨_, dif_pos h⟩

theorem of_logisticRecoverability (h : logisticRecoverability weights = .ok m) :
    weights.w.length = featureDim ∧ m.w.toList = weights.w ∧ m.b = weights.b := by
  unfold logisticRecoverability at h
  split_ifs at h with hlength
  obtain rfl := Except.ok.inj h
  exact ⟨hlength, rfl, rfl⟩

theorem logisticRecoverability_toList (m : Linear (Double K) featureDim) :
    logisticRecoverability { w := m.w.toList, b := m.b } = .ok m := dif_pos (by simp)

variable [Field K] [LinearOrder K]

/-- The summands of the value of a model: its intercept, and the products of its weights with the
    entries of a snapshot. -/
def summands (math : LogisticMath K) (weights : RecoverabilityWeights (Double K)) (f : Json) :
    List (Double K) :=
  weights.b :: List.zipWith (· * ·) weights.w (snapshotVector math f).toList

theorem terms_eq {math : LogisticMath K} (h : logisticRecoverability weights = .ok m) (f : Json) :
    terms m (snapshotVector math f) = summands math weights f := by
  obtain ⟨-, hw, hb⟩ := of_logisticRecoverability h
  rw [terms, summands, ← hw, hb]
  refine congrArg _ (List.ext_getElem (by simp) fun i hi hi' => ?_)
  simp [Vector.get]

/-- A snapshot has a score of a challenger: no field is taken for `NaN`, and no infinite amount
    meets the weight zero. -/
def HasScore (m : Linear K featureDim) (f : Json) : Prop :=
  ∃ n, readNumbers f = .ok n ∧ n.Numeric ∧ (n.amountMinor = .inf false → m.w.get amountIndex ≠ 0)

variable {math : LogisticMath K} {samples test : List TrainingSample} {opts : TrainOptions}
  [IsStrictOrderedRing K] (hexp : ∀ z, 0 ≤ math.exp z)

theorem hasScore_iff (m : Linear K featureDim) {f : Json} (h : Converts f) :
    HasScore m f ↔ Double.Addable (terms (m.map .fin) (snapshotVector math f)) := by
  obtain ⟨n, hn⟩ := h
  rw [addable_terms_iff hn (encodeSnapshot_of_converts math ⟨n, hn⟩)]
  constructor
  · rintro ⟨n', hn', hnum⟩
    rwa [← Except.ok.inj (hn'.symm.trans hn)]
  · exact fun hnum => ⟨n, hn, hnum⟩

include hexp

/-- **The scores of a challenger.** -/
theorem scored_trained_iff (hne : samples ≠ []) (hlr : 0 < opts.lr)
    (hiterations : 2 ≤ opts.iterations) (hweight : ∀ s ∈ samples, WeightOf s)
    (hsamples : ∀ s ∈ samples, Converts s.features) (htest : ∀ s ∈ test, Converts s.features)
    (hsome : test ≠ []) : Scored math (trained math samples opts) test ↔
      (∀ s ∈ samples, FiniteSnapshot s.features) ∧
        ∀ s ∈ test, HasScore (fitted math samples opts) s.features := by
  by_cases hfin : ∀ s ∈ samples, FiniteSnapshot s.features
  · rw [Scored, trained_fin hexp hne hweight hfin, and_iff_right hfin]
    exact forall₂_congr fun s hs => (hasScore_iff _ (htest s hs)).symm
  · refine iff_of_false (fun hscored => ?_) fun h => hfin h.1
    push Not at hfin
    obtain ⟨i, hi⟩ := trained_nan math hlr hiterations hweight hsamples hfin
    obtain ⟨s, hs⟩ := List.exists_mem_of_ne_nil test hsome
    exact value_ne_nan.2 (hscored s hs) (value_nan (Or.inl hi))

end

/-! ## When the job gives a report -/

section

variable {K : Type} [Field K] [LinearOrder K] {math : LogisticMath K} {fuel : ℕ}
  {champion : RecoverabilityWeights (Double K)} {report : RetrainReport K}

/-- What a comparison goes through. -/
theorem challenge_eq_ok : challenge math fuel champion cfg samples = .ok report ↔
    ∃ result old c new d,
      trainLogisticRecoverability math (trainPart cfg samples) cfg.trainOptions = .ok result ∧
      logisticRecoverability champion = .ok old ∧
      evaluateModel math fuel old (testPart cfg samples) = .ok c ∧
      logisticRecoverability result.weights = .ok new ∧
      evaluateModel math fuel new (testPart cfg samples) = .ok d ∧
      compared cfg samples result.weights c d = report := by
  simp only [challenge, bind_eq_ok, mapError_eq_ok, pure, Except.pure, Except.ok.injEq,
    exists_and_left]

/-- **The data can be trained on and compared.** -/
structure Trainable (math : LogisticMath K) (champion : RecoverabilityWeights (Double K))
    (cfg : RetrainConfig) (samples : List TrainingSample) : Prop where
  /-- not all samples are held out -/
  rest : (Js.round (samples.length * cfg.testFraction)).toNat < samples.length
  width : champion.w.length = featureDim
  converts : ∀ s ∈ samples, Converts s.features
  /-- one outcome is held out, or each held-out snapshot has two scores -/
  scored : OneClass (testPart cfg samples) ∨
    (∀ s ∈ trainPart cfg samples, FiniteSnapshot s.features) ∧
      ∀ s ∈ testPart cfg samples, Double.Addable (summands math champion s.features) ∧
        HasScore (fitted math (trainPart cfg samples) cfg.trainOptions) s.features

/-- The gates that a promoted challenger has passed. -/
structure Gates (math : LogisticMath K) (fuel : ℕ) (champion : RecoverabilityWeights (Double K))
    (cfg : RetrainConfig) (samples : List TrainingSample) : Prop where
  enough : cfg.minSamples ≤ samples.length
  positives : cfg.minPositives ≤ positives samples
  negatives : cfg.minNegatives ≤ negatives samples
  /-- on the samples that are held out, it is better than random and beats the champion -/
  beats : ∃ result old c new d,
    trainLogisticRecoverability math (trainPart cfg samples) cfg.trainOptions = .ok result ∧
    logisticRecoverability champion = .ok old ∧
    evaluateModel math fuel old (testPart cfg samples) = .ok c ∧
    logisticRecoverability result.weights = .ok new ∧
    evaluateModel math fuel new (testPart cfg samples) = .ok d ∧
    1 / 2 < d.auc ∧ c.auc + cfg.promoteMarginAuc ≤ d.auc

theorem retrainFromLedger_of_none {entries : List LedgerEntry}
    (hsamples : samplesFromLedger entries cfg.weightByAmount = .ok samples)
    (h : rejection cfg samples = none) : retrainFromLedger math fuel entries champion cfg =
      challenge math fuel champion cfg samples := by
  rw [retrainFromLedger, hsamples]
  show (match rejection cfg samples with | some reason => _ | none => _) = _
  rw [h]

theorem retrainFromLedger_of_some {entries : List LedgerEntry} {reason : RetrainRejection}
    (hsamples : samplesFromLedger entries cfg.weightByAmount = .ok samples)
    (h : rejection cfg samples = some reason) :
    retrainFromLedger math fuel entries champion cfg =
      .ok { accepted := false, reason := some reason, nSamples := samples.length,
            nPositives := positives samples, nNegatives := negatives samples } := by
  rw [retrainFromLedger, hsamples]
  show (match rejection cfg samples with | some reason => _ | none => _) = _
  rw [h]
  rfl

theorem rejection_eq_none (h : rejection cfg samples = none) : cfg.minSamples ≤ samples.length ∧
    cfg.minPositives ≤ positives samples ∧ cfg.minNegatives ≤ negatives samples := by
  unfold rejection at h
  split_ifs at h with h₁ h₂ h₃
  exact ⟨not_lt.1 h₁, not_lt.1 h₂, not_lt.1 h₃⟩

/-- A comparison promotes through the gates only. -/
theorem gates_of_challenge (hgates : rejection cfg samples = none)
    (h : challenge math fuel champion cfg samples = .ok report) (hpromoted : report.promoted) :
    Gates math fuel champion cfg samples := by
  obtain ⟨h₁, h₂, h₃⟩ := rejection_eq_none hgates
  obtain ⟨result, old, c, new, d, hresult, hold, hc, hnew, hd, rfl⟩ := challenge_eq_ok.1 h
  have hbeats : 1 / 2 < d.auc ∧ c.auc + cfg.promoteMarginAuc ≤ d.auc := of_decide_eq_true hpromoted
  exact ⟨h₁, h₂, h₃, result, old, c, new, d, hresult, hold, hc, hnew, hd, hbeats⟩

variable [IsStrictOrderedRing K] (hexp : ∀ z, 0 ≤ math.exp z)
  (hlr : 0 < cfg.trainOptions.lr) (hiterations : 2 ≤ cfg.trainOptions.iterations)
  (hweight : ∀ s ∈ samples, WeightOf s)

include hexp hlr hiterations hweight

/-- The held-out scores of the challenger, if two outcomes are held out. -/
theorem scored_challenger_iff (hne : trainPart cfg samples ≠ [])
    (hconverts : ∀ s ∈ samples, Converts s.features) (hone : ¬ OneClass (testPart cfg samples)) :
    Scored math (trained math (trainPart cfg samples) cfg.trainOptions) (testPart cfg samples) ↔
      (∀ s ∈ trainPart cfg samples, FiniteSnapshot s.features) ∧
        ∀ s ∈ testPart cfg samples,
          HasScore (fitted math (trainPart cfg samples) cfg.trainOptions) s.features := by
  refine scored_trained_iff hexp hne hlr hiterations ?_ ?_ ?_ ?_
  · exact fun s hs => hweight s (mem_samples_iff.2 (Or.inl hs))
  · exact fun s hs => hconverts s (mem_samples_iff.2 (Or.inl hs))
  · exact fun s hs => hconverts s (mem_samples_iff.2 (Or.inr hs))
  · rintro hnil
    refine hone ⟨true, ?_⟩
    rw [hnil]
    exact fun s hs => absurd hs List.not_mem_nil

/-- Data that can be trained on gives a report. -/
theorem challenge_ok (h : Trainable math champion cfg samples) (hfuel : samples.length ≤ fuel) :
    ∃ report, challenge math fuel champion cfg samples = .ok report := by
  have hne := trainPart_ne_nil.2 h.rest
  have htrain : ∀ s ∈ trainPart cfg samples, Converts s.features :=
    fun s hs => h.converts s (mem_samples_iff.2 (Or.inl hs))
  have htest : ∀ s ∈ testPart cfg samples, Converts s.features :=
    fun s hs => h.converts s (mem_samples_iff.2 (Or.inr hs))
  have hlength : (testPart cfg samples).length ≤ fuel := by
    have hperm := (trainPart_append_testPart cfg samples).length_eq
    rw [List.length_append] at hperm
    omega
  obtain ⟨history, hresult⟩ := trainLogisticRecoverability_ok math cfg.trainOptions hne htrain
  obtain ⟨old, hold⟩ := logisticRecoverability_ok h.width
  have hchampion : OneClass (testPart cfg samples) ∨ Scored math old (testPart cfg samples) := by
    refine h.scored.imp_right fun hscored s hs => ?_
    rw [terms_eq hold]
    exact (hscored.2 s hs).1
  have hchallenger : OneClass (testPart cfg samples) ∨
      Scored math (trained math (trainPart cfg samples) cfg.trainOptions)
        (testPart cfg samples) := by
    by_cases hone : OneClass (testPart cfg samples)
    · exact Or.inl hone
    · obtain ⟨hfin, hscored⟩ := h.scored.resolve_left hone
      exact Or.inr ((scored_challenger_iff hexp hlr hiterations hweight hne h.converts hone).2
        ⟨hfin, fun s hs => (hscored s hs).2⟩)
  obtain ⟨c, hc⟩ := evaluateModel_ok hexp htest hchampion hlength
  obtain ⟨d, hd⟩ := evaluateModel_ok hexp htest hchallenger hlength
  exact ⟨_, challenge_eq_ok.2 ⟨_, old, c, _, d, hresult, hold, hc,
    logisticRecoverability_toList _, hd, rfl⟩⟩

/-- No other data does. -/
theorem of_challenge (h : challenge math fuel champion cfg samples = .ok report) :
    Trainable math champion cfg samples := by
  obtain ⟨result, old, c, new, d, hresult, hold, hc, hnew, hd, -⟩ := challenge_eq_ok.1 h
  obtain ⟨hne, htrain⟩ := of_trainLogisticRecoverability hresult
  have htest := converts_of_evaluateModel hc
  have hconverts : ∀ s ∈ samples, Converts s.features := by
    intro s hs
    rcases mem_samples_iff.1 hs with hs | hs
    · exact htrain s hs
    · exact htest s hs
  refine ⟨trainPart_ne_nil.1 hne, (of_logisticRecoverability hold).1, hconverts, ?_⟩
  by_cases hone : OneClass (testPart cfg samples)
  · exact Or.inl hone
  right
  have hold' := (of_evaluateModel hexp hc).resolve_left hone
  have hnew' := (of_evaluateModel hexp hd).resolve_left hone
  obtain ⟨history, hresult'⟩ := trainLogisticRecoverability_ok math cfg.trainOptions hne htrain
  obtain rfl := Except.ok.inj (hresult.symm.trans hresult')
  obtain rfl := Except.ok.inj (hnew.symm.trans (logisticRecoverability_toList _))
  obtain ⟨hfin, hscored⟩ :=
    (scored_challenger_iff hexp hlr hiterations hweight hne hconverts hone).1 hnew'
  refine ⟨hfin, fun s hs => ⟨?_, hscored s hs⟩⟩
  rw [← terms_eq hold]
  exact hold' s hs

omit hweight in
/-- **The job gives a report, and promotes through its gates only**, exactly if the amounts have
    numbers and a gate rejects the counts, or the data can be trained on and compared. -/
theorem retrainFromLedger_iff (entries : List LedgerEntry) :
    (∃ fuel report samples, retrainFromLedger math fuel entries champion cfg = .ok report ∧
      samplesFromLedger entries cfg.weightByAmount = .ok samples ∧
      (trainPart cfg samples ++ testPart cfg samples).Perm samples ∧
      (report.promoted = true → Gates math fuel champion cfg samples)) ↔
    ∃ samples, samplesFromLedger entries cfg.weightByAmount = .ok samples ∧
      (rejection cfg samples ≠ none ∨ Trainable math champion cfg samples) := by
  constructor
  · rintro ⟨fuel, report, samples, h, hsamples, -, -⟩
    refine ⟨samples, hsamples, ?_⟩
    by_cases hgates : rejection cfg samples = none
    · rw [retrainFromLedger_of_none hsamples hgates] at h
      exact Or.inr (of_challenge hexp hlr hiterations (weightOf_samples hsamples) h)
    · exact Or.inl hgates
  · rintro ⟨samples, hsamples, h⟩
    have hperm := trainPart_append_testPart cfg samples
    cases hgates : rejection cfg samples with
    | some reason =>
      exact ⟨0, _, samples, retrainFromLedger_of_some hsamples hgates, hsamples, hperm,
        fun hpromoted => absurd hpromoted Bool.false_ne_true⟩
    | none =>
      have htrainable := h.resolve_left fun hne => hne hgates
      obtain ⟨report, hreport⟩ := challenge_ok hexp hlr hiterations (weightOf_samples hsamples)
        htrainable le_rfl
      exact ⟨samples.length, report, samples,
        (retrainFromLedger_of_none hsamples hgates).trans hreport, hsamples, hperm,
        gates_of_challenge hgates hreport⟩

end

/-! ## Two ledgers -/

noncomputable section

/-- The functions of real numbers. -/
def realLogistic : LogisticMath ℝ := ⟨Real.exp, Real.log, fun x => Real.log (1 + x)⟩

theorem realLogistic_exp (z : ℝ) : 0 ≤ realLogistic.exp z := (Real.exp_pos z).le

def zeroWeights : RecoverabilityWeights (Double ℝ) :=
  { w := List.replicate featureDim 0, b := 0 }

end

/-- A plan for an invoice with a snapshot of its features, and an outcome. -/
def plannedWith (invoice : String) (features : Json) (outcome : LedgerEventType) :
    List LedgerEntry :=
  [⟨"m", .recoveryPlanned, "", [("invoiceId", .str invoice), ("features", features)]⟩,
    ⟨"m", outcome, "", [("invoiceId", .str invoice)]⟩]

/-- A snapshot of the numbers only. -/
def numbersOnly : Json :=
  .obj [("amountMinor", .num 5000), ("customerTenureDays", .num 365),
    ("priorRecoveryRate", .num 1), ("attemptNumber", .num 1), ("daysSinceFirstFail", .num 30)]

/-- One invoice that recovered and one that did not. -/
def twoInvoices : List LedgerEntry :=
  plannedWith "in_1" numbersOnly .caseRecovered ++ plannedWith "in_2" numbersOnly .chargeFailed

/-- No minimum counts. -/
def noMinimum (testFraction : ℚ) (h : 0 ≤ testFraction ∧ testFraction ≤ 1) : RetrainConfig :=
  { minSamples := 0, minPositives := 0, minNegatives := 0, testFraction, fraction_mem := h }

theorem share_zero : (0 : ℚ) ≤ 0 ∧ (0 : ℚ) ≤ 1 := ⟨le_rfl, zero_le_one⟩

/-- The samples of two such invoices. -/
def twoSamples : List TrainingSample :=
  [⟨numbersOnly, true, .max 1 (.fin 5000 / .fin 100)⟩,
    ⟨numbersOnly, false, .max 1 (.fin 5000 / .fin 100)⟩]

theorem trainable_twoInvoices :
    Trainable realLogistic zeroWeights (noMinimum 0 share_zero) twoSamples where
  rest := by
    show (Js.round (_ * 0)).toNat < 2
    rw [mul_zero, Js.round_zero]
    decide
  width := by simp [zeroWeights]
  converts := by
    intro s hs
    have hfeatures : s.features = numbersOnly := by
      simp only [twoSamples, List.mem_cons, List.not_mem_nil, or_false] at hs
      rcases hs with rfl | rfl <;> rfl
    rw [hfeatures]
    exact ⟨_, rfl⟩
  scored := by
    have hplaces : testPlaces 2 0 13 = [] := by
      rw [testPlaces, mul_zero, Js.round_zero]
      rfl
    have htest : testPart (noMinimum 0 share_zero) twoSamples = [] := by
      show chosen (testPlaces 2 0 13) twoSamples = []
      rw [hplaces]
      rfl
    refine Or.inl ⟨true, fun s hs => ?_⟩
    rw [htest] at hs
    cases hs

/-- Two invoices are trained on if none is held out. -/
theorem retrainFromLedger_twoInvoices : ∃ fuel report samples,
    retrainFromLedger realLogistic fuel twoInvoices zeroWeights (noMinimum 0 share_zero) =
        .ok report ∧
      samplesFromLedger twoInvoices true = .ok samples ∧
      (trainPart (noMinimum 0 share_zero) samples ++
        testPart (noMinimum 0 share_zero) samples).Perm samples ∧
      (report.promoted = true →
        Gates realLogistic fuel zeroWeights (noMinimum 0 share_zero) samples) :=
  (retrainFromLedger_iff realLogistic_exp (by norm_num [noMinimum]) (by decide) twoInvoices).2
    ⟨twoSamples, rfl, Or.inr trainable_twoInvoices⟩

/-- Four invoices whose snapshots are empty objects. -/
def blankInvoices : List LedgerEntry :=
  plannedWith "in_1" (.obj []) .caseRecovered ++ plannedWith "in_2" (.obj []) .caseRecovered ++
    (plannedWith "in_3" (.obj []) .chargeFailed ++ plannedWith "in_4" (.obj []) .chargeFailed)

def blankSamples : List TrainingSample :=
  [⟨.obj [], true, .nan⟩, ⟨.obj [], true, .nan⟩, ⟨.obj [], false, .nan⟩, ⟨.obj [], false, .nan⟩]

/-- Three of four samples have two outcomes. -/
theorem not_oneClass_blank :
    ¬ OneClass (testPart (noMinimum (3 / 4) (by norm_num)) blankSamples) := by
  rintro ⟨b, hb⟩
  have hlength : (testPart (noMinimum (3 / 4) (by norm_num)) blankSamples).length = 3 := by
    have hround : Js.round (((4 : ℕ) : ℚ) * (3 / 4)) = 3 := by norm_num [Js.round]
    exact (length_testPart _ _).trans (congrArg Int.toNat hround)
  have hcount : (testPart (noMinimum (3 / 4) (by norm_num)) blankSamples).countP
      (fun s => s.recovered = b) ≤ blankSamples.countP fun s => s.recovered = b := by
    rw [← (trainPart_append_testPart (noMinimum (3 / 4) (by norm_num)) blankSamples).countP_eq,
      List.countP_append]
    exact Nat.le_add_left _ _
  rw [List.countP_eq_length.2 (by simpa using hb), hlength] at hcount
  have htwo : blankSamples.countP (fun s => s.recovered = b) = 2 := by cases b <;> rfl
  omega

theorem numbers_blank :
    readNumbers (.obj []) = .ok ⟨.nan, .nan, .nan, .nan, .nan, .fin (1 / 2)⟩ := rfl

/-- An empty ledger that no minimum rejects throws; snapshots that are empty objects do not end. -/
theorem retrainFromLedger_not_always :
    (¬ ∃ fuel report, retrainFromLedger realLogistic fuel [] zeroWeights
      (noMinimum (1 / 4) (by norm_num)) = .ok report) ∧
    ¬ ∃ fuel report, retrainFromLedger realLogistic fuel blankInvoices zeroWeights
      (noMinimum (3 / 4) (by norm_num)) = .ok report := by
  constructor
  · rintro ⟨fuel, report, h⟩
    cases h
  · rintro ⟨fuel, report, h⟩
    have hsamples : samplesFromLedger blankInvoices true = .ok blankSamples := rfl
    have hgates : rejection (noMinimum (3 / 4) (by norm_num)) blankSamples = none := rfl
    rw [retrainFromLedger_of_none hsamples hgates] at h
    have htrainable := of_challenge realLogistic_exp (by norm_num [noMinimum]) (by decide)
      (weightOf_samples hsamples) h
    obtain ⟨hfin, -⟩ := htrainable.scored.resolve_left not_oneClass_blank
    obtain ⟨s, hs⟩ := List.exists_mem_of_ne_nil _ (trainPart_ne_nil.2 htrainable.rest)
    obtain ⟨n, hn, hfinite⟩ := hfin s hs
    have hfeatures : s.features = .obj [] := by
      have hmem := mem_samples_iff.2 (Or.inl hs)
      simp only [blankSamples, List.mem_cons, List.not_mem_nil, or_false] at hmem
      rcases hmem with rfl | rfl | rfl | rfl <;> rfl
    rw [hfeatures] at hn
    obtain rfl := Except.ok.inj (numbers_blank.symm.trans hn)
    exact hfinite.1.1 rfl

end AX10M
