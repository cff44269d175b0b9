/-
  Comparisons of policies, and the sweep over longer baselines (`@ax10m/backtest`, `estimate.ts`,
  `smart-retries.ts`, `checks.ts`).

  `backtest_persistence`: with more retry days a policy recovers whatever it does with fewer ones
  and no later, the outcome of an invoice does not depend on the others, and in the sweep the
  baselines recover more and more.
-/
import AX10M.Attribution.Sequential
import AX10M.Backtest.Simulate
import AX10M.Recovery.Service

namespace AX10M.Backtest

open Draws

/-! ## Arms -/

def merchant : String := "mrc_backtest"

/-- The tier of an amount is that of the recovery service. -/
def deriveStratum (inv : SimInvoice) : Stratum where
  mrrTier := mrrTierFromAmount inv.amountMinor
  declineFamily := familyOf inv.declineCode
  issuerRegion := inv.issuerRegion

structure ArmSplit where
  control : List SimInvoice := []
  treatment : List SimInvoice := []

/-- Put an invoice into its arm. -/
def ArmSplit.push (split : ArmSplit) (inv : SimInvoice) : Bucket → ArmSplit
  | .control => { split with control := split.control ++ [inv] }
  | .treatment => { split with treatment := split.treatment ++ [inv] }

/-- Assign an invoice to its arm. -/
def place (sha256 : Digest) (holdout : HoldoutConfig) (split : ArmSplit) (inv : SimInvoice) :
    Except String ArmSplit :=
  (assign sha256 ⟨merchant, some inv.customerId, inv.id, deriveStratum inv⟩ holdout).map
    fun a => split.push inv a.bucket

/-- Split invoices by the holdout. -/
def splitArms (sha256 : Digest) (invoices : List SimInvoice)
    (holdout : HoldoutConfig := defaultHoldoutConfig) : Except String ArmSplit :=
  invoices.foldlM (place sha256 holdout) {}

/-- The observation of an outcome. -/
def observation (arm : Bucket) (o : InvoiceOutcome) : UpliftObservation ℚ where
  arm
  cluster := o.invoice.customerId
  stratum := stratumKey (deriveStratum o.invoice)
  outcome := o.recoveredMinor
  covariate := o.invoice.amountMinor
  recovered := o.recovered

def toObservations (control treatment : List InvoiceOutcome) : List (UpliftObservation ℚ) :=
  control.map (observation .control) ++ treatment.map (observation .treatment)

structure ArmResult where
  controlOutcomes : List InvoiceOutcome
  treatmentOutcomes : List InvoiceOutcome
  estimate : BillableUpliftResult ℚ

/-- Split the invoices, run the policy of each arm, and estimate. -/
def runComparison (sha256 : Digest) (M : MathOps ℚ) (invoices : List SimInvoice)
    (controlPolicy treatmentPolicy : Policy) (controlSeed treatmentSeed : ℚ)
    (world : WorldParams := defaultWorldParams) (holdout : HoldoutConfig := defaultHoldoutConfig)
    (estimator : SequentialUpliftConfig ℚ := defaultSequentialConfig ℚ) :
    Except String ArmResult := do
  let split ← splitArms sha256 invoices holdout
  let controlOutcomes := runPolicy split.control controlPolicy controlSeed world
  let treatmentOutcomes := runPolicy split.treatment treatmentPolicy treatmentSeed world
  let estimate ← computeBillableUplift M (toObservations controlOutcomes treatmentOutcomes)
    estimator 0
  pure { controlOutcomes, treatmentOutcomes, estimate }

/-! ## The sweep -/

/-- `StripeSmartRetriesBaseline`: retry on the days of a schedule, whatever the decline. -/
def stripeSmartRetriesBaseline (scheduleDays : List ℚ := [1, 4, 10, 18]) : Policy where
  plan _ := scheduleDays.map fun day => ⟨day, .retry⟩

structure BaselineReachPoint where
  lastDay : ℚ
  controlRate : ℚ
  treatmentRate : ℚ
  rateDiff : ℚ

/-- The point of a schedule. -/
def reachPoint (scheduleDays : List ℚ) (r : ArmResult) : BaselineReachPoint where
  lastDay := scheduleDays.getLastD 0
  controlRate := r.estimate.controlRate
  treatmentRate := r.estimate.treatmentRate
  rateDiff := r.estimate.rateDiff

/-- The schedules, each longer than the one before. -/
def reachSchedules : List (List ℚ) := [[1, 4, 10, 18], [1, 4, 10, 18, 28], [1, 4, 10, 18, 28, 35]]

/-- Run the engine against baselines that retry to later and later days, over the invoices that are
    generated of a seed. -/
def baselineReachSweep (sha256 : Digest) (M : MathOps ℚ)
    (generateStream : ℕ → ℚ → List SimInvoice) (engine : Policy) (nCustomers : ℕ) (seed : ℚ) :
    Except String (List BaselineReachPoint) :=
  let invoices := generateStream nCustomers seed
  reachSchedules.mapM fun scheduleDays =>
    (runComparison sha256 M invoices (stripeSmartRetriesBaseline scheduleDays) engine
      (deriveSeed seed "reach-ctrl").toNat (deriveSeed seed "reach-treat").toNat).map
      (reachPoint scheduleDays)

/-! ## What an arm recovers -/

variable {sha256 : Digest} {M : MathOps ℚ} {invoices : List SimInvoice}

/-- Under the default holdout every invoice has an arm. -/
theorem splitArms_ok (invoices : List SimInvoice) :
    ∃ split, splitArms sha256 invoices = .ok split := by
  have hfold : ∀ split : ArmSplit, ∃ split',
      invoices.foldlM (place sha256 defaultHoldoutConfig) split = .ok split' := by
    induction invoices with
    | nil => exact fun split => ⟨split, rfl⟩
    | cons inv invoices ih =>
      intro split
      obtain ⟨a, ha⟩ := assign_default sha256
        ⟨merchant, some inv.customerId, inv.id, deriveStratum inv⟩
      obtain ⟨split', h⟩ := ih (split.push inv a.bucket)
      refine ⟨split', ?_⟩
      rw [List.foldlM_cons, place, ha]
      exact h
  exact hfold {}

/-- The rate of the control arm is that of its outcomes. -/
theorem measure_controlRate (config : SequentialUpliftConfig ℚ)
    (control treatment : List InvoiceOutcome) :
    (measure M (toObservations control treatment) config).controlRate =
      rate (control.countP InvoiceOutcome.recovered) control.length := by
  have harm : ofArm .control (toObservations control treatment) =
      control.map (observation .control) := by
    rw [ofArm, toObservations, List.filter_append, List.filter_map, List.filter_map]
    have htrue : control.filter ((fun o : UpliftObservation ℚ => decide (o.arm = .control)) ∘
        observation .control) = control := List.filter_eq_self.2 fun _ _ => rfl
    have hfalse : treatment.filter ((fun o : UpliftObservation ℚ => decide (o.arm = .control)) ∘
        observation .treatment) = [] := List.filter_eq_nil_iff.2 fun _ _ => by simp [observation]
    rw [htrue, hfalse, List.map_nil, List.append_nil]
  show rate ((ofArm .control _).filter UpliftObservation.recovered).length
    (ofArm .control _).length = _
  rw [harm, ← List.countP_eq_length_filter, List.countP_map, List.length_map]
  rfl

/-- The estimator is not misconfigured by default. -/
theorem configError_default : configError M (defaultSequentialConfig ℚ) = none := by
  rw [configError, if_neg, if_neg, if_neg]
  · norm_num [defaultSequentialConfig]
  · norm_num [defaultSequentialConfig]
  · norm_num [defaultSequentialConfig]

/-- The rate of the control arm in a comparison: the arm does not depend on the policies. -/
theorem runComparison_controlRate (sha256 : Digest) (M : MathOps ℚ) (invoices : List SimInvoice) :
    ∃ control : List SimInvoice, ∀ controlPolicy treatmentPolicy controlSeed treatmentSeed, ∃ r,
      runComparison sha256 M invoices controlPolicy treatmentPolicy controlSeed treatmentSeed =
        .ok r ∧
      r.estimate.controlRate = rate ((control.map (outcomeOf controlPolicy controlSeed
        defaultWorldParams)).countP InvoiceOutcome.recovered) control.length := by
  obtain ⟨split, hsplit⟩ : ∃ split, splitArms sha256 invoices = .ok split := splitArms_ok invoices
  refine ⟨split.control, fun controlPolicy treatmentPolicy controlSeed treatmentSeed => ?_⟩
  set controlOutcomes := runPolicy split.control controlPolicy controlSeed
  set treatmentOutcomes := runPolicy split.treatment treatmentPolicy treatmentSeed
  set estimate := settle (measure M (toObservations controlOutcomes treatmentOutcomes)
    (defaultSequentialConfig ℚ)) (defaultSequentialConfig ℚ).feeRate 0
  have hestimate : computeBillableUplift M (toObservations controlOutcomes treatmentOutcomes)
      (defaultSequentialConfig ℚ) 0 = .ok estimate :=
    computeBillableUplift_ok.2 ⟨configError_default, rfl⟩
  refine ⟨⟨controlOutcomes, treatmentOutcomes, estimate⟩, ?_, ?_⟩
  · rw [runComparison, hsplit]
    show (computeBillableUplift M (toObservations controlOutcomes treatmentOutcomes)
      (defaultSequentialConfig ℚ) 0 >>= fun estimate =>
        pure (⟨controlOutcomes, treatmentOutcomes, estimate⟩ : ArmResult)) = _
    rw [hestimate]
    rfl
  · have hmap : split.control.map (outcomeOf controlPolicy controlSeed defaultWorldParams) =
        controlOutcomes := (runPolicy_eq_map ..).symm
    have hlength : split.control.length = controlOutcomes.length := by
      rw [← hmap, List.length_map]
    rw [hmap, hlength]
    exact measure_controlRate (M := M) (defaultSequentialConfig ℚ) controlOutcomes
      treatmentOutcomes

/-! ## Longer baselines -/

/-- A baseline retries, and nothing else. -/
theorem retryOnly_baseline (scheduleDays : List ℚ) :
    RetryOnly (stripeSmartRetriesBaseline scheduleDays) := by
  intro obs a ha
  obtain ⟨day, -, rfl⟩ := List.mem_map.1 ha
  rfl

theorem days_baseline (scheduleDays : List ℚ) (inv : SimInvoice) :
    days (stripeSmartRetriesBaseline scheduleDays) inv = scheduleDays := by
  rw [days, stripeSmartRetriesBaseline, List.map_map]
  exact List.map_id _

/-- More invoices are recovered with more retry days. -/
theorem countP_recovered_le {p q : Policy} {seed : ℚ} {params : WorldParams} (hp : RetryOnly p)
    (hq : RetryOnly q) (h : ∀ inv ∈ invoices, (days p inv).Subperm (days q inv)) :
    (invoices.map (outcomeOf p seed params)).countP InvoiceOutcome.recovered ≤
      (invoices.map (outcomeOf q seed params)).countP InvoiceOutcome.recovered := by
  rw [List.countP_map, List.countP_map]
  exact List.countP_mono_left fun inv hinv hrec =>
    (recovered_of_subperm hp hq (h inv hinv) hrec).1

theorem rate_mono {a b : ℕ} (h : a ≤ b) (n : ℕ) : (rate a n : ℚ) ≤ rate b n := by
  rw [rate, rate]
  split_ifs
  · exact div_le_div_of_nonneg_right (Nat.cast_le.2 h) (Nat.cast_nonneg n)
  · exact le_rfl

/-- Each schedule of the sweep is part of the next. -/
theorem reachSchedules_chain : reachSchedules.Pairwise List.Sublist := by
  decide

theorem mapM_ok {α β : Type} {f : α → Except String β} {g : α → β} (h : ∀ x, f x = .ok (g x))
    (xs : List α) : xs.mapM f = .ok (xs.map g) := by
  induction xs with
  | nil => rfl
  | cons x xs ih => rw [List.mapM_cons, h, ih, List.map_cons]; rfl

/-- **The sweep**: the longer its schedule, the more a baseline recovers. -/
theorem sweep_controlRate (generateStream : ℕ → ℚ → List SimInvoice) (engine : Policy)
    (nCustomers : ℕ) (seed : ℚ) :
    ∃ points, baselineReachSweep sha256 M generateStream engine nCustomers seed = .ok points ∧
      (points.map BaselineReachPoint.controlRate).Pairwise (· ≤ ·) := by
  obtain ⟨control, hcontrol⟩ := runComparison_controlRate sha256 M (generateStream nCustomers seed)
  choose r hr using fun scheduleDays => hcontrol (stripeSmartRetriesBaseline scheduleDays) engine
    (deriveSeed seed "reach-ctrl").toNat (deriveSeed seed "reach-treat").toNat
  have hpoint (scheduleDays : List ℚ) : (runComparison sha256 M (generateStream nCustomers seed)
      (stripeSmartRetriesBaseline scheduleDays) engine (deriveSeed seed "reach-ctrl").toNat
      (deriveSeed seed "reach-treat").toNat).map (reachPoint scheduleDays) =
        .ok (reachPoint scheduleDays (r scheduleDays)) := by
    rw [(hr scheduleDays).1]
    rfl
  refine ⟨_, mapM_ok hpoint reachSchedules, ?_⟩
  · rw [List.map_map, List.pairwise_map]
    refine reachSchedules_chain.imp fun {shorter longer} hsub => ?_
    show (r shorter).estimate.controlRate ≤ (r longer).estimate.controlRate
    rw [(hr shorter).2, (hr longer).2]
    refine rate_mono (countP_recovered_le (retryOnly_baseline _) (retryOnly_baseline _) ?_) _
    intro inv _
    rw [days_baseline, days_baseline]
    exact hsub.subperm

/-- **Persistence is monotone, and invoices are independent.** -/
theorem backtest_persistence (seed : ℚ) (params : WorldParams) :
    (∀ p q, RetryOnly p → RetryOnly q → ∀ invoices : List SimInvoice,
      (∀ inv ∈ invoices, (days p inv).Subperm (days q inv)) →
      ∀ (i : ℕ) (o : InvoiceOutcome), (runPolicy invoices p seed params)[i]? = some o →
        o.recovered = true → ∃ (o' : InvoiceOutcome) (d d' : ℚ),
          (runPolicy invoices q seed params)[i]? = some o' ∧ o'.recovered = true ∧
            o.recoveryDay = some d ∧ o'.recoveryDay = some d' ∧ d' ≤ d) ∧
    (∀ policy (invoices invoices' : List SimInvoice) (i j : ℕ), invoices[i]? = invoices'[j]? →
      (runPolicy invoices policy seed params)[i]? =
        (runPolicy invoices' policy seed params)[j]?) ∧
    ∀ (sha256 : Digest) (M : MathOps ℚ) (generateStream : ℕ → ℚ → List SimInvoice)
      (engine : Policy) (nCustomers : ℕ), ∃ points,
        baselineReachSweep sha256 M generateStream engine nCustomers seed = .ok points ∧
        (points.map BaselineReachPoint.controlRate).Pairwise (· ≤ ·) := by
  refine ⟨?_, ?_, fun sha256 M generateStream engine nCustomers =>
    sweep_controlRate generateStream engine nCustomers seed⟩
  · intro p q hp hq invoices h i o ho hrec
    rw [runPolicy_getElem?] at ho
    obtain ⟨inv, hinv, rfl⟩ := Option.map_eq_some_iff.1 ho
    obtain ⟨hrec', d, d', hd, hd', hle⟩ :=
      recovered_of_subperm hp hq (h inv (List.mem_of_getElem? hinv)) hrec
    refine ⟨outcomeOf q seed params inv, d, d', ?_, hrec', hd, hd', hle⟩
    rw [runPolicy_getElem?, hinv, Option.map_some]
  · intro policy invoices invoices' i j h
    rw [runPolicy_getElem?, runPolicy_getElem?, h]

end AX10M.Backtest
