/-
  The fraction that is held out (`@ax10m/billing`, `holdout-economics.ts`; `holdout.ts`).

  Three places name it: the configuration under which invoices are assigned, the one of the
  ratio check, and the schedule by which the cost of the holdout is credited.  The schedule
  tapers, the others do not: as the parts are wired, they agree in the certification window and
  not after it (`fraction_held_out_iff`).
-/
import AX10M.Billing.Certification
import AX10M.Recovery.Outcome

namespace AX10M

open Js Effects

/-! ## How a ledger was assigned -/

/-- The assignments of a ledger were appended by instances of the service. -/
def ProducedBy (s : RecoveryCaseService) (entries : List LedgerEntry) : Prop :=
  ∀ e ∈ entries, e.type = .holdoutAssigned →
    ∃ (σ : Type) (env : Env σ) (policy : σ) (clock : ℕ → ℤ) (rs : List Request),
      e ∈ (serveAll s env (World.init policy clock) rs).ledger

/-! ## The three fractions -/

section

variable {K : Type} [Field K] [LinearOrder K] [FloorRing K]

/-- The parts as they are wired: nobody is given a configuration. -/
structure Wired (s : RecoveryCaseService) (opts : BillingRunOptions K) : Prop where
  holdout : s.holdoutConfig = defaultHoldoutConfig
  schedule : opts.holdoutSchedule = defaultHoldoutSchedule
  expected : opts.ctx.config.expectedControlFraction =
    (defaultSequentialConfig K).expectedControlFraction

/-- The cohort of a result was assigned under the fraction that is credited, and this is the
    fraction that the ratio check expects. -/
structure FractionHeldOut (s : RecoveryCaseService) (opts : BillingRunOptions K)
    (entries : List LedgerEntry) (r : BillingMerchantResult K) : Prop where
  assigned : ∀ e ∈ entries, assignedIn e r.merchantId r.period → AssignedBy s e
  credited : r.economics.holdoutFraction = s.holdoutConfig.controlFraction
  expected : (r.economics.holdoutFraction : K) = opts.ctx.config.expectedControlFraction

/-- The text that a run counts the window of a merchant from. -/
def onboardingOf (opts : BillingRunOptions K) (entries : List LedgerEntry) (m : String) : String :=
  (onboardedAtFor m entries opts.onboardedAt).getD opts.nowIso

theorem runBilling_mem {opts : BillingRunOptions K} {entries : List LedgerEntry}
    {results : List (BillingMerchantResult K)} {r : BillingMerchantResult K}
    (hrun : runBilling opts entries = .ok results) (hr : r ∈ results) :
    ∃ period, previousMonth opts.nowIso = .ok period ∧ Billed opts entries period r.merchantId r := by
  unfold runBilling at hrun
  cases hp : previousMonth opts.nowIso with
  | error e =>
    rw [hp] at hrun
    cases hrun
  | ok period =>
    rw [hp] at hrun
    obtain ⟨-, hb⟩ := mapM_named (fun h => (billMerchant_bills h).merchant) hrun
    exact ⟨period, rfl, billMerchant_billed (hb r hr)⟩

/-- A run credits a merchant for the audit fraction past the window, and else for the
    certification fraction. -/
theorem credited_cases {opts : BillingRunOptions K} {entries : List LedgerEntry}
    {results : List (BillingMerchantResult K)} {r : BillingMerchantResult K}
    (hs : opts.holdoutSchedule = defaultHoldoutSchedule)
    (hrun : runBilling opts entries = .ok results) (hr : r ∈ results) {now : ℤ}
    (hnow : Date.parse opts.nowIso = some now) :
    (PastWindow (onboardingOf opts entries r.merchantId) now ∧
      r.economics.holdoutFraction = defaultHoldoutSchedule.auditFraction) ∨
    (¬ PastWindow (onboardingOf opts entries r.merchantId) now ∧
      r.economics.holdoutFraction = defaultHoldoutSchedule.certificationFraction) := by
  obtain ⟨period, -, hbilled⟩ := runBilling_mem hrun hr
  have hecon : r.economics = computeHoldoutEconomics r.statement.result.fee
      r.statement.result.deltaPer r.statement.result.treatedInvoices
      (holdoutFractionFor (onboardingOf opts entries r.merchantId) opts.nowIso
        defaultHoldoutSchedule) := by
    rw [hbilled.economics, ← hs]
    rfl
  rw [hecon]
  exact economicsFraction_cases hnow _ _ _

/-- A run that has results is dated. -/
theorem runBilling_dated {opts : BillingRunOptions K} {entries : List LedgerEntry}
    {results : List (BillingMerchantResult K)} (hrun : runBilling opts entries = .ok results) :
    ∃ now, Date.parse opts.nowIso = some now := by
  unfold runBilling previousMonth at hrun
  cases hnow : Date.parse opts.nowIso with
  | none =>
    rw [hnow] at hrun
    cases hrun
  | some now => exact ⟨now, rfl⟩

/-- The fraction that is credited is the one that was held out and that the ratio check expects,
    if and only if the run is not past the certification window of the merchant. -/
theorem fraction_held_out_iff {s : RecoveryCaseService} {opts : BillingRunOptions K}
    {entries : List LedgerEntry} {results : List (BillingMerchantResult K)}
    {r : BillingMerchantResult K} (hwired : Wired s opts) (hledger : ProducedBy s entries)
    (hrun : runBilling opts entries = .ok results) (hr : r ∈ results) :
    FractionHeldOut s opts entries r ↔
      ∀ now, Date.parse opts.nowIso = some now →
        ¬ PastWindow (onboardingOf opts entries r.merchantId) now := by
  constructor
  · intro h now hnow
    rcases credited_cases hwired.schedule hrun hr hnow with ⟨-, haudit⟩ | ⟨hw, -⟩
    · have hcredited := h.credited
      rw [haudit, hwired.holdout] at hcredited
      norm_num [defaultHoldoutSchedule, defaultHoldoutConfig] at hcredited
    · exact hw
  · intro h
    obtain ⟨now, hnow⟩ := runBilling_dated hrun
    rcases credited_cases hwired.schedule hrun hr hnow with ⟨hw, -⟩ | ⟨-, hfull⟩
    · exact absurd hw (h now hnow)
    · constructor
      · intro e he ha
        have ht : e.type = .holdoutAssigned := by
          simp only [assignedIn, Bool.and_eq_true, decide_eq_true_eq] at ha
          exact ha.1.1
        obtain ⟨σ, env, policy, clock, rs, hmem⟩ := hledger e he ht
        exact assignedBy_run s env policy clock rs e hmem ht
      · rw [hfull, hwired.holdout]
        norm_num [defaultHoldoutSchedule, defaultHoldoutConfig]
      · rw [hfull, hwired.expected]
        norm_num [defaultHoldoutSchedule, defaultSequentialConfig]

end

namespace Sample

/-- A run in September of a merchant that was onboarded on a date. -/
def septemberRun (onboardedAt : String) : BillingRunOptions ℚ :=
  { billing (defaultSequentialConfig ℚ) "2026-09-01T00:00:00.000Z" with
    onboardedAt := fun _ => some onboardedAt }

/-- The results of such a run on August's ledger. -/
def septemberResults (onboardedAt : String) : List (BillingMerchantResult ℚ) :=
  ((runBilling (septemberRun onboardedAt) (paidLedger defaultHoldoutConfig)).toOption).getD []

theorem produced : ProducedBy service (paidLedger defaultHoldoutConfig) :=
  fun _ he _ => ⟨Unit, env, (), fun _ => 1786881600000, paidOutside, he⟩

theorem wired (onboardedAt : String) : Wired service (septemberRun onboardedAt) :=
  ⟨rfl, rfl, rfl⟩

theorem septemberResults_eq {onboardedAt : String}
    (h : (septemberResults onboardedAt).length = 1) :
    runBilling (septemberRun onboardedAt) (paidLedger defaultHoldoutConfig) =
      .ok (septemberResults onboardedAt) := by
  unfold septemberResults at h ⊢
  cases hr : runBilling (septemberRun onboardedAt) (paidLedger defaultHoldoutConfig) with
  | ok results => rfl
  | error e =>
    rw [hr] at h
    cases h

end Sample

/-- A merchant that was onboarded in August is credited for what was held out. -/
theorem fraction_held_out_august :
    let results := Sample.septemberResults "2026-08-01T00:00:00.000Z"
    (results.map fun r => (r.merchantId, r.economics.holdoutFraction)) = [("mrc_1", 1 / 10)] ∧
      ∀ r ∈ results, FractionHeldOut Sample.service
        (Sample.septemberRun "2026-08-01T00:00:00.000Z")
        (Sample.paidLedger defaultHoldoutConfig) r := by
  intro results
  have hresults : (results.map fun r => (r.merchantId, r.economics.holdoutFraction)) =
      [("mrc_1", 1 / 10)] := by decide +kernel
  have hone : results.length = 1 := by simpa using congrArg List.length hresults
  refine ⟨hresults, fun r hr => ?_⟩
  refine (fraction_held_out_iff (Sample.wired _) Sample.produced
    (Sample.septemberResults_eq hone) hr).2 ?_
  rintro now hnow ⟨t, ht, hle⟩
  have hparse : Date.parse (onboardingOf (Sample.septemberRun "2026-08-01T00:00:00.000Z")
      (Sample.paidLedger defaultHoldoutConfig) r.merchantId) = some 1785542400000 := by
    have hdate : onboardingOf (Sample.septemberRun "2026-08-01T00:00:00.000Z")
        (Sample.paidLedger defaultHoldoutConfig) r.merchantId = "2026-08-01T00:00:00.000Z" := rfl
    rw [hdate]
    decide +kernel
  have hrun : Date.parse (Sample.septemberRun "2026-08-01T00:00:00.000Z").nowIso =
      some 1788220800000 := by decide +kernel
  obtain rfl := Option.some.inj (ht.symm.trans hparse)
  obtain rfl := Option.some.inj (hnow.symm.trans hrun)
  norm_num [windowMs, Date.msPerDay] at hle

/-- One that was onboarded in January is credited for a fiftieth, where a tenth is held out. -/
theorem fraction_held_out_fails :
    let results := Sample.septemberResults "2026-01-01T00:00:00.000Z"
    (results.map fun r => (r.merchantId, r.economics.holdoutFraction)) = [("mrc_1", 1 / 50)] ∧
      Sample.service.holdoutConfig.controlFraction = 1 / 10 ∧
      (Sample.paidLedger defaultHoldoutConfig).any
        (fun e => assignedIn e "mrc_1" Sample.august) = true ∧
      ¬ ∀ r ∈ results, FractionHeldOut Sample.service
        (Sample.septemberRun "2026-01-01T00:00:00.000Z")
        (Sample.paidLedger defaultHoldoutConfig) r := by
  intro results
  have hresults : (results.map fun r => (r.merchantId, r.economics.holdoutFraction)) =
      [("mrc_1", 1 / 50)] := by decide +kernel
  have htenth : Sample.service.holdoutConfig.controlFraction = 1 / 10 := rfl
  refine ⟨hresults, htenth, by decide +kernel, fun h => ?_⟩
  obtain ⟨r, hr, hfraction⟩ : ∃ r ∈ results, r.economics.holdoutFraction = 1 / 50 := by
    have hmem : ("mrc_1", (1 / 50 : ℚ)) ∈
        results.map fun r => (r.merchantId, r.economics.holdoutFraction) := by
      rw [hresults]
      exact List.mem_singleton_self _
    obtain ⟨r, hr, heq⟩ := List.mem_map.1 hmem
    exact ⟨r, hr, congrArg Prod.snd heq⟩
  have hcredited := (h r hr).credited
  rw [hfraction, htenth] at hcredited
  norm_num at hcredited

end AX10M
