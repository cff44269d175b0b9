/-
  The terms of an account and what is billed to it (`@ax10m/billing`, `account.ts`, `invoice.ts`;
  `billing/billing-job.ts`).

  The fee is computed with the rate and the currency of the estimator's configuration, and the
  invoice prints the rate of the account.  So the account's terms are followed if and only if the
  two currencies are one and the two rates give one fee (`follows_contract_iff`); the lines of an
  invoice sum to its total in any case.
-/
import AX10M.Billing.Uncollected

namespace AX10M

open Js

section

variable {K : Type} [Field K] [LinearOrder K] [FloorRing K]

/-! ## The lines of an invoice -/

/-- The invoice of a result has the amounts of its statement, and the rate of the account. -/
structure Itemizes (account : BillingAccount) (r : BillingMerchantResult K)
    (invoice : BillingInvoice) : Prop where
  currency : invoice.currency = r.statement.currency
  total : invoice.totalDueMinor = r.economics.netBilledMinor
  fee : ∃ line ∈ invoice.lineItems.head?, line.feeRate = account.feeSchedule.feeRate ∧
    line.upliftMeasuredMinor = r.statement.result.billableIncrement ∧
    line.amountMinor = r.statement.result.fee
  sum : (invoice.lineItems.map InvoiceLineItem.amountMinor).sum =
    r.statement.result.fee - max 0 r.economics.holdoutCreditMinor

omit [Field K] [LinearOrder K] [FloorRing K] in
theorem issuedInvoice_itemizes {opts : BillingJobOptions K} {account : BillingAccount}
    {r : BillingMerchantResult K} (ha : accountForMerchant opts.accounts r.merchantId = some account)
    {invoice : BillingInvoice} (h : issuedInvoice opts r = some invoice) :
    r.statement.result.billable ∧ 0 < r.economics.netBilledMinor ∧ Itemizes account r invoice := by
  unfold issuedInvoice at h
  split_ifs at h with hguard
  simp only [Bool.and_eq_true, decide_eq_true_eq] at hguard
  refine ⟨hguard.1, hguard.2, ?_⟩
  simp only [ha] at h
  have hbuilt := buildInvoice_spec (toOption_eq_some.1 h)
  exact ⟨hbuilt.currency, hbuilt.total, hbuilt.fee, hbuilt.sum⟩

/-! ## The contract -/

/-- The dollars that a run proves of a merchant, past those that were billed. -/
def newlyProven (opts : BillingRunOptions K) (entries : List LedgerEntry) (p : BillingPeriod)
    (m : String) : ℚ :=
  (measureCohort opts.ctx entries m p).lowerDollars - priorBilledFromLedger entries m

/-- A run bills a merchant, or credits it. -/
def Settles (opts : BillingRunOptions K) (entries : List LedgerEntry) (p : BillingPeriod)
    (m : String) : Prop :=
  (measureCohort opts.ctx entries m p).billable ∨ newlyProven opts entries p m < 0

/-- The fee of the newly proven dollars at the rate of the account. -/
def agreedFee (account : BillingAccount) (r : BillingMerchantResult K) : ℤ :=
  Js.round ((account.feeSchedule.feeRate : K) * (r.statement.result.billableIncrement : K))

/-- Statement, charge and invoice of a result are at the rate and in the currency of the account,
    and the invoice adds up. -/
structure FollowsContract (opts : BillingJobOptions K) (account : BillingAccount)
    (r : BillingMerchantResult K) : Prop where
  fee : r.statement.result.billable ∨ r.statement.result.billableIncrement < 0 →
    r.statement.result.fee = agreedFee account r
  currency : r.statement.currency = account.feeSchedule.currency
  charge : r.charge.isSome → (chargeRequest r).currency = account.feeSchedule.currency ∧
    (chargeRequest r).amountMinor = agreedFee account r - r.economics.holdoutCreditMinor
  invoice : ∀ invoice, issuedInvoice opts r = some invoice →
    invoice.currency = account.feeSchedule.currency ∧
    invoice.totalDueMinor = agreedFee account r - r.economics.holdoutCreditMinor
  line : ∀ invoice, issuedInvoice opts r = some invoice → ∃ line ∈ invoice.lineItems.head?,
    Js.round ((line.feeRate : K) * (line.upliftMeasuredMinor : K)) = line.amountMinor
  sum : ∀ invoice, issuedInvoice opts r = some invoice →
    (invoice.lineItems.map InvoiceLineItem.amountMinor).sum = invoice.totalDueMinor

/-- A result bills its fee less a credit, if it bills anything. -/
theorem netBilled_of_pos {opts : BillingRunOptions K} {entries : List LedgerEntry} {p : BillingPeriod}
    {m : String} {r : BillingMerchantResult K} (h : Billed opts entries p m r)
    (hpos : 0 < r.economics.netBilledMinor) :
    r.economics.netBilledMinor = r.statement.result.fee - r.economics.holdoutCreditMinor ∧
      0 ≤ r.economics.holdoutCreditMinor := by
  rw [h.economics] at hpos ⊢
  simp only [computeHoldoutEconomics] at hpos ⊢
  omega

/-- What a run bills a merchant follows the terms of its account if and only if the run's currency
    is the account's and the two rates round to one fee of the newly proven dollars. -/
theorem follows_contract_iff (opts : BillingJobOptions K) (entries : List LedgerEntry)
    {r : BillingMerchantResult K} (hr : r ∈ jobResults opts entries) {account : BillingAccount}
    (ha : accountForMerchant opts.accounts r.merchantId = some account) :
    FollowsContract opts account r ↔
      opts.ctx.config.currency = account.feeSchedule.currency ∧
      (Settles (opts.at r.merchantId) entries r.period r.merchantId →
        let proven := newlyProven (opts.at r.merchantId) entries r.period r.merchantId
        Js.round (opts.ctx.config.feeRate * (proven : K)) =
          Js.round ((account.feeSchedule.feeRate : K) * (proven : K))) := by
  obtain ⟨-, period, -, h⟩ := jobResults_mem hr
  obtain rfl := h.period
  have hincrement : r.statement.result.billableIncrement =
      newlyProven (opts.at r.merchantId) entries r.period r.merchantId := by
    rw [h.statement]
    rfl
  have hsettles : r.statement.result.billable ∨ r.statement.result.billableIncrement < 0 ↔
      Settles (opts.at r.merchantId) entries r.period r.merchantId := by
    rw [hincrement, h.statement]
    rfl
  have hcurrency : r.statement.currency = opts.ctx.config.currency := by
    rw [h.statement]
    rfl
  have hfee : Settles (opts.at r.merchantId) entries r.period r.merchantId →
      r.statement.result.fee = Js.round (opts.ctx.config.feeRate *
        (newlyProven (opts.at r.merchantId) entries r.period r.merchantId : K)) := by
    intro hs
    rw [h.statement]
    exact if_pos hs
  constructor
  · intro hcontract
    refine ⟨hcurrency ▸ hcontract.currency, ?_⟩
    intro hs proven
    rw [← hfee hs, hcontract.fee (hsettles.2 hs), agreedFee, hincrement]
  · rintro ⟨hsame, hrates⟩
    have hagreed : r.statement.result.billable ∨ r.statement.result.billableIncrement < 0 →
        r.statement.result.fee = agreedFee account r := by
      intro hs
      rw [hfee (hsettles.1 hs), hrates (hsettles.1 hs), agreedFee, hincrement]
    refine ⟨hagreed, hcurrency.trans hsame, ?_, ?_, ?_, ?_⟩
    · intro hcharge
      rw [h.charge] at hcharge
      split_ifs at hcharge with hguard
      · simp only [Bool.and_eq_true, decide_eq_true_eq] at hguard
        refine ⟨hcurrency.trans hsame, ?_⟩
        rw [← hagreed (.inl hguard.1.2)]
        exact (netBilled_of_pos h hguard.2).1
      · cases hcharge
    · intro invoice hinvoice
      obtain ⟨hbillable, hpos, hitems⟩ := issuedInvoice_itemizes ha hinvoice
      refine ⟨hitems.currency.trans (hcurrency.trans hsame), ?_⟩
      rw [hitems.total, ← hagreed (.inl hbillable)]
      exact (netBilled_of_pos h hpos).1
    · intro invoice hinvoice
      obtain ⟨hbillable, -, hitems⟩ := issuedInvoice_itemizes ha hinvoice
      obtain ⟨line, hline, hrate, huplift, hamount⟩ := hitems.fee
      refine ⟨line, hline, ?_⟩
      rw [hrate, huplift, hamount, hagreed (.inl hbillable), agreedFee]
    · intro invoice hinvoice
      obtain ⟨-, hpos, hitems⟩ := issuedInvoice_itemizes ha hinvoice
      obtain ⟨hnet, hcredit⟩ := netBilled_of_pos h hpos
      rw [hitems.sum, hitems.total, hnet]
      omega

end

namespace Sample

/-- The account on some terms. -/
def accountOn (terms : FeeSchedule) : BillingAccount := { autoPayAccount with feeSchedule := terms }

/-- The job of the first of February for that account. -/
def termsJob (terms : FeeSchedule) : BillingJobOptions ℚ :=
  { (januaryRun 3).opts with accounts := [accountOn terms] }

/-- What a result bills. -/
def billedAs (terms : FeeSchedule) (r : BillingMerchantResult ℚ) : String × Bool × ℤ × ℤ :=
  (r.merchantId, r.statement.result.billable, r.statement.result.fee,
    agreedFee (accountOn terms) r)

/-- What an invoice says. -/
def itemized (i : BillingInvoice) : ℤ × String × List (ℚ × ℚ × ℤ) :=
  (i.totalDueMinor, i.currency,
    i.lineItems.map fun l => (l.feeRate, l.upliftMeasuredMinor, l.amountMinor))

end Sample

/-- A merchant agreed to 15 % in euros: 12 % are billed, in dollars, as 15 %. -/
theorem follows_contract_fails :
    let terms : FeeSchedule := ⟨15 / 100, "EUR", 30, 0⟩
    ∃ r ∈ jobResults (Sample.termsJob terms) (Sample.cohort "2026-01-15"),
      Sample.billedAs terms r = ("mrc_1", true, 1591, 1988) ∧
      (issuedInvoice (Sample.termsJob terms) r).map Sample.itemized =
        some (1183, "USD", [(15 / 100, 13255, 1591), (0, 408, -408)]) ∧
      ¬ FollowsContract (Sample.termsJob terms) (Sample.accountOn terms) r := by
  intro terms
  have hbilled : (jobResults (Sample.termsJob ⟨15 / 100, "EUR", 30, 0⟩)
      (Sample.cohort "2026-01-15")).map (Sample.billedAs ⟨15 / 100, "EUR", 30, 0⟩) =
        [("mrc_1", true, 1591, 1988)] := by decide +kernel
  have hprinted : ((jobResults (Sample.termsJob ⟨15 / 100, "EUR", 30, 0⟩)
      (Sample.cohort "2026-01-15")).filterMap fun r =>
        (issuedInvoice (Sample.termsJob ⟨15 / 100, "EUR", 30, 0⟩) r).map Sample.itemized) =
        [(1183, "USD", [(15 / 100, 13255, 1591), (0, 408, -408)])] := by decide +kernel
  obtain ⟨r, hresults, hr⟩ := List.map_eq_singleton_iff.1 hbilled
  have hinvoice : (issuedInvoice (Sample.termsJob terms) r).map Sample.itemized =
      some (1183, "USD", [(15 / 100, 13255, 1591), (0, 408, -408)]) := by
    rw [hresults] at hprinted
    cases hi : (issuedInvoice (Sample.termsJob terms) r).map Sample.itemized with
    | none => simp [terms, hi] at hprinted
    | some i => simpa [terms, List.filterMap_cons, hi] using hprinted
  refine ⟨r, by rw [hresults]; exact List.mem_singleton_self r, hr, hinvoice, ?_⟩
  intro h
  simp only [Sample.billedAs, Prod.mk.injEq] at hr
  obtain ⟨-, hbillable, hfee, hagreed⟩ := hr
  have hsame := h.fee (.inl hbillable)
  rw [hfee] at hsame
  exact absurd (hsame.trans hagreed) (by decide)

/-- On the terms of the configuration the contract is followed. -/
theorem follows_contract_default :
    let terms : FeeSchedule := ⟨12 / 100, "USD", 14, 15 / 1000⟩
    ∃ r ∈ jobResults (Sample.termsJob terms) (Sample.cohort "2026-01-15"),
      FollowsContract (Sample.termsJob terms) (Sample.accountOn terms) r := by
  intro terms
  have hall : ∃ r ∈ jobResults (Sample.termsJob ⟨12 / 100, "USD", 14, 15 / 1000⟩)
      (Sample.cohort "2026-01-15"), r.merchantId = "mrc_1" := by decide +kernel
  obtain ⟨r, hr, hm⟩ := hall
  refine ⟨r, hr, (follows_contract_iff _ _ hr (by rw [hm]; rfl)).2 ⟨rfl, ?_⟩⟩
  intro _ proven
  have hrate : (Sample.termsJob terms).ctx.config.feeRate =
      (Sample.accountOn terms).feeSchedule.feeRate := by
    show _ = (12 / 100 : ℚ)
    decide +kernel
  rw [hrate, Rat.cast_id, Rat.cast_id]

end AX10M
