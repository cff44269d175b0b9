/-
  The arithmetic of an invoice (`holdout-economics.ts`, `invoice.ts`).

  The credit for the holdout lies between nothing and the fee and is what the net lacks of it, the
  lines of an invoice add up to its total, and the finance charge is simple: it grows with the
  date, and an invoice that is seen twice is the invoice as of the later date.
-/
import AX10M.Billing.Deliverable
import AX10M.Billing.Statement

namespace AX10M

open Js

/-! ## The lines of an invoice -/

/-- What the lines of an invoice come to. -/
def BillingInvoice.linesMinor (invoice : BillingInvoice) : ℤ :=
  (invoice.lineItems.map (·.amountMinor)).sum

/-- A statement bills the net of the economics, and discloses the fee and the credit. -/
structure StatementForInvoice.Bills (statement : StatementForInvoice) (econ : HoldoutEconomics) :
    Prop where
  feeMinor : statement.feeMinor = econ.netBilledMinor
  grossFeeMinor : statement.grossFeeMinor = econ.grossFeeMinor
  holdoutCreditMinor : statement.holdoutCreditMinor = econ.holdoutCreditMinor

section

variable {K : Type} [Field K] [LinearOrder K] [FloorRing K]

theorem holdoutCredit_eq (fee : ℤ) (lift : K) (treated : ℕ) (h : ℚ) :
    (computeHoldoutEconomics fee lift treated h).holdoutCreditMinor =
      min (max 0 fee) (computeHoldoutEconomics fee lift treated h).estimatedHoldoutCostMinor := rfl

theorem holdoutCredit_nonneg (fee : ℤ) (lift : K) (treated : ℕ) (h : ℚ) :
    0 ≤ (computeHoldoutEconomics fee lift treated h).holdoutCreditMinor := by
  simp only [computeHoldoutEconomics]
  omega

theorem holdoutCredit_le (fee : ℤ) (lift : K) (treated : ℕ) (h : ℚ) :
    (computeHoldoutEconomics fee lift treated h).holdoutCreditMinor ≤ max fee 0 := by
  simp only [computeHoldoutEconomics]
  omega

theorem netBilled_eq_sub (fee : ℤ) (lift : K) (treated : ℕ) (h : ℚ) :
    (computeHoldoutEconomics fee lift treated h).netBilledMinor =
      max fee 0 - (computeHoldoutEconomics fee lift treated h).holdoutCreditMinor := by
  simp only [computeHoldoutEconomics]
  omega

end

/-- An invoice of a positive net adds up. -/
theorem buildInvoice_sum {K : Type} [Field K] [LinearOrder K] [FloorRing K] {fee : ℤ} {lift : K}
    {treated : ℕ} {h : ℚ} {account : BillingAccount} {statement : StatementForInvoice}
    {issuedAt remitTo : String} {invoice : BillingInvoice}
    (hbills : statement.Bills (computeHoldoutEconomics fee lift treated h))
    (hnet : 0 < statement.feeMinor)
    (hb : buildInvoice account statement issuedAt remitTo = .ok invoice) :
    invoice.linesMinor = invoice.subtotalMinor ∧ invoice.linesMinor = invoice.totalDueMinor := by
  have hbuilt := buildInvoice_spec hb
  have hgross : (computeHoldoutEconomics fee lift treated h).grossFeeMinor = fee := rfl
  have hcredit := holdoutCredit_nonneg fee lift treated h
  have heq := netBilled_eq_sub fee lift treated h
  rw [BillingInvoice.linesMinor, hbuilt.subtotal, hbuilt.total, hbuilt.sum, hbills.feeMinor,
    hbills.grossFeeMinor, hbills.holdoutCreditMinor, hgross]
  rw [hbills.feeMinor] at hnet
  constructor <;> omega

/-! ## The finance charge -/

/-- The charge of the days past due. -/
def chargeAfter (invoice : BillingInvoice) (ms : ℤ) : ℤ :=
  max 0 (Js.round ((invoice.subtotalMinor : ℚ) *
    invoice.feeScheduleSnapshot.lateFinanceChargeMonthlyRate * ((ms : ℚ) / Date.msPerDay / 30)))

theorem computeFinanceCharge_eq {invoice : BillingInvoice} {s : String} {due asOf : ℤ}
    (hdue : Date.parse invoice.dueAt = some due) (hs : Date.parse s = some asOf) :
    computeFinanceChargeMinor invoice s =
      if asOf ≤ due then 0 else chargeAfter invoice (asOf - due) := by
  unfold computeFinanceChargeMinor chargeAfter
  simp only [hdue, hs]

theorem computeFinanceCharge_undated {invoice : BillingInvoice}
    (hdue : Date.parse invoice.dueAt = none) (s : String) :
    computeFinanceChargeMinor invoice s = 0 := by
  unfold computeFinanceChargeMinor
  simp only [hdue]

/-- The charge grows with the days, whichever sign the rate has. -/
theorem chargeAfter_mono {invoice : BillingInvoice} (h : 0 ≤ invoice.subtotalMinor) {m n : ℤ}
    (hm : 0 ≤ m) (hmn : m ≤ n) : chargeAfter invoice m ≤ chargeAfter invoice n := by
  have hsub : (0 : ℚ) ≤ invoice.subtotalMinor := by exact_mod_cast h
  have hdays : ((m : ℚ) / Date.msPerDay / 30) ≤ (n : ℚ) / Date.msPerDay / 30 := by
    have hcast : (m : ℚ) ≤ n := by exact_mod_cast hmn
    rw [Date.msPerDay]
    gcongr
  have hzero : 0 ≤ (m : ℚ) / Date.msPerDay / 30 := by
    have hcast : (0 : ℚ) ≤ m := by exact_mod_cast hm
    rw [Date.msPerDay]
    positivity
  unfold chargeAfter
  rcases le_total 0 invoice.feeScheduleSnapshot.lateFinanceChargeMonthlyRate with hrate | hrate
  · have hround := round_mono (mul_le_mul_of_nonneg_left hdays (mul_nonneg hsub hrate))
    omega
  · -- nothing is charged at a negative rate
    have hnonpos : (invoice.subtotalMinor : ℚ) *
        invoice.feeScheduleSnapshot.lateFinanceChargeMonthlyRate *
        ((m : ℚ) / Date.msPerDay / 30) ≤ 0 :=
      mul_nonpos_of_nonpos_of_nonneg (mul_nonpos_of_nonneg_of_nonpos hsub hrate) hzero
    have hround := round_mono hnonpos
    rw [Js.round_zero] at hround
    omega

theorem chargeAfter_nonneg (invoice : BillingInvoice) (ms : ℤ) : 0 ≤ chargeAfter invoice ms :=
  le_max_left _ _

/-- The charge at a date is at most the charge at a later one. -/
theorem computeFinanceCharge_mono {invoice : BillingInvoice} (h : 0 ≤ invoice.subtotalMinor)
    {s t : String} {a b : ℤ} (hs : Date.parse s = some a) (ht : Date.parse t = some b)
    (hab : a ≤ b) : computeFinanceChargeMinor invoice s ≤ computeFinanceChargeMinor invoice t := by
  cases hdue : Date.parse invoice.dueAt with
  | none =>
    rw [computeFinanceCharge_undated hdue, computeFinanceCharge_undated hdue]
  | some due =>
    rw [computeFinanceCharge_eq hdue hs, computeFinanceCharge_eq hdue ht]
    by_cases ha : a ≤ due
    · rw [if_pos ha]
      by_cases hb : b ≤ due
      · rw [if_pos hb]
      · rw [if_neg hb]
        exact chargeAfter_nonneg _ _
    · rw [if_neg ha, if_neg (by omega)]
      exact chargeAfter_mono h (by omega) (by omega)

/-- Two invoices of one subtotal, due at one date on one schedule, are charged the same. -/
theorem computeFinanceCharge_congr {invoice other : BillingInvoice}
    (hsub : other.subtotalMinor = invoice.subtotalMinor) (hdue : other.dueAt = invoice.dueAt)
    (hfees : other.feeScheduleSnapshot = invoice.feeScheduleSnapshot) (t : String) :
    computeFinanceChargeMinor other t = computeFinanceChargeMinor invoice t := by
  unfold computeFinanceChargeMinor
  rw [hsub, hdue, hfees]

theorem pastDue_mono {invoice : BillingInvoice} {s t : String} {a b : ℤ}
    (hs : Date.parse s = some a) (ht : Date.parse t = some b) (hab : a ≤ b)
    (h : pastDue invoice s = true) : pastDue invoice t = true := by
  unfold pastDue at h ⊢
  cases hdue : Date.parse invoice.dueAt with
  | none => simp [hdue, hs] at h
  | some due =>
    simp only [hdue, hs, ht, decide_eq_true_eq] at h ⊢
    omega

theorem invoiceAsOf_settled {invoice : BillingInvoice}
    (h : invoice.status = .paid ∨ invoice.status = .void) (t : String) :
    (invoiceAsOf invoice t).status = invoice.status := by
  simp only [invoiceAsOf, h, if_true]

/-- The status of an invoice at a date, which is past its due date or not. -/
def statusAsOf (status : BillingInvoiceStatus) (past : Bool) : BillingInvoiceStatus :=
  if status = .paid ∨ status = .void then status else if past then .overdue else status

theorem statusAsOf_twice (status : BillingInvoiceStatus) {early late : Bool}
    (h : early = true → late = true) :
    statusAsOf (statusAsOf status early) late = statusAsOf status late := by
  cases early with
  | false => cases status <;> simp [statusAsOf]
  | true =>
    have hlate := h rfl
    subst hlate
    cases status <;> simp [statusAsOf]

/-- An invoice that is seen at a date and then at a later one is as it is at the later one. -/
theorem invoiceAsOf_twice {invoice : BillingInvoice} {s t : String} {a b : ℤ}
    (hs : Date.parse s = some a) (ht : Date.parse t = some b) (hab : a ≤ b) :
    invoiceAsOf (invoiceAsOf invoice s) t = invoiceAsOf invoice t := by
  have hlater : pastDue invoice s = true → pastDue invoice t = true := pastDue_mono hs ht hab
  have hstatus := statusAsOf_twice invoice.status hlater
  -- the charge and the date it is due are those of the invoice itself
  exact congrArg (fun status => ({ invoice with
    financeChargeMinor := computeFinanceChargeMinor invoice t
    totalDueMinor := invoice.subtotalMinor + computeFinanceChargeMinor invoice t
    status } : BillingInvoice)) hstatus

/-! ## The arithmetic -/

/-- What holds of an invoice at a date and at a later one. -/
structure AccruesSimply (invoice : BillingInvoice) (s t : String) : Prop where
  mono : computeFinanceChargeMinor invoice s ≤ computeFinanceChargeMinor invoice t
  untilDue : ∀ due asOf, Date.parse invoice.dueAt = some due → Date.parse t = some asOf →
    asOf ≤ due → computeFinanceChargeMinor invoice t = 0
  subtotal : ∀ other : BillingInvoice, other.subtotalMinor = invoice.subtotalMinor →
    other.dueAt = invoice.dueAt → other.feeScheduleSnapshot = invoice.feeScheduleSnapshot →
    computeFinanceChargeMinor other t = computeFinanceChargeMinor invoice t
  twice : invoiceAsOf (invoiceAsOf invoice s) t = invoiceAsOf invoice t
  settled : invoice.status = .paid ∨ invoice.status = .void →
    (invoiceAsOf invoice t).status = invoice.status

theorem accruesSimply {invoice : BillingInvoice} (h : 0 ≤ invoice.subtotalMinor) {s t : String}
    {a b : ℤ} (hs : Date.parse s = some a) (ht : Date.parse t = some b) (hab : a ≤ b) :
    AccruesSimply invoice s t where
  mono := computeFinanceCharge_mono h hs ht hab
  untilDue due asOf hdue hasOf hle := by rw [computeFinanceCharge_eq hdue hasOf, if_pos hle]
  subtotal other hsub hdue hfees := computeFinanceCharge_congr hsub hdue hfees t
  twice := invoiceAsOf_twice hs ht hab
  settled hset := invoiceAsOf_settled hset t

/-- The arithmetic of the credit, of an invoice of a positive net, and of its finance charge. -/
theorem invoice_arithmetic {K : Type} [Field K] [LinearOrder K] [FloorRing K] :
    (∀ (fee : ℤ) (lift : K) (treated : ℕ) (h : ℚ),
      let econ := computeHoldoutEconomics fee lift treated h
      0 ≤ econ.holdoutCreditMinor ∧ econ.holdoutCreditMinor ≤ max fee 0 ∧
        econ.netBilledMinor = max fee 0 - econ.holdoutCreditMinor ∧
        ∀ (account : BillingAccount) (statement : StatementForInvoice) (issuedAt remitTo : String)
          (invoice : BillingInvoice), statement.Bills econ → 0 < statement.feeMinor →
          buildInvoice account statement issuedAt remitTo = .ok invoice →
          invoice.linesMinor = invoice.subtotalMinor ∧
            invoice.linesMinor = invoice.totalDueMinor) ∧
    ∀ (invoice : BillingInvoice) (s t : String) (a b : ℤ), 0 ≤ invoice.subtotalMinor →
      Date.parse s = some a → Date.parse t = some b → a ≤ b → AccruesSimply invoice s t := by
  constructor
  · intro fee lift treated h
    refine ⟨holdoutCredit_nonneg fee lift treated h, holdoutCredit_le fee lift treated h,
      netBilled_eq_sub fee lift treated h, ?_⟩
    intro account statement issuedAt remitTo invoice hbills hnet hb
    exact buildInvoice_sum hbills hnet hb
  · intro invoice s t a b hsub hs ht hab
    exact accruesSimply hsub hs ht hab

/-- The invoice of January adds up: a fee of 1591 less a credit of 408. -/
theorem invoice_arithmetic_january :
    ∃ invoice, Sample.apInvoice "mrc_1" = .ok invoice ∧ invoice.linesMinor = invoice.totalDueMinor ∧
      AccruesSimply invoice "2026-02-20T00:00:00.000Z" "2026-03-20T00:00:00.000Z" := by
  have hissued : Date.parse "2026-02-01T06:00:00.000Z" = some 1769925600000 := by decide +kernel
  have hs : Date.parse "2026-02-20T00:00:00.000Z" = some 1771545600000 := by decide +kernel
  have ht : Date.parse "2026-03-20T00:00:00.000Z" = some 1773964800000 := by decide +kernel
  obtain ⟨invoice, hinvoice⟩ := exists_buildInvoice (Sample.apAccount "mrc_1")
    (Sample.apStatement "mrc_1") hissued "Wire to the account on file"
  have hbills : (Sample.apStatement "mrc_1").Bills
      (computeHoldoutEconomics 1591 (408 : ℚ) 9 (1 / 10)) := by
    have hcost : (computeHoldoutEconomics 1591 (408 : ℚ) 9 (1 / 10)).estimatedHoldoutCostMinor =
        408 := by
      norm_num [computeHoldoutEconomics, Js.round]
    constructor
    · rw [netBilled_eq_sub, holdoutCredit_eq, hcost]
      rfl
    · rfl
    · rw [holdoutCredit_eq, hcost]
      rfl
  have hlines := ((invoice_arithmetic (K := ℚ)).1 1591 408 9 (1 / 10)).2.2.2 _ _ _ _ _ hbills
    (by decide) hinvoice
  have hnonneg : 0 ≤ invoice.subtotalMinor := by
    rw [(buildInvoice_spec hinvoice).subtotal]
    decide
  exact ⟨invoice, hinvoice, hlines.2,
    (invoice_arithmetic (K := ℚ)).2 _ _ _ _ _ hnonneg hs ht (by decide)⟩

end AX10M
