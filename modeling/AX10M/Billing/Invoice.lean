/-
  Billing accounts and the invoices issued to them (`@ax10m/billing`, `account.ts`, `invoice.ts`).
-/
import AX10M.Js.Date
import AX10M.Js.Map
import AX10M.Js.Number
import AX10M.Js.Text
import Mathlib.Algebra.Order.Ring.Rat
import Mathlib.Data.Rat.Floor

namespace AX10M

open Js

inductive PayerTrack where
  | autoPay | invoice
  deriving DecidableEq

structure PostalAddress where
  line1 : String
  line2 : Option String
  city : String
  region : String
  postalCode : String
  country : String

/-- The commercial terms. -/
structure FeeSchedule where
  feeRate : ℚ
  currency : String
  paymentTermsDays : ℤ
  lateFinanceChargeMonthlyRate : ℚ

inductive BillingAccountStatus where
  | pending | active | suspended | cancelled
  deriving DecidableEq

/-- The opt-in identity of a merchant. -/
structure BillingAccount where
  accountId : String
  merchantId : String
  legalEntityName : String
  billingAddress : PostalAddress
  taxId : Option String
  apContactEmail : String
  poRequired : Bool
  poNumber : Option String
  payerTrack : PayerTrack
  paymentMethodRef : Option String
  customerRef : Option String
  feeSchedule : FeeSchedule
  status : BillingAccountStatus
  createdAt : String

inductive BillingInvoiceStatus where
  | issued | overdue | paid | void
  deriving DecidableEq

structure InvoiceLineItem where
  description : String
  upliftMeasuredMinor : ℚ
  feeRate : ℚ
  amountMinor : ℤ

structure BillTo where
  legalEntityName : String
  address : PostalAddress
  apContactEmail : String

structure BillingInvoice where
  invoiceNumber : String
  accountId : String
  merchantId : String
  period : String
  issuedAt : String
  dueAt : String
  currency : String
  lineItems : List InvoiceLineItem
  subtotalMinor : ℤ
  financeChargeMinor : ℤ
  totalDueMinor : ℤ
  poNumber : Option String
  remitTo : String
  estimatedHoldoutCostMinor : ℤ
  billTo : BillTo
  statementHash : String
  feeScheduleSnapshot : FeeSchedule
  status : BillingInvoiceStatus

/-- What an invoice takes of a statement. -/
structure StatementForInvoice where
  merchantId : String
  period : String
  currency : String
  /-- the net amount -/
  feeMinor : ℤ
  grossFeeMinor : ℤ
  holdoutCreditMinor : ℤ
  estimatedHoldoutCostMinor : ℤ
  upliftLowerMinor : ℚ
  statementHash : String
  billable : Bool

/-- A unit of an invoice number: an upper case letter, a digit or a dash, which everything else
    becomes. -/
def numberUnit : Option Char → Char
  | some c => if c.isUpper ∨ c.isDigit ∨ c = '-' then c else '-'
  | none => '-'

/-- The number of the invoice of a merchant and a period. -/
def invoiceNumberFor (merchantId period : String) : String :=
  String.ofList ((toUpperCase ("AX-" ++ merchantId ++ "-" ++ period)).map numberUnit)

/-- Add whole days to an ISO timestamp; a date that is none has no text. -/
def addDaysIso (iso : String) (days : ℤ) : Except String String :=
  match Date.parse iso with
  | some t => .ok (Date.toISOString (t + days * Date.msPerDay))
  | none => .error "Invalid time value"

/-- The invoice of a period, from the account and its signed statement. -/
def buildInvoice (account : BillingAccount) (statement : StatementForInvoice)
    (issuedAt remitTo : String) : Except String BillingInvoice := do
  let fs := account.feeSchedule
  let fee : InvoiceLineItem :=
    { description := "AX10M recovery uplift fee — " ++ statement.period ++ " (" ++
        toString (Js.round (fs.feeRate * 100)) ++ "% of proven incremental recovery)"
      upliftMeasuredMinor := statement.upliftLowerMinor
      feeRate := fs.feeRate
      amountMinor := statement.grossFeeMinor }
  let credit : InvoiceLineItem :=
    { description := "Holdout credit — recovery forgone on your held-out control group this " ++
        "period (est.)"
      upliftMeasuredMinor := statement.estimatedHoldoutCostMinor
      feeRate := 0
      amountMinor := -statement.holdoutCreditMinor }
  let dueAt ← addDaysIso issuedAt fs.paymentTermsDays
  return {
    invoiceNumber := invoiceNumberFor statement.merchantId statement.period
    accountId := account.accountId
    merchantId := account.merchantId
    period := statement.period
    issuedAt
    dueAt
    currency := statement.currency
    lineItems := if statement.holdoutCreditMinor > 0 then [fee, credit] else [fee]
    subtotalMinor := statement.feeMinor
    financeChargeMinor := 0
    totalDueMinor := statement.feeMinor
    poNumber := account.poNumber
    remitTo
    estimatedHoldoutCostMinor := statement.estimatedHoldoutCostMinor
    billTo := ⟨account.legalEntityName, account.billingAddress, account.apContactEmail⟩
    statementHash := statement.statementHash
    feeScheduleSnapshot := fs
    status := .issued }

/-- The dunning of an invoice goes on (`invoiceDunningStage`) until it is paid or void. -/
def BillingInvoice.unsettled (invoice : BillingInvoice) : Bool :=
  invoice.status ≠ .paid && invoice.status ≠ .void

/-- What an invoice takes over from the statement and the account. -/
structure InvoiceFor (account : BillingAccount) (statement : StatementForInvoice)
    (issuedAt remitTo : String) (invoice : BillingInvoice) : Prop where
  number : invoice.invoiceNumber = invoiceNumberFor statement.merchantId statement.period
  merchant : invoice.merchantId = account.merchantId
  period : invoice.period = statement.period
  issued : invoice.issuedAt = issuedAt
  due : addDaysIso issuedAt account.feeSchedule.paymentTermsDays = .ok invoice.dueAt
  currency : invoice.currency = statement.currency
  subtotal : invoice.subtotalMinor = statement.feeMinor
  total : invoice.totalDueMinor = statement.feeMinor
  po : invoice.poNumber = account.poNumber
  remit : invoice.remitTo = remitTo
  billTo : invoice.billTo =
    ⟨account.legalEntityName, account.billingAddress, account.apContactEmail⟩
  hash : invoice.statementHash = statement.statementHash
  fees : invoice.feeScheduleSnapshot = account.feeSchedule
  status : invoice.status = .issued
  fee : ∃ line ∈ invoice.lineItems.head?, line.feeRate = account.feeSchedule.feeRate ∧
    line.upliftMeasuredMinor = statement.upliftLowerMinor ∧
    line.amountMinor = statement.grossFeeMinor
  sum : (invoice.lineItems.map InvoiceLineItem.amountMinor).sum =
    statement.grossFeeMinor - max 0 statement.holdoutCreditMinor

theorem buildInvoice_spec {account : BillingAccount} {statement : StatementForInvoice}
    {issuedAt remitTo : String} {invoice : BillingInvoice}
    (h : buildInvoice account statement issuedAt remitTo = .ok invoice) :
    InvoiceFor account statement issuedAt remitTo invoice := by
  unfold buildInvoice at h
  cases hdue : addDaysIso issuedAt account.feeSchedule.paymentTermsDays with
  | error e => simp [hdue, bind, Except.bind] at h
  | ok dueAt =>
    simp only [hdue, bind, Except.bind, pure, Except.pure, Except.ok.injEq] at h
    subst h
    refine ⟨rfl, rfl, rfl, rfl, hdue, rfl, rfl, rfl, rfl, rfl, rfl, rfl, rfl, rfl, ?_, ?_⟩
    · by_cases hcredit : statement.holdoutCreditMinor > 0 <;> simp [hcredit]
    · by_cases hcredit : statement.holdoutCreditMinor > 0
      · simp only [hcredit, if_true, List.map_cons, List.map_nil, List.sum_cons, List.sum_nil]
        omega
      · simp only [hcredit, if_false, List.map_cons, List.map_nil, List.sum_cons, List.sum_nil]
        omega

/-- An invoice is issued unsettled. -/
theorem InvoiceFor.unsettled {account : BillingAccount} {statement : StatementForInvoice}
    {issuedAt remitTo : String} {invoice : BillingInvoice}
    (h : InvoiceFor account statement issuedAt remitTo invoice) : invoice.unsettled := by
  rw [BillingInvoice.unsettled, h.status]
  rfl

/-- The invoice of a date that is one can be built. -/
theorem exists_buildInvoice (account : BillingAccount) (statement : StatementForInvoice)
    {issuedAt : String} {t : ℤ} (h : Date.parse issuedAt = some t) (remitTo : String) :
    ∃ invoice, buildInvoice account statement issuedAt remitTo = .ok invoice := by
  have hdue : addDaysIso issuedAt account.feeSchedule.paymentTermsDays =
      .ok (Date.toISOString (t + account.feeSchedule.paymentTermsDays * Date.msPerDay)) := by
    rw [addDaysIso, h]
  cases hb : buildInvoice account statement issuedAt remitTo with
  | ok invoice => exact ⟨invoice, rfl⟩
  | error e =>
    unfold buildInvoice at hb
    simp only [hdue, bind, Except.bind, pure, Except.pure, reduceCtorEq] at hb

end AX10M
