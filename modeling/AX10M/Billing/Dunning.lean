/-
  Dunning for the invoices of the billing itself (`@ax10m/billing`, `invoice-dunning.ts`,
  `invoice.ts`).

  An unpaid invoice accrues a finance charge from its due date on; the stage that is due at a date
  is the most advanced one whose threshold has passed, and each stage has its mail.
-/
import AX10M.Billing.Invoice
import AX10M.Comms.Sender

namespace AX10M

open Js

/-! ## The invoice at a date -/

/-- The finance charge that an invoice has accrued at a date, by whole and partial months. -/
def computeFinanceChargeMinor (invoice : BillingInvoice) (asOfIso : String) : ℤ :=
  match Date.parse invoice.dueAt, Date.parse asOfIso with
  | some due, some asOf =>
    if asOf ≤ due then 0
    else
      let daysOverdue : ℚ := ((asOf - due : ℤ) : ℚ) / Date.msPerDay
      let monthsOverdue := daysOverdue / 30
      let rate := invoice.feeScheduleSnapshot.lateFinanceChargeMonthlyRate
      max 0 (Js.round (invoice.subtotalMinor * rate * monthsOverdue))
  | _, _ => 0

/-- The due date of an invoice is before a date. -/
def pastDue (invoice : BillingInvoice) (asOfIso : String) : Bool :=
  match Date.parse asOfIso, Date.parse invoice.dueAt with
  | some asOf, some due => decide (asOf > due)
  | _, _ => false

/-- The invoice with its finance charge, its total and its status at a date. -/
def invoiceAsOf (invoice : BillingInvoice) (asOfIso : String) : BillingInvoice :=
  let financeChargeMinor := computeFinanceChargeMinor invoice asOfIso
  { invoice with
    financeChargeMinor
    totalDueMinor := invoice.subtotalMinor + financeChargeMinor
    status := if invoice.status = .paid ∨ invoice.status = .void then invoice.status
      else if pastDue invoice asOfIso then .overdue else invoice.status }

/-! ## Stages -/

inductive InvoiceDunningStage where
  | issued | dueSoon | dueToday | overdue1 | overdue2 | finalNotice
  deriving DecidableEq, Repr

/-- The text of a stage. -/
def InvoiceDunningStage.text : InvoiceDunningStage → String
  | issued => "issued" | dueSoon => "due_soon" | dueToday => "due_today"
  | overdue1 => "overdue_1" | overdue2 => "overdue_2" | finalNotice => "final_notice"

/-- The thresholds of the stages, in days from the due date, the most advanced first. -/
def stageThresholds : List (InvoiceDunningStage × ℤ) :=
  [(.finalNotice, 21), (.overdue2, 10), (.overdue1, 3), (.dueToday, 0), (.dueSoon, -3)]

/-- The stage that is due at a date, if the invoice is not settled and is issued by then. -/
def invoiceDunningStage (invoice : BillingInvoice) (asOfIso : String) :
    Option InvoiceDunningStage :=
  if invoice.status = .paid ∨ invoice.status = .void then none
  else
    match Date.parse asOfIso, Date.parse invoice.dueAt, Date.parse invoice.issuedAt with
    | some asOf, some due, some issued =>
      if asOf < issued then none
      else
        match stageThresholds.find? fun t => decide (asOf ≥ due + t.2 * Date.msPerDay) with
        | some t => some t.1
        | none => some .issued
    | _, _, _ => none

/-! ## Mails -/

structure InvoiceEmail where
  subject : String
  body : String

/-- An amount with its currency. -/
def dollars (currency : String) (minor : ℤ) : String :=
  let n := minor.natAbs
  currency ++ " " ++ (if minor < 0 then "-" else "") ++ toString (n / 100) ++ "." ++
    toString (n / 10 % 10) ++ toString (n % 10)

/-- The first characters of a text. -/
def slice (s : String) (n : ℕ) : String := String.ofList (s.toList.take n)

/-- The subject of the mail of a stage. -/
def invoiceSubject (invoice : BillingInvoice) : InvoiceDunningStage → String
  | .issued => "AX10M invoice " ++ invoice.invoiceNumber ++ " — " ++
      dollars invoice.currency invoice.totalDueMinor ++ " due " ++ slice invoice.dueAt 10
  | .dueSoon => "Reminder: AX10M invoice " ++ invoice.invoiceNumber ++ " due " ++
      slice invoice.dueAt 10
  | .dueToday => "AX10M invoice " ++ invoice.invoiceNumber ++ " is due today"
  | .overdue1 | .overdue2 => "Past due: AX10M invoice " ++ invoice.invoiceNumber
  | .finalNotice => "Final notice: AX10M invoice " ++ invoice.invoiceNumber

/-- The first line of the mail of a stage. -/
def invoiceIntro (invoice : BillingInvoice) : InvoiceDunningStage → String
  | .issued => "Your AX10M recovery-uplift invoice for " ++ invoice.period ++ " is ready."
  | .dueSoon => "A reminder that your AX10M invoice for " ++ invoice.period ++ " is due soon."
  | .dueToday => "Your AX10M invoice for " ++ invoice.period ++ " is due today."
  | .overdue1 | .overdue2 => "Your AX10M invoice for " ++ invoice.period ++
      (" is past due. A finance charge of 1.5%/month is now accruing on the overdue " ++ "balance.")
  | .finalNotice => "This is a final notice: your AX10M invoice for " ++ invoice.period ++
      (" remains unpaid and is significantly past due. Please remit payment or " ++
        "contact us to resolve.")

/-- The line of the purchase order, if there is one. -/
def poLine (invoice : BillingInvoice) : String :=
  match invoice.poNumber with
  | some po => if po = "" then "" else "\nPO number: " ++ po
  | none => ""

/-- The line of the finance charge, if there is one. -/
def financeLine (invoice : BillingInvoice) : String :=
  if invoice.financeChargeMinor > 0 then
    "\nLate finance charge included: " ++ dollars invoice.currency invoice.financeChargeMinor ++
      " (1.5%/mo on the overdue balance)"
  else ""

/-- The lines of every mail. -/
def invoiceDetail (invoice : BillingInvoice) : String :=
  let feePct := Js.round (invoice.feeScheduleSnapshot.feeRate * 100)
  "\n".intercalate [
    "",
    "Bill to:      " ++ invoice.billTo.legalEntityName,
    "Invoice:      " ++ invoice.invoiceNumber,
    "Period:       " ++ invoice.period,
    "Amount due:   " ++ dollars invoice.currency invoice.totalDueMinor ++ financeLine invoice,
    "Due date:     " ++ slice invoice.dueAt 10 ++ " (net-" ++
      toString invoice.feeScheduleSnapshot.paymentTermsDays ++ ")" ++ poLine invoice,
    "Remit to:     " ++ invoice.remitTo,
    "",
    "This fee is " ++ toString feePct ++ "% of the incremental recovery AX10M proved this period " ++
      "against your own",
    "randomized holdout, backed by signed Uplift Statement " ++ invoice.statementHash ++ " —",
    "verifiable against your processor's payout reports."]

/-- The mail of a stage. -/
def renderInvoiceEmail (invoice : BillingInvoice) (stage : InvoiceDunningStage) : InvoiceEmail where
  subject := invoiceSubject invoice stage
  body := invoiceIntro invoice stage ++ "\n" ++ invoiceDetail invoice

end AX10M
