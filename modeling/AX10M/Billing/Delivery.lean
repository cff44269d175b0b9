/-
  Delivering invoices and their reminders to accounts payable (`billing/invoice-delivery.service.ts`).

  A stage of an invoice is sent once: its key is recorded after a real send.  A sweep delivers the
  stage that is due of each invoice.
-/
import AX10M.Billing.Dunning

namespace AX10M

open Js

/-- A transport (`DunningSender`). -/
abbrev DunningSender := DunningMessage → DunningRecipient → SendResult

/-- The transport that validates and sends nothing (`DryRunDunningSender`). -/
def dryRunDunningSender : DunningSender := fun message recipient =>
  match assertSendable message recipient with
  | .ok () => { status := .dryRun, provider := "dry-run" }
  | .error reason => { status := .failed, provider := "dry-run", error := some reason }

/-- A provider is used only when the service is live. -/
def deliverySender (live : Bool) (sender : Option DunningSender) : DunningSender :=
  if live then sender.getD dryRunDunningSender else dryRunDunningSender

inductive InvoiceDeliveryStatus where
  | sent | dryRun | failed | duplicate | skipped
  deriving DecidableEq, Repr

/-- The status of what was handed to the transport. -/
def InvoiceDeliveryStatus.ofSend : SendStatus → InvoiceDeliveryStatus
  | .sent => sent | .dryRun => dryRun | .failed => failed

structure InvoiceDeliveryResult where
  invoiceNumber : String
  stage : Option InvoiceDunningStage
  status : InvoiceDeliveryStatus
  provider : Option String := none
  reason : Option String := none

/-- The key under which a send is recorded. -/
def dedupeKey (invoiceNumber : String) (stage : InvoiceDunningStage) : String :=
  "invsend:" ++ invoiceNumber ++ ":" ++ stage.text

/-- The message of a stage. -/
def invoiceMessage (invoice : BillingInvoice) (stage : InvoiceDunningStage) : DunningMessage :=
  let rendered := renderInvoiceEmail invoice stage
  { channel := .email
    subject := some rendered.subject
    body := rendered.body
    generatedBy := .template }

/-- The accounts payable of an invoice. -/
def apRecipient (invoice : BillingInvoice) : DunningRecipient where
  channel := .email
  email := some invoice.billTo.apContactEmail
  phone := none

/-- Deliver a stage of an invoice, once; the keys of what was sent are passed on. -/
def deliverStage (send : DunningSender) (sent : List String) (invoice : BillingInvoice)
    (stage : InvoiceDunningStage) (asOfIso : String) : InvoiceDeliveryResult × List String :=
  let asOf := invoiceAsOf invoice asOfIso
  if asOf.billTo.apContactEmail = "" then
    ({ invoiceNumber := invoice.invoiceNumber
       stage := some stage
       status := .skipped
       reason := some "no AP contact email" }, sent)
  else
    let key := dedupeKey invoice.invoiceNumber stage
    if key ∈ sent then
      ({ invoiceNumber := invoice.invoiceNumber
         stage := some stage
         status := .duplicate }, sent)
    else
      let res := send (invoiceMessage asOf stage) (apRecipient asOf)
      ({ invoiceNumber := invoice.invoiceNumber
         stage := some stage
         status := .ofSend res.status
         provider := some res.provider
         reason := res.error }, if res.status = .sent then sent ++ [key] else sent)

/-- Deliver the stage of an invoice that is due. -/
def deliverDue (send : DunningSender) (sent : List String) (invoice : BillingInvoice)
    (asOfIso : String) : InvoiceDeliveryResult × List String :=
  match invoiceDunningStage (invoiceAsOf invoice asOfIso) asOfIso with
  | some stage => deliverStage send sent invoice stage asOfIso
  | none =>
    ({ invoiceNumber := invoice.invoiceNumber
       stage := none
       status := .skipped
       reason := some "settled or nothing due" }, sent)

/-- Sweep some invoices. -/
def runSweep (send : DunningSender) (sent : List String) (asOfIso : String) :
    List BillingInvoice → List InvoiceDeliveryResult × List String
  | [] => ([], sent)
  | invoice :: invoices =>
    let (result, sent) := deliverDue send sent invoice asOfIso
    let (results, sent) := runSweep send sent asOfIso invoices
    (result :: results, sent)

/-! ## What is delivered -/

@[simp] theorem invoiceAsOf_invoiceNumber (invoice : BillingInvoice) (asOfIso : String) :
    (invoiceAsOf invoice asOfIso).invoiceNumber = invoice.invoiceNumber := rfl

theorem deliverStage_result (send : DunningSender) (sent : List String) (invoice : BillingInvoice)
    (stage : InvoiceDunningStage) (asOfIso : String) :
    (deliverStage send sent invoice stage asOfIso).1.invoiceNumber = invoice.invoiceNumber ∧
      (deliverStage send sent invoice stage asOfIso).1.stage = some stage := by
  unfold deliverStage
  simp only
  split_ifs <;> exact ⟨rfl, rfl⟩

/-- The delivery of an invoice reports the stage that is due. -/
theorem deliverDue_result (send : DunningSender) (sent : List String) (invoice : BillingInvoice)
    (asOfIso : String) :
    (deliverDue send sent invoice asOfIso).1.invoiceNumber = invoice.invoiceNumber ∧
      (deliverDue send sent invoice asOfIso).1.stage =
        invoiceDunningStage (invoiceAsOf invoice asOfIso) asOfIso := by
  unfold deliverDue
  cases invoiceDunningStage (invoiceAsOf invoice asOfIso) asOfIso with
  | none => exact ⟨rfl, rfl⟩
  | some stage => exact deliverStage_result send sent invoice stage asOfIso

/-- A sweep has a result for each invoice, with the stage that is due. -/
theorem runSweep_results (send : DunningSender) (sent : List String) (asOfIso : String)
    (invoices : List BillingInvoice) :
    (runSweep send sent asOfIso invoices).1.map (fun r => (r.invoiceNumber, r.stage)) =
      invoices.map fun i => (i.invoiceNumber, invoiceDunningStage (invoiceAsOf i asOfIso) asOfIso) := by
  induction invoices generalizing sent with
  | nil => rfl
  | cons invoice invoices ih =>
    obtain ⟨hnumber, hstage⟩ := deliverDue_result send sent invoice asOfIso
    simp only [runSweep, List.map_cons, ih, hnumber, hstage]

end AX10M
