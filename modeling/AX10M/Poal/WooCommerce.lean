/-
  The WooCommerce adapter: webhooks of orders and subscriptions (`adapters/woocommerce`).

  A webhook carries the whole order, with all its refunds so far.
-/
import AX10M.Js.Number
import AX10M.Poal.Ingress
import Mathlib.Data.Rat.Floor

namespace AX10M

open Js

/-- A refund of an order; its total is a negative decimal text. -/
structure WooRefund where
  reason : Option String := none
  total : Option String := none

/-- What the adapter reads of an order. -/
structure WooOrder where
  id : Option TextOrNumber := none
  status : Option String := none
  currency : Option String := none
  total : Option String := none
  customerId : Option TextOrNumber := none
  subscriptionId : Option TextOrNumber := none
  dateCreatedGmt : Option String := none
  dateModifiedGmt : Option String := none
  failureCode : Option String := none
  failureMessage : Option String := none
  customerNote : Option String := none
  refunds : List WooRefund := []
  email : Option String := none
  phone : Option String := none

/-- Keywords of failure texts, specific ones first. -/
def wooKeywordMap : List (String × DeclineCode) :=
  [("insufficient", .insufficientFunds), ("expired", .expiredCard), ("do not honor", .doNotHonor),
    ("do not honour", .doNotHonor), ("lost", .lostCard), ("stolen", .stolenCard),
    ("invalid", .invalidCard), ("declined", .doNotHonor)]

/-- The code of a failure text. -/
def mapWooDeclineCode (raw : Option String) : DeclineCode :=
  match truthy raw with
  | none => .unknown
  | some raw => (codeByRule wooKeywordMap (trim raw).toLower).getD .unknown

/-- The adapter of a merchant; `webhookSecret` says whether it has a secret, and `numberText` is the
    text of a number (`String`). -/
structure WooCommerceAdapter where
  merchantId : String
  webhookSecret : Bool := true
  numberText : ℚ → String

namespace WooCommerceAdapter

/-- A decimal amount in hundredths, `0` if it is none. -/
def toMinorUnits (major : Option String) : MinorUnits :=
  match (truthy major).bind numberOf with
  | some n => Js.round (n * 100)
  | none => 0

/-- What an order was refunded in all (`refundedMinor`). -/
def refundedMinor (refunds : List WooRefund) : MinorUnits :=
  (refunds.map fun r => |toMinorUnits r.total|).sum

variable (adapter : WooCommerceAdapter) (order : WooOrder)

/-- The text of an id, empty if there is none. -/
def idText (id : Option TextOrNumber) : String :=
  (id.map (TextOrNumber.toText adapter.numberText)).getD ""

/-- An id with its prefix, if there is one. -/
def idWith (pre : String) (id : Option TextOrNumber) : Option String :=
  (TextOrNumber.truthy id).map fun id => pre ++ id.toText adapter.numberText

/-- The time of an order's event. -/
def occurredAt : String := (order.dateModifiedGmt.or order.dateCreatedGmt).getD epochIso

/-- An order as an invoice. -/
def mapOrder (occurredAt : String) (failed : Bool) : Invoice where
  id := invoiceIdOf (adapter.idText order.id)
  subscriptionId := adapter.idWith "ax10m_sub_" order.subscriptionId
  customerId := (adapter.idWith "ax10m_cus_" order.customerId).getD ""
  merchantId := adapter.merchantId
  processorRef := adapter.idText order.id
  amount := ⟨toMinorUnits order.total, order.currency.getD "USD"⟩
  status := if failed then .open else .paid
  firstFailedAt := if failed then some occurredAt else none
  createdAt := order.dateCreatedGmt.getD occurredAt

/-- The reversal of a refunded order: what its refunds add up to, or else its total. -/
def mapRefund : Option ReversalPayload :=
  let refunded := refundedMinor order.refunds
  if refunded ≤ 0 ∧ order.status ≠ some "refunded" then none
  else
    let amount := if refunded > 0 then refunded else toMinorUnits order.total
    if amount ≤ 0 then none
    else some ⟨invoiceIdOf (adapter.idText order.id), amount, order.currency.getD "USD", .refund,
      order.refunds.findSome? fun r => truthy r.reason⟩

def buildDecline (rawReason : Option String) (invoiceId chargeAttemptId occurredAt eventId : String) :
    DeclineEvent where
  id := "ax10m_dec_" ++ eventId
  invoiceId := invoiceId
  chargeAttemptId := chargeAttemptId
  code := mapWooDeclineCode rawReason
  family := familyOf (mapWooDeclineCode rawReason)
  rawReason := rawReason
  occurredAt := occurredAt

/-- The body of a failed order's event. -/
def failureBody : EventBody :=
  let invoice := adapter.mapOrder order (occurredAt order) true
  let eventId := adapter.idText order.id
  .invoiceFailed {
    invoice := some invoice
    decline := some (buildDecline ((order.failureMessage.or order.failureCode).or order.customerNote)
      invoice.id (attemptIdOf (some eventId)) (occurredAt order) eventId)
    customer := some (customerFromInvoice invoice (contactOverrides order.email order.phone)) }

/-- The body of an order's event: a refund before its status. -/
def orderBody : Option EventBody :=
  match adapter.mapRefund order with
  | some reversal => some (.paymentReversed reversal)
  | none =>
    match order.status with
    | some "failed" => some (adapter.failureBody order)
    | some "completed" | some "processing" =>
      some (.invoicePaid (some (adapter.mapOrder order (occurredAt order) false)))
    | _ => none

/-- The body of a webhook's event, if its topic is acted on. -/
def body (topic : String) : Option EventBody :=
  match topic with
  | "order.refunded" | "order.updated" | "order.created" => adapter.orderBody order
  | "subscription.updated" => some .subscriptionUpdated
  | _ => none

/-- The events of a webhook. -/
def mapWebhook (topic : String) : List CanonicalEvent :=
  let eventId := adapter.idText order.id
  ((adapter.body order topic).map fun body =>
    ⟨"ax10m_evt_" ++ topic ++ "_" ++ eventId, adapter.merchantId, eventId, occurredAt order,
      body⟩).toList

/-- Verify and map a webhook with its topic. -/
def ingestWebhook (topic : Option String) (raw : RawWebhook WooOrder) : Ingested :=
  if !adapter.webhookSecret then
    .error ("WooCommerceAdapter.ingestWebhook: webhookSecret not configured — refusing " ++
      "unverified webhook")
  else if !raw.verified then
    .error "WooCommerceAdapter.ingestWebhook: X-WC-Webhook-Signature verification failed"
  else
    match raw.body with
    | none => .error "WooCommerceAdapter.ingestWebhook: body is not valid JSON"
    | some order => .ok (adapter.mapWebhook order (topic.getD ""))

end WooCommerceAdapter

end AX10M
