/-
  The Adyen adapter: notification items, and the canonical events it makes of them
  (`adapters/adyen`).
-/
import AX10M.Poal.Ingress

namespace AX10M

open Js

/-- An amount of a notification, in minor units. -/
structure AdyenAmount where
  value : Option ℚ := none
  currency : Option String := none

/-- What the adapter reads of the additional data of an item. -/
structure AdyenAdditionalData where
  shopperEmail : Option String := none
  shopperTelephone : Option String := none
  refusalReasonRaw : Option String := none
  hmacSignature : Option String := none

/-- A notification item. -/
structure AdyenNotificationItem where
  pspReference : Option String := none
  originalReference : Option String := none
  merchantAccountCode : Option String := none
  merchantReference : Option String := none
  amount : Option AdyenAmount := none
  eventCode : Option String := none
  success : Option String := none
  reason : Option String := none
  eventDate : Option String := none
  additionalData : Option AdyenAdditionalData := none

/-! ## Refusal reasons -/

/-- Rules for reasons in words, specific ones first. -/
def adyenRefusalRules : List (String × DeclineCode) :=
  [("not enough balance", .insufficientFunds), ("insufficient funds", .insufficientFunds),
    ("issuer unavailable", .issuerUnavailable), ("acquirer error", .processingError),
    ("expired", .expiredCard), ("invalid card number", .invalidCard),
    ("invalid card", .invalidCard), ("invalid amount", .processingError),
    ("3d not authenticated", .authenticationRequired),
    ("not 3d authenticated", .authenticationRequired), ("blocked card", .pickupCard),
    ("restricted card", .cardNotSupported), ("not supported", .cardNotSupported),
    ("transaction not permitted", .cardNotSupported),
    ("withdrawal amount exceeded", .velocityLimitExceeded),
    ("withdrawal count exceeded", .velocityLimitExceeded),
    ("revocation of auth", .revocationOfAuthorization), ("cvc declined", .fraudulent),
    ("fraud", .fraudulent), ("referral", .doNotHonor), ("declined non generic", .doNotHonor),
    ("refused", .doNotHonor)]

/-- The codes of reasons that are numbers. -/
def adyenRefusalCodes : List (String × DeclineCode) :=
  [("2", .doNotHonor), ("3", .doNotHonor), ("4", .processingError), ("5", .pickupCard),
    ("6", .expiredCard), ("8", .invalidCard), ("9", .issuerUnavailable),
    ("10", .cardNotSupported), ("11", .authenticationRequired), ("12", .insufficientFunds),
    ("23", .cardNotSupported), ("24", .fraudulent), ("25", .cardNotSupported),
    ("26", .revocationOfAuthorization), ("27", .doNotHonor)]

/-- The code of a refusal reason. -/
def mapAdyenRefusalReason (raw : Option String) : DeclineCode :=
  match truthy raw with
  | none => .unknown
  | some raw =>
    let s := (trim raw).toLower
    match codeByRule adyenRefusalRules s with
    | some code => code
    | none => ((leadingNumber s).map (codeFrom adyenRefusalCodes)).getD .unknown

/-! ## The adapter -/

/-- The adapter of a merchant, with its check of the signature of an item (`none` without an HMAC
    key). -/
structure AdyenAdapter where
  merchantId : String
  verifyHmac : Option (AdyenNotificationItem → Bool)

/-- The event codes of a chargeback. -/
def adyenChargebackEventCodes : List String :=
  ["CHARGEBACK", "NOTIFICATION_OF_CHARGEBACK", "SECOND_CHARGEBACK"]

namespace AdyenNotificationItem

variable (item : AdyenNotificationItem)

def value : MinorUnits := cents (item.amount.bind AdyenAmount.value)

def currency : String := (item.amount.bind AdyenAmount.currency).getD "USD"

def ref : String := item.merchantReference.getD ""

/-- The reason of a refusal. -/
def rawReason : Option String :=
  item.reason.or (item.additionalData.bind AdyenAdditionalData.refusalReasonRaw)

end AdyenNotificationItem

namespace AdyenAdapter

variable (adapter : AdyenAdapter) (item : AdyenNotificationItem)

/-- The event about an item. -/
def event (psp : String) (body : EventBody) : CanonicalEvent where
  id := "ax10m_evt_" ++ item.pspReference.getD psp
  merchantId := adapter.merchantId
  processorEventId := item.pspReference.getD ""
  occurredAt := toIso item.eventDate
  body := body

/-- A refund or chargeback, if funds were moved. -/
def mapReversal (kind : ReversalKind) : Option CanonicalEvent :=
  if item.success ≠ some "true" then none
  else some (adapter.event item item.ref (.paymentReversed
    ⟨invoiceIdOf item.ref, item.value, item.currency, kind, item.reason⟩))

/-- A chargeback that was reversed. -/
def mapReversalReverted : Option CanonicalEvent :=
  if item.success ≠ some "true" then none
  else some (adapter.event item item.ref (.paymentReversalReverted
    ⟨invoiceIdOf item.ref, item.value, item.currency, .chargeback,
      some (item.reason.getD "chargeback_reversed")⟩))

/-- The invoice of an authorisation. -/
def mapInvoice (occurredAt : String) (failed : Bool) : Invoice where
  id := invoiceIdOf item.ref
  customerId := ""
  merchantId := adapter.merchantId
  processorRef := item.ref
  amount := ⟨item.value, item.currency⟩
  status := if failed then .open else .paid
  firstFailedAt := if failed then some occurredAt else none
  createdAt := occurredAt

/-- The decline of an authorisation. -/
def mapDecline (invoiceId chargeAttemptId occurredAt : String) : DeclineEvent where
  id := "ax10m_dec_" ++ item.pspReference.getD invoiceId
  invoiceId := invoiceId
  chargeAttemptId := chargeAttemptId
  code := mapAdyenRefusalReason item.rawReason
  family := familyOf (mapAdyenRefusalReason item.rawReason)
  rawReason := item.rawReason
  occurredAt := occurredAt

/-- The event of an authorisation. -/
def mapAuthorisation : CanonicalEvent :=
  let occurredAt := toIso item.eventDate
  let failed := item.success ≠ some "true"
  let invoice := adapter.mapInvoice item occurredAt failed
  adapter.event item invoice.processorRef <|
    if failed then .invoiceFailed {
      invoice := some invoice
      decline := some (mapDecline item invoice.id (attemptIdOf item.pspReference) occurredAt)
      customer := some (customerFromInvoice invoice
        (contactOverrides (item.additionalData.bind AdyenAdditionalData.shopperEmail)
          (item.additionalData.bind AdyenAdditionalData.shopperTelephone))) }
    else .invoicePaid (some invoice)

/-- The event of an item, if it is relevant to recovery. -/
def mapItem : Option CanonicalEvent :=
  let eventCode := item.eventCode.getD ""
  if eventCode = "REFUND" ∨ eventCode ∈ adyenChargebackEventCodes then
    adapter.mapReversal item (if eventCode = "REFUND" then .refund else .chargeback)
  else if eventCode = "CHARGEBACK_REVERSED" then adapter.mapReversalReverted item
  else if eventCode ≠ "AUTHORISATION" then none
  else some (adapter.mapAuthorisation item)

/-- The events of the items whose signatures hold. -/
def ingestItems (verify : AdyenNotificationItem → Bool) :
    List (Option AdyenNotificationItem) → Ingested
  | [] => .ok []
  | none :: items => ingestItems verify items
  | some item :: items =>
    if !verify item then
      .error ("AdyenAdapter.ingestWebhook: HMAC verification failed (psp=" ++
        item.pspReference.getD "?" ++ ")")
    else do
      let events ← ingestItems verify items
      .ok ((adapter.mapItem item).toList ++ events)

/-- Verify and map a webhook: its notification items, `none` if the body is no JSON. -/
def ingestWebhook (body : Option (Option (List (Option AdyenNotificationItem)))) : Ingested :=
  match body with
  | none => .error "AdyenAdapter.ingestWebhook: body is not valid JSON"
  | some items =>
    match adapter.verifyHmac with
    | none => .error ("AdyenAdapter.ingestWebhook: hmacKey not configured — refusing to process " ++
        "unverified notification")
    | some verify => adapter.ingestItems verify (items.getD [])

end AdyenAdapter

end AX10M
