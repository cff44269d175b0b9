/-
  The canonical vocabulary (`@ax10m/canonical`): the decline taxonomy, the
  entities, and the canonical event an adapter makes of a webhook.

  Amounts are in minor units; `number` is read as an exact rational.
-/
import Mathlib.Data.Rat.Defs

namespace AX10M

/-! ## The decline taxonomy -/

inductive DeclineFamily where
  | soft | hard | gray
  deriving DecidableEq, Repr

inductive DeclineCode where
  -- soft (retriable)
  | insufficientFunds | issuerUnavailable | processingError | velocityLimitExceeded
  | authenticationRequired | tryAgainLater
  -- hard (never retry)
  | lostCard | stolenCard | closedAccount | invalidCard | pickupCard | cardNotSupported
  | revocationOfAuthorization
  -- gray (context-dependent)
  | doNotHonor | fraudulent | expiredCard
  | unknown
  deriving DecidableEq, Repr

namespace DeclineFamily

/-- The text of a family. -/
def text : DeclineFamily → String
  | soft => "soft" | hard => "hard" | gray => "gray"

end DeclineFamily

namespace DeclineCode

/-- The text of a code. -/
def text : DeclineCode → String
  | insufficientFunds => "insufficient_funds" | issuerUnavailable => "issuer_unavailable"
  | processingError => "processing_error" | velocityLimitExceeded => "velocity_limit_exceeded"
  | authenticationRequired => "authentication_required" | tryAgainLater => "try_again_later"
  | lostCard => "lost_card" | stolenCard => "stolen_card" | closedAccount => "closed_account"
  | invalidCard => "invalid_card" | pickupCard => "pickup_card"
  | cardNotSupported => "card_not_supported"
  | revocationOfAuthorization => "revocation_of_authorization"
  | doNotHonor => "do_not_honor" | fraudulent => "fraudulent" | expiredCard => "expired_card"
  | unknown => "unknown"

end DeclineCode

/-- The family of a code (`DECLINE_FAMILY`). -/
def familyOf : DeclineCode → DeclineFamily
  | .insufficientFunds | .issuerUnavailable | .processingError | .velocityLimitExceeded
  | .authenticationRequired | .tryAgainLater => .soft
  | .lostCard | .stolenCard | .closedAccount | .invalidCard | .pickupCard | .cardNotSupported
  | .revocationOfAuthorization => .hard
  | .doNotHonor | .fraudulent | .expiredCard | .unknown => .gray

/-- Whether a code is eligible for a retry on the same card. -/
def isRetriable (code : DeclineCode) : Bool :=
  if familyOf code = .hard then false
  else if code = .expiredCard then false
  else if code = .fraudulent then false
  else true

/-! ## Entities -/

/-- A number of minor units. -/
abbrev MinorUnits := ℚ

structure Money where
  amount : MinorUnits
  currency : String
  deriving DecidableEq

inductive MrrTier where
  | micro | small | mid | large | enterprise
  deriving DecidableEq, Repr

/-- The text of a tier. -/
def MrrTier.text : MrrTier → String
  | micro => "micro" | small => "small" | mid => "mid" | large => "large"
  | enterprise => "enterprise"

inductive IssuerRegion where
  | na | emea | latam | apac | unknown
  deriving DecidableEq, Repr

/-- The text of a region. -/
def IssuerRegion.text : IssuerRegion → String
  | na => "na" | emea => "emea" | latam => "latam" | apac => "apac" | unknown => "unknown"

/-- The consent of a customer, for each channel and overall. -/
structure ConsentState where
  email : Bool
  sms : Bool
  whatsapp : Bool
  push : Bool
  globallyOptedOut : Bool
  deriving DecidableEq

structure Customer where
  id : String
  merchantId : String
  processorRef : String
  email : Option String
  phone : Option String
  issuerRegion : IssuerRegion
  createdAt : String
  consent : ConsentState
  deriving DecidableEq

/-- A tokenized payment method. -/
structure PaymentMethod where
  id : String
  customerId : String
  processorRef : String
  token : String
  brand : Option String := none
  last4 : Option String := none
  bin : Option String := none
  autoUpdated : Option Bool := none
  deriving DecidableEq

inductive InvoiceStatus where
  | open | paid | uncollectible | void
  deriving DecidableEq, Repr

structure Invoice where
  id : String
  subscriptionId : Option String := none
  customerId : String
  merchantId : String
  processorRef : String
  amount : Money
  status : InvoiceStatus
  firstFailedAt : Option String := none
  createdAt : String
  deriving DecidableEq

structure DeclineEvent where
  id : String
  invoiceId : String
  chargeAttemptId : String
  code : DeclineCode
  family : DeclineFamily
  rawReason : Option String := none
  occurredAt : String
  deriving DecidableEq

/-- The realized outcome of a charge. -/
inductive ChargeOutcome where
  | succeeded | failed | pending
  deriving DecidableEq, Repr

/-- The text of an outcome. -/
def ChargeOutcome.text : ChargeOutcome → String
  | succeeded => "succeeded" | failed => "failed" | pending => "pending"

/-! ## Events -/

/-- How a collected payment was reversed. -/
inductive ReversalKind where
  | refund | chargeback
  deriving DecidableEq, Repr

/-- The text of a reversal kind. -/
def ReversalKind.text : ReversalKind → String
  | refund => "refund" | chargeback => "chargeback"

/-- A payment was refunded or charged back (`payment.reversed`), or a reversal undone
    (`payment.reversal_reverted`). -/
structure ReversalPayload where
  invoiceId : String
  amount : MinorUnits
  currency : String
  kind : ReversalKind
  reason : Option String := none
  deriving DecidableEq

/-- What a failed invoice's event carries. -/
structure FailurePayload where
  invoice : Option Invoice
  decline : Option DeclineEvent := none
  method : Option PaymentMethod := none
  customer : Option Customer := none
  deriving DecidableEq

/-- The type of a canonical event, with its payload. -/
inductive EventBody where
  | invoiceFailed (p : FailurePayload)
  | invoicePaid (invoice : Option Invoice)
  | chargeAttempted | chargeSucceeded | chargeFailed
  | paymentReversed (p : ReversalPayload)
  | paymentReversalReverted (p : ReversalPayload)
  | paymentMethodUpdated | subscriptionUpdated
  deriving DecidableEq

/-- The event an adapter makes of a webhook. -/
structure CanonicalEvent where
  id : String
  merchantId : String
  processorEventId : String
  occurredAt : String
  body : EventBody
  deriving DecidableEq

end AX10M
