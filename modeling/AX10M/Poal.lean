/-
  The processor abstraction (`@ax10m/poal`): idempotency keys and the adapter
  interface.

  An adapter is what the code drives during one call: its id and what the
  processor behind it would answer.  Another value stands for another call, so
  the answers may change from call to call.
-/
import AX10M.Attribution.Holdout

namespace AX10M

structure IdempotencyKeyInput where
  merchantId : String
  invoiceId : String
  paymentMethodId : String
  attemptNumber : ℕ
  deriving DecidableEq

/-- The text an idempotency key is the digest of. -/
def idempotencyMaterial (input : IdempotencyKeyInput) : String :=
  ":".intercalate [input.merchantId, input.invoiceId, input.paymentMethodId,
    toString input.attemptNumber]

/-- The idempotency key of a charge attempt. -/
def idempotencyKey (sha256 : Digest) (input : IdempotencyKeyInput) : String :=
  "ax10m_charge_" ++ String.ofList ((sha256 (idempotencyMaterial input)).toList.take 32)

/-- Result of a charge: its outcome, the decline code of a failed one, and whether the
    processor recognized the key. -/
structure ChargeResult where
  outcome : ChargeOutcome
  declineCode : Option DeclineCode := none
  idempotentReplay : Bool := false
  deriving DecidableEq

/-- A processor behind its adapter, as one call meets it; `none` is a rejected call. -/
structure ProcessorAdapter where
  id : String
  /-- the answer to a charge under a key the processor has not settled -/
  respond : Invoice → PaymentMethod → String → Option ChargeResult
  /-- a refreshed card, if there is one -/
  fetchUpdatedCard : PaymentMethod → Option (Option PaymentMethod)
  /-- the stored methods of a customer -/
  listPaymentMethods : Customer → Option (List PaymentMethod)

end AX10M
