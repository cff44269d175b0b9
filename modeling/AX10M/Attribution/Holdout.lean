/-
  Randomized holdout assignment (`@ax10m/attribution`, `holdout.ts`).

  The arm of a customer is a function of salt, merchant and customer; a guest, who
  has no customer id, is assigned by invoice.
-/
import AX10M.Canonical
import Mathlib.Algebra.Order.Ring.Rat

namespace AX10M

/-- The hexadecimal digest of a text (`createHash('sha256')`). -/
abbrev Digest := String → String

/-- The stratification key. -/
structure Stratum where
  mrrTier : MrrTier
  declineFamily : DeclineFamily
  issuerRegion : IssuerRegion
  deriving DecidableEq

/-- The text of a stratum. -/
def stratumKey (s : Stratum) : String :=
  s.mrrTier.text ++ "|" ++ s.declineFamily.text ++ "|" ++ s.issuerRegion.text

structure HoldoutConfig where
  /-- fraction routed to control -/
  controlFraction : ℚ
  salt : String

/-- `DEFAULT_HOLDOUT_CONFIG`. -/
def defaultHoldoutConfig : HoldoutConfig := ⟨1 / 10, "ax10m-holdout-v1"⟩

inductive Bucket where
  | control | treatment
  deriving DecidableEq, Repr

/-- The text of a bucket. -/
def Bucket.text : Bucket → String
  | control => "control" | treatment => "treatment"

inductive UnitGrain where
  | customer | invoice
  deriving DecidableEq, Repr

structure AssignmentInput where
  merchantId : String
  /-- absent or empty for a guest -/
  customerId : Option String
  invoiceId : String
  stratum : Stratum

structure Assignment where
  bucket : Bucket
  stratumKey : String
  unitGrain : UnitGrain
  bucketKey : String
  position : ℚ

/-- The value of a hexadecimal digit. -/
def hexDigit (c : Char) : ℕ :=
  if c.isDigit then c.toNat - '0'.toNat else c.toNat - 'a'.toNat + 10

/-- The position of a text in `[0, 1)`: the top 52 bits of its digest. -/
def hashToUnitInterval (sha256 : Digest) (input : String) : ℚ :=
  ((sha256 input).toList.take 13).foldl (fun n c => n * 16 + hexDigit c) 0 / (2 ^ 52 : ℕ)

/-- The unit that is randomized: a guest has no customer id. -/
def isGuest (input : AssignmentInput) : Bool :=
  input.customerId = none || input.customerId = some ""

/-- The text that is hashed. -/
def bucketMaterial (input : AssignmentInput) (config : HoldoutConfig) : String :=
  if isGuest input then
    ":".intercalate [config.salt, input.merchantId, "guest", input.invoiceId]
  else
    ":".intercalate [config.salt, input.merchantId, input.customerId.getD ""]

/-- Assign a customer, or a guest invoice, to control or treatment; a control fraction
    outside `[0, 1)` is a range error. -/
def assign (sha256 : Digest) (input : AssignmentInput)
    (config : HoldoutConfig := defaultHoldoutConfig) : Except String Assignment :=
  if config.controlFraction < 0 ∨ config.controlFraction ≥ 1 then
    .error s!"controlFraction must be in [0, 1); got {config.controlFraction}"
  else
    let material := bucketMaterial input config
    let position := hashToUnitInterval sha256 material
    .ok {
      bucket := if position < config.controlFraction then .control else .treatment
      stratumKey := stratumKey input.stratum
      unitGrain := if isGuest input then .invoice else .customer
      bucketKey := material
      position }

/-- The default configuration is admitted. -/
theorem assign_default (sha256 : Digest) (input : AssignmentInput) :
    ∃ a, assign sha256 input = .ok a := by
  have h : ¬ (defaultHoldoutConfig.controlFraction < 0 ∨ defaultHoldoutConfig.controlFraction ≥ 1) := by
    decide +kernel
  exact ⟨_, by rw [assign, if_neg h]⟩

end AX10M
