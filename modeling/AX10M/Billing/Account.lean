/-
  Opting in (`@ax10m/billing`, `account.ts`; `billing/billing-portal.service.ts`).

  A submission is validated, becomes the account of its merchant, and is kept under an id that is
  derived from the merchant, so that opting in again replaces the account.
-/
import AX10M.Billing.Job
import AX10M.Js.DigitRuns
import AX10M.Js.Keys

namespace AX10M

open Js

/-! ## The submission -/

/-- The human who accepted the terms. -/
structure AuthorizedSigner where
  name : String
  title : String
  email : String

structure OptInInput where
  merchantId : String
  legalEntityName : String
  billingAddress : PostalAddress
  taxId : Option String := none
  apContactEmail : String
  poRequired : Bool := false
  poNumber : Option String := none
  payerTrack : PayerTrack
  paymentMethodRef : Option String := none
  customerRef : Option String := none
  signer : AuthorizedSigner
  autoPayAuthorized : Option Bool := none
  feeSchedule : Option FeeSchedule := none

/-- `DEFAULT_FEE_SCHEDULE`. -/
def defaultFeeSchedule : FeeSchedule := ⟨12 / 100, "USD", 14, 15 / 1000⟩

/-- Absent, empty or white space. -/
def isBlank (s : Option String) : Bool := trim (s.getD "") = ""

/-- `EMAIL_RE`: a name, one `@`, and a host with a dot inside it, all without white space. -/
def isEmail (s : String) : Bool :=
  let name := s.toList.takeWhile (· ≠ '@')
  let host := (s.toList.dropWhile (· ≠ '@')).drop 1
  s.toList.contains '@' && !name.isEmpty && !host.contains '@' &&
    (host.drop 1).dropLast.contains '.' && (name ++ host).all fun c => !isSpace c

/-- The text looks like a card number (`looksLikePan`). -/
def looksLikePan (s : Option String) : Bool := panSomewhere (s.getD "").toList

/-- The errors that apply, in their order. -/
def failing (checks : List (Bool × String)) : List String :=
  (checks.filter Prod.fst).map Prod.snd

/-- The checks of a submission, each with its error. -/
def optInChecks (input : OptInInput) : List (Bool × String) :=
  [(isBlank input.merchantId, "merchantId is required"),
    (isBlank input.legalEntityName, "legalEntityName is required"),
    (isBlank input.billingAddress.line1, "billingAddress.line1 is required"),
    (isBlank input.billingAddress.city, "billingAddress.city is required"),
    (isBlank input.billingAddress.region, "billingAddress.region is required"),
    (isBlank input.billingAddress.postalCode, "billingAddress.postalCode is required"),
    (isBlank input.billingAddress.country, "billingAddress.country is required"),
    (!isBlank input.billingAddress.country && (utf16 (trim input.billingAddress.country)).length ≠ 2,
      "billingAddress.country must be a 2-letter ISO code"),
    (isBlank input.apContactEmail, "apContactEmail is required"),
    (!isBlank input.apContactEmail && !isEmail input.apContactEmail,
      "apContactEmail is not a valid email"),
    (isBlank input.signer.name, "signer.name is required"),
    (isBlank input.signer.title, "signer.title is required"),
    (isBlank input.signer.email, "signer.email is required"),
    (!isBlank input.signer.email && !isEmail input.signer.email,
      "signer.email is not a valid email"),
    (input.poRequired && isBlank input.poNumber, "poNumber is required when poRequired is true"),
    (input.payerTrack = .autoPay && isBlank input.paymentMethodRef,
      "paymentMethodRef is required on the auto_pay track"),
    (input.payerTrack = .autoPay && input.autoPayAuthorized ≠ some true,
      "autoPayAuthorized must be true to enroll in auto-pay"),
    (looksLikePan input.paymentMethodRef, "paymentMethodRef looks like a card number — pass an " ++
      "opaque processor token, never a PAN"),
    (looksLikePan input.customerRef, "customerRef looks like a card number — pass an opaque " ++
      "processor customer id, never a PAN"),
    (looksLikePan input.taxId, "taxId looks like a card number"),
    (looksLikePan input.poNumber, "poNumber looks like a card number")]

/-- The errors of a submission. -/
def validateOptIn (input : OptInInput) : List String := failing (optInChecks input)

/-- The account of a submission, if it is valid. -/
def buildBillingAccount (input : OptInInput) (accountId createdAt : String) :
    Except String BillingAccount :=
  match validateOptIn input with
  | [] => .ok {
      accountId
      merchantId := input.merchantId
      legalEntityName := input.legalEntityName
      billingAddress := input.billingAddress
      taxId := input.taxId
      apContactEmail := input.apContactEmail
      poRequired := input.poRequired
      poNumber := input.poNumber
      payerTrack := input.payerTrack
      paymentMethodRef := if input.payerTrack = .autoPay then input.paymentMethodRef else none
      customerRef := if input.payerTrack = .autoPay then input.customerRef else none
      feeSchedule := input.feeSchedule.getD defaultFeeSchedule
      status := .active
      createdAt }
  | errors => .error ("invalid opt-in: " ++ "; ".intercalate errors)

theorem failing_eq_nil {checks : List (Bool × String)} (h : failing checks = []) :
    ∀ p ∈ checks, p.1 = false := by
  intro p hp
  rw [failing, List.map_eq_nil_iff, List.filter_eq_nil_iff] at h
  exact Bool.eq_false_iff.2 (h p hp)

theorem buildBillingAccount_eq_ok {input : OptInInput} {accountId createdAt : String}
    {account : BillingAccount} (h : buildBillingAccount input accountId createdAt = .ok account) :
    validateOptIn input = [] ∧ account.accountId = accountId ∧
      account.merchantId = input.merchantId ∧ account.createdAt = createdAt := by
  unfold buildBillingAccount at h
  split at h
  next hv =>
    obtain rfl := Except.ok.inj h
    exact ⟨hv, rfl, rfl, rfl⟩
  next => cases h

/-- `optIn`, on the table of accounts: an accepted submission replaces the merchant's account. -/
def optIn (accounts : Map String BillingAccount) (input : OptInInput) (nowIso : String) :
    Map String BillingAccount :=
  match buildBillingAccount input ("acct_" ++ input.merchantId) nowIso with
  | .ok account => accounts.set account.accountId account
  | .error _ => accounts

end AX10M
