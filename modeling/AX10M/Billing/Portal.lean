/-
  Opting in while others do (`billing/billing-portal.service.ts`, `billing/billing-account-store.ts`;
  `acceptance.ts` of `@ax10m/billing`; `billing-repo.ts` of `@ax10m/persistence`).

  A request keeps the account of its merchant, and then the signed acceptance of the terms.  Other
  requests come between the two; a statement may fail or its answer be lost, and a process may die.

  `optIns_evidence`: acceptances are only added, what is added is of a valid request, and where a
  request has been answered, its acceptance is kept, backs the account, and verifies.
  `accountFor_run`: a merchant has one account, whatever accounts are ordered by.
-/
import AX10M.Billing.Certification
import AX10M.Billing.Deliverable
import AX10M.Billing.Verification
import AX10M.Persistence.Migrations

namespace AX10M

open Js Effects

/-! ## The tables -/

/-- The accounts by their ids, and the acceptances by their hashes. -/
structure BillingTables where
  accounts : Map String BillingAccount := .empty
  acceptances : Map String SignedAcceptanceRecord := .empty

inductive BillingOp where
  | upsertAccount (account : BillingAccount)
  | recordAcceptance (rec : SignedAcceptanceRecord)

abbrev BillingSig : Sig where
  Op := BillingOp
  Res _ := Unit

namespace BillingTables

/-- Insert or update an account. -/
def upsertAccount (db : BillingTables) (account : BillingAccount) : BillingTables :=
  { db with accounts := db.accounts.set account.accountId account }

/-- Record an acceptance, if there is none of its hash. -/
def recordAcceptance (db : BillingTables) (rec : SignedAcceptanceRecord) : BillingTables :=
  match db.acceptances.get rec.recordHash with
  | some _ => db
  | none => { db with acceptances := db.acceptances.set rec.recordHash rec }

/-- The first account of a merchant in an order: by `createdAt`, in the collation of the process or
    of the database. -/
def accountForMerchant (before : BillingAccount → BillingAccount → Bool) (db : BillingTables)
    (merchantId : String) : Option BillingAccount :=
  ((db.accounts.values.filter fun a => a.merchantId = merchantId).mergeSort before).head?

/-- A statement that reaches the tables. -/
def exec (db : BillingTables) : BillingOp → BillingTables
  | .upsertAccount account => db.upsertAccount account
  | .recordAcceptance rec => db.recordAcceptance rec

/-- The tables, and the connection to them. -/
def handle : Fate → Handler BillingSig BillingTables
  | .done, o, db => (some (), db.exec o)
  | .refused, _, db => (none, db)
  | .lost, o, db => (none, db.exec o)

variable {db : BillingTables}

theorem recordAcceptance_cases (db : BillingTables) (rec : SignedAcceptanceRecord) :
    (∃ r, db.acceptances.get rec.recordHash = some r ∧ db.recordAcceptance rec = db) ∨
      db.acceptances.get rec.recordHash = none ∧ db.recordAcceptance rec =
        { db with acceptances := db.acceptances.set rec.recordHash rec } := by
  unfold recordAcceptance
  cases hget : db.acceptances.get rec.recordHash with
  | none => exact Or.inr ⟨rfl, rfl⟩
  | some r => exact Or.inl ⟨r, rfl, rfl⟩

@[simp] theorem recordAcceptance_accounts (db : BillingTables) (rec : SignedAcceptanceRecord) :
    (db.recordAcceptance rec).accounts = db.accounts := by
  rcases recordAcceptance_cases db rec with ⟨-, -, heq⟩ | ⟨-, heq⟩
  · rw [heq]
  · rw [heq]

/-- After it is recorded, there is an acceptance of its hash. -/
theorem recordAcceptance_get (db : BillingTables) (rec : SignedAcceptanceRecord) :
    ∃ r, (db.recordAcceptance rec).acceptances.get rec.recordHash = some r := by
  rcases recordAcceptance_cases db rec with ⟨r, hget, heq⟩ | ⟨-, heq⟩
  · exact ⟨r, by rw [heq, hget]⟩
  · exact ⟨rec, by rw [heq, Map.get_set_self]⟩

/-- Where accounts are kept under the ids of their merchants, the order does not matter. -/
theorem accountForMerchant_eq (h : KeptByMerchant db.accounts)
    (before : BillingAccount → BillingAccount → Bool) (merchantId : String) :
    db.accountForMerchant before merchantId = db.accounts.get ("acct_" ++ merchantId) := by
  rw [accountForMerchant, h.filter_values]
  cases db.accounts.get ("acct_" ++ merchantId) with
  | none => simp
  | some account => simp

end BillingTables

/-! ## Opting in -/

/-- A version of the terms, with the hash of its text. -/
structure TermsVersion where
  version : String
  effectiveAt : String
  bodyHash : String

/-- A submission, and what is known of its request. -/
structure OptInRequest where
  input : OptInInput
  ip : Option String := none
  userAgent : Option String := none
  nowIso : String

/-- Its account, under an id that is derived from the merchant. -/
def OptInRequest.account (req : OptInRequest) : Except String BillingAccount :=
  buildBillingAccount req.input ("acct_" ++ req.input.merchantId) req.nowIso

/-- Assemble and sign the acceptance of an account. -/
def buildAcceptance (sha256 : Digest) (d : Doubles ℚ) (account : BillingAccount)
    (acceptedBy : AuthorizedSigner) (acceptedAt : String) (autoPayAuthorized : Bool)
    (signer : Signer) (terms : TermsVersion) (ip userAgent : Option String) :
    SignedAcceptanceRecord :=
  signAcceptance sha256 d
    { accountId := account.accountId
      merchantId := account.merchantId
      termsVersion := terms.version
      termsHash := terms.bodyHash
      feeSchedule := account.feeSchedule
      payerTrack := account.payerTrack
      autoPayAuthorized
      acceptedBy
      acceptedAt
      ip
      userAgent } signer

/-- What is answered of an account: not its payment token. -/
structure AccountView where
  accountId : String
  merchantId : String
  legalEntityName : String
  billingAddress : PostalAddress
  taxId : Option String
  apContactEmail : String
  poRequired : Bool
  poNumber : Option String
  payerTrack : PayerTrack
  customerRef : Option String
  feeSchedule : FeeSchedule
  status : BillingAccountStatus
  createdAt : String
  hasPaymentMethod : Bool

def toView (account : BillingAccount) : AccountView where
  accountId := account.accountId
  merchantId := account.merchantId
  legalEntityName := account.legalEntityName
  billingAddress := account.billingAddress
  taxId := account.taxId
  apContactEmail := account.apContactEmail
  poRequired := account.poRequired
  poNumber := account.poNumber
  payerTrack := account.payerTrack
  customerRef := account.customerRef
  feeSchedule := account.feeSchedule
  status := account.status
  createdAt := account.createdAt
  hasPaymentMethod := account.paymentMethodRef.any (· ≠ "")

/-- What is answered of an acceptance. -/
structure AcceptanceView where
  recordHash : String
  termsVersion : String
  signingKeyId : String
  acceptedAt : String
  payerTrack : PayerTrack

structure OptInResult where
  account : AccountView
  acceptance : AcceptanceView

/-- What the portal signs with, and the current terms. -/
structure BillingPortalService where
  sha256 : Digest
  doubles : Doubles ℚ
  signer : Signer
  terms : TermsVersion

namespace BillingPortalService

variable (portal : BillingPortalService)

/-- The acceptance of a request that became an account. -/
def acceptance (req : OptInRequest) (account : BillingAccount) : SignedAcceptanceRecord :=
  buildAcceptance portal.sha256 portal.doubles account req.input.signer req.nowIso
    (if req.input.payerTrack = .autoPay then decide (req.input.autoPayAuthorized = some true)
      else false)
    portal.signer portal.terms req.ip req.userAgent

def result (req : OptInRequest) (account : BillingAccount) : OptInResult where
  account := toView account
  acceptance :=
    let acceptance := portal.acceptance req account
    { recordHash := acceptance.recordHash
      termsVersion := acceptance.termsVersion
      signingKeyId := acceptance.signingKeyId
      acceptedAt := acceptance.acceptedAt
      payerTrack := acceptance.payerTrack }

/-- Opt a merchant in: validate, keep the account, keep the acceptance. -/
def optIn (req : OptInRequest) : Prog BillingSig (Except (List String) OptInResult) :=
  match validateOptIn req.input with
  | [] =>
    match req.account with
    | .error message => .pure (.error [message])
    | .ok account =>
      .op (.upsertAccount account) fun _ =>
        .op (.recordAcceptance (portal.acceptance req account)) fun _ =>
          .pure (.ok (portal.result req account))
  | errors => .pure (.error errors)

/-- What is answered of the account of a merchant. -/
def accountFor (before : BillingAccount → BillingAccount → Bool) (db : BillingTables)
    (merchantId : String) : Except String AccountView :=
  match db.accountForMerchant before merchantId with
  | none => .error ("no billing account for merchant " ++ merchantId)
  | some account => .ok (toView account)

/-- The tables and the requests after what happens to them. -/
def serve {reqs : Set OptInRequest} (db : BillingTables) (events : List (PoolEvent reqs Fate)) :
    Pool BillingSig BillingTables reqs (Except (List String) OptInResult) :=
  Pool.run (fun req : reqs => portal.optIn req.1) BillingTables.handle ⟨db, [], []⟩ events

theorem optIn_cases (req : OptInRequest) :
    validateOptIn req.input ≠ [] ∧ portal.optIn req = .pure (.error (validateOptIn req.input)) ∨
      ∃ account, req.account = .ok account ∧ portal.optIn req =
        .op (.upsertAccount account) fun _ =>
          .op (.recordAcceptance (portal.acceptance req account)) fun _ =>
            .pure (.ok (portal.result req account)) := by
  unfold optIn
  cases hvalid : validateOptIn req.input with
  | cons e errors => exact Or.inl ⟨List.cons_ne_nil e errors, rfl⟩
  | nil =>
    refine Or.inr ?_
    cases haccount : req.account with
    | ok account => exact ⟨account, rfl, rfl⟩
    | error message =>
      rw [OptInRequest.account, buildBillingAccount, hvalid] at haccount
      cases haccount

/-! ## What an acceptance says -/

/-- The acceptance of an account. -/
structure Backs (rec : SignedAcceptanceRecord) (account : BillingAccount) : Prop where
  merchant : rec.accountId = account.accountId ∧ rec.merchantId = account.merchantId
  terms : rec.termsVersion = portal.terms.version ∧ rec.termsHash = portal.terms.bodyHash
  fees : rec.feeSchedule = account.feeSchedule
  track : rec.payerTrack = account.payerTrack
  /-- an account is charged automatically where its signer has authorized that -/
  authorized : account.payerTrack = .autoPay →
    rec.autoPayAuthorized = true ∧ isBlank account.paymentMethodRef = false
  signature : rec.signature = portal.signer.sign rec.recordHash
  /-- what is read of it has the hash of its content -/
  verifies : Reverified (rec.props portal.doubles) fun doc =>
    acceptanceHashMatches portal.sha256 doc = true ∧ prop doc "recordHash" = .str rec.recordHash ∧
      prop doc "signature" = .str rec.signature

/-- What an account takes over of the way to pay. -/
theorem account_autoPay {req : OptInRequest} {account : BillingAccount}
    (h : req.account = .ok account) (hauto : account.payerTrack = .autoPay) :
    req.input.payerTrack = .autoPay ∧ req.input.autoPayAuthorized = some true ∧
      isBlank account.paymentMethodRef = false := by
  have hvalid := failing_eq_nil (buildBillingAccount_eq_ok h).1
  have htoken : (decide (req.input.payerTrack = .autoPay) && isBlank req.input.paymentMethodRef,
      "paymentMethodRef is required on the auto_pay track") ∈ optInChecks req.input := by
    simp only [optInChecks, List.mem_cons, true_or, or_true]
  have hauthorized : (decide (req.input.payerTrack = .autoPay) &&
      decide (req.input.autoPayAuthorized ≠ some true),
      "autoPayAuthorized must be true to enroll in auto-pay") ∈ optInChecks req.input := by
    simp only [optInChecks, List.mem_cons, true_or, or_true]
  have htoken := hvalid _ htoken
  have hauthorized := hvalid _ hauthorized
  unfold OptInRequest.account buildBillingAccount at h
  split at h
  next =>
    obtain rfl := Except.ok.inj h
    have htrack : req.input.payerTrack = .autoPay := hauto
    simp only [htrack, decide_true, Bool.true_and] at htoken hauthorized
    refine ⟨htrack, by simpa using hauthorized, ?_⟩
    simpa [htrack] using htoken
  next => cases h

theorem acceptance_backs {req : OptInRequest} {account : BillingAccount}
    (h : req.account = .ok account) : portal.Backs (portal.acceptance req account) account where
  merchant := ⟨rfl, rfl⟩
  terms := ⟨rfl, rfl⟩
  fees := rfl
  track := rfl
  authorized := by
    intro hauto
    obtain ⟨htrack, hauthorized, htoken⟩ := account_autoPay h hauto
    refine ⟨?_, htoken⟩
    simp [acceptance, buildAcceptance, signAcceptance, htrack, hauthorized]
  signature := rfl
  verifies := DocumentKind.reverified portal.sha256 (acceptance_content portal.doubles _)

/-! ## Requests among each other -/

variable {portal} {reqs : Set OptInRequest} {db db' db'' : BillingTables}

variable (portal reqs) in
/-- What requests rely on: accounts and acceptances that were not there are those of requests, no
    account is removed, and no acceptance is changed. -/
structure Keeps (db db' : BillingTables) : Prop where
  accounts : ∀ id account, db'.accounts.get id = some account → db.accounts.get id = some account ∨
    ∃ req ∈ reqs, req.account = .ok account ∧ id = "acct_" ++ req.input.merchantId
  acceptances : ∀ hash rec, db'.acceptances.get hash = some rec →
    db.acceptances.get hash = some rec ∨ ∃ req ∈ reqs, ∃ account, req.account = .ok account ∧
      rec = portal.acceptance req account ∧ hash = rec.recordHash
  present : ∀ id, db'.accounts.get id = none → db.accounts.get id = none
  kept : ∀ hash rec, db.acceptances.get hash = some rec → db'.acceptances.get hash = some rec

theorem Keeps.refl (db : BillingTables) : portal.Keeps reqs db db where
  accounts _ _ h := Or.inl h
  acceptances _ _ h := Or.inl h
  present _ h := h
  kept _ _ h := h

theorem Keeps.trans (h : portal.Keeps reqs db db') (h' : portal.Keeps reqs db' db'') :
    portal.Keeps reqs db db'' where
  accounts := by
    intro id account hget
    rcases h'.accounts id account hget with hold | hnew
    · exact h.accounts id account hold
    · exact Or.inr hnew
  acceptances := by
    intro hash rec hget
    rcases h'.acceptances hash rec hget with hold | hnew
    · exact h.acceptances hash rec hold
    · exact Or.inr hnew
  present id hget := h.present id (h'.present id hget)
  kept hash rec hget := h'.kept hash rec (h.kept hash rec hget)

variable {req : OptInRequest} {account : BillingAccount}

theorem keeps_upsertAccount (hreq : req ∈ reqs) (h : req.account = .ok account) :
    portal.Keeps reqs db (db.upsertAccount account) where
  accounts := by
    intro id account' hget
    rw [BillingTables.upsertAccount] at hget
    dsimp only at hget
    rw [Map.get_set] at hget
    by_cases hid : id = account.accountId
    · rw [if_pos hid] at hget
      obtain rfl := Option.some.inj hget
      exact Or.inr ⟨req, hreq, h, hid.trans (buildBillingAccount_eq_ok h).2.1⟩
    · rw [if_neg hid] at hget
      exact Or.inl hget
  acceptances _ _ hget := Or.inl hget
  present := by
    intro id hget
    rw [BillingTables.upsertAccount] at hget
    dsimp only at hget
    rw [Map.get_set] at hget
    by_cases hid : id = account.accountId
    · rw [if_pos hid] at hget
      cases hget
    · rwa [if_neg hid] at hget
  kept _ _ hget := hget

theorem keeps_recordAcceptance (hreq : req ∈ reqs) (h : req.account = .ok account) :
    portal.Keeps reqs db (db.recordAcceptance (portal.acceptance req account)) := by
  rcases db.recordAcceptance_cases (portal.acceptance req account) with ⟨-, -, heq⟩ | ⟨hnone, heq⟩
  · rw [heq]
    exact Keeps.refl db
  · rw [heq]
    refine ⟨fun _ _ hget => Or.inl hget, ?_, fun _ hget => hget, ?_⟩
    · intro hash rec hget
      dsimp only at hget
      rw [Map.get_set] at hget
      by_cases hhash : hash = (portal.acceptance req account).recordHash
      · rw [if_pos hhash] at hget
        obtain rfl := Option.some.inj hget
        exact Or.inr ⟨req, hreq, account, h, rfl, hhash⟩
      · rw [if_neg hhash] at hget
        exact Or.inl hget
    · intro hash rec hget
      dsimp only
      have hne : hash ≠ (portal.acceptance req account).recordHash := by
        rintro rfl
        rw [hnone] at hget
        cases hget
      rw [Map.get_set_ne _ hne, hget]

/-- Whatever becomes of a statement, what it may change is kept. -/
theorem keeps_handle {o : BillingOp} (h : portal.Keeps reqs db (db.exec o)) (fate : Fate) :
    portal.Keeps reqs db (BillingTables.handle fate o db).2 := by
  cases fate with
  | done => exact h
  | refused => exact Keeps.refl db
  | lost => exact h

variable (portal) in
/-- What holds once a request has been answered. -/
def Answered (req : OptInRequest) (answer : Except (List String) OptInResult)
    (db : BillingTables) : Prop :=
  match answer with
  | .error errors => errors = validateOptIn req.input ∧ errors ≠ []
  | .ok result => ∃ account, req.account = .ok account ∧ result = portal.result req account ∧
      ∃ rec, db.acceptances.get (portal.acceptance req account).recordHash = some rec

theorem optIn_among (hreq : req ∈ reqs) (db : BillingTables) :
    (portal.optIn req).Among BillingTables.handle (portal.Keeps reqs) (portal.Keeps reqs)
      (portal.Answered req) db := by
  rcases portal.optIn_cases req with ⟨hne, heq⟩ | ⟨account, haccount, heq⟩
  · rw [heq]
    intro db' _
    exact ⟨rfl, hne⟩
  · rw [heq]
    intro db₁ _ fate
    refine ⟨keeps_handle (keeps_upsertAccount hreq haccount) fate, ?_⟩
    intro _ _ db₂ _ fate'
    refine ⟨keeps_handle (keeps_recordAcceptance hreq haccount) fate', ?_⟩
    intro _ hdone db₃ hkeeps
    refine ⟨account, haccount, rfl, ?_⟩
    obtain ⟨rec, hrec⟩ := db₂.recordAcceptance_get (portal.acceptance req account)
    cases fate' with
    | done => exact ⟨rec, hkeeps.kept _ _ hrec⟩
    | refused => cases hdone
    | lost => cases hdone

variable (portal) in
/-- All keep to what the others rely on, and who has ended has been answered. -/
theorem serve_among (db : BillingTables) (events : List (PoolEvent reqs Fate)) :
    portal.Keeps reqs db (portal.serve db events).world ∧
      (portal.serve db events).Among BillingTables.handle (portal.Keeps reqs) (portal.Keeps reqs)
        (fun req : reqs => portal.Answered req.1) := by
  have hstart : (⟨db, [], []⟩ : Pool BillingSig BillingTables reqs _).Among BillingTables.handle
      (portal.Keeps reqs) (portal.Keeps reqs) (fun req : reqs => portal.Answered req.1) := by
    intro thread hthread
    cases hthread
  have hprog : ∀ (req : reqs) db', portal.Keeps reqs db db' → (portal.optIn req.1).Among
      BillingTables.handle (portal.Keeps reqs) (portal.Keeps reqs) (portal.Answered req.1) db' :=
    fun req db' _ => optIn_among req.2 db'
  exact Pool.run_among Keeps.refl (fun _ _ _ => Keeps.trans) (fun _ _ => id) hprog hstart events

end BillingPortalService

namespace Sample

def portal : BillingPortalService :=
  ⟨unarySha256, decimals, markingSigner, ⟨"2026-08-16.v1-draft", "2026-08-16", "ab"⟩⟩

/-- A request to be charged automatically. -/
def autoPayRequest : OptInRequest where
  input := { apSubmission "mrc_1" with
    payerTrack := .autoPay
    paymentMethodRef := some "pm_1"
    autoPayAuthorized := some true }
  nowIso := "2026-01-01T00:00:00.000Z"

/-- The request is made twice: one does not learn that its acceptance has been recorded. -/
def optInEvents : List (PoolEvent ({autoPayRequest} : Set OptInRequest) Fate) :=
  [.spawn ⟨autoPayRequest, rfl⟩, .perform 0 .done, .spawn ⟨autoPayRequest, rfl⟩, .perform 1 .done,
    .perform 0 .lost, .perform 1 .done]

theorem optIn_autoPayRequest : ∃ account, autoPayRequest.account = .ok account ∧
    account.payerTrack = .autoPay ∧ portal.optIn autoPayRequest =
      .op (.upsertAccount account) fun _ =>
        .op (.recordAcceptance (portal.acceptance autoPayRequest account)) fun _ =>
          .pure (.ok (portal.result autoPayRequest account)) := by
  have hvalid : validateOptIn autoPayRequest.input = [] := by decide +kernel
  rcases portal.optIn_cases autoPayRequest with ⟨hne, -⟩ | ⟨account, haccount, hprog⟩
  · exact absurd hvalid hne
  · refine ⟨account, haccount, ?_, hprog⟩
    rw [OptInRequest.account, buildBillingAccount, hvalid] at haccount
    rw [← Except.ok.inj haccount]
    rfl

end Sample

namespace BillingPortalService

variable {portal : BillingPortalService} {reqs : Set OptInRequest} {db db' : BillingTables}
  {req : OptInRequest} {account : BillingAccount}

/-! ## The evidence -/

variable (portal reqs db) in
/-- No two acceptances have one hash. -/
structure DistinctHashes : Prop where
  requests : ∀ req ∈ reqs, ∀ req' ∈ reqs, ∀ account account', req.account = .ok account →
    req'.account = .ok account' →
    (portal.acceptance req account).recordHash = (portal.acceptance req' account').recordHash →
    portal.acceptance req account = portal.acceptance req' account'
  stored : ∀ req ∈ reqs, ∀ account rec, req.account = .ok account →
    db.acceptances.get (portal.acceptance req account).recordHash = some rec →
    rec = portal.acceptance req account

/-- An acceptance that is found by the hash of a request's is that one. -/
theorem DistinctHashes.eq_acceptance (h : portal.DistinctHashes reqs db)
    (hkeeps : portal.Keeps reqs db db') (hreq : req ∈ reqs) (haccount : req.account = .ok account)
    {rec : SignedAcceptanceRecord}
    (hrec : db'.acceptances.get (portal.acceptance req account).recordHash = some rec) :
    rec = portal.acceptance req account := by
  rcases hkeeps.acceptances _ rec hrec with hold | ⟨req', hreq', account', haccount', rfl, hhash⟩
  · exact h.stored req hreq account rec haccount hold
  · exact (h.requests req hreq req' hreq' account account' haccount haccount' hhash).symm

/-- **Opting in leaves evidence.** Whatever happens to requests and their statements, an acceptance
    is neither changed nor removed, and what is added is of a valid request.  Where a request has
    been answered with an account, the acceptance that the answer names is found by its hash, backs
    the account and verifies; and nothing is answered but that and the errors of the submission. -/
theorem optIns_evidence (portal : BillingPortalService) {reqs : Set OptInRequest}
    {db : BillingTables} (h : portal.DistinctHashes reqs db) (events : List (PoolEvent reqs Fate)) :
    portal.Keeps reqs db (portal.serve db events).world ∧
    ∀ thread ∈ (portal.serve db events).threads, ∀ answer, thread.rest = some (.pure answer) →
      match answer with
      | .error errors => errors = validateOptIn thread.task.1.input ∧ errors ≠ []
      | .ok result => ∃ account rec, thread.task.1.account = .ok account ∧
          result = portal.result thread.task.1 account ∧
          (portal.serve db events).world.acceptances.get result.acceptance.recordHash = some rec ∧
          portal.Backs rec account := by
  obtain ⟨hkeeps, hall⟩ := portal.serve_among db events
  refine ⟨hkeeps, ?_⟩
  intro thread hthread answer hanswer
  have hended := hall.ended Keeps.refl hthread hanswer
  cases answer with
  | error errors => exact hended
  | ok result =>
    obtain ⟨account, haccount, rfl, rec, hrec⟩ := hended
    obtain rfl := h.eq_acceptance hkeeps thread.task.2 haccount hrec
    exact ⟨account, _, haccount, rfl, hrec, portal.acceptance_backs haccount⟩

theorem optIns_evidence_sample : ∃ account rec, Sample.autoPayRequest.account = .ok account ∧
    account.payerTrack = .autoPay ∧
    (Sample.portal.serve {} Sample.optInEvents).world.acceptances.get
      (Sample.portal.acceptance Sample.autoPayRequest account).recordHash = some rec ∧
    rec.autoPayAuthorized = true := by
  obtain ⟨account, haccount, hauto, hprog⟩ := Sample.optIn_autoPayRequest
  have hdistinct : Sample.portal.DistinctHashes {Sample.autoPayRequest} {} := by
    constructor
    · rintro req rfl req' rfl account₁ account₂ h₁ h₂ -
      rw [Except.ok.inj (h₁.symm.trans h₂)]
    · intro req _ account₁ rec _ hrec
      cases hrec
  have hanswered : (Sample.portal.serve {} Sample.optInEvents).threads =
      [⟨⟨Sample.autoPayRequest, rfl⟩, none⟩, ⟨⟨Sample.autoPayRequest, rfl⟩,
        some (.pure (.ok (Sample.portal.result Sample.autoPayRequest account)))⟩] := by
    simp only [serve, Sample.optInEvents, Pool.run, List.foldl_cons, List.foldl_nil, Pool.after,
      hprog]
    rfl
  obtain ⟨-, hanswers⟩ := optIns_evidence Sample.portal hdistinct Sample.optInEvents
  rw [hanswered] at hanswers
  obtain ⟨account', rec, haccount', -, hrec, hbacks⟩ :=
    hanswers _ (List.mem_cons_of_mem _ List.mem_cons_self) _ rfl
  obtain rfl : account = account' := Except.ok.inj (haccount.symm.trans haccount')
  exact ⟨account, rec, haccount, hauto, hrec, (hbacks.authorized hauto).1⟩

/-! ## The account of a merchant -/

theorem Keeps.keptByMerchant (hkeeps : portal.Keeps reqs db db')
    (h : KeptByMerchant db.accounts) : KeptByMerchant db'.accounts := by
  rintro ⟨id, account⟩ hmem
  rcases hkeeps.accounts id account (Map.get_eq_some_iff.2 hmem) with
    hold | ⟨req, -, haccount, rfl⟩
  · exact h _ (Map.mem_entries_of_get hold)
  · rw [(buildBillingAccount_eq_ok haccount).2.2.1]

/-- Whatever happens to requests, and whatever accounts are ordered by, what is answered of a
    merchant is its one account: that of a valid request of the merchant, or what was there. -/
theorem accountFor_run (portal : BillingPortalService) {reqs : Set OptInRequest}
    {db : BillingTables} (h : KeptByMerchant db.accounts) (events : List (PoolEvent reqs Fate))
    (before : BillingAccount → BillingAccount → Bool) (merchantId : String) :
    match (portal.serve db events).world.accounts.get ("acct_" ++ merchantId) with
    | none => accountFor before (portal.serve db events).world merchantId =
          .error ("no billing account for merchant " ++ merchantId) ∧
        db.accounts.get ("acct_" ++ merchantId) = none
    | some account => accountFor before (portal.serve db events).world merchantId =
          .ok (toView account) ∧ account.merchantId = merchantId ∧
        (db.accounts.get ("acct_" ++ merchantId) = some account ∨
          ∃ req ∈ reqs, req.account = .ok account ∧ req.input.merchantId = merchantId) := by
  obtain ⟨hkeeps, -⟩ := portal.serve_among db events
  have hkept := hkeeps.keptByMerchant h
  rw [accountFor, BillingTables.accountForMerchant_eq hkept]
  cases hget : (portal.serve db events).world.accounts.get ("acct_" ++ merchantId) with
  | none => exact ⟨rfl, hkeeps.present _ hget⟩
  | some account =>
    have hmerchant : merchantId = account.merchantId :=
      (String.append_right_inj _).1 (hkept _ (Map.mem_entries_of_get hget))
    refine ⟨rfl, hmerchant.symm, ?_⟩
    rcases hkeeps.accounts _ account hget with hold | ⟨req, hreq, haccount, hid⟩
    · exact Or.inl hold
    · exact Or.inr ⟨req, hreq, haccount, ((String.append_right_inj _).1 hid).symm⟩

theorem accountFor_run_sample : ∃ account, Sample.autoPayRequest.account = .ok account ∧
    accountFor (fun a b => b.createdAt ≤ a.createdAt)
      (Sample.portal.serve {} Sample.optInEvents).world "mrc_1" = .ok (toView account) := by
  obtain ⟨account, haccount, -, hprog⟩ := Sample.optIn_autoPayRequest
  have hkept : KeptByMerchant ({} : BillingTables).accounts := by
    intro p hp
    cases hp
  have haccounts : (Sample.portal.serve {} Sample.optInEvents).world.accounts =
      (Map.empty.set account.accountId account).set account.accountId account := by
    simp [serve, Sample.optInEvents, Pool.run, Pool.after, hprog, BillingTables.handle,
      BillingTables.exec, BillingTables.upsertAccount]
  have hid : account.accountId = "acct_" ++ "mrc_1" := (buildBillingAccount_eq_ok haccount).2.1
  have hrun := accountFor_run Sample.portal hkept Sample.optInEvents
    (fun a b => b.createdAt ≤ a.createdAt) "mrc_1"
  rw [haccounts, hid, Map.get_set_self] at hrun
  exact ⟨account, haccount, hrun.1⟩

end BillingPortalService

end AX10M
