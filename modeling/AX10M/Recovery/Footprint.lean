/-
  What each method of the service can do: the operations it performs all concern
  its own invoice, and it appends only entries of certain kinds.
-/
import AX10M.Recovery.Service

namespace AX10M

open Js Effects

/-- An operation in the case of an invoice: it appends entries of the given types about this
    invoice for its merchant, a `case.recovered` entry with the invoice's amount, charges
    the invoice, if at all, in the given attempt, and keeps to the keys of the case. -/
def CaseOp (s : RecoveryCaseService) (invoice : Invoice) (types : List LedgerEventType)
    (attempt : Option ℕ) : ServiceOp → Prop
  | .ledgerAppend e => e.merchantId = invoice.merchantId ∧
      e.field "invoiceId" = some (.str invoice.id) ∧ e.type ∈ types ∧
      (e.type = .caseRecovered → e.field "amount" = some (.num invoice.amount.amount) ∧
        ∀ n ∈ attempt, e.field "attemptNumber" = some (.num n))
  | .ledgerAll => False
  | .openedInvoicesHas i | .openedInvoicesAdd i | .attemptsGet i | .attemptsSet i _ =>
    i = invoice.id
  | .credentialWindow k _ => ∃ m, k = credentialKey invoice.id m
  | .credentialIncrement k _ => attempt ≠ none ∧ ∃ m, k = credentialKey invoice.id m
  | .attemptCharge _ i m k => ∃ n ∈ attempt, i = invoice ∧ k = s.chargeKey invoice m n
  | .dispatch r => r.workflowId = invoice.id ∧ r.attempt.invoice = invoice ∧
      r.shadow = !s.liveCharging
  | .observe m c _ _ | .recordOutcome m c _ _ _ =>
    m = invoice.merchantId ∧ c = invoice.customerId
  | .enrich ctx => ctx.merchantId = invoice.merchantId ∧ ctx.customerId = invoice.customerId
  | .recordFailure m i _ _ => m = invoice.merchantId ∧ i = invoice.id
  | .recordBaselineRecovery _ _ => False
  | .sendDedupeHas k | .sendDedupeRecord k => ∃ n c, k = sendKey invoice n c
  | _ => True

/-- The kinds of entries an execution appends. -/
def executeTypes : List LedgerEventType :=
  [.recoveryPlanned, .actionSuppressed, .chargeAttempted, .chargeSucceeded, .chargeFailed,
    .commsSent, .caseRecovered]

namespace CaseOp

variable {s : RecoveryCaseService} {invoice : Invoice} {types : List LedgerEventType}
  {attempt : Option ℕ}

/-- What appends no recovery and charges nothing may do so in any attempt. -/
theorem widen {types' : List LedgerEventType} (ht : types ⊆ types') (hr : .caseRecovered ∉ types)
    (o : ServiceOp) (h : CaseOp s invoice types none o) : CaseOp s invoice types' attempt o := by
  cases o with
  | ledgerAppend e =>
    obtain ⟨h1, h2, h3, -⟩ := h
    exact ⟨h1, h2, ht h3, fun he => absurd (he ▸ h3) hr⟩
  | credentialIncrement k t => exact absurd rfl h.1
  | attemptCharge a i m k =>
    obtain ⟨n, hn, -⟩ := h
    exact absurd hn (by simp)
  | _ => exact h

theorem newDateIso : (newDateIso).Uses (CaseOp s invoice types attempt) :=
  ⟨trivial, fun _ => trivial⟩

/-- Appending an entry that is not a recovery. -/
theorem appendNow {type : LedgerEventType} (ht : type ∈ types) (hr : type ≠ .caseRecovered)
    (detail : Record) :
    (appendNow invoice.merchantId type (("invoiceId", .str invoice.id) :: detail)).Uses
      (CaseOp s invoice types attempt) :=
  ⟨trivial, fun _ => ⟨⟨rfl, by simp [LedgerEntry.field, Record.get_cons], ht,
    fun h => absurd h hr⟩, fun _ => trivial⟩⟩

end CaseOp

namespace RecoveryCaseService

variable (s : RecoveryCaseService)

theorem featuresFor_uses {types : List LedgerEventType} {attempt : Option ℕ} (invoice : Invoice)
    (bin : Option String) (decline : Option DeclineEvent) (n : ℕ) (customer : Option Customer) :
    (featuresFor invoice bin decline n customer).Uses (CaseOp s invoice types attempt) :=
  ⟨trivial, fun _ => ⟨⟨rfl, rfl⟩, fun _ => trivial⟩⟩

theorem localHourOr_uses {P : ServiceOp → Prop} (h : P .now) (hour : Option ℤ) :
    (localHourOr hour).Uses P := by
  cases hour
  · exact ⟨h, fun _ => trivial⟩
  · trivial

theorem openCase_uses (invoice : Invoice) (stratum : Stratum) (occurredAt : String) :
    (s.openCase invoice stratum occurredAt).Uses
      (CaseOp s invoice [.holdoutAssigned] none) := by
  unfold openCase
  split
  · exact ⟨trivial, fun r => r.elim⟩
  · refine ⟨rfl, fun r => ?_⟩
    cases r
    · refine ⟨rfl, fun _ => ⟨⟨rfl, rfl, by simp, ?_⟩, fun _ => trivial⟩⟩
      rintro ⟨⟩
    · trivial

theorem planAttempt_uses (invoice : Invoice) (method : Option PaymentMethod)
    (decline : Option DeclineEvent) (n : ℕ) :
    (planAttempt invoice method decline n).Uses (CaseOp s invoice [.recoveryPlanned] none) := by
  refine (s.featuresFor_uses invoice _ decline n none).bind fun f => ?_
  refine CaseOp.newDateIso.bind fun now => ⟨trivial, fun d => ?_⟩
  exact (CaseOp.appendNow (by simp) (by simp) _).bind fun _ => trivial

theorem stampOr_uses {types : List LedgerEventType} {attempt : Option ℕ} {invoice : Invoice}
    (nowIso : Option String) : (stampOr nowIso).Uses (CaseOp s invoice types attempt) := by
  cases nowIso
  · exact CaseOp.newDateIso
  · trivial

theorem recordCharge_uses (adapter : ProcessorAdapter) (invoice : Invoice) (key : String) (n : ℕ)
    (result : ChargeResult) :
    (recordCharge adapter invoice key n result).Uses (CaseOp s invoice executeTypes (some n)) := by
  refine Prog.Uses.bind (CaseOp.appendNow ?_ ?_ _) fun _ => ?_
  · split <;> decide
  · split <;> decide
  · split
    · refine ⟨trivial, fun _ => ⟨⟨rfl, rfl, by simp [executeTypes], fun _ => ⟨rfl, ?_⟩⟩,
        fun _ => trivial⟩⟩
      rintro _ ⟨⟩
      rfl
    · trivial

theorem chargeLive_uses (adapter : ProcessorAdapter) (invoice : Invoice) (method : PaymentMethod)
    (n : ℕ) (nowIso : Option String) :
    (s.chargeLive adapter invoice method n nowIso).Uses
      (CaseOp s invoice executeTypes (some n)) := by
  refine ⟨rfl, fun a => ⟨rfl, fun _ => ⟨⟨n, rfl, rfl, rfl⟩, fun r => ?_⟩⟩⟩
  refine (s.stampOr_uses nowIso).bind fun t => ⟨⟨by simp, method, rfl⟩, fun _ => ?_⟩
  refine (s.recordCharge_uses adapter invoice _ n r).bind fun _ => Prog.Uses.bind ?_ fun _ => trivial
  unfold recordOutcomeNow
  split
  · trivial
  · exact ⟨trivial, fun _ => ⟨⟨rfl, rfl⟩, fun _ => trivial⟩⟩

theorem attemptRecovery_uses (adapter : ProcessorAdapter) (invoice : Invoice)
    (method : PaymentMethod) (proposed : ProposedAction) (n : ℕ) (nowIso : Option String)
    (shadow : Bool) :
    (s.attemptRecovery adapter invoice method proposed n nowIso shadow).Uses
      (CaseOp s invoice executeTypes (some n)) := by
  unfold attemptRecovery
  split
  · exact (CaseOp.appendNow (by decide) (by simp) _).bind fun _ => trivial
  · split
    · exact (CaseOp.appendNow (by decide) (by simp) _).bind fun _ => trivial
    · exact (s.chargeLive_uses adapter invoice method n nowIso).bind fun _ => trivial

theorem chargeFresh_uses (adapter : ProcessorAdapter) (p : ExecuteParams)
    (features : RecoveryFeatures) (m : PaymentMethod) (via : String) :
    (s.chargeFresh adapter p features m via).Uses
      (CaseOp s p.invoice executeTypes (some p.attemptNumber)) := by
  refine Prog.Uses.bind (CaseOp.appendNow (by decide) (by simp) _) fun _ => ?_
  refine ⟨⟨m, rfl⟩, fun w => ⟨trivial, fun t => ?_⟩⟩
  exact (s.attemptRecovery_uses adapter p.invoice m _ _ _ _).bind fun _ => trivial

theorem alternateRail_uses (adapter : ProcessorAdapter) (p : ExecuteParams)
    (features : RecoveryFeatures) (updated : Option PaymentMethod) :
    (s.alternateRail adapter p features updated).Uses
      (CaseOp s p.invoice executeTypes (some p.attemptNumber)) := by
  unfold alternateRail
  split
  · trivial
  · refine ⟨trivial, fun methods => ?_⟩
    simp only [Prog.bind]
    split
    · trivial
    · exact (s.chargeFresh_uses adapter p features _ _).bind fun _ => trivial

theorem executeCredentialRecovery_uses (adapter : ProcessorAdapter) (p : ExecuteParams)
    (features : RecoveryFeatures) :
    (s.executeCredentialRecovery adapter p features).Uses
      (CaseOp s p.invoice executeTypes (some p.attemptNumber)) := by
  refine ⟨trivial, fun updated => ?_⟩
  simp only [Prog.bind]
  split
  · exact s.alternateRail_uses adapter p features _
  · refine (s.chargeFresh_uses adapter p features _ _).bind fun o => ?_
    split
    · trivial
    · exact s.alternateRail_uses adapter p features _

theorem deliverDunning_uses (message : DunningMessage) (invoice : Invoice) (n : ℕ)
    (declineCode : DeclineCode) (customer : Option Customer) (hour : Option ℤ)
    {types : List LedgerEventType} {attempt : Option ℕ} :
    (s.deliverDunning message invoice n declineCode customer hour).Uses
      (CaseOp s invoice types attempt) := by
  unfold deliverDunning
  split
  · trivial
  · refine (localHourOr_uses trivial hour).bind fun h => ?_
    split
    · trivial
    · dsimp only
      split
      · trivial
      · refine ⟨⟨n, _, rfl⟩, fun sent => ?_⟩
        simp only [Prog.bind]
        split
        · trivial
        · refine ⟨trivial, fun r => ?_⟩
          simp only [Prog.bind]
          split
          · exact ⟨⟨n, _, rfl⟩, fun _ => trivial⟩
          · trivial

theorem caseMessage_uses (p : ExecuteParams) (features : RecoveryFeatures)
    (decision : RecoveryDecision) {types : List LedgerEventType} {attempt : Option ℕ} :
    (s.caseMessage p features decision).Uses (CaseOp s p.invoice types attempt) := by
  unfold caseMessage composeDunning
  split
  · split
    · trivial
    · exact ⟨trivial, fun _ => trivial⟩
  · trivial

theorem caseDelivery_uses (p : ExecuteParams) (features : RecoveryFeatures)
    (message : Option DunningMessage) {types : List LedgerEventType} {attempt : Option ℕ} :
    (s.caseDelivery p features message).Uses (CaseOp s p.invoice types attempt) := by
  cases message with
  | none => trivial
  | some message => exact s.deliverDunning_uses message _ _ _ _ _

/-- The kinds of entries that end a case without a retry. -/
def concludeTypes : List LedgerEventType := [.commsSent, .actionSuppressed]

theorem concludeWithoutRetry_uses (adapter : ProcessorAdapter) (p : ExecuteParams)
    (features : RecoveryFeatures) (decision : RecoveryDecision) :
    (s.concludeWithoutRetry adapter p features decision).Uses
      (CaseOp s p.invoice concludeTypes none) := by
  refine (s.caseMessage_uses p features decision).bind fun message => ?_
  refine (s.caseDelivery_uses p features message).bind fun delivery => ?_
  refine Prog.Uses.bind (CaseOp.appendNow ?_ ?_ _) fun _ => trivial
  · split <;> decide
  · split <;> decide

theorem learnOnline_uses {P : ServiceOp → Prop} (hP : ∀ f d r, P (.update f d r))
    (features : RecoveryFeatures) (decision : RecoveryDecision) (outcome : Option ChargeOutcome)
    (amount : MinorUnits) : (learnOnline features decision outcome amount).Uses P := by
  rcases outcome with _ | _ | _ | _
  · trivial
  · exact ⟨hP _ _ _, fun _ => trivial⟩
  · exact ⟨hP _ _ _, fun _ => trivial⟩
  · trivial

theorem retryCharge_uses (adapter : ProcessorAdapter) (p : ExecuteParams)
    (features : RecoveryFeatures) (credWin : CredentialAttemptWindow)
    (decision : RecoveryDecision) :
    (s.retryCharge adapter p features credWin decision).Uses
      (CaseOp s p.invoice executeTypes (some p.attemptNumber)) := by
  refine (localHourOr_uses trivial _).bind fun h => ?_
  refine (s.attemptRecovery_uses adapter p.invoice p.method _ _ _ _).bind fun e => ?_
  exact (learnOnline_uses (fun _ _ _ => trivial) _ _ _ _).bind fun _ => trivial

theorem executeRecovery_uses (adapter : ProcessorAdapter) (p : ExecuteParams) :
    (s.executeRecovery adapter p).Uses
      (CaseOp s p.invoice executeTypes (some p.attemptNumber)) := by
  refine (s.featuresFor_uses p.invoice _ _ _ _).bind fun f => ⟨⟨_, rfl⟩, fun credWin => ?_⟩
  refine CaseOp.newDateIso.bind fun now => ⟨trivial, fun decision => ?_⟩
  refine (CaseOp.appendNow (by decide) (by simp) _).bind fun _ => ?_
  have conclude : (s.concludeWithoutRetry adapter p f decision).Uses
      (CaseOp s p.invoice executeTypes (some p.attemptNumber)) :=
    (s.concludeWithoutRetry_uses adapter p f decision).imp (CaseOp.widen (by decide) (by decide))
  split
  · split
    · refine (s.executeCredentialRecovery_uses adapter p f).bind fun ok => ?_
      split
      · trivial
      · exact conclude
    · exact conclude
  · exact s.retryCharge_uses adapter p f credWin decision

/-- The kinds of entries a delivered failure appends. -/
def failureTypes : List LedgerEventType := [.holdoutAssigned, .recoveryPlanned]

/-- What follows the opening of a failed case plans it, and hands it to a saga. -/
theorem handleFailure_eq (event : CanonicalEvent) (payload : FailurePayload) (invoice : Invoice) :
    ∃ rest : Bucket → Async Unit,
      s.handleFailure event payload invoice =
        (s.openCase invoice (deriveStratum invoice payload.decline) event.occurredAt).bind rest ∧
      ∀ bucket, (rest bucket).Uses (CaseOp s invoice [.recoveryPlanned] none) := by
  refine ⟨_, rfl, fun bucket => ⟨⟨rfl, rfl⟩, fun _ => ⟨⟨rfl, rfl⟩, fun _ => ?_⟩⟩⟩
  cases bucket with
  | control => trivial
  | treatment =>
    refine ⟨rfl, fun a => (s.planAttempt_uses invoice none payload.decline _).bind fun _ => ?_⟩
    cases payload.method with
    | none => trivial
    | some m =>
      simp only []
      split
      · exact ⟨⟨rfl, rfl, rfl⟩, fun _ => trivial⟩
      · trivial

theorem handleFailure_uses_of {P : ServiceOp → Prop} (event : CanonicalEvent)
    (payload : FailurePayload) (invoice : Invoice)
    (hopen : (s.openCase invoice (deriveStratum invoice payload.decline) event.occurredAt).Uses P)
    (hrest : ∀ o, CaseOp s invoice [.recoveryPlanned] none o → P o) :
    (s.handleFailure event payload invoice).Uses P := by
  obtain ⟨rest, heq, huses⟩ := s.handleFailure_eq event payload invoice
  rw [heq]
  exact hopen.bind fun bucket => (huses bucket).imp hrest

theorem handleFailure_uses (event : CanonicalEvent) (payload : FailurePayload)
    (invoice : Invoice) :
    (s.handleFailure event payload invoice).Uses (CaseOp s invoice failureTypes none) :=
  s.handleFailure_uses_of event payload invoice
    ((s.openCase_uses invoice _ _).imp (CaseOp.widen (by decide) (by decide)))
    (CaseOp.widen (by decide) (by decide))

/-- What an event can do, apart from a failure: read the ledger, append a reversal or a
    reinstatement, and note a payment. -/
theorem handleEvent_uses_of {P : ServiceOp → Prop} (event : CanonicalEvent) (pid : Option String)
    (hfail : ∀ payload invoice, (s.handleFailure event payload invoice).Uses P)
    (hall : P .ledgerAll)
    (hrev : ∀ e, e.type = .caseReversed ∨ e.type = .caseReversalReverted → P (.ledgerAppend e))
    (hbase : ∀ m i, P (.recordBaselineRecovery m i)) :
    (s.handleEvent event pid).Uses P := by
  unfold handleEvent
  split
  · refine ⟨hall, fun ledger => ?_⟩
    simp only [Prog.bind]
    split
    · trivial
    · exact ⟨hrev _ (.inl rfl), fun _ => trivial⟩
  · refine ⟨hall, fun ledger => ?_⟩
    simp only [Prog.bind]
    split
    · trivial
    · exact ⟨hrev _ (.inr rfl), fun _ => trivial⟩
  · split
    · exact hfail _ _
    · trivial
  · split
    · exact ⟨hbase _ _, fun _ => trivial⟩
    · trivial
  · trivial

end RecoveryCaseService

end AX10M
