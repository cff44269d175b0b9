/-
  What an execution does to the books: the charges asked of the processor, the
  attempts counted on the credentials, and the recoveries in the ledger.

  `Tried` and its companions say what must hold of the books before an execution
  for a condition to hold after it, between any two of its effects, and when the
  processor rejects a call; `executeRecovery_wp` says that the code keeps to them.
-/
import AX10M.Recovery.Run

namespace AX10M

open Js Effects

/-- The books of the world. -/
structure Books where
  charges : List ChargeCall
  credentials : Map String CredentialCount
  recoveries : List LedgerEntry

namespace Books

/-- A charge asked of the processor. -/
def charge (b : Books) (c : ChargeCall) : Books := { b with charges := b.charges ++ [c] }

/-- An attempt counted on a credential. -/
def count (b : Books) (key t : String) : Books :=
  { b with credentials := credentialIncrement b.credentials key t }

/-- A recovery in the ledger. -/
def recover (b : Books) (e : LedgerEntry) : Books := { b with recoveries := b.recoveries ++ [e] }

@[simp] theorem charge_charges (b : Books) (c : ChargeCall) :
    (b.charge c).charges = b.charges ++ [c] := rfl
@[simp] theorem charge_credentials (b : Books) (c : ChargeCall) :
    (b.charge c).credentials = b.credentials := rfl
@[simp] theorem charge_recoveries (b : Books) (c : ChargeCall) :
    (b.charge c).recoveries = b.recoveries := rfl
@[simp] theorem count_charges (b : Books) (key t : String) :
    (b.count key t).charges = b.charges := rfl
@[simp] theorem count_credentials (b : Books) (key t : String) :
    (b.count key t).credentials = credentialIncrement b.credentials key t := rfl
@[simp] theorem count_recoveries (b : Books) (key t : String) :
    (b.count key t).recoveries = b.recoveries := rfl
@[simp] theorem recover_charges (b : Books) (e : LedgerEntry) :
    (b.recover e).charges = b.charges := rfl
@[simp] theorem recover_credentials (b : Books) (e : LedgerEntry) :
    (b.recover e).credentials = b.credentials := rfl
@[simp] theorem recover_recoveries (b : Books) (e : LedgerEntry) :
    (b.recover e).recoveries = b.recoveries ++ [e] := rfl

end Books

namespace World

variable {σ : Type}

/-- The recoveries in a ledger. -/
def recoveriesOf (ledger : List LedgerEntry) : List LedgerEntry :=
  ledger.filter fun e => e.type = .caseRecovered

/-- The books of a world. -/
def books (w : World σ) : Books := ⟨w.charges, w.credentialAttempts, recoveriesOf w.ledger⟩

end World

/-- The operation leaves the books alone. -/
def Quiet : ServiceOp → Prop
  | .ledgerAppend e => e.type ≠ .caseRecovered
  | .credentialIncrement _ _ | .attemptCharge _ _ _ _ => False
  | _ => True

section

variable {σ : Type} (s : RecoveryCaseService) (env : Env σ)

theorem quiet_books (o : ServiceOp) (w : World σ) (h : Quiet o) :
    (World.handle env o w).2.books = w.books := by
  cases o with
  | ledgerAppend e =>
    have h : e.type ≠ .caseRecovered := h
    simp [World.handle, World.books, World.recoveriesOf, h]
  | credentialIncrement k t => exact h.elim
  | attemptCharge a i m k => exact h.elim
  | _ => rfl

theorem CaseOp.quiet {invoice : Invoice} {types : List LedgerEventType}
    (ht : .caseRecovered ∉ types) (o : ServiceOp) (h : CaseOp s invoice types none o) :
    Quiet o := by
  cases o with
  | ledgerAppend e => exact fun he => ht (he ▸ h.2.2.1)
  | credentialIncrement k t => exact absurd rfl h.1
  | attemptCharge a i m k =>
    obtain ⟨n, hn, -⟩ := h
    exact absurd hn (by simp)
  | _ => trivial

/-- The operation leaves the books alone, and is never rejected. -/
def Sure (o : ServiceOp) : Prop :=
  Quiet o ∧ match o with
    | .compose _ | .throw _ => False
    | _ => True

theorem sure_accepted (o : ServiceOp) (w : World σ) (h : Sure o) :
    (World.handle env o w).1.isSome := by
  obtain ⟨hq, ha⟩ := h
  cases o with
  | attemptCharge a i m k => exact hq.elim
  | compose ctx => exact ha.elim
  | throw m => exact ha.elim
  | _ => rfl

/-- A condition on the books, as one on worlds. -/
abbrev onBooks (P : Books → Prop) (w : World σ) : Prop := P w.books

section

variable {α β : Type} {Q : β → World σ → Prop} {Z R : Books → Prop} {w : World σ}

/-- A quiet program, followed by another. -/
theorem quiet_bind {p : Async α} (hp : p.Uses Quiet) {f : α → Async β} (hZ : Z w.books)
    (hR : R w.books) (h : ∀ a w', w'.books = w.books →
      (f a).wp (World.handle env) Q (onBooks Z) (onBooks R) w') :
    (p.bind f).wp (World.handle env) Q (onBooks Z) (onBooks R) w := by
  rw [Prog.wp_bind]
  refine (Prog.wp_frame World.books (quiet_books env) hp w).imp h ?_ ?_
  · intro w' hw'
    rw [onBooks, hw']
    exact hZ
  · intro w' hw'
    rw [onBooks, hw']
    exact hR

/-- A quiet program that is never rejected, followed by another. -/
theorem sure_bind {p : Async α} (hp : p.Uses Sure) {f : α → Async β} (hR : R w.books)
    (h : ∀ a w', w'.books = w.books →
      (f a).wp (World.handle env) Q (onBooks Z) (onBooks R) w') :
    (p.bind f).wp (World.handle env) Q (onBooks Z) (onBooks R) w := by
  rw [Prog.wp_bind]
  have hf := (Prog.wp_frame World.books (quiet_books env) (hp.imp fun _ ho => ho.1) w).of_accepted
    (sure_accepted env) hp (Y := onBooks Z)
  refine hf.imp h (fun _ hz => hz) ?_
  intro w' hw'
  rw [onBooks, hw']
  exact hR

/-- A quiet operation that is never rejected, followed by a program. -/
theorem sure_op {o : ServiceOp} (ho : Sure o) {k : o.Res → Async β} (hR : R w.books)
    (h : ∀ r w', w'.books = w.books →
      (k r).wp (World.handle env) Q (onBooks Z) (onBooks R) w') :
    Prog.wp (World.handle env) Q (onBooks Z) (onBooks R) (.op o k) w :=
  sure_bind env (p := call o) ⟨ho, fun _ => trivial⟩ hR h

end

theorem newDateIso_sure : newDateIso.Uses Sure := ⟨⟨trivial, trivial⟩, fun _ => trivial⟩

theorem appendNow_sure (merchantId : String) {type : LedgerEventType} (ht : type ≠ .caseRecovered)
    (detail : Record) : (appendNow merchantId type detail).Uses Sure :=
  ⟨⟨trivial, trivial⟩, fun _ => ⟨⟨ht, trivial⟩, fun _ => trivial⟩⟩

/-! ## A live charge -/

/-- The entry of a recovery of the invoice in an attempt. -/
def IsRecovery (invoice : Invoice) (processor : String) (attempt : ℕ) (e : LedgerEntry) : Prop :=
  ∃ t, e = ⟨invoice.merchantId, .caseRecovered, t, recoveredDetail invoice processor attempt⟩

/-- What must hold of the books for a live charge to end with `Q`: the processor is asked, the
    attempt is counted, and a success is recorded; in between the books satisfy `R`, and they
    satisfy `Z` if the processor rejects the call. -/
def Charged (adapter : ProcessorAdapter) (invoice : Invoice) (method : PaymentMethod) (attempt : ℕ)
    (nowIso : Option String) (Z R : Books → Prop) (Q : ChargeOutcome → Books → Prop) (b : Books) :
    Prop :=
  R b ∧ Z b ∧ ∀ c,
    processorCharge b.charges adapter invoice method (s.chargeKey invoice method attempt) = some c →
    R (b.charge c) ∧ ∀ t, (∀ t' ∈ nowIso, t' = t) →
      let b' := (b.charge c).count (credentialKey invoice.id method) t
      R b' ∧ (c.result.outcome ≠ .succeeded → Q c.result.outcome b') ∧
        (c.result.outcome = .succeeded → ∀ e, IsRecovery invoice adapter.id attempt e →
          R (b'.recover e) ∧ Q .succeeded (b'.recover e))

theorem recordOutcomeNow_sure (invoice : Invoice) (method : PaymentMethod)
    (outcome : ChargeOutcome) :
    (RecoveryCaseService.recordOutcomeNow invoice method outcome).Uses Sure := by
  unfold RecoveryCaseService.recordOutcomeNow
  split
  · trivial
  · exact newDateIso_sure.bind fun _ => ⟨⟨trivial, trivial⟩, fun _ => trivial⟩

/-- The entries of a realized charge. -/
theorem recordCharge_wp {β : Type} {Q : β → World σ → Prop} {Z R : Books → Prop} {w : World σ}
    (adapter : ProcessorAdapter) (invoice : Invoice) (key : String) (n : ℕ) (r : ChargeResult)
    {f : Unit → Async β} (hR : R w.books)
    (hf : r.outcome ≠ .succeeded → ∀ w', w'.books = w.books →
      (f ()).wp (World.handle env) Q (onBooks Z) (onBooks R) w')
    (hs : r.outcome = .succeeded → ∀ e, IsRecovery invoice adapter.id n e →
      R (w.books.recover e) ∧ ∀ w', w'.books = w.books.recover e →
        (f ()).wp (World.handle env) Q (onBooks Z) (onBooks R) w') :
    ((RecoveryCaseService.recordCharge adapter invoice key n r).bind f).wp (World.handle env) Q
      (onBooks Z) (onBooks R) w := by
  unfold RecoveryCaseService.recordCharge
  simp only [Prog.bind_eq, Prog.bind_assoc]
  refine sure_bind env (appendNow_sure _ (by split <;> decide) _) hR fun _ w1 h1 => ?_
  by_cases ho : r.outcome = .succeeded
  · simp only [if_pos ho, appendNow, Prog.bind_eq, Prog.bind_assoc]
    refine sure_bind env newDateIso_sure (h1 ▸ hR) fun t w2 h2 => ?_
    have hb : w2.books = w.books := h2.trans h1
    have he : (World.handle env (.ledgerAppend ⟨invoice.merchantId, .caseRecovered, t,
        recoveredDetail invoice adapter.id n⟩) w2).2.books =
        w.books.recover ⟨invoice.merchantId, .caseRecovered, t,
          recoveredDetail invoice adapter.id n⟩ := by
      rw [← hb]
      simp [World.handle, World.books, World.recoveriesOf, Books.recover]
    obtain ⟨-, hw⟩ := hs ho _ ⟨t, rfl⟩
    exact ⟨by rw [onBooks, hb]; exact hR, hw _ he⟩
  · simp only [if_neg ho]
    exact hf ho w1 h1

theorem chargeLive_wp (adapter : ProcessorAdapter) (invoice : Invoice) (method : PaymentMethod)
    (n : ℕ) (nowIso : Option String) {Z R : Books → Prop} {Q : ChargeOutcome → Books → Prop}
    {w : World σ} (h : Charged s adapter invoice method n nowIso Z R Q w.books) :
    (s.chargeLive adapter invoice method n nowIso).wp (World.handle env)
      (fun o w' => Q o w'.books) (onBooks Z) (onBooks R) w := by
  obtain ⟨hR, hZ, h⟩ := h
  simp only [RecoveryCaseService.chargeLive, call, Prog.bind_eq, Prog.op_bind, Prog.pure_bind,
    Prog.pure_eq]
  refine sure_op env (o := .attemptsGet invoice.id) ⟨trivial, trivial⟩ hR
    fun attempts w1 h1 => ?_
  refine sure_op env (o := .attemptsSet invoice.id _) ⟨trivial, trivial⟩ (by rw [h1]; exact hR)
    fun _ w2 h2 => ?_
  have hb : w2.books = w.books := h2.trans h1
  have hc : w2.charges = w.books.charges := congrArg Books.charges hb
  rw [Prog.wp_op]
  refine ⟨by rw [onBooks, hb]; exact hR, ?_⟩
  simp only [World.handle]
  cases hp : processorCharge w2.charges adapter invoice method (s.chargeKey invoice method n) with
  | none =>
    change Z w2.books
    rw [hb]
    exact hZ
  | some c =>
    obtain ⟨hR1, h⟩ := h c (hc ▸ hp)
    set w3 : World σ := { w2 with charges := w2.charges ++ [c] } with hw3
    have hb3 : w3.books = w.books.charge c := by
      rw [← hb]
      rfl
    -- the stamp is the time of the saga or, if it gives none, a reading of the clock
    have stamped : ∀ t w4, w4.books = w.books.charge c → (∀ t' ∈ nowIso, t' = t) →
        Prog.wp (World.handle env) (fun o (w' : World σ) => Q o w'.books) (onBooks Z) (onBooks R)
          (.op (.credentialIncrement (credentialKey invoice.id method) t) fun _ =>
            (RecoveryCaseService.recordCharge adapter invoice (s.chargeKey invoice method n) n
              c.result).bind fun _ =>
            (RecoveryCaseService.recordOutcomeNow invoice method c.result.outcome).bind fun _ =>
              .pure c.result.outcome) w4 := by
      intro t w4 hb4 ht
      obtain ⟨hR2, hfail, hsucc⟩ := h t ht
      refine ⟨by rw [onBooks, hb4]; exact hR1, ?_⟩
      set w5 : World σ := { w4 with
        credentialAttempts := credentialIncrement w4.credentialAttempts
          (credentialKey invoice.id method) t } with hw5
      have hb5 : w5.books = (w.books.charge c).count (credentialKey invoice.id method) t := by
        rw [← hb4]
        rfl
      change Prog.wp _ _ _ _ _ w5
      refine recordCharge_wp env adapter invoice _ n c.result (by rw [hb5]; exact hR2) ?_ ?_
      · intro ho w6 hb6
        rw [hb5] at hb6
        refine sure_bind env (recordOutcomeNow_sure _ _ _) (by rw [hb6]; exact hR2) ?_
        intro _ w7 hb7
        change Q _ w7.books
        rw [hb7, hb6]
        exact hfail ho
      · intro ho e he
        obtain ⟨hR3, hQ⟩ := hsucc ho e he
        rw [hb5]
        refine ⟨hR3, fun w6 hb6 => ?_⟩
        refine sure_bind env (recordOutcomeNow_sure _ _ _) (by rw [hb6]; exact hR3) ?_
        intro _ w7 hb7
        change Q _ w7.books
        rw [hb7, hb6, ho]
        exact hQ
    cases nowIso with
    | some t => exact stamped t w3 hb3 (by simp)
    | none =>
      refine sure_bind env newDateIso_sure (by rw [hb3]; exact hR1) fun t w4 hb4 => ?_
      exact stamped t w4 (hb4.trans hb3) (by simp)

/-- What must hold of the books for an attempt that the guardrail allows or not: a live charge, or
    only a note. -/
def Tried (allowed : Bool) (adapter : ProcessorAdapter) (invoice : Invoice)
    (method : PaymentMethod) (attempt : ℕ) (nowIso : Option String) (Z R : Books → Prop)
    (Q : Option ChargeOutcome → Books → Prop) (b : Books) : Prop :=
  if allowed then
    Charged s adapter invoice method attempt nowIso Z R (fun o => Q (some o)) b
  else R b ∧ Q none b

/-- A result is an attempt exactly if it has an outcome. -/
def RecoveryResult.Fits (r : RecoveryResult × Option ChargeOutcome) : Prop :=
  r.1 = .attempted ↔ r.2.isSome

theorem attemptRecovery_wp (adapter : ProcessorAdapter) (invoice : Invoice)
    (method : PaymentMethod) (proposed : ProposedAction) (n : ℕ) (nowIso : Option String)
    (shadow : Bool) {Z R : Books → Prop} {Q : Option ChargeOutcome → Books → Prop} {w : World σ}
    (h : Tried s ((evaluate proposed).isAllow && !shadow) adapter invoice method n nowIso Z R Q
      w.books) :
    (s.attemptRecovery adapter invoice method proposed n nowIso shadow).wp (World.handle env)
      (fun r w' => RecoveryResult.Fits r ∧ Q r.2 w'.books) (onBooks Z) (onBooks R) w := by
  unfold RecoveryCaseService.attemptRecovery
  cases hd : evaluate proposed with
  | suppress reason message =>
    simp only [Tried, hd, GuardrailDecision.isAllow, Bool.false_and, Bool.false_eq_true,
      if_false] at h
    refine sure_bind env (appendNow_sure _ (by simp) _) h.1 fun _ w' hb => ?_
    exact ⟨by simp [RecoveryResult.Fits], hb ▸ h.2⟩
  | allow =>
    cases shadow with
    | true =>
      simp only [Tried, Bool.not_true, Bool.and_false, Bool.false_eq_true, if_false] at h
      refine sure_bind env (appendNow_sure _ (by simp) _) h.1 fun _ w' hb => ?_
      exact ⟨by simp [RecoveryResult.Fits], hb ▸ h.2⟩
    | false =>
      simp only [Tried, hd, GuardrailDecision.isAllow, Bool.not_false, Bool.and_self, if_true] at h
      simp only [Bool.false_eq_true, if_false, Prog.bind_eq, Prog.wp_bind]
      refine (chargeLive_wp s env adapter invoice method n nowIso h).imp ?_ (fun _ hz => hz)
        (fun _ hr => hr)
      exact fun o w' hQ => ⟨by simp [RecoveryResult.Fits], hQ⟩

/-! ## Fresh credentials -/

/-- Whether the guardrail allows a charge of a fresh credential in an attempt, by its window. -/
def freshAllowed (attempt : ℕ) (m : PaymentMethod) (credWin : CredentialAttemptWindow) : Bool :=
  (chargeCaps {
    kind := .freshCredentialCharge
    declineCode := .unknown
    declineFamily := .gray
    attemptsSoFar := (attempt : ℤ) - 1
    cardNetwork := some (mapCardNetwork m.brand)
    attemptsInWindow := some credWin.attemptsInWindow
    minutesSinceLastAttempt := credWin.minutesSinceLastAttempt
    localHour := 0
    hasConsent := true
    globallyOptedOut := false } defaultGuardrailPolicy).isAllow

theorem evaluate_freshAction (features : RecoveryFeatures) (n : ℕ) (m : PaymentMethod)
    (credWin : CredentialAttemptWindow) (hour : ℤ) :
    (evaluate (RecoveryCaseService.freshAction features n m credWin hour)).isAllow =
      freshAllowed n m credWin := rfl

/-- From the cap on, no fresh credential is charged. -/
theorem freshAllowed_of_cap {attempt : ℕ}
    (h : defaultGuardrailPolicy.maxRetryAttempts ≤ (attempt : ℤ) - 1) (m : PaymentMethod)
    (credWin : CredentialAttemptWindow) : freshAllowed attempt m credWin = false :=
  chargeCaps_of_cap h

/-- What must hold of the books for the charge of a fresh credential. -/
def TriedFresh (adapter : ProcessorAdapter) (p : ExecuteParams) (m : PaymentMethod)
    (Z R : Books → Prop) (Q : Option ChargeOutcome → Books → Prop) (b : Books) : Prop :=
  R b ∧ Tried s (freshAllowed p.attemptNumber m
    (credentialWindow b.credentials (credentialKey p.invoice.id m) p.nowIso))
    adapter p.invoice m p.attemptNumber p.nowIso Z R Q b

theorem chargeFresh_wp (adapter : ProcessorAdapter) (p : ExecuteParams)
    (features : RecoveryFeatures) (m : PaymentMethod) (via : String) {Z R : Books → Prop}
    {Q : Option ChargeOutcome → Books → Prop} {w : World σ}
    (h : TriedFresh s adapter p m Z R Q w.books) :
    (s.chargeFresh adapter p features m via).wp (World.handle env)
      (fun o w' => Q o w'.books) (onBooks Z) (onBooks R) w := by
  obtain ⟨hR, h⟩ := h
  simp only [RecoveryCaseService.chargeFresh, call, Prog.bind_eq, Prog.op_bind, Prog.pure_bind,
    Prog.pure_eq]
  refine sure_bind env (appendNow_sure _ (by simp) _) hR fun _ w1 h1 => ?_
  refine ⟨by rw [onBooks, h1]; exact hR, by rw [onBooks, h1]; exact hR, ?_⟩
  set w2 : World σ := { w1 with clock := fun n => w1.clock (n + 1) } with hw2
  have hb : w2.books = w.books := h1
  have hcred : w1.credentialAttempts = w.books.credentials := congrArg Books.credentials h1
  refine Prog.wp_bind.2 ((attemptRecovery_wp s env adapter p.invoice m _ p.attemptNumber p.nowIso
    false ?_).imp (fun r w' hr => hr.2) (fun _ hz => hz) (fun _ hr => hr))
  rw [evaluate_freshAction, Bool.not_false, Bool.and_true, hb, hcred]
  exact h

/-- What must hold of the books for the charge of a backup method. -/
def TriedBackup (adapter : ProcessorAdapter) (p : ExecuteParams) (backup : Option PaymentMethod)
    (Z R : Books → Prop) (Q : Bool → Books → Prop) (b : Books) : Prop :=
  R b ∧ match backup with
  | none => Q false b
  | some m => TriedFresh s adapter p m Z R (fun o => Q (o = some .succeeded)) b

/-- The backup method a case has, by the answers of its adapter. -/
def backupOf (adapter : ProcessorAdapter) (p : ExecuteParams) (updated : Option PaymentMethod) :
    Option PaymentMethod :=
  p.customer.bind fun c =>
    RecoveryCaseService.backupMethod p updated ((adapter.listPaymentMethods c).getD [])

theorem alternateRail_wp (adapter : ProcessorAdapter) (p : ExecuteParams)
    (features : RecoveryFeatures) (updated : Option PaymentMethod) {Z R : Books → Prop}
    {Q : Bool → Books → Prop} {w : World σ}
    (h : TriedBackup s adapter p (backupOf adapter p updated) Z R Q w.books) :
    (s.alternateRail adapter p features updated).wp (World.handle env)
      (fun ok w' => Q ok w'.books) (onBooks Z) (onBooks R) w := by
  unfold RecoveryCaseService.alternateRail
  obtain ⟨hR, h⟩ := h
  cases hc : p.customer with
  | none =>
    simp only [backupOf, hc, Option.bind_none] at h
    exact h
  | some customer =>
    simp only [backupOf, hc, Option.bind_some] at h
    refine ⟨hR, ?_⟩
    simp only [Prog.bind]
    cases hm : RecoveryCaseService.backupMethod p updated
        ((adapter.listPaymentMethods customer).getD []) with
    | none =>
      rw [hm] at h
      exact h
    | some m =>
      rw [hm] at h
      exact Prog.wp_bind.2 (chargeFresh_wp s env adapter p features m _ h)

/-- What must hold of the books for the recovery on another credential: the refreshed card and,
    unless it is charged with success, the backup method. -/
def TriedCredentials (adapter : ProcessorAdapter) (p : ExecuteParams)
    (updated backup : Option PaymentMethod) (Z R : Books → Prop) (Q : Bool → Books → Prop)
    (b : Books) : Prop :=
  R b ∧ match updated with
  | none => TriedBackup s adapter p backup Z R Q b
  | some u => TriedFresh s adapter p u Z R (fun o b' =>
      if o = some .succeeded then Q true b' else TriedBackup s adapter p backup Z R Q b') b

/-- The refreshed card of a case, by the answers of its adapter. -/
def updatedOf (adapter : ProcessorAdapter) (p : ExecuteParams) : Option PaymentMethod :=
  (adapter.fetchUpdatedCard p.method).getD none

theorem executeCredentialRecovery_wp (adapter : ProcessorAdapter) (p : ExecuteParams)
    (features : RecoveryFeatures) {Z R : Books → Prop} {Q : Bool → Books → Prop} {w : World σ}
    (h : TriedCredentials s adapter p
      (RecoveryCaseService.refreshed p (updatedOf adapter p))
      (backupOf adapter p (updatedOf adapter p)) Z R Q w.books) :
    (s.executeCredentialRecovery adapter p features).wp (World.handle env)
      (fun ok w' => Q ok w'.books) (onBooks Z) (onBooks R) w := by
  obtain ⟨hR, h⟩ := h
  refine ⟨hR, ?_⟩
  simp only [Prog.bind]
  change Prog.wp _ _ _ _ (match RecoveryCaseService.refreshed p (updatedOf adapter p) with
    | none => _
    | some u => _) w
  cases hu : RecoveryCaseService.refreshed p (updatedOf adapter p) with
  | none =>
    rw [hu] at h
    exact alternateRail_wp s env adapter p features _ h
  | some u =>
    rw [hu] at h
    refine Prog.wp_bind.2 ((chargeFresh_wp s env adapter p features u _ h).imp ?_
      (fun _ hz => hz) (fun _ hr => hr))
    intro o w' hQ
    by_cases ho : o = some .succeeded
    · simp only [if_pos ho] at hQ ⊢
      exact hQ
    · simp only [if_neg ho] at hQ ⊢
      exact alternateRail_wp s env adapter p features _ hQ

/-! ## An execution -/

/-- The decline code of a case. -/
def codeOf (p : ExecuteParams) : DeclineCode := (p.decline.map DeclineEvent.code).getD .unknown

/-- The decision of the policy for an execution that starts now. -/
def decisionAt (w : World σ) (p : ExecuteParams) : RecoveryDecision :=
  env.policy.decide w.policy
    (w.featureStore.enrich env.featureStore {
      merchantId := p.invoice.merchantId
      customerId := p.invoice.customerId
      bin := p.method.bin
      customerCreatedAt := p.customer.map Customer.createdAt
      firstFailedAt := p.invoice.firstFailedAt
      declineCode := codeOf p
      amountMinor := p.invoice.amount.amount
      currency := p.invoice.amount.currency
      attemptNumber := p.attemptNumber
      now := Date.toISOString (w.clock 0) })
    { now := Date.toISOString (w.clock 1)
      methods := [RecoveryCaseService.availableMethod p.method]
      compliance := some ⟨(credentialWindow w.credentialAttempts
          (credentialKey p.invoice.id p.method) p.nowIso).attemptsInWindow,
        defaultGuardrailPolicy.networkCaps.map fun caps =>
          (caps (mapCardNetwork p.method.brand)).maxAttemptsPerWindow, none⟩ }

/-- Whether the guardrail allows a retry of the card of the case, by its window. -/
def retryAllowed (p : ExecuteParams) (code : DeclineCode) (credWin : CredentialAttemptWindow) :
    Bool :=
  (evaluate {
    kind := .chargeRetry
    declineCode := code
    declineFamily := familyOf code
    attemptsSoFar := (p.attemptNumber : ℤ) - 1
    cardNetwork := some (mapCardNetwork p.method.brand)
    attemptsInWindow := some credWin.attemptsInWindow
    minutesSinceLastAttempt :=
      credWin.minutesSinceLastAttempt.or (p.minutesSinceLastAttempt.map some)
    localHour := 0
    hasConsent := true
    globallyOptedOut := false }).isAllow

theorem evaluate_retryAction (p : ExecuteParams) (features : RecoveryFeatures)
    (credWin : CredentialAttemptWindow) (hour : ℤ) :
    (evaluate (RecoveryCaseService.retryAction p features credWin hour)).isAllow =
      retryAllowed p features.declineCode credWin := rfl

/-- From the cap on, the card of the case is not retried. -/
theorem retryAllowed_of_cap {p : ExecuteParams}
    (h : defaultGuardrailPolicy.maxRetryAttempts ≤ (p.attemptNumber : ℤ) - 1) (code : DeclineCode)
    (credWin : CredentialAttemptWindow) : retryAllowed p code credWin = false := by
  unfold retryAllowed evaluate
  rw [if_neg Bool.false_ne_true]
  split
  next d hd => exact sameCardBlock_isAllow hd
  next => exact chargeCaps_of_cap h

/-- What must hold of the books for an execution whose decision is the given action. -/
def Executed (adapter : ProcessorAdapter) (p : ExecuteParams) (action : RecoveryActionKind)
    (Z R : Books → Prop) (Q : Option ChargeOutcome → Books → Prop) (b : Books) : Prop :=
  R b ∧ match action with
  | .retry =>
    Tried s (retryAllowed p (codeOf p)
        (credentialWindow b.credentials (credentialKey p.invoice.id p.method) p.nowIso) && !p.shadow)
      adapter p.invoice p.method p.attemptNumber p.nowIso Z R Q b
  | .cardUpdateComms =>
    if p.shadow then Z b ∧ Q none b
    else TriedCredentials s adapter p (RecoveryCaseService.refreshed p (updatedOf adapter p))
      (backupOf adapter p (updatedOf adapter p)) Z R
      (fun ok b' => if ok then Q (some .succeeded) b' else R b' ∧ Z b' ∧ Q none b') b
  | .suppress => Z b ∧ Q none b

/-- An outcome is that of a charge exactly if one was attempted. -/
def ExecuteOutcome.Fits (out : ExecuteOutcome) : Prop :=
  out.action = .attempted ↔ out.outcome.isSome

theorem concludeWithoutRetry_wp (adapter : ProcessorAdapter) (p : ExecuteParams)
    (features : RecoveryFeatures) (decision : RecoveryDecision) (hd : decision.action ≠ .retry)
    {Z R : Books → Prop} {Q : Option ChargeOutcome → Books → Prop} {w : World σ}
    (hR : R w.books) (hZ : Z w.books) (hQ : Q none w.books) :
    (s.concludeWithoutRetry adapter p features decision).wp (World.handle env)
      (fun out w' => out.Fits ∧ Q out.outcome w'.books) (onBooks Z) (onBooks R) w := by
  refine quiet_bind env ((s.caseMessage_uses p features decision).imp
    (CaseOp.quiet s List.not_mem_nil)) hZ hR fun message w1 h1 => ?_
  refine quiet_bind env ((s.caseDelivery_uses p features message).imp
    (CaseOp.quiet s List.not_mem_nil)) (by rw [h1]; exact hZ) (by rw [h1]; exact hR)
    fun delivery w2 h2 => ?_
  refine sure_bind env (appendNow_sure _ (by split <;> decide) _) (by rw [h2, h1]; exact hR)
    fun _ w3 h3 => ?_
  refine ⟨?_, by rw [h3, h2, h1]; exact hQ⟩
  cases ha : decision.action with
  | retry => exact absurd ha hd
  | _ => simp [ExecuteOutcome.Fits, RecoveryActionKind.outcome]

theorem retryCharge_wp (adapter : ProcessorAdapter) (p : ExecuteParams)
    (features : RecoveryFeatures) (credWin : CredentialAttemptWindow) (decision : RecoveryDecision)
    {Z R : Books → Prop} {Q : Option ChargeOutcome → Books → Prop} {w : World σ}
    (hR : R w.books)
    (h : Tried s (retryAllowed p features.declineCode credWin && !p.shadow) adapter p.invoice
      p.method p.attemptNumber p.nowIso Z R Q w.books)
    (hQR : ∀ o b, Q o b → R b) :
    (s.retryCharge adapter p features credWin decision).wp (World.handle env)
      (fun out w' => out.Fits ∧ Q out.outcome w'.books) (onBooks Z) (onBooks R) w := by
  refine sure_bind env (RecoveryCaseService.localHourOr_uses ⟨trivial, trivial⟩ p.localHour) hR
    fun hour w1 h1 => ?_
  refine Prog.wp_bind.2 ((attemptRecovery_wp s env adapter p.invoice p.method _ p.attemptNumber
    p.nowIso p.shadow (Q := Q) ?_).imp ?_ (fun _ hz => hz) (fun _ hr => hr))
  · rw [evaluate_retryAction, h1]
    exact h
  · rintro ⟨r, o⟩ w2 ⟨hfit, hQ⟩
    refine sure_bind env (RecoveryCaseService.learnOnline_uses
      (fun _ _ _ => ⟨trivial, trivial⟩) _ _ _ _) (hQR _ _ hQ) fun _ w3 h3 => ?_
    refine ⟨?_, by rw [h3]; exact hQ⟩
    cases r <;> simpa [ExecuteOutcome.Fits, RecoveryResult.Fits, RecoveryResult.outcome] using hfit

/-- An execution does to the books what its decision allows. -/
theorem executeRecovery_wp (adapter : ProcessorAdapter) (p : ExecuteParams) {Z R : Books → Prop}
    {Q : Option ChargeOutcome → Books → Prop} {w : World σ}
    (h : Executed s adapter p (decisionAt env w p).action Z R Q w.books)
    (hQR : ∀ o b, Q o b → R b) :
    (s.executeRecovery adapter p).wp (World.handle env)
      (fun out w' => out.Fits ∧ Q out.outcome w'.books) (onBooks Z) (onBooks R) w := by
  obtain ⟨hR, h⟩ := h
  -- five operations that read: the clock, the features, the window, the clock, the decision
  refine ⟨hR, hR, hR, hR, hR, ?_⟩
  change Prog.wp _ _ _ _ (Prog.bind (appendNow p.invoice.merchantId .recoveryPlanned _) _) _
  refine sure_bind env (appendNow_sure _ (by simp) _) hR fun _ w1 h1 => ?_
  change w1.books = w.books at h1
  have hR1 : R w1.books := by
    rw [h1]
    exact hR
  change Prog.wp _ _ _ _ (if (decisionAt env w p).action ≠ .retry then
    if (decisionAt env w p).action = .cardUpdateComms ∧ !p.shadow then
      Prog.bind (s.executeCredentialRecovery adapter p _) fun ok =>
        if ok then .pure ⟨.attempted, some .succeeded, decisionAt env w p⟩
        else s.concludeWithoutRetry adapter p _ (decisionAt env w p)
    else s.concludeWithoutRetry adapter p _ (decisionAt env w p)
    else s.retryCharge adapter p _ _ (decisionAt env w p)) w1
  generalize decisionAt env w p = d at h
  cases ha : d.action with
  | retry =>
    simp only [ha] at h
    rw [if_neg (by simp)]
    refine retryCharge_wp s env adapter p _ _ d hR1 ?_ hQR
    rw [h1]
    exact h
  | cardUpdateComms =>
    rw [if_pos (by simp)]
    simp only [ha, ← h1] at h
    by_cases hs : p.shadow
    · rw [if_pos hs] at h
      rw [if_neg (by simp [hs])]
      exact concludeWithoutRetry_wp s env adapter p _ d (by simp [ha]) hR1 h.1 h.2
    · rw [if_neg hs] at h
      rw [if_pos (by simp [hs])]
      refine Prog.wp_bind.2 ((executeCredentialRecovery_wp s env adapter p _ h).imp ?_
        (fun _ hz => hz) (fun _ hr => hr))
      intro ok w2 hok
      cases ok with
      | true => exact ⟨by simp [ExecuteOutcome.Fits], hok⟩
      | false =>
        obtain ⟨hR2, hZ2, hQ2⟩ := hok
        rw [if_neg Bool.false_ne_true]
        exact concludeWithoutRetry_wp s env adapter p _ d (by simp [ha]) hR2 hZ2 hQ2
  | suppress =>
    simp only [ha, ← h1] at h
    rw [if_pos (by simp), if_neg (by simp)]
    exact concludeWithoutRetry_wp s env adapter p _ d (by simp [ha]) hR1 h.1 h.2

/-! ## Invariants of the books -/

/-- What the charges of an execution keep: `Pre` until one succeeds, `Post` once this is recorded,
    and `R` in between. -/
structure ChargeRule (adapter : ProcessorAdapter) (p : ExecuteParams) (Pre Post R : Books → Prop) :
    Prop where
  before : ∀ b, Pre b → R b
  after : ∀ b, Post b → R b
  charged : ∀ b m c, Pre b → processorCharge b.charges adapter p.invoice m
    (s.chargeKey p.invoice m p.attemptNumber) = some c →
    R (b.charge c) ∧ ∀ key t, R ((b.charge c).count key t)
  failed : ∀ b m c, Pre b → processorCharge b.charges adapter p.invoice m
    (s.chargeKey p.invoice m p.attemptNumber) = some c → c.result.outcome ≠ .succeeded →
    ∀ key t, Pre ((b.charge c).count key t)
  recovered : ∀ b m c, Pre b → processorCharge b.charges adapter p.invoice m
    (s.chargeKey p.invoice m p.attemptNumber) = some c → c.result.outcome = .succeeded →
    ∀ key t e, IsRecovery p.invoice adapter.id p.attemptNumber e →
      Post (((b.charge c).count key t).recover e)

section

variable {s} {adapter : ProcessorAdapter} {p : ExecuteParams} {Pre Post R : Books → Prop}

theorem tried_rule (hr : ChargeRule s adapter p Pre Post R) (allowed : Bool) (m : PaymentMethod)
    {Q : Option ChargeOutcome → Books → Prop} {b : Books} (hb : Pre b)
    (hpre : ∀ o b', o ≠ some .succeeded → Pre b' → Q o b')
    (hpost : ∀ b', Post b' → Q (some .succeeded) b') :
    Tried s allowed adapter p.invoice m p.attemptNumber p.nowIso Pre R Q b := by
  unfold Tried
  split
  · refine ⟨hr.before b hb, hb, fun c hc => ?_⟩
    obtain ⟨hcharged, hcounted⟩ := hr.charged b m c hb hc
    refine ⟨hcharged, fun t _ => ⟨hcounted _ t, fun ho => ?_, fun ho e he => ?_⟩⟩
    · exact hpre _ _ (by simpa using ho) (hr.failed b m c hb hc ho _ t)
    · have := hr.recovered b m c hb hc ho (credentialKey p.invoice.id m) t e he
      exact ⟨hr.after _ this, hpost _ this⟩
  · exact ⟨hr.before b hb, hpre _ _ (by simp) hb⟩

theorem triedBackup_rule (hr : ChargeRule s adapter p Pre Post R) (backup : Option PaymentMethod)
    {Q : Bool → Books → Prop} {b : Books} (hb : Pre b) (hpre : ∀ b', Pre b' → Q false b')
    (hpost : ∀ b', Post b' → Q true b') : TriedBackup s adapter p backup Pre R Q b := by
  refine ⟨hr.before b hb, ?_⟩
  cases backup with
  | none => exact hpre b hb
  | some m =>
    refine ⟨hr.before b hb, tried_rule hr _ m hb (fun o b' ho h => ?_) fun b' h => ?_⟩
    · simpa [ho] using hpre b' h
    · simpa using hpost b' h

/-- An execution ends in `Post` if a charge of it succeeded, and in `Pre` if none did. -/
theorem executed_rule (hr : ChargeRule s adapter p Pre Post R) (action : RecoveryActionKind)
    {b : Books} (hb : Pre b) :
    Executed s adapter p action Pre R
      (fun o b' => if o = some .succeeded then Post b' else Pre b') b := by
  refine ⟨hr.before b hb, ?_⟩
  cases action with
  | retry =>
    refine tried_rule hr _ p.method hb (fun o b' ho h => ?_) fun b' h => ?_
    · rw [if_neg ho]
      exact h
    · rw [if_pos rfl]
      exact h
  | cardUpdateComms =>
    simp only []
    split
    · exact ⟨hb, hb⟩
    · refine ⟨hr.before b hb, ?_⟩
      have lost : ∀ b', Pre b' → R b' ∧ Pre b' ∧ Pre b' := fun b' h => ⟨hr.before b' h, h, h⟩
      cases RecoveryCaseService.refreshed p (updatedOf adapter p) with
      | none => exact triedBackup_rule hr _ hb lost fun b' h => h
      | some u =>
        refine ⟨hr.before b hb, tried_rule hr _ u hb (fun o b' ho h => ?_) fun b' h => ?_⟩
        · rw [if_neg ho]
          exact triedBackup_rule hr _ h lost fun b'' h' => h'
        · rw [if_pos rfl]
          exact h
  | suppress => exact ⟨hb, hb⟩

/-- What an execution that completes, or is rejected, leaves on the books. -/
theorem executeRecovery_rule (hr : ChargeRule s adapter p Pre Post R) {w : World σ}
    (hw : Pre w.books) :
    match (s.executeRecovery adapter p).exec (World.handle env) w with
    | (some out, w') => out.Fits ∧
        if out.outcome = some .succeeded then Post w'.books else Pre w'.books
    | (none, w') => Pre w'.books := by
  have hQR : ∀ (o : Option ChargeOutcome) b,
      (if o = some .succeeded then Post b else Pre b) → R b := by
    intro o b h
    split at h
    · exact hr.after b h
    · exact hr.before b h
  have h := (executeRecovery_wp s env adapter p (executed_rule hr _ hw) hQR).exec
  generalize (s.executeRecovery adapter p).exec (World.handle env) w = run at h
  obtain ⟨_ | out, w'⟩ := run <;> exact h

end

/-- An execution that completes has an outcome exactly if it attempted a charge. -/
theorem executeRecovery_fits (adapter : ProcessorAdapter) (p : ExecuteParams) (w : World σ) :
    ∀ out ∈ ((s.executeRecovery adapter p).exec (World.handle env) w).1, out.Fits := by
  have hr : ChargeRule s adapter p (fun _ => True) (fun _ => True) fun _ => True :=
    ⟨fun _ _ => trivial, fun _ _ => trivial, fun _ _ _ _ _ => ⟨trivial, fun _ _ => trivial⟩,
      fun _ _ _ _ _ _ _ _ => trivial, fun _ _ _ _ _ _ _ _ _ _ => trivial⟩
  have h := executeRecovery_rule env hr (w := w) trivial
  generalize (s.executeRecovery adapter p).exec (World.handle env) w = run at h
  obtain ⟨_ | out', w'⟩ := run
  · simp
  · rintro out ⟨⟩
    exact h.1

/-! ## Requests -/

theorem handleEvent_quiet (event : CanonicalEvent) (pid : Option String) :
    (s.handleEvent event pid).Uses Quiet := by
  refine s.handleEvent_uses_of event pid (fun payload invoice => ?_) trivial ?_ fun _ _ => trivial
  · exact (s.handleFailure_uses event payload invoice).imp (CaseOp.quiet s (by decide))
  · intro e he hr
    rw [hr] at he
    simp at he

theorem planAttempt_quiet (invoice : Invoice) (method : Option PaymentMethod)
    (decline : Option DeclineEvent) (n : ℕ) :
    (RecoveryCaseService.planAttempt invoice method decline n).Uses Quiet :=
  ⟨trivial, fun _ => ⟨trivial, fun _ => ⟨trivial, fun _ => ⟨trivial, fun _ => ⟨trivial,
    fun _ => ⟨by simp [Quiet], fun _ => trivial⟩⟩⟩⟩⟩⟩

/-- Only executions touch the books. -/
theorem serve_books (w : World σ) (r : Request) :
    (serve s env w r).books = w.books ∨ ∃ adapter p, r = .execute adapter p := by
  cases r with
  | webhook event pid =>
    exact .inl (Prog.exec_frame World.books (quiet_books env) (handleEvent_quiet s event pid) w)
  | plan invoice method decline n =>
    exact .inl (Prog.exec_frame World.books (quiet_books env)
      ((planAttempt_quiet invoice method decline n).bind fun _ => Prog.uses_pure _ ()) w)
  | execute adapter p => exact .inr ⟨adapter, p, rfl⟩

/-- What the charges of an execution keep throughout, the request that runs it keeps. -/
theorem serve_execute_books {I : Books → Prop} {adapter : ProcessorAdapter} {p : ExecuteParams}
    (hI : ChargeRule s adapter p I I I) {w : World σ} (hw : I w.books) :
    I (serve s env w (.execute adapter p)).books := by
  have h := executeRecovery_rule env hI hw
  change I (Prog.exec _ (Prog.bind (s.executeRecovery adapter p) fun _ => .pure ()) w).2.books
  rw [Prog.exec_bind]
  generalize (s.executeRecovery adapter p).exec (World.handle env) w = run at h
  obtain ⟨_ | out, w'⟩ := run
  · exact h
  · simpa using h.2

end

end AX10M
