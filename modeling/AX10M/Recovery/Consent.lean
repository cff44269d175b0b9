/-
  What the consent of a customer and the quiet hours hold back of an execution.

  Whatever an execution hands to a sender, the guardrail let through on the consent of the
  customer and on an hour: the one of the input, or else that of the wall clock in UTC.  Its
  charges are let through without regard to either.
-/
import AX10M.Recovery.SagaRun

namespace AX10M

open Js Effects

/-! ## What the guardrail lets through -/

/-- The guardrail lets some message to the customer through at the hour. -/
def Permits (customer : Option Customer) (hour : ℤ) : Prop :=
  ∃ channel code,
    (evaluate (RecoveryCaseService.commsAction channel code (customer.map Customer.consent)
      hour)).isAllow

/-- The customer has not opted out, and has consented to one of the channels. -/
def Consents (customer : Option Customer) : Prop :=
  ∃ c ∈ customer, c.consent.globallyOptedOut = false ∧ (c.consent.email ∨ c.consent.sms)

instance : DecidablePred Consents := fun customer =>
  inferInstanceAs (Decidable (∃ c ∈ customer,
    c.consent.globallyOptedOut = false ∧ (c.consent.email ∨ c.consent.sms)))

/-- A message is let through only to a customer who consents, outside the quiet hours. -/
theorem Permits.spec {customer : Option Customer} {hour : ℤ} (h : Permits customer hour) :
    Consents customer ∧ inQuietHours hour defaultGuardrailPolicy.quietHours = false := by
  obtain ⟨channel, code, h⟩ := h
  unfold evaluate at h
  split_ifs at h with hopt
  · cases h
  · change (commsBlocks _ _).isAllow at h
    unfold commsBlocks at h
    split_ifs at h with hconsent hquiet
    · cases h
    · cases h
    · refine ⟨?_, Bool.eq_false_iff.2 hquiet⟩
      cases customer with
      | none => cases channel <;> simp [RecoveryCaseService.commsAction] at hconsent
      | some c =>
        refine ⟨c, rfl, by simpa [RecoveryCaseService.commsAction] using hopt, ?_⟩
        cases channel with
        | email => exact .inl (by simpa [RecoveryCaseService.commsAction] using hconsent)
        | sms => exact .inr (by simpa [RecoveryCaseService.commsAction] using hconsent)

/-! ## What is handed to a sender -/

/-- The operation hands nothing to a sender. -/
def Silent : ServiceOp → Prop
  | .send _ _ _ => False
  | _ => True

/-- What is handed to a sender, the guardrail lets through at the hour. -/
def GatedAt (s : RecoveryCaseService) (customer : Option Customer) (hour : ℤ) : ServiceOp → Prop
  | .send live _ _ => s.dunningSender ∧ live = s.liveComms ∧ Permits customer hour
  | _ => True

namespace RecoveryCaseService

variable (s : RecoveryCaseService)

theorem appendNow_silent (merchantId : String) (type : LedgerEventType) (detail : Record) :
    (appendNow merchantId type detail).Uses Silent :=
  ⟨trivial, fun _ => ⟨trivial, fun _ => trivial⟩⟩

theorem chargeLive_silent (adapter : ProcessorAdapter) (invoice : Invoice) (method : PaymentMethod)
    (n : ℕ) (nowIso : Option String) :
    (s.chargeLive adapter invoice method n nowIso).Uses Silent := by
  refine ⟨trivial, fun _ => ⟨trivial, fun _ => ⟨trivial, fun r => ?_⟩⟩⟩
  have stamped : (stampOr nowIso).Uses Silent := by
    cases nowIso
    · exact ⟨trivial, fun _ => trivial⟩
    · trivial
  have recorded : (recordCharge adapter invoice (s.chargeKey invoice method n) n r).Uses Silent := by
    refine (appendNow_silent _ _ _).bind fun _ => ?_
    split
    · exact appendNow_silent _ _ _
    · trivial
  have learned : (recordOutcomeNow invoice method r.outcome).Uses Silent := by
    unfold recordOutcomeNow
    split
    · trivial
    · exact ⟨trivial, fun _ => ⟨trivial, fun _ => trivial⟩⟩
  exact stamped.bind fun t => ⟨trivial, fun _ => recorded.bind fun _ =>
    learned.bind fun _ => trivial⟩

theorem attemptRecovery_silent (adapter : ProcessorAdapter) (invoice : Invoice)
    (method : PaymentMethod) (proposed : ProposedAction) (n : ℕ) (nowIso : Option String)
    (shadow : Bool) :
    (s.attemptRecovery adapter invoice method proposed n nowIso shadow).Uses Silent := by
  unfold attemptRecovery
  split
  · exact (appendNow_silent _ _ _).bind fun _ => trivial
  · split
    · exact (appendNow_silent _ _ _).bind fun _ => trivial
    · exact (s.chargeLive_silent adapter invoice method n nowIso).bind fun _ => trivial

theorem chargeFresh_silent (adapter : ProcessorAdapter) (p : ExecuteParams)
    (features : RecoveryFeatures) (m : PaymentMethod) (via : String) :
    (s.chargeFresh adapter p features m via).Uses Silent := by
  refine (appendNow_silent _ _ _).bind fun _ => ⟨trivial, fun _ => ⟨trivial, fun _ => ?_⟩⟩
  exact (s.attemptRecovery_silent adapter p.invoice m _ _ _ _).bind fun _ => trivial

theorem alternateRail_silent (adapter : ProcessorAdapter) (p : ExecuteParams)
    (features : RecoveryFeatures) (updated : Option PaymentMethod) :
    (s.alternateRail adapter p features updated).Uses Silent := by
  unfold alternateRail
  split
  · trivial
  · refine ⟨trivial, fun methods => ?_⟩
    simp only [Prog.bind]
    split
    · trivial
    · exact (s.chargeFresh_silent adapter p features _ _).bind fun _ => trivial

theorem executeCredentialRecovery_silent (adapter : ProcessorAdapter) (p : ExecuteParams)
    (features : RecoveryFeatures) :
    (s.executeCredentialRecovery adapter p features).Uses Silent := by
  refine ⟨trivial, fun updated => ?_⟩
  simp only [Prog.bind]
  split
  · exact s.alternateRail_silent adapter p features _
  · refine (s.chargeFresh_silent adapter p features _ _).bind fun o => ?_
    split
    · trivial
    · exact s.alternateRail_silent adapter p features _

theorem caseMessage_silent (p : ExecuteParams) (features : RecoveryFeatures)
    (decision : RecoveryDecision) : (s.caseMessage p features decision).Uses Silent := by
  unfold caseMessage composeDunning
  split
  · split
    · trivial
    · exact ⟨trivial, fun _ => trivial⟩
  · trivial

theorem retryCharge_silent (adapter : ProcessorAdapter) (p : ExecuteParams)
    (features : RecoveryFeatures) (credWin : CredentialAttemptWindow)
    (decision : RecoveryDecision) :
    (s.retryCharge adapter p features credWin decision).Uses Silent := by
  refine (localHourOr_uses trivial _).bind fun h => ?_
  refine (s.attemptRecovery_silent adapter p.invoice p.method _ _ _ _).bind fun e => ?_
  exact (learnOnline_uses (fun _ _ _ => trivial) _ _ _ _).bind fun _ => trivial

/-- What follows the reading of the hour in `deliverDunning` is gated at this hour. -/
theorem deliverDunning_gated (hs : s.dunningSender) (message : DunningMessage) (invoice : Invoice)
    (n : ℕ) (declineCode : DeclineCode) (customer : Option Customer) (localHour : Option ℤ) :
    ∃ q : ℤ → Async (Option DunningDeliveryRecord),
      s.deliverDunning message invoice n declineCode customer localHour =
        (localHourOr localHour).bind q ∧ ∀ hour, (q hour).Uses (GatedAt s customer hour) := by
  unfold deliverDunning
  rw [if_neg (by simp [hs])]
  refine ⟨_, rfl, fun hour => ?_⟩
  cases he : evaluate (commsAction message.channel declineCode (customer.map Customer.consent)
      hour) with
  | suppress reason text => trivial
  | allow =>
    have hpermits : Permits customer hour := ⟨message.channel, declineCode, by rw [he]; rfl⟩
    dsimp only
    split
    · trivial
    · refine ⟨trivial, fun sent => ?_⟩
      simp only [Prog.bind]
      split
      · trivial
      · refine ⟨⟨hs, rfl, hpermits⟩, fun r => ?_⟩
        simp only [Prog.bind]
        split
        · exact ⟨trivial, fun _ => trivial⟩
        · trivial

end RecoveryCaseService

/-! ## The trace of an execution -/

section

variable {σ : Type} (s : RecoveryCaseService) (env : Env σ)

/-- Every message of the trace that is handed to a sender was let through by the guardrail at the
    hour given, or else at the hour of an instant of the trace. -/
def Gated (customer : Option Customer) (localHour : Option ℤ)
    (l : List (Performed ServiceSig (World σ))) : Prop :=
  ∀ e ∈ l, ∀ live message recipient, e.op = .send live message recipient →
    s.dunningSender ∧ live = s.liveComms ∧
      ∃ e' ∈ l, Permits customer (localHour.getD (Date.hours (e'.world.clock 0)))

variable {s} {customer : Option Customer} {localHour : Option ℤ}

theorem Gated.nil : Gated s customer localHour ([] : List (Performed ServiceSig (World σ))) := by
  simp [Gated]

theorem Gated.append {l l' : List (Performed ServiceSig (World σ))}
    (h : Gated s customer localHour l) (h' : Gated s customer localHour l') :
    Gated s customer localHour (l ++ l') := by
  intro e he live message recipient ho
  rcases List.mem_append.1 he with he | he
  · obtain ⟨hs, hl, e', he', hp⟩ := h e he live message recipient ho
    exact ⟨hs, hl, e', List.mem_append_left _ he', hp⟩
  · obtain ⟨hs, hl, e', he', hp⟩ := h' e he live message recipient ho
    exact ⟨hs, hl, e', List.mem_append_right _ he', hp⟩

variable {env} {α β : Type}

/-- Of silent code nothing is handed to a sender. -/
theorem silent_trace {p : Async α} (hp : p.Uses Silent) {w : World σ}
    {e : Performed ServiceSig (World σ)} (he : e ∈ p.trace (World.handle env) w) (live : Bool)
    (message : DunningMessage) (recipient : DunningRecipient) :
    e.op ≠ .send live message recipient := by
  intro ho
  have := hp.of_mem_trace he
  rw [ho] at this
  exact this

theorem Gated.of_silent {p : Async α} (hp : p.Uses Silent) (w : World σ) :
    Gated s customer localHour (p.trace (World.handle env) w) :=
  fun _ he live message recipient ho => absurd ho (silent_trace hp he live message recipient)

/-- Silent code, and gated code after it. -/
theorem Gated.bind {p : Async α} (hp : p.Uses Silent) {f : α → Async β}
    (hf : ∀ a w, Gated s customer localHour ((f a).trace (World.handle env) w)) (w : World σ) :
    Gated s customer localHour ((p.bind f).trace (World.handle env) w) :=
  Prog.trace_bind_ind .nil (fun _ _ => .append) (Gated.of_silent hp) hf w

theorem deliverDunning_trace (message : DunningMessage) (invoice : Invoice) (n : ℕ)
    (declineCode : DeclineCode) (w : World σ) :
    Gated s customer localHour
      ((s.deliverDunning message invoice n declineCode customer localHour).trace (World.handle env)
        w) := by
  by_cases hs : s.dunningSender
  · obtain ⟨q, hq, hg⟩ := s.deliverDunning_gated hs message invoice n declineCode customer localHour
    rw [hq]
    cases localHour with
    | some hour =>
      intro e he live m r ho
      have := (hg hour).of_mem_trace (w := w) he
      rw [ho] at this
      exact ⟨hs, this.2.1, e, he, this.2.2⟩
    | none =>
      intro e he live m r ho
      have hnow : World.handle env .now w =
          (some (w.clock 0), { w with clock := fun n => w.clock (n + 1) }) := rfl
      rw [RecoveryCaseService.localHourOr, Prog.bind_eq, Prog.op_bind, Prog.op_bind,
        Prog.trace_op_of hnow] at he ⊢
      rcases List.mem_cons.1 he with rfl | he
      · cases ho
      · have := (hg _).of_mem_trace he
        rw [ho] at this
        exact ⟨hs, this.2.1, _, List.mem_cons_self, this.2.2⟩
  · refine Gated.of_silent ?_ w
    unfold RecoveryCaseService.deliverDunning
    rw [if_pos (by simpa using hs)]
    trivial

theorem concludeWithoutRetry_trace (adapter : ProcessorAdapter) (p : ExecuteParams)
    (features : RecoveryFeatures) (decision : RecoveryDecision) (w : World σ) :
    Gated s p.customer p.localHour
      ((s.concludeWithoutRetry adapter p features decision).trace (World.handle env) w) := by
  refine Gated.bind (s.caseMessage_silent p features decision) (fun message => ?_) w
  have delivered : ∀ w, Gated s p.customer p.localHour
      ((s.caseDelivery p features message).trace (World.handle env) w) := by
    intro w
    cases message with
    | none => exact .nil
    | some message => exact deliverDunning_trace message _ _ _ w
  refine Prog.trace_bind_ind .nil (fun _ _ => .append) delivered fun delivery => ?_
  exact Gated.of_silent ((RecoveryCaseService.appendNow_silent _ _ _).bind fun _ => trivial)

/-- A case gets a message only if its decision is to ask for another card, in live mode. -/
theorem concludeWithoutRetry_silent (adapter : ProcessorAdapter) (p : ExecuteParams)
    (features : RecoveryFeatures) (decision : RecoveryDecision)
    (h : ¬ (decision.action = .cardUpdateComms ∧ p.shadow = false)) :
    (s.concludeWithoutRetry adapter p features decision).Uses Silent := by
  have hnone : s.caseMessage p features decision = .pure none :=
    if_neg fun hc => h ⟨hc.1, by simpa using hc.2⟩
  rw [RecoveryCaseService.concludeWithoutRetry, hnone]
  exact (RecoveryCaseService.appendNow_silent _ _ _).bind fun _ => trivial

/-- The messages of an execution. -/
theorem executeRecovery_trace (s : RecoveryCaseService) (env : Env σ) (adapter : ProcessorAdapter)
    (p : ExecuteParams) (w : World σ) :
    Gated s p.customer p.localHour ((s.executeRecovery adapter p).trace (World.handle env) w) ∧
    (¬ ((decisionAt env w p).action = .cardUpdateComms ∧ p.shadow = false) →
      ∀ e ∈ (s.executeRecovery adapter p).trace (World.handle env) w,
        ∀ live message recipient, e.op ≠ .send live message recipient) := by
  set d := decisionAt env w p with hd
  -- five operations that read, and then what the decision calls for
  obtain ⟨reads, rest, w', htrace, hreads, hgated, hsilent⟩ : ∃ (reads : List (Performed ServiceSig
      (World σ))) (rest : Async ExecuteOutcome) (w' : World σ),
      (s.executeRecovery adapter p).trace (World.handle env) w =
        reads ++ rest.trace (World.handle env) w' ∧
      (∀ e ∈ reads, Silent e.op) ∧ (∀ w, Gated s p.customer p.localHour
        (rest.trace (World.handle env) w)) ∧
      (¬ (d.action = .cardUpdateComms ∧ p.shadow = false) → rest.Uses Silent) := by
    refine ⟨[⟨.now, _, w⟩, ⟨.enrich _, _, _⟩, ⟨.credentialWindow _ _, _, _⟩, ⟨.now, _, _⟩,
      ⟨.decide _ _, _, _⟩], (appendNow p.invoice.merchantId .recoveryPlanned _).bind fun _ =>
        if d.action ≠ .retry then
          if d.action = .cardUpdateComms ∧ !p.shadow then
            (s.executeCredentialRecovery adapter p _).bind fun ok =>
              if ok then .pure ⟨.attempted, some .succeeded, d⟩
              else s.concludeWithoutRetry adapter p _ d
          else s.concludeWithoutRetry adapter p _ d
        else s.retryCharge adapter p _ _ d,
      { w with clock := fun n => w.clock (n + 2) }, rfl, ?_, fun w => ?_, fun h => ?_⟩
    · simp [Silent]
    · refine Gated.bind (RecoveryCaseService.appendNow_silent _ _ _) (fun _ w => ?_) w
      split
      · split
        · refine Gated.bind (s.executeCredentialRecovery_silent adapter p _) (fun ok w => ?_) w
          split
          · exact .nil
          · exact concludeWithoutRetry_trace adapter p _ _ w
        · exact concludeWithoutRetry_trace adapter p _ _ w
      · exact Gated.of_silent (s.retryCharge_silent adapter p _ _ _) w
    · refine Prog.Uses.bind (RecoveryCaseService.appendNow_silent _ _ _) fun _ => ?_
      split
      · split
        · refine (s.executeCredentialRecovery_silent adapter p _).bind fun ok => ?_
          split
          · trivial
          · exact concludeWithoutRetry_silent adapter p _ _ h
        · exact concludeWithoutRetry_silent adapter p _ _ h
      · exact s.retryCharge_silent adapter p _ _ _
  rw [htrace]
  refine ⟨Gated.append (fun e he live message recipient ho => ?_) (hgated w'), ?_⟩
  · have := hreads e he
    rw [ho] at this
    exact this.elim
  · intro h e he live message recipient ho
    rcases List.mem_append.1 he with he | he
    · have := hreads e he
      rw [ho] at this
      exact this
    · exact silent_trace (hsilent h) he live message recipient ho

end

/-! ## Customers who have opted out -/

/-- The guardrail withholds every charge that a decision calls for, by the windows of the
    credentials. -/
def AllWithheld (adapter : ProcessorAdapter) (p : ExecuteParams)
    (credentials : Map String CredentialCount) : RecoveryActionKind → Prop
  | .retry => retryAllowed p (codeOf p)
      (credentialWindow credentials (credentialKey p.invoice.id p.method) p.nowIso) = false
  | .cardUpdateComms =>
    ∀ m, refreshedFor adapter p = some m ∨ backupFor adapter p = some m →
      freshAllowed p.attemptNumber m
        (credentialWindow credentials (credentialKey p.invoice.id m) p.nowIso) = false
  | .suppress => True

section

variable {σ : Type} (s : RecoveryCaseService) (env : Env σ)

theorem backupDealt_eq_nil {adapter : ProcessorAdapter} {p : ExecuteParams} {stamp : String}
    {t : Tally} : (backupDealt s adapter p stamp t).asked = [] ↔
      ∀ m, backupFor adapter p = some m → freshReply s adapter p m t = .withheld := by
  unfold backupDealt
  cases backupFor adapter p with
  | none => simp
  | some m => exact Reply.asked_eq_nil.trans (by simp)

theorem credentialsDealt_eq_nil {adapter : ProcessorAdapter} {p : ExecuteParams}
    {stamp stamp' : String} {t : Tally} :
    (credentialsDealt s adapter p stamp stamp' t).asked = [] ↔
      ∀ m, refreshedFor adapter p = some m ∨ backupFor adapter p = some m →
        freshReply s adapter p m t = .withheld := by
  unfold credentialsDealt
  cases hu : refreshedFor adapter p with
  | none => simpa using backupDealt_eq_nil s
  | some u =>
    simp only [Option.some.injEq]
    cases hr : freshReply s adapter p u t with
    | withheld =>
      simp only [Reply.concludes, Bool.false_eq_true, if_false, Reply.dealt, Reply.asked,
        Reply.after, List.nil_append]
      rw [backupDealt_eq_nil]
      constructor
      · rintro h m (rfl | hm)
        · exact hr
        · exact h m hm
      · exact fun h m hm => h m (.inr hm)
    | _ =>
      refine iff_of_false ?_ fun h => ?_
      · split <;> simp [Reply.dealt, Reply.asked]
      · have := h u (.inl rfl)
        rw [hr] at this
        cases this

/-- Of an execution in live mode nothing is asked exactly if all of its charges are withheld. -/
theorem executedDealt_eq_nil {adapter : ProcessorAdapter} {p : ExecuteParams}
    (hs : p.shadow = false) {stamp stamp' : String} {t : Tally} {action : RecoveryActionKind} :
    (executedDealt s adapter p stamp stamp' t action).asked = [] ↔
      AllWithheld adapter p t.credentials action := by
  cases action with
  | suppress => exact iff_of_true rfl trivial
  | retry =>
    refine Reply.asked_eq_nil.trans ((replyTo_eq_withheld s).trans ?_)
    rw [hs, Bool.not_false, Bool.and_true]
    rfl
  | cardUpdateComms =>
    simp only [executedDealt, hs, Bool.false_eq_true, if_false]
    rw [credentialsDealt_eq_nil]
    exact forall₂_congr fun m _ => replyTo_eq_withheld s

/-- The execution asks for no charge, and hands no message to a sender. -/
def LeftAlone (adapter : ProcessorAdapter) (p : ExecuteParams) (w : World σ) : Prop :=
  (s.executeRecovery adapter p).observed (World.handle env) askedCharge w = [] ∧
  ∀ e ∈ (s.executeRecovery adapter p).trace (World.handle env) w,
    ∀ live message recipient, e.op ≠ .send live message recipient

/-- A live execution leaves a customer who has opted out alone exactly if the guardrail withholds
    its charges for another reason. -/
theorem leftAlone_iff {customer : Customer} (ho : customer.consent.globallyOptedOut)
    (adapter : ProcessorAdapter) (p : ExecuteParams) (hc : p.customer = some customer)
    (hs : p.shadow = false) (w : World σ) :
    LeftAlone s env adapter p w ↔
      AllWithheld adapter p w.credentialAttempts (decisionAt env w p).action := by
  obtain ⟨_, _, stamp, stamp', -, -, -, -, ha⟩ := executeRecovery_asks s env adapter p w
  rw [LeftAlone, ha.sees, executedDealt_eq_nil s hs]
  refine and_iff_left ?_
  intro e he live message recipient hop
  obtain ⟨-, -, e', -, hp⟩ := (executeRecovery_trace s env adapter p w).1 e he _ _ _ hop
  obtain ⟨c, hc', hopt, -⟩ := hp.spec.1
  obtain rfl : customer = c := Option.some.inj (hc.symm.trans hc')
  rw [ho] at hopt
  cases hopt

end

namespace Sample

/-- A customer who has opted out of all contact. -/
def optedOut : Customer := { customer with consent := { customer.consent with globallyOptedOut := true } }

/-- An attempt on the sample invoice, carrying this customer. -/
def attemptOn (n : ℕ) : ExecuteParams := { attempt with customer := some optedOut, attemptNumber := n }

end Sample

/-- The customer is left alone in the ninth attempt, which the cap withholds. -/
theorem leftAlone_ninth :
    LeftAlone Sample.service Sample.env Sample.stripe (Sample.attemptOn 9) Sample.world := by
  refine (leftAlone_iff Sample.service Sample.env rfl Sample.stripe (Sample.attemptOn 9) rfl rfl
    Sample.world).2 ?_
  show retryAllowed _ _ _ = false
  decide +kernel

/-- In the first attempt the card of the customer is charged. -/
theorem leftAlone_fails : Sample.optedOut.consent.globallyOptedOut = true ∧
    ¬ LeftAlone Sample.service Sample.env Sample.stripe (Sample.attemptOn 1) Sample.world := by
  refine ⟨rfl, fun h => absurd h.1 ?_⟩
  decide +kernel

/-! ## Quiet hours -/

section

variable {σ : Type} (s : RecoveryCaseService) (env : Env σ) (shadow : Bool)

/-- A message handed to a live sender, as the instant at which that happens. -/
def liveSend : Performed ServiceSig (World σ) → Option ℤ
  | ⟨.send true _ _, _, w⟩ => some (w.clock 0)
  | _ => none

namespace SagaExecution

variable (e : SagaExecution (SagaHost σ))

/-- What an execution performs. -/
def trace : List (Performed ServiceSig (World σ)) :=
  (s.executeRecovery e.adapter (e.params shadow)).trace (World.handle env) (e.world s env)

/-- The instants of an execution: what the clock says at its operations. -/
def instants : List ℤ := (e.trace s env shadow).map fun x => x.world.clock 0

/-- The instants at which an execution hands a message to a live sender. -/
def liveSends : List ℤ := (e.trace s env shadow).filterMap liveSend

/-- The execution asks a customer who consents for another card in live mode, and messages are
    live. -/
def Messages : Prop :=
  e.action s env shadow = .cardUpdateComms ∧ shadow = false ∧ s.dunningSender ∧ s.liveComms ∧
    Consents e.input.attempt.customer

/-- Whenever the hour that the guardrail is given, the one of the saga's input or else that of an
    instant of the execution in UTC, is not quiet, the hour of the customer is not quiet either. -/
def HourFits (hourAt : ℤ → ℤ) : Prop :=
  ∀ t ∈ e.instants s env shadow,
    inQuietHours (e.input.attempt.localHour.getD (Date.hours t))
      defaultGuardrailPolicy.quietHours = false →
    ∀ t' ∈ e.instants s env shadow,
      inQuietHours (hourAt t') defaultGuardrailPolicy.quietHours = false

instance : Decidable (e.Messages s env shadow) :=
  inferInstanceAs (Decidable (e.action s env shadow = .cardUpdateComms ∧ shadow = false ∧
    s.dunningSender ∧ s.liveComms ∧ Consents e.input.attempt.customer))

instance (hourAt : ℤ → ℤ) : Decidable (e.HourFits s env shadow hourAt) :=
  inferInstanceAs (Decidable (∀ t ∈ e.instants s env shadow, _ → ∀ t' ∈ _, _))

/-- A live message of an execution whose hour fits is sent outside the quiet hours. -/
theorem quiet_of_hourFits {hourAt : ℤ → ℤ}
    (h : e.Messages s env shadow → e.HourFits s env shadow hourAt) :
    ∀ t ∈ e.liveSends s env shadow,
      inQuietHours (hourAt t) defaultGuardrailPolicy.quietHours = false := by
  intro t ht
  obtain ⟨x, hx, hsend⟩ := List.mem_filterMap.1 ht
  obtain ⟨hgated, hnone⟩ := executeRecovery_trace s env e.adapter (e.params shadow) (e.world s env)
  obtain ⟨live, message, recipient, hop, htime⟩ : ∃ live message recipient,
      x.op = .send live message recipient ∧ live = true ∧ x.world.clock 0 = t := by
    obtain ⟨o, r, w⟩ := x
    cases o with
    | send live message recipient =>
      cases live with
      | false => cases hsend
      | true => exact ⟨true, message, recipient, rfl, rfl, Option.some.inj hsend⟩
    | _ => cases hsend
  obtain ⟨hs, hlive, x', hx', hpermits⟩ := hgated x hx live message recipient hop
  have hmessages : e.Messages s env shadow := by
    by_contra hn
    refine hnone (fun hc => hn ⟨hc.1, hc.2, hs, ?_, hpermits.spec.1⟩) x hx live message recipient hop
    rw [← hlive]
    exact htime.1
  have hquiet := h hmessages (x'.world.clock 0) (List.mem_map_of_mem hx') hpermits.spec.2
  exact hquiet t (List.mem_map.2 ⟨x, hx, htime.2⟩)

end SagaExecution

/-- Messages are handed to live senders only outside the quiet hours of the customer. -/
def KeepsQuiet (hourAt : ℤ → ℤ) (run : List (SagaExecution (SagaHost σ))) : Prop :=
  ∀ e ∈ run, ∀ t ∈ e.liveSends s env shadow,
    inQuietHours (hourAt t) defaultGuardrailPolicy.quietHours = false

instance (hourAt : ℤ → ℤ) : DecidablePred (KeepsQuiet s env shadow hourAt) := fun run =>
  inferInstanceAs (Decidable (∀ e ∈ run, ∀ t ∈ e.liveSends s env shadow, _))

/-- In every run of a saga whose messages find the hour of the guardrail fitting the customer's, a
    message is handed to a live sender only outside the quiet hours of the customer. -/
theorem quiet_hours_kept (hourAt : ℤ → ℤ) (config : SchedulerConfig) (attempt : SagaAttempt)
    (H : SagaHost σ)
    (h : ∀ e ∈ sagaRun s env shadow config attempt H,
      e.Messages s env shadow → e.HourFits s env shadow hourAt) :
    KeepsQuiet s env shadow hourAt (sagaRun s env shadow config attempt H) :=
  fun e he => e.quiet_of_hourFits s env shadow (h e he)

end

namespace Sample

/-- The service with live messages. -/
def messaging : RecoveryCaseService :=
  { service with
    dunningConfig := some { updateCardUrl := fun _ _ => "https://pay", optOutInstruction := "stop" }
    dunningSender := true
    liveComms := true }

/-- The surroundings with an agent and a provider. -/
def mailing : Env Unit :=
  { wary with
    compose := fun ctx => some { channel := ctx.channel, body := "card", generatedBy := .template }
    send := fun _ _ _ => { status := .sent, provider := "mail" } }

/-- A host at noon in UTC, on which the card of the case is one attempt below its cap. -/
def noon : SagaHost Unit where
  world := { World.init () fun _ => 1786881600000 with
    credentialAttempts := Map.empty.set "inv_1:tok_1" ⟨7, "2026-08-15T12:00:00.000Z"⟩ }
  adapters _ := declining .insufficientFunds
  others _ := []

end Sample

/-- A customer in UTC gets the message at noon. -/
theorem quiet_hours_kept_utc :
    KeepsQuiet Sample.messaging Sample.mailing false Date.hours
      (sagaRun Sample.messaging Sample.mailing false defaultSchedulerConfig Sample.unbranded
        Sample.noon) :=
  quiet_hours_kept Sample.messaging Sample.mailing false Date.hours defaultSchedulerConfig
    Sample.unbranded Sample.noon (by decide +kernel)

/-- A customer ten hours behind, whose hour the saga is not given, gets it at two in the night. -/
theorem quiet_hours_kept_fails :
    let hourAt : ℤ → ℤ := fun t => Date.hours (t - 36000000)
    (∀ h ∈ Sample.unbranded.localHour, h = hourAt (Sample.noon.world.clock 0)) ∧
    ¬ KeepsQuiet Sample.messaging Sample.mailing false hourAt
      (sagaRun Sample.messaging Sample.mailing false defaultSchedulerConfig Sample.unbranded
        Sample.noon) := by
  decide +kernel

end AX10M
