/-
  What an execution asks of the processor.

  The charges an execution places depend on the tally of the world alone: the charges
  answered so far and the attempts counted on the credentials.  `executedDealt` computes
  them, with the tally the execution leaves, and `executeRecovery_runs` says that the code
  asks for these charges and no others, rejected ones included.
-/
import AX10M.Effects.Trace
import AX10M.Recovery.Charging

namespace AX10M

open Js Effects

/-- A charge asked of the processor, with its answer: `none` if the call was rejected. -/
structure AskedCharge where
  invoice : Invoice
  method : PaymentMethod
  key : String
  answer : Option ChargeResult
  deriving DecidableEq

/-- A performed operation, as a charge asked of the processor. -/
def askedCharge {W : Type} : Performed ServiceSig W → Option AskedCharge
  | ⟨.attemptCharge _ invoice method key, answer, _⟩ => some ⟨invoice, method, key, answer⟩
  | _ => none

/-! ## The tally -/

/-- The charges answered so far, and the attempts counted on the credentials. -/
structure Tally where
  charges : List ChargeCall
  credentials : Map String CredentialCount

namespace Tally

/-- An answered charge, counted on its credential. -/
def count (t : Tally) (c : ChargeCall) (key stamp : String) : Tally :=
  ⟨t.charges ++ [c], credentialIncrement t.credentials key stamp⟩

@[simp] theorem count_charges (t : Tally) (c : ChargeCall) (key stamp : String) :
    (t.count c key stamp).charges = t.charges ++ [c] := rfl

@[simp] theorem count_credentials (t : Tally) (c : ChargeCall) (key stamp : String) :
    (t.count c key stamp).credentials = credentialIncrement t.credentials key stamp := rfl

end Tally

/-- The tally of a world. -/
def World.tally {σ : Type} (w : World σ) : Tally := ⟨w.charges, w.credentialAttempts⟩

/-- The operation leaves the tally alone. -/
def Untallied : ServiceOp → Prop
  | .credentialIncrement _ _ | .attemptCharge _ _ _ _ => False
  | _ => True

/-- The operation leaves the tally alone, and is never rejected. -/
def Smooth (o : ServiceOp) : Prop :=
  Untallied o ∧ match o with
    | .compose _ | .throw _ => False
    | _ => True

theorem Untallied.not_asked {W : Type} (e : Performed ServiceSig W) (h : Untallied e.op) :
    askedCharge e = none := by
  obtain ⟨o, r, w⟩ := e
  cases o with
  | attemptCharge a i m k => exact h.elim
  | _ => rfl

/-- Operations of a case that charge nothing leave the tally alone. -/
theorem CaseOp.untallied {s : RecoveryCaseService} {invoice : Invoice}
    {types : List LedgerEventType} (o : ServiceOp) (h : CaseOp s invoice types none o) :
    Untallied o := by
  cases o with
  | credentialIncrement k t => exact absurd rfl h.1
  | attemptCharge a i m k =>
    obtain ⟨n, hn, -⟩ := h
    exact absurd hn (by simp)
  | _ => trivial

section

variable {σ : Type} (s : RecoveryCaseService) (env : Env σ)

theorem untallied_tally (o : ServiceOp) (w : World σ) (h : Untallied o) :
    (World.handle env o w).2.tally = w.tally := by
  cases o with
  | credentialIncrement k t => exact h.elim
  | attemptCharge a i m k => exact h.elim
  | _ => rfl

theorem smooth_accepted (o : ServiceOp) (w : World σ) (h : Smooth o) :
    (World.handle env o w).1.isSome := by
  obtain ⟨hu, ha⟩ := h
  cases o with
  | attemptCharge a i m k => exact hu.elim
  | compose ctx => exact ha.elim
  | throw m => exact ha.elim
  | _ => rfl

/-- A run, with the charges it asks for. -/
abbrev Asks {α : Type} (p : Async α) (w : World σ) (l : List AskedCharge) (res : Option α)
    (w' : World σ) : Prop :=
  Prog.Runs (World.handle env) askedCharge p w l res w'

/-- Code that leaves the tally alone asks for nothing. -/
theorem untallied_asks {α : Type} {p : Async α} (hp : p.Uses Untallied) (w : World σ) :
    ∃ res w', w'.tally = w.tally ∧ Asks env p w [] res w' :=
  ⟨_, _, Prog.exec_frame World.tally (untallied_tally env) hp w,
    Prog.runs_of_uses Untallied.not_asked hp w⟩

/-- Code that leaves the tally alone and is never rejected returns, and asks for nothing. -/
theorem smooth_asks {α : Type} {p : Async α} (hp : p.Uses Smooth) (w : World σ) :
    ∃ a w', w'.tally = w.tally ∧ Asks env p w [] (some a) w' := by
  obtain ⟨res, w', ht, hr⟩ := untallied_asks env (hp.imp fun _ ho => ho.1) w
  obtain ⟨a, w'', he⟩ := Prog.exec_returns (smooth_accepted env) hp w
  obtain ⟨rfl, rfl⟩ := Prod.mk.inj (hr.ends.symm.trans he)
  exact ⟨a, w', ht, hr⟩

theorem newDateIso_smooth : newDateIso.Uses Smooth := ⟨⟨trivial, trivial⟩, fun _ => trivial⟩

theorem appendNow_smooth (merchantId : String) (type : LedgerEventType) (detail : Record) :
    (appendNow merchantId type detail).Uses Smooth :=
  ⟨⟨trivial, trivial⟩, fun _ => ⟨⟨trivial, trivial⟩, fun _ => trivial⟩⟩

theorem recordOutcomeNow_smooth (invoice : Invoice) (method : PaymentMethod)
    (outcome : ChargeOutcome) :
    (RecoveryCaseService.recordOutcomeNow invoice method outcome).Uses Smooth := by
  unfold RecoveryCaseService.recordOutcomeNow
  split
  · trivial
  · exact newDateIso_smooth.bind fun _ => ⟨⟨trivial, trivial⟩, fun _ => trivial⟩

theorem recordCharge_smooth (adapter : ProcessorAdapter) (invoice : Invoice) (key : String)
    (n : ℕ) (r : ChargeResult) :
    (RecoveryCaseService.recordCharge adapter invoice key n r).Uses Smooth := by
  refine (appendNow_smooth _ _ _).bind fun _ => ?_
  split
  · exact appendNow_smooth _ _ _
  · trivial

/-! ## One charge -/

/-- What became of a charge: the guardrail (or the shadow) withheld it, the processor rejected the
    call, or it was answered. -/
inductive Reply where
  | withheld
  | rejected
  | answered (c : ChargeCall)

/-- What becomes of a charge that the guardrail allows or not. -/
def replyTo (allowed : Bool) (adapter : ProcessorAdapter) (invoice : Invoice)
    (method : PaymentMethod) (attempt : ℕ) (t : Tally) : Reply :=
  if allowed then
    match processorCharge t.charges adapter invoice method (s.chargeKey invoice method attempt) with
    | some c => .answered c
    | none => .rejected
  else .withheld

/-- A charge is withheld exactly if the guardrail does not allow it. -/
theorem replyTo_eq_withheld {allowed : Bool} {adapter : ProcessorAdapter} {invoice : Invoice}
    {method : PaymentMethod} {attempt : ℕ} {t : Tally} :
    replyTo s allowed adapter invoice method attempt t = .withheld ↔ allowed = false := by
  unfold replyTo
  cases allowed with
  | false => simp
  | true =>
    rw [if_pos rfl]
    split <;> simp

namespace Reply

/-- What was asked of the processor. -/
def asked (invoice : Invoice) (method : PaymentMethod) (key : String) : Reply → List AskedCharge
  | withheld => []
  | rejected => [⟨invoice, method, key, none⟩]
  | answered c => [⟨invoice, method, key, some c.result⟩]

/-- Only of a charge that is withheld, nothing is asked. -/
theorem asked_eq_nil {invoice : Invoice} {method : PaymentMethod} {key : String} {r : Reply} :
    r.asked invoice method key = [] ↔ r = .withheld := by
  cases r <;> simp [asked]

/-- The tally afterwards: an answered charge is counted on its credential. -/
def after (key stamp : String) (t : Tally) : Reply → Tally
  | answered c => t.count c key stamp
  | _ => t

/-- The outcome that the attempt returns, unless the call was rejected. -/
def returns : Reply → Option (Option ChargeOutcome)
  | withheld => some none
  | rejected => none
  | answered c => some (some c.result.outcome)

end Reply

/-- The stamp of a charge is the time of the saga, if it gives one. -/
def StampOf (nowIso : Option String) (stamp : String) : Prop := ∀ t ∈ nowIso, t = stamp

theorem stampOr_asks (nowIso : Option String) (w : World σ) :
    ∃ stamp w', StampOf nowIso stamp ∧ w'.tally = w.tally ∧
      Asks env (RecoveryCaseService.stampOr nowIso) w [] (some stamp) w' := by
  cases nowIso with
  | some t => exact ⟨t, w, by simp [StampOf], rfl, .pure t⟩
  | none =>
    obtain ⟨t, w', ht, hr⟩ := smooth_asks env newDateIso_smooth w
    exact ⟨t, w', by simp [StampOf], ht, hr⟩

theorem chargeLive_asks (adapter : ProcessorAdapter) (invoice : Invoice) (method : PaymentMethod)
    (n : ℕ) (nowIso : Option String) (w : World σ) :
    let r := replyTo s true adapter invoice method n w.tally
    ∃ res w' stamp, StampOf nowIso stamp ∧
      w'.tally = r.after (credentialKey invoice.id method) stamp w.tally ∧
      Option.map some res = r.returns ∧
      Asks env (s.chargeLive adapter invoice method n nowIso) w
        (r.asked invoice method (s.chargeKey invoice method n)) res w' := by
  intro r
  unfold RecoveryCaseService.chargeLive
  simp only [call, Prog.bind_eq, Prog.op_bind, Prog.pure_bind]
  set w₁ : World σ := { w with
    attempts := w.attempts.set invoice.id (max ((w.attempts.get invoice.id).getD 0) n) } with hw₁
  -- reading and writing the attempts of the invoice is not seen
  suffices hs : ∃ res w' stamp, StampOf nowIso stamp ∧
      w'.tally = r.after (credentialKey invoice.id method) stamp w.tally ∧
      Option.map some res = r.returns ∧
      Asks env (.op (.attemptCharge adapter invoice method (s.chargeKey invoice method n)) fun
        result => (RecoveryCaseService.stampOr nowIso).bind fun stamp =>
          .op (.credentialIncrement (credentialKey invoice.id method) stamp) fun _ =>
            (RecoveryCaseService.recordCharge adapter invoice (s.chargeKey invoice method n) n
              result).bind fun _ =>
            (RecoveryCaseService.recordOutcomeNow invoice method result.outcome).bind fun _ =>
              .pure result.outcome) w₁
        (r.asked invoice method (s.chargeKey invoice method n)) res w' by
    obtain ⟨res, w', stamp, hst, ht, hres, hr⟩ := hs
    exact ⟨res, w', stamp, hst, ht, hres, .op (v := w) rfl (.op (v := w₁) rfl hr)⟩
  cases hc : processorCharge w.charges adapter invoice method (s.chargeKey invoice method n) with
  | none =>
    have hr : r = .rejected := by simp [r, replyTo, World.tally, hc]
    have ho : World.handle env (.attemptCharge adapter invoice method
        (s.chargeKey invoice method n)) w₁ = (none, w₁) := by
      simp only [World.handle, hw₁, hc]
    rw [hr]
    exact ⟨none, w₁, nowIso.getD "", fun t ht => by simp [Option.mem_def.1 ht], rfl, rfl,
      .op_rejected ho _⟩
  | some c =>
    have hr : r = .answered c := by simp [r, replyTo, World.tally, hc]
    set w₂ : World σ := { w₁ with charges := w.charges ++ [c] } with hw₂
    have ho : World.handle env (.attemptCharge adapter invoice method
        (s.chargeKey invoice method n)) w₁ = (some c.result, w₂) := by
      simp only [World.handle, hw₁, hw₂, hc]
    obtain ⟨stamp, w₃, hst, h₃, hr₃⟩ := stampOr_asks env nowIso w₂
    set w₄ : World σ := { w₃ with
      credentialAttempts := credentialIncrement w₃.credentialAttempts
        (credentialKey invoice.id method) stamp } with hw₄
    obtain ⟨_, w₅, h₅, hr₅⟩ := smooth_asks env (recordCharge_smooth adapter invoice
      (s.chargeKey invoice method n) n c.result) w₄
    obtain ⟨_, w₆, h₆, hr₆⟩ := smooth_asks env
      (recordOutcomeNow_smooth invoice method c.result.outcome) w₅
    rw [hr]
    refine ⟨some c.result.outcome, w₆, stamp, hst, ?_, rfl, ?_⟩
    · have hcred : w₃.credentialAttempts = w.credentialAttempts := congrArg Tally.credentials h₃
      have hch : w₃.charges = w.charges ++ [c] := congrArg Tally.charges h₃
      rw [h₆, h₅, hw₄]
      simp [World.tally, Reply.after, Tally.count, hcred, hch]
    · refine .op ho (.bind hr₃ (.op (v := w₄) rfl (.bind hr₅ ?_)))
      exact .bind hr₆ (.pure _)

theorem attemptRecovery_asks (adapter : ProcessorAdapter) (invoice : Invoice)
    (method : PaymentMethod) (proposed : ProposedAction) (n : ℕ) (nowIso : Option String)
    (shadow : Bool) (w : World σ) :
    let r := replyTo s ((evaluate proposed).isAllow && !shadow) adapter invoice method n w.tally
    ∃ res w' stamp, StampOf nowIso stamp ∧
      w'.tally = r.after (credentialKey invoice.id method) stamp w.tally ∧
      Option.map Prod.snd res = r.returns ∧
      Asks env (s.attemptRecovery adapter invoice method proposed n nowIso shadow) w
        (r.asked invoice method (s.chargeKey invoice method n)) res w' := by
  intro r
  have note : ∀ (type : LedgerEventType) (detail : Record) (res : RecoveryResult),
      r = .withheld → ∃ res' w' stamp, StampOf nowIso stamp ∧
        w'.tally = r.after (credentialKey invoice.id method) stamp w.tally ∧
        Option.map Prod.snd res' = r.returns ∧
        Asks env ((appendNow invoice.merchantId type detail).bind fun _ => .pure (res, none)) w
          (r.asked invoice method (s.chargeKey invoice method n)) res' w' := by
    intro type detail res hr
    obtain ⟨_, w', ht, ha⟩ := smooth_asks env (appendNow_smooth invoice.merchantId type detail) w
    rw [hr]
    exact ⟨some (res, none), w', nowIso.getD "", fun t ht => by simp [Option.mem_def.1 ht], ht, rfl,
      .bind ha (.pure _)⟩
  unfold RecoveryCaseService.attemptRecovery
  cases hd : evaluate proposed with
  | suppress reason message =>
    exact note _ _ _ (by simp [r, replyTo, hd, GuardrailDecision.isAllow])
  | allow =>
    cases shadow with
    | true => exact note _ _ _ (by simp [r, replyTo])
    | false =>
      have hr : r = replyTo s true adapter invoice method n w.tally := by
        simp [r, hd, GuardrailDecision.isAllow]
      obtain ⟨res, w', stamp, hst, ht, hres, ha⟩ :=
        chargeLive_asks s env adapter invoice method n nowIso w
      rw [← hr] at ht hres ha
      refine ⟨res.map fun o => (.attempted, some o), w', stamp, hst, ht, ?_, ?_⟩
      · rw [← hres]
        cases res <;> rfl
      · cases res with
        | none => exact .bind_rejected ha _
        | some o =>
          have := Prog.Runs.bind ha (f := fun o => .pure (RecoveryResult.attempted, some o))
            (.pure _)
          rwa [List.append_nil] at this

/-! ## An execution -/

/-- The charges asked for, and the tally afterwards. -/
structure Dealt where
  asked : List AskedCharge
  tally : Tally

/-- What a charge of an execution comes to. -/
def Reply.dealt (p : ExecuteParams) (m : PaymentMethod) (stamp : String) (t : Tally) (r : Reply) :
    Dealt :=
  ⟨r.asked p.invoice m (s.chargeKey p.invoice m p.attemptNumber),
    r.after (credentialKey p.invoice.id m) stamp t⟩

/-- What becomes of the retry of the card of the case. -/
def retryReply (adapter : ProcessorAdapter) (p : ExecuteParams) (t : Tally) : Reply :=
  replyTo s (retryAllowed p (codeOf p)
      (credentialWindow t.credentials (credentialKey p.invoice.id p.method) p.nowIso) && !p.shadow)
    adapter p.invoice p.method p.attemptNumber t

/-- What becomes of the charge of a fresh credential. -/
def freshReply (adapter : ProcessorAdapter) (p : ExecuteParams) (m : PaymentMethod) (t : Tally) :
    Reply :=
  replyTo s (freshAllowed p.attemptNumber m
      (credentialWindow t.credentials (credentialKey p.invoice.id m) p.nowIso))
    adapter p.invoice m p.attemptNumber t

/-- The backup method of an execution, if it has one. -/
def backupFor (adapter : ProcessorAdapter) (p : ExecuteParams) : Option PaymentMethod :=
  backupOf adapter p (updatedOf adapter p)

/-- The refreshed card of an execution, if it has one. -/
def refreshedFor (adapter : ProcessorAdapter) (p : ExecuteParams) : Option PaymentMethod :=
  RecoveryCaseService.refreshed p (updatedOf adapter p)

/-- The charge of the backup method. -/
def backupDealt (adapter : ProcessorAdapter) (p : ExecuteParams) (stamp : String) (t : Tally) :
    Dealt :=
  match backupFor adapter p with
  | none => ⟨[], t⟩
  | some m => (freshReply s adapter p m t).dealt s p m stamp t

/-- After this reply no further credential is charged: the call was rejected, or the charge
    succeeded. -/
def Reply.concludes : Reply → Bool
  | withheld => false
  | rejected => true
  | answered c => c.result.outcome = .succeeded

/-- The charges of the refreshed card and of the backup method. -/
def credentialsDealt (adapter : ProcessorAdapter) (p : ExecuteParams) (stamp stamp' : String)
    (t : Tally) : Dealt :=
  match refreshedFor adapter p with
  | none => backupDealt s adapter p stamp' t
  | some u =>
    let r := freshReply s adapter p u t
    let d := r.dealt s p u stamp t
    if r.concludes then d
    else ⟨d.asked ++ (backupDealt s adapter p stamp' d.tally).asked,
      (backupDealt s adapter p stamp' d.tally).tally⟩

/-- The charges of an execution whose decision is the given action. -/
def executedDealt (adapter : ProcessorAdapter) (p : ExecuteParams) (stamp stamp' : String)
    (t : Tally) : RecoveryActionKind → Dealt
  | .retry => (retryReply s adapter p t).dealt s p p.method stamp t
  | .cardUpdateComms =>
    if p.shadow then ⟨[], t⟩ else credentialsDealt s adapter p stamp stamp' t
  | .suppress => ⟨[], t⟩

/-! ### The methods of an execution -/

section

variable {s} {adapter : ProcessorAdapter} {p : ExecuteParams} {u m : PaymentMethod}
  {a : AskedCharge} {stamp stamp' : String} {t : Tally}

/-- A refreshed card is another credential. -/
theorem refreshedFor_token (h : refreshedFor adapter p = some u) : u.token ≠ p.method.token := by
  simpa using (Option.filter_eq_some_iff.1 h).2

/-- A backup method is neither the card of the case nor the refreshed one. -/
theorem backupFor_id (h : backupFor adapter p = some m) :
    m.id ≠ p.method.id ∧ ∀ u, refreshedFor adapter p = some u → m.id ≠ u.id := by
  obtain ⟨c, -, hm⟩ := Option.bind_eq_some_iff.1 h
  have hm := List.find?_some hm
  simp only [decide_eq_true_eq] at hm
  exact ⟨hm.1, fun u hu => hm.2 u (Option.filter_eq_some_iff.1 hu).1⟩

theorem Reply.asked_method {invoice : Invoice} {key : String} {r : Reply}
    (h : a ∈ r.asked invoice m key) : a.method = m := by
  cases r with
  | withheld => cases h
  | _ => rw [List.mem_singleton.1 h]

theorem backupDealt_method (h : a ∈ (backupDealt s adapter p stamp t).asked) :
    backupFor adapter p = some a.method := by
  unfold backupDealt at h
  cases hb : backupFor adapter p with
  | none => simp [hb] at h
  | some m =>
    rw [hb] at h
    rw [Reply.asked_method h]

theorem credentialsDealt_method (h : a ∈ (credentialsDealt s adapter p stamp stamp' t).asked) :
    refreshedFor adapter p = some a.method ∨ backupFor adapter p = some a.method := by
  unfold credentialsDealt at h
  cases hu : refreshedFor adapter p with
  | none =>
    rw [hu] at h
    exact .inr (backupDealt_method h)
  | some u =>
    rw [hu] at h
    simp only [] at h
    split at h
    · exact .inl (by rw [Reply.asked_method h])
    · rcases List.mem_append.1 h with h | h
      · exact .inl (by rw [Reply.asked_method h])
      · exact .inr (backupDealt_method h)

end

theorem chargeFresh_asks (adapter : ProcessorAdapter) (p : ExecuteParams)
    (features : RecoveryFeatures) (m : PaymentMethod) (via : String) (w : World σ) :
    ∃ res w' stamp, StampOf p.nowIso stamp ∧
      w'.tally = ((freshReply s adapter p m w.tally).dealt s p m stamp w.tally).tally ∧
      res = (freshReply s adapter p m w.tally).returns ∧
      Asks env (s.chargeFresh adapter p features m via) w
        ((freshReply s adapter p m w.tally).dealt s p m stamp w.tally).asked res w' := by
  unfold RecoveryCaseService.chargeFresh
  simp only [call, Prog.bind_eq, Prog.op_bind, Prog.pure_bind]
  obtain ⟨_, w₁, h₁, hr₁⟩ := smooth_asks env (appendNow_smooth p.invoice.merchantId
    .recoveryPlanned [("invoiceId", .str p.invoice.id), ("action", .str via),
      ("methodRef", .str m.processorRef)]) w
  set w₂ : World σ := { w₁ with clock := fun n => w₁.clock (n + 1) } with hw₂
  have h₂ : w₂.tally = w.tally := h₁
  have hcred : w₁.credentialAttempts = w.tally.credentials := congrArg Tally.credentials h₁
  obtain ⟨res, w', stamp, hst, ht, hres, ha⟩ := attemptRecovery_asks s env adapter p.invoice m
    (RecoveryCaseService.freshAction features p.attemptNumber m
      (credentialWindow w₁.credentialAttempts (credentialKey p.invoice.id m) p.nowIso)
      (Date.hours (w₁.clock 0))) p.attemptNumber p.nowIso false w₂
  rw [evaluate_freshAction, Bool.not_false, Bool.and_true, h₂, hcred] at ht hres ha
  refine ⟨res.map Prod.snd, w', stamp, hst, ht, hres, ?_⟩
  refine .bind hr₁ (.op (v := w₁) rfl (.op (v := w₂) rfl ?_))
  change Asks env (Prog.bind (s.attemptRecovery adapter p.invoice m
    (RecoveryCaseService.freshAction features p.attemptNumber m
      (credentialWindow w₁.credentialAttempts (credentialKey p.invoice.id m) p.nowIso)
      (Date.hours (w₁.clock 0))) p.attemptNumber p.nowIso false) fun exec => .pure exec.2)
    w₂ _ _ w'
  rw [hcred]
  cases res with
  | none => exact .bind_rejected ha _
  | some e =>
    have := Prog.Runs.bind ha (f := fun e => .pure e.2) (.pure _)
    rwa [List.append_nil] at this

theorem alternateRail_asks (adapter : ProcessorAdapter) (p : ExecuteParams)
    (features : RecoveryFeatures) (w : World σ) :
    ∃ res w' stamp, StampOf p.nowIso stamp ∧
      w'.tally = (backupDealt s adapter p stamp w.tally).tally ∧
      Asks env (s.alternateRail adapter p features (updatedOf adapter p)) w
        (backupDealt s adapter p stamp w.tally).asked res w' := by
  have none_left : backupFor adapter p = none → ∃ res w' stamp, StampOf p.nowIso stamp ∧
      w'.tally = (backupDealt s adapter p stamp w.tally).tally ∧
      Asks env (.pure false) w (backupDealt s adapter p stamp w.tally).asked res w' := by
    intro hb
    refine ⟨some false, w, p.nowIso.getD "", fun t ht => by simp [Option.mem_def.1 ht], ?_, ?_⟩
    · rw [backupDealt, hb]
    · rw [backupDealt, hb]
      exact .pure false
  unfold RecoveryCaseService.alternateRail
  cases hc : p.customer with
  | none => exact none_left (by simp [backupFor, backupOf, hc])
  | some customer =>
    simp only [call, Prog.bind_eq, Prog.op_bind, Prog.pure_bind]
    have hb : backupFor adapter p = RecoveryCaseService.backupMethod p (updatedOf adapter p)
        ((adapter.listPaymentMethods customer).getD []) := by
      simp [backupFor, backupOf, hc]
    -- the look-up of the stored methods is not seen
    suffices hs : ∃ res w' stamp, StampOf p.nowIso stamp ∧
        w'.tally = (backupDealt s adapter p stamp w.tally).tally ∧
        Asks env (match RecoveryCaseService.backupMethod p (updatedOf adapter p)
            ((adapter.listPaymentMethods customer).getD []) with
          | none => .pure false
          | some backup => (s.chargeFresh adapter p features backup "alternate_rail").bind
            fun outcome => .pure (outcome = some .succeeded)) w
          (backupDealt s adapter p stamp w.tally).asked res w' by
      obtain ⟨res, w', stamp, hst, ht, ha⟩ := hs
      exact ⟨res, w', stamp, hst, ht, .op (v := w) rfl ha⟩
    cases hm : RecoveryCaseService.backupMethod p (updatedOf adapter p)
        ((adapter.listPaymentMethods customer).getD []) with
    | none => exact none_left (hb.trans hm)
    | some m =>
      obtain ⟨res, w', stamp, hst, ht, -, ha⟩ :=
        chargeFresh_asks s env adapter p features m "alternate_rail" w
      refine ⟨res.map fun o => decide (o = some .succeeded), w', stamp, hst, ?_, ?_⟩
      · rw [backupDealt, hb, hm]
        exact ht
      · rw [backupDealt, hb, hm]
        cases res with
        | none => exact .bind_rejected ha _
        | some o =>
          have := Prog.Runs.bind ha
            (f := fun o : Option ChargeOutcome => .pure (decide (o = some .succeeded))) (.pure _)
          rwa [List.append_nil] at this

theorem executeCredentialRecovery_asks (adapter : ProcessorAdapter) (p : ExecuteParams)
    (features : RecoveryFeatures) (w : World σ) :
    ∃ res w' stamp stamp', StampOf p.nowIso stamp ∧ StampOf p.nowIso stamp' ∧
      w'.tally = (credentialsDealt s adapter p stamp stamp' w.tally).tally ∧
      Asks env (s.executeCredentialRecovery adapter p features) w
        (credentialsDealt s adapter p stamp stamp' w.tally).asked res w' := by
  unfold RecoveryCaseService.executeCredentialRecovery
  simp only [call, Prog.bind_eq, Prog.op_bind, Prog.pure_bind]
  -- the look-up of the refreshed card is not seen
  suffices hs : ∃ res w' stamp stamp', StampOf p.nowIso stamp ∧ StampOf p.nowIso stamp' ∧
      w'.tally = (credentialsDealt s adapter p stamp stamp' w.tally).tally ∧
      Asks env (match refreshedFor adapter p with
        | none => s.alternateRail adapter p features (updatedOf adapter p)
        | some u => (s.chargeFresh adapter p features u "card_refresh").bind fun outcome =>
          if outcome = some .succeeded then .pure true
          else s.alternateRail adapter p features (updatedOf adapter p)) w
        (credentialsDealt s adapter p stamp stamp' w.tally).asked res w' by
    obtain ⟨res, w', stamp, stamp', hst, hst', ht, ha⟩ := hs
    exact ⟨res, w', stamp, stamp', hst, hst', ht, .op (v := w) rfl ha⟩
  unfold credentialsDealt
  cases hu : refreshedFor adapter p with
  | none =>
    obtain ⟨res, w', stamp, hst, ht, ha⟩ := alternateRail_asks s env adapter p features w
    exact ⟨res, w', stamp, stamp, hst, hst, ht, ha⟩
  | some u =>
    obtain ⟨res, w₁, stamp, hst, ht, hres, ha⟩ :=
      chargeFresh_asks s env adapter p features u "card_refresh" w
    simp only []
    set r := freshReply s adapter p u w.tally with hr
    cases hc : r.concludes with
    | true =>
      simp only [if_true]
      refine ⟨res.map fun _ => true, w₁, stamp, stamp, hst, hst, ht, ?_⟩
      cases hrr : r with
      | withheld => simp [hrr, Reply.concludes] at hc
      | rejected =>
        rw [hrr] at hres ha
        subst hres
        exact .bind_rejected ha _
      | answered c =>
        have ho : c.result.outcome = .succeeded := by simpa [hrr, Reply.concludes] using hc
        rw [hrr] at hres ha
        subst hres
        have hstop : Asks env (if some c.result.outcome = some .succeeded then .pure true
            else s.alternateRail adapter p features (updatedOf adapter p)) w₁ [] (some true) w₁ := by
          rw [ho, if_pos rfl]
          exact .pure true
        have := Prog.Runs.bind ha (f := fun outcome => if outcome = some .succeeded then .pure true
          else s.alternateRail adapter p features (updatedOf adapter p)) hstop
        rwa [List.append_nil] at this
    | false =>
      simp only [Bool.false_eq_true, if_false]
      obtain ⟨o, hro, hos⟩ : ∃ o, res = some o ∧ o ≠ some .succeeded := by
        cases hrr : r with
        | withheld => exact ⟨none, by rw [hres, hrr]; rfl, by simp⟩
        | rejected => simp [hrr, Reply.concludes] at hc
        | answered c =>
          refine ⟨some c.result.outcome, by rw [hres, hrr]; rfl, fun h => ?_⟩
          simp [hrr, Reply.concludes, Option.some.inj h] at hc
      subst hro
      obtain ⟨res', w', stamp', hst', ht', ha'⟩ := alternateRail_asks s env adapter p features w₁
      rw [ht] at ht' ha'
      refine ⟨res', w', stamp, stamp', hst, hst', ht', .bind ha ?_⟩
      rw [if_neg hos]
      exact ha'

/-- An execution that charged without success retried the card of the case. -/
def Retried (adapter : ProcessorAdapter) (p : ExecuteParams) (action : RecoveryActionKind)
    (t : Tally) (out : ExecuteOutcome) : Prop :=
  out.action = .attempted → out.outcome = some .succeeded ∨
    action = .retry ∧ (retryReply s adapter p t).returns = some out.outcome

theorem concludeWithoutRetry_asks (adapter : ProcessorAdapter) (p : ExecuteParams)
    (features : RecoveryFeatures) (decision : RecoveryDecision) (hd : decision.action ≠ .retry)
    (w : World σ) :
    ∃ res w', w'.tally = w.tally ∧ (∀ out ∈ res, out.action ≠ .attempted) ∧
      Asks env (s.concludeWithoutRetry adapter p features decision) w [] res w' := by
  unfold RecoveryCaseService.concludeWithoutRetry
  simp only [Prog.bind_eq]
  have composing : (s.caseMessage p features decision).Uses (CaseOp s p.invoice [] none) :=
    s.caseMessage_uses p features decision
  have delivering : ∀ message, (s.caseDelivery p features message).Uses
      (CaseOp s p.invoice [] none) := fun message => s.caseDelivery_uses p features message
  obtain ⟨res₁, w₁, h₁, hr₁⟩ := untallied_asks env (composing.imp CaseOp.untallied) w
  cases res₁ with
  | none => exact ⟨none, w₁, h₁, by simp, .bind_rejected hr₁ _⟩
  | some message =>
    obtain ⟨res₂, w₂, h₂, hr₂⟩ :=
      untallied_asks env ((delivering message).imp CaseOp.untallied) w₁
    cases res₂ with
    | none => exact ⟨none, w₂, h₂.trans h₁, by simp, .bind hr₁ (.bind_rejected hr₂ _)⟩
    | some delivery =>
      obtain ⟨_, w₃, h₃, hr₃⟩ := smooth_asks env (appendNow_smooth p.invoice.merchantId
        (if decision.action = .cardUpdateComms then .commsSent else .actionSuppressed) _) w₂
      refine ⟨_, w₃, h₃.trans (h₂.trans h₁), ?_, .bind hr₁ (.bind hr₂ (.bind hr₃ (.pure _)))⟩
      rintro out ⟨⟩
      cases ha : decision.action with
      | retry => exact absurd ha hd
      | _ => simp [RecoveryActionKind.outcome]

theorem retryCharge_asks (adapter : ProcessorAdapter) (p : ExecuteParams)
    (features : RecoveryFeatures) (hf : features.declineCode = codeOf p)
    (decision : RecoveryDecision) {credWin : CredentialAttemptWindow} (w : World σ)
    (hwin : credWin = credentialWindow w.tally.credentials
      (credentialKey p.invoice.id p.method) p.nowIso) :
    let r := retryReply s adapter p w.tally
    ∃ res w' stamp, StampOf p.nowIso stamp ∧
      w'.tally = (r.dealt s p p.method stamp w.tally).tally ∧
      (∀ out ∈ res, Option.some out.outcome = r.returns) ∧
      Asks env (s.retryCharge adapter p features credWin decision) w
        (r.dealt s p p.method stamp w.tally).asked res w' := by
  intro r
  unfold RecoveryCaseService.retryCharge
  simp only [Prog.bind_eq]
  obtain ⟨hour, w₁, h₁, hr₁⟩ := smooth_asks env
    (RecoveryCaseService.localHourOr_uses (P := Smooth) ⟨trivial, trivial⟩ p.localHour) w
  obtain ⟨res, w₂, stamp, hst, ht, hres, ha⟩ := attemptRecovery_asks s env adapter p.invoice
    p.method (RecoveryCaseService.retryAction p features credWin hour) p.attemptNumber p.nowIso
    p.shadow w₁
  have hrep : replyTo s ((evaluate (RecoveryCaseService.retryAction p features credWin
      hour)).isAllow && !p.shadow) adapter p.invoice p.method p.attemptNumber w₁.tally = r := by
    rw [evaluate_retryAction, hf, hwin, h₁]
    rfl
  rw [hrep, h₁] at ht
  rw [hrep] at hres ha
  cases res with
  | none => exact ⟨none, w₂, stamp, hst, ht, by simp, .bind hr₁ (.bind_rejected ha _)⟩
  | some e =>
    obtain ⟨_, w₃, h₃, hr₃⟩ := smooth_asks env (RecoveryCaseService.learnOnline_uses
      (P := Smooth) (fun _ _ _ => ⟨trivial, trivial⟩) features decision e.2
      p.invoice.amount.amount) w₂
    refine ⟨some ⟨e.1.outcome, e.2, decision⟩, w₃, stamp, hst, h₃.trans ht, ?_, ?_⟩
    · rintro out ⟨⟩
      exact hres
    · have := Prog.Runs.bind ha (f := fun e => (RecoveryCaseService.learnOnline features decision
        e.2 p.invoice.amount.amount).bind fun _ =>
          .pure (ExecuteOutcome.mk e.1.outcome e.2 decision))
        (.bind hr₃ (.pure _))
      rw [List.append_nil, List.append_nil] at this
      exact .bind hr₁ this

/-- An execution asks for the charges that its decision and the guardrail call for, and for no
    others. -/
theorem executeRecovery_asks (adapter : ProcessorAdapter) (p : ExecuteParams) (w : World σ) :
    ∃ res w' stamp stamp', StampOf p.nowIso stamp ∧ StampOf p.nowIso stamp' ∧
      w'.tally = (executedDealt s adapter p stamp stamp' w.tally
        (decisionAt env w p).action).tally ∧
      (∀ out ∈ res, Retried s adapter p (decisionAt env w p).action w.tally out) ∧
      Asks env (s.executeRecovery adapter p) w (executedDealt s adapter p stamp stamp' w.tally
        (decisionAt env w p).action).asked res w' := by
  set d := decisionAt env w p with hd
  set w₀ : World σ := { w with clock := fun n => w.clock (n + 2) } with hw₀
  set f := w.featureStore.enrich env.featureStore {
    merchantId := p.invoice.merchantId
    customerId := p.invoice.customerId
    bin := p.method.bin
    customerCreatedAt := p.customer.map Customer.createdAt
    firstFailedAt := p.invoice.firstFailedAt
    declineCode := codeOf p
    amountMinor := p.invoice.amount.amount
    currency := p.invoice.amount.currency
    attemptNumber := p.attemptNumber
    now := Date.toISOString (w.clock 0) } with hf
  have hcode : f.declineCode = codeOf p := rfl
  set credWin := credentialWindow w.credentialAttempts (credentialKey p.invoice.id p.method)
    p.nowIso with hwin
  -- what follows the entry of the plan
  have rest : ∀ w₁ : World σ, w₁.tally = w.tally → ∃ res w' stamp stamp',
      StampOf p.nowIso stamp ∧ StampOf p.nowIso stamp' ∧
      w'.tally = (executedDealt s adapter p stamp stamp' w.tally d.action).tally ∧
      (∀ out ∈ res, Retried s adapter p d.action w.tally out) ∧
      Asks env (if d.action ≠ .retry then
          if d.action = .cardUpdateComms ∧ !p.shadow then
            (s.executeCredentialRecovery adapter p f).bind fun ok =>
              if ok then .pure ⟨.attempted, some .succeeded, d⟩
              else s.concludeWithoutRetry adapter p f d
          else s.concludeWithoutRetry adapter p f d
        else s.retryCharge adapter p f credWin d) w₁
        (executedDealt s adapter p stamp stamp' w.tally d.action).asked res w' := by
    intro w₁ h₁
    have concluded : d.action ≠ .retry → ∀ w₂ : World σ, ∃ res w', w'.tally = w₂.tally ∧
        (∀ out ∈ res, Retried s adapter p d.action w.tally out) ∧
        Asks env (s.concludeWithoutRetry adapter p f d) w₂ [] res w' := by
      intro hr w₂
      obtain ⟨res, w', ht, hout, ha⟩ := concludeWithoutRetry_asks s env adapter p f d hr w₂
      exact ⟨res, w', ht, fun out ho hatt => absurd hatt (hout out ho), ha⟩
    have stamp₀ : StampOf p.nowIso (p.nowIso.getD "") := fun t ht => by simp [Option.mem_def.1 ht]
    cases hact : d.action with
    | retry =>
      rw [if_neg (by simp)]
      obtain ⟨res, w', stamp, hst, ht, hout, ha⟩ :=
        retryCharge_asks s env adapter p f hcode d w₁ (show credWin = _ by rw [h₁]; rfl)
      rw [h₁] at ht hout ha
      exact ⟨res, w', stamp, stamp, hst, hst, ht,
        fun out ho _ => .inr ⟨rfl, (hout out ho).symm⟩, ha⟩
    | suppress =>
      rw [if_pos (by simp), if_neg (by simp)]
      obtain ⟨res, w', ht, hout, ha⟩ := concluded (by simp [hact]) w₁
      rw [hact] at hout
      exact ⟨res, w', _, _, stamp₀, stamp₀, ht.trans h₁, hout, ha⟩
    | cardUpdateComms =>
      rw [if_pos (by simp)]
      by_cases hs : p.shadow
      · rw [if_neg (by simp [hs])]
        obtain ⟨res, w', ht, hout, ha⟩ := concluded (by simp [hact]) w₁
        rw [hact] at hout
        refine ⟨res, w', _, _, stamp₀, stamp₀, ?_, hout, ?_⟩
        · simp only [executedDealt, if_pos hs]
          exact ht.trans h₁
        · simp only [executedDealt, if_pos hs]
          exact ha
      · rw [if_pos (by simp [hs])]
        simp only [executedDealt, if_neg hs]
        obtain ⟨res, w₂, stamp, stamp', hst, hst', ht, ha⟩ :=
          executeCredentialRecovery_asks s env adapter p f w₁
        rw [h₁] at ht ha
        cases res with
        | none =>
          exact ⟨none, w₂, stamp, stamp', hst, hst', ht, by simp, .bind_rejected ha _⟩
        | some ok =>
          cases ok with
          | true =>
            refine ⟨some ⟨.attempted, some .succeeded, d⟩, w₂, stamp, stamp', hst, hst', ht, ?_, ?_⟩
            · rintro out ⟨⟩
              exact fun _ => .inl rfl
            · have := Prog.Runs.bind ha (f := fun ok => if ok then
                .pure (ExecuteOutcome.mk .attempted (some .succeeded) d)
                else s.concludeWithoutRetry adapter p f d) (.pure _)
              rwa [List.append_nil] at this
          | false =>
            obtain ⟨res, w', ht', hout, ha'⟩ := concluded (by simp [hact]) w₂
            rw [hact] at hout
            refine ⟨res, w', stamp, stamp', hst, hst', ht'.trans ht, hout, ?_⟩
            have := Prog.Runs.bind ha (f := fun ok => if ok then
              .pure (ExecuteOutcome.mk .attempted (some .succeeded) d)
              else s.concludeWithoutRetry adapter p f d) ha'
            rwa [List.append_nil] at this
  obtain ⟨_, w₁, h₁, hr₁⟩ := smooth_asks env (appendNow_smooth p.invoice.merchantId
    .recoveryPlanned [("invoiceId", .str p.invoice.id), ("action", .str d.action.text),
      ("retryAt", (d.retryAt.map .str).getD .null),
      ("expectedValueMinor", .num d.expectedValueMinor),
      ("rationale", .str d.rationale), ("features", f.json), ("shadow", .bool p.shadow)]) w₀
  obtain ⟨res, w', stamp, stamp', hst, hst', ht, hout, ha⟩ := rest w₁ h₁
  refine ⟨res, w', stamp, stamp', hst, hst', ht, hout, ?_⟩
  -- five operations that read: the clock, the features, the window, the clock, the decision
  exact .op (v := { w with clock := fun n => w.clock (n + 1) }) rfl
    (.op (v := { w with clock := fun n => w.clock (n + 1) }) rfl
      (.op (v := { w with clock := fun n => w.clock (n + 1) }) rfl
        (.op (v := w₀) rfl (.op (v := w₀) rfl (.bind hr₁ ha)))))

end

end AX10M
