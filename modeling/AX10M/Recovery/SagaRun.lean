/-
  A saga over the service: the driver's operations served by the port of the service, in a
  world that goes on between them.

  The clock of the world is any sequence of readings, so a sleep may last any time; other
  requests are served before each operation, and every execution meets the processor as it
  is then.  A rejected activity ends the run.
-/
import AX10M.Recovery.Asked
import AX10M.Recovery.Durable
import AX10M.Scheduler.History

namespace AX10M

open Js Effects

/-! ## The host -/

/-- What a saga runs on: the world of the service, the processors that its executions meet, and
    the requests served before each of its operations. -/
structure SagaHost (σ : Type) where
  world : World σ
  adapters : ℕ → ProcessorAdapter
  others : ℕ → List Request

section

variable {σ : Type} (s : RecoveryCaseService) (env : Env σ) (shadow : Bool)

namespace SagaHost

/-- The host once the requests that come before the next operation are served. -/
def served (H : SagaHost σ) : SagaHost σ :=
  { H with world := serveAll s env H.world (H.others 0), others := fun n => H.others (n + 1) }

/-- The operations of a host: its own, and the two activities of the port of the service. -/
def perform : Handler SagaSig (SagaHost σ)
  | .now, H => (some (Date.toISOString (H.world.clock 0)),
      { H with world := { H.world with clock := fun n => H.world.clock (n + 1) } })
  | .sleepUntil _, H => (some (), H)
  | .plan input, H =>
    let run := (ServiceRecoveryCasePort.plan input).exec (World.handle env) H.world
    (run.1, { H with world := run.2 })
  | .execute input, H =>
    let run := (ServiceRecoveryCasePort.execute s (H.adapters 0) shadow input).exec
      (World.handle env) H.world
    (run.1, { H with world := run.2, adapters := fun n => H.adapters (n + 1) })
  | .throw _, H => (none, H)

/-- The meaning of the driver's operations. -/
def handle : Handler SagaSig (SagaHost σ) := fun o H => perform s env shadow o (H.served s env)

end SagaHost

/-- The executions of a saga. -/
def sagaRun (config : SchedulerConfig) (attempt : SagaAttempt) (H : SagaHost σ) :
    List (SagaExecution (SagaHost σ)) :=
  (runRecoverySaga attempt config).observed (SagaHost.handle s env shadow) executedOp H

/-! ## One execution -/

namespace SagaExecution

variable (e : SagaExecution (SagaHost σ))

/-- The world an execution starts in. -/
def world : World σ := (e.host.served s env).world

/-- The processor it meets. -/
def adapter : ProcessorAdapter := e.host.adapters 0

/-- Its parameters. -/
def params : ExecuteParams := ServiceRecoveryCasePort.params shadow e.input

/-- The action its policy decides on. -/
def action : RecoveryActionKind := (decisionAt env (e.world s env) (e.params shadow)).action

/-- The charges it asks of the processor. -/
def asked : List AskedCharge :=
  (s.executeRecovery e.adapter (e.params shadow)).observed (World.handle env) askedCharge
    (e.world s env)

/-- What becomes of the retry of the card of the case, should it be decided on. -/
def retryReply : Reply := AX10M.retryReply s e.adapter (e.params shadow) (e.world s env).tally

/-- The stamp of its charges. -/
def stamp : String := e.input.nowIso.getD ""

end SagaExecution

/-- The executions of a saga follow each other from the first attempt on. -/
theorem sagaRun_follows (config : SchedulerConfig) (attempt : SagaAttempt) (H : SagaHost σ) :
    Follows config attempt 1 (sagaRun s env shadow config attempt H) :=
  Saga.attempts_follows config attempt _ _ 1 [] H

section

variable {s env shadow} {config : SchedulerConfig} {attempt : SagaAttempt} {H : SagaHost σ}
  {e : SagaExecution (SagaHost σ)}

/-- An execution of a saga is one of its case. -/
theorem sagaRun_attempt (he : e ∈ sagaRun s env shadow config attempt H) :
    e.input.attempt = attempt ∧ e.input.nowIso.isSome :=
  (sagaRun_follows s env shadow config attempt H).attempt_eq e he

/-- The result of an execution of a saga is that of the service. -/
theorem sagaRun_result (he : e ∈ sagaRun s env shadow config attempt H) :
    e.result = ((s.executeRecovery e.adapter (e.params shadow)).exec (World.handle env)
      (e.world s env)).1.map fun out => ⟨mapAction out.action, out.outcome, out.decision⟩ := by
  obtain ⟨⟨o, r, w⟩, hmem, hexec⟩ := List.mem_filterMap.1 he
  cases o with
  | execute input =>
    obtain rfl := Option.some.inj hexec
    have hres := Prog.res_of_mem_trace hmem
    change r = ((ServiceRecoveryCasePort.execute s (w.adapters 0) shadow input).exec
      (World.handle env) (w.served s env).world).1 at hres
    rw [ServiceRecoveryCasePort.execute, Prog.bind_eq, Prog.exec_bind] at hres
    change r = Option.map _ ((s.executeRecovery (w.adapters 0)
      (ServiceRecoveryCasePort.params shadow input)).exec (World.handle env)
        (w.served s env).world).1
    generalize (s.executeRecovery (w.adapters 0) (ServiceRecoveryCasePort.params shadow input)).exec
      (World.handle env) (w.served s env).world = run at hres ⊢
    obtain ⟨_ | out, w'⟩ := run <;> exact hres
  | _ => simp [executedOp] at hexec

/-- The charges an execution of a saga asks for. -/
theorem SagaExecution.asked_eq (ht : e.input.nowIso.isSome) :
    e.asked s env shadow = (executedDealt s e.adapter (e.params shadow) e.stamp e.stamp
      (e.world s env).tally (e.action s env shadow)).asked := by
  obtain ⟨res, w', stamp, stamp', hst, hst', -, -, ha⟩ :=
    executeRecovery_asks s env e.adapter (e.params shadow) (e.world s env)
  obtain ⟨t, ht⟩ := Option.isSome_iff_exists.1 ht
  obtain rfl : t = stamp := hst t ht
  obtain rfl : t = stamp' := hst' t ht
  have : e.stamp = t := by rw [SagaExecution.stamp, ht, Option.getD_some]
  rw [this]
  exact ha.sees

/-- An execution after which the saga went on retried the card of the case, and the charge was
    answered, not as pending. -/
theorem Continued.retried (he : e ∈ sagaRun s env shadow config attempt H)
    (hc : Continued config e) : e.action s env shadow = .retry ∧
      ∃ c, e.retryReply s env shadow = .answered c ∧ c.result.outcome ≠ .pending := by
  obtain ⟨r, hr, hcharged, hns, hnp⟩ := hc.failed
  rw [sagaRun_result he, Option.map_eq_some_iff] at hr
  obtain ⟨out, hout, rfl⟩ := hr
  obtain ⟨res, w', _, _, -, -, -, hretried, ha⟩ :=
    executeRecovery_asks s env e.adapter (e.params shadow) (e.world s env)
  have hatt : out.action = .attempted := by
    cases hact : out.action <;> simp [hact, mapAction] at hcharged
    rfl
  have hres : out ∈ res := by
    rw [ha.ends] at hout
    exact hout
  rcases hretried out hres hatt with hs | ⟨hact, hret⟩
  · exact absurd hs hns
  · refine ⟨hact, ?_⟩
    -- an attempt has an outcome, so the retry was not withheld
    have hfits : out.Fits := executeRecovery_fits s env e.adapter (e.params shadow)
      (e.world s env) out hout
    obtain ⟨o, ho⟩ := Option.isSome_iff_exists.1 (hfits.1 hatt)
    change (e.retryReply s env shadow).returns = some out.outcome at hret
    cases hrep : e.retryReply s env shadow with
    | withheld => simp [hrep, Reply.returns, ho] at hret
    | rejected => simp [hrep, Reply.returns] at hret
    | answered c =>
      refine ⟨c, rfl, fun hc => hnp ?_⟩
      rw [hrep, Reply.returns, hc, Option.some.injEq] at hret
      exact hret.symm

end

/-! ## Dead cards -/

/-- The guardrail treats a decline of this code as hard or not retriable. -/
def DeadCode (code : DeclineCode) : Prop := familyOf code = .hard ∨ isRetriable code = false

/-- The answer says that the card is dead. -/
def ChargeResult.Dead (r : ChargeResult) : Prop := ∃ code ∈ r.declineCode, DeadCode code

/-- The charge was answered with a decline code of a dead card. -/
def AskedCharge.Dead (a : AskedCharge) : Prop := ∃ r ∈ a.answer, r.Dead

instance : DecidablePred DeadCode := fun code =>
  inferInstanceAs (Decidable (familyOf code = .hard ∨ isRetriable code = false))

instance : DecidablePred ChargeResult.Dead := fun r =>
  inferInstanceAs (Decidable (∃ code ∈ r.declineCode, DeadCode code))

instance : DecidablePred AskedCharge.Dead := fun a =>
  inferInstanceAs (Decidable (∃ r ∈ a.answer, r.Dead))

/-- Both charges are of one payment method, with one credential. -/
def AskedCharge.SameMethod (a a' : AskedCharge) : Prop :=
  a'.method.id = a.method.id ∧ a'.method.token = a.method.token

instance (a a' : AskedCharge) : Decidable (a.SameMethod a') :=
  inferInstanceAs (Decidable (a'.method.id = a.method.id ∧ a'.method.token = a.method.token))

/-- No charge comes after one of the same method that was answered as a dead card. -/
def NoSecondCharge (charges : List AskedCharge) : Prop :=
  charges.Pairwise fun a a' => a.Dead → ¬ a.SameMethod a'

instance : DecidablePred NoSecondCharge := fun charges =>
  inferInstanceAs (Decidable (charges.Pairwise fun a a' => a.Dead → ¬ a.SameMethod a'))

namespace SagaExecution

variable (e : SagaExecution (SagaHost σ))

/-- A retry of the card of the case is decided on, and the guardrail lets it through. -/
def RetryDue : Prop :=
  e.action s env shadow = .retry ∧ shadow = false ∧
    retryAllowed (e.params shadow) (codeOf (e.params shadow)) (credentialWindow
      (e.world s env).credentialAttempts
      (credentialKey (e.params shadow).invoice.id (e.params shadow).method) e.input.nowIso)

/-- The processor answers the retry that is decided on as one of a dead card. -/
def FindsDead : Prop :=
  e.action s env shadow = .retry ∧ ∃ c, e.retryReply s env shadow = .answered c ∧ c.result.Dead

variable {s env shadow e}

theorem retryDue_iff : e.RetryDue s env shadow ↔
    e.action s env shadow = .retry ∧ e.retryReply s env shadow ≠ .withheld := by
  refine and_congr_right fun _ => ?_
  rw [retryReply, AX10M.retryReply, ne_eq, replyTo_eq_withheld, Bool.not_eq_false, Bool.and_eq_true,
    Bool.not_eq_true', and_comm]
  rfl

/-- A retry that is due asks for the card of the case; no other execution asks for it. -/
theorem asked_of_retryDue (ht : e.input.nowIso.isSome) (h : e.RetryDue s env shadow) :
    ∃ a ∈ e.asked s env shadow, a.method = e.input.attempt.method := by
  obtain ⟨hact, hw⟩ := retryDue_iff.1 h
  rw [asked_eq ht, hact]
  change ∃ a ∈ Reply.asked _ _ _ (e.retryReply s env shadow), _
  cases hr : e.retryReply s env shadow with
  | withheld => exact absurd hr hw
  | _ => exact ⟨_, List.mem_cons_self, rfl⟩

theorem retryDue_of_asked (ht : e.input.nowIso.isSome) {a : AskedCharge}
    (h : a ∈ e.asked s env shadow) (hid : a.method.id = e.input.attempt.method.id)
    (htok : a.method.token = e.input.attempt.method.token) : e.RetryDue s env shadow := by
  rw [asked_eq ht] at h
  cases hact : e.action s env shadow with
  | suppress =>
    rw [hact] at h
    cases h
  | retry =>
    rw [hact] at h
    refine retryDue_iff.2 ⟨hact, fun hw => ?_⟩
    change a ∈ Reply.asked _ _ _ (e.retryReply s env shadow) at h
    rw [hw] at h
    cases h
  | cardUpdateComms =>
    rw [hact] at h
    simp only [executedDealt] at h
    split at h
    · cases h
    · rcases credentialsDealt_method h with hu | hb
      · exact absurd htok (refreshedFor_token hu)
      · exact absurd hid (backupFor_id hb).1

/-- The charges of one execution are of different methods. -/
theorem asked_distinct (ht : e.input.nowIso.isSome) :
    (e.asked s env shadow).Pairwise fun a a' => ¬ a.SameMethod a' := by
  have one : ∀ (m : PaymentMethod) (key : String) (r : Reply),
      (r.asked (e.params shadow).invoice m key).Pairwise fun a a' => ¬ a.SameMethod a' := by
    intro m key r
    cases r <;> simp [Reply.asked]
  have backup : ∀ t, (backupDealt s e.adapter (e.params shadow) e.stamp t).asked.Pairwise
      fun a a' => ¬ a.SameMethod a' := by
    intro t
    unfold backupDealt
    split
    · exact .nil
    · exact one _ _ _
  rw [asked_eq ht]
  cases e.action s env shadow with
  | suppress => exact .nil
  | retry => exact one _ _ _
  | cardUpdateComms =>
    simp only [executedDealt]
    split
    · exact .nil
    · unfold credentialsDealt
      cases hu : refreshedFor e.adapter (e.params shadow) with
      | none => exact backup _
      | some u =>
        simp only []
        split
        · exact one _ _ _
        · refine List.pairwise_append.2 ⟨one _ _ _, backup _, fun a ha a' ha' hsame => ?_⟩
          refine (backupFor_id (backupDealt_method ha')).2 u hu ?_
          rw [hsame.1, Reply.asked_method ha]

end SagaExecution

variable {s env shadow} {config : SchedulerConfig} {attempt : SagaAttempt} {H : SagaHost σ}
  {e e' : SagaExecution (SagaHost σ)}

/-- What an execution asked for after which the saga went on: the card of the case, once. -/
theorem Continued.asked (he : e ∈ sagaRun s env shadow config attempt H)
    (hc : Continued config e) : ∃ c, e.action s env shadow = .retry ∧
      e.retryReply s env shadow = .answered c ∧ c.result.outcome ≠ .pending ∧
      e.asked s env shadow = [⟨attempt.invoice, attempt.method,
        s.chargeKey attempt.invoice attempt.method e.input.attemptNumber, some c.result⟩] := by
  obtain ⟨hact, c, hrep, hnp⟩ := hc.retried he
  obtain ⟨rfl, ht⟩ := sagaRun_attempt he
  refine ⟨c, hact, hrep, hnp, ?_⟩
  rw [SagaExecution.asked_eq ht, hact]
  change Reply.asked _ _ _ (e.retryReply s env shadow) = _
  rw [hrep]
  rfl

/-- Of two executions of a saga, the second charges a card that the first found dead exactly if its
    retry is due. -/
theorem secondCharge_iff (he : e ∈ sagaRun s env shadow config attempt H)
    (he' : e' ∈ sagaRun s env shadow config attempt H) (hc : Continued config e) :
    (∀ a ∈ e.asked s env shadow, ∀ a' ∈ e'.asked s env shadow, a.Dead → ¬ a.SameMethod a') ↔
      (e.FindsDead s env shadow → ¬ e'.RetryDue s env shadow) := by
  obtain ⟨c, hact, hrep, -, hasked⟩ := hc.asked he
  obtain ⟨hatt, ht⟩ := sagaRun_attempt he'
  have hdead : e.FindsDead s env shadow ↔ c.result.Dead := by
    constructor
    · rintro ⟨-, c', hrep', hd⟩
      rw [hrep, Reply.answered.injEq] at hrep'
      rw [hrep']
      exact hd
    · exact fun hd => ⟨hact, c, hrep, hd⟩
  rw [hasked, hdead]
  constructor
  · intro h hd hdue
    obtain ⟨a', ha', hm⟩ := SagaExecution.asked_of_retryDue ht hdue
    refine h _ List.mem_cons_self a' ha' ⟨_, rfl, hd⟩ ?_
    rw [AskedCharge.SameMethod, hm, hatt]
    exact ⟨rfl, rfl⟩
  · intro h a ha a' ha' hd hsame
    rw [List.mem_singleton] at ha
    subst ha
    obtain ⟨r, hr, hrd⟩ := hd
    obtain rfl := Option.some.inj hr
    refine h hrd (SagaExecution.retryDue_of_asked ht ha' ?_ ?_)
    · rw [hsame.1, hatt]
    · rw [hsame.2, hatt]

variable (s env shadow config attempt H)

/-- A saga charges no dead card again exactly if, after an execution that found the card of the
    case dead, no retry of it is due. -/
theorem no_second_charge_iff :
    NoSecondCharge ((sagaRun s env shadow config attempt H).flatMap fun e => e.asked s env shadow) ↔
      (sagaRun s env shadow config attempt H).Pairwise fun e e' =>
        e.FindsDead s env shadow → ¬ e'.RetryDue s env shadow := by
  have hc : (sagaRun s env shadow config attempt H).Pairwise fun e _ => Continued config e :=
    (sagaRun_follows s env shadow config attempt H).pairwise
  rw [NoSecondCharge, List.pairwise_flatMap]
  constructor
  · rintro ⟨-, h⟩
    exact (hc.and h).imp_of_mem fun he he' hp => (secondCharge_iff he he' hp.1).1 hp.2
  · intro h
    refine ⟨fun e he => ?_, ?_⟩
    · obtain ⟨-, ht⟩ := sagaRun_attempt he
      exact (SagaExecution.asked_distinct ht).imp fun {a a'} hn (_ : a.Dead) => hn
    · exact (hc.and h).imp_of_mem fun he he' hp => (secondCharge_iff he he' hp.1).2 hp.2

end

namespace Sample

/-- A processor that declines every charge with a code. -/
def declining (code : DeclineCode) : ProcessorAdapter :=
  { stripe with respond := fun _ _ _ => some { outcome := .failed, declineCode := some code } }

def customer : Customer where
  id := "cus_1"
  merchantId := "mrc_1"
  processorRef := "cus_ref_1"
  email := some "owner@example.com"
  phone := none
  issuerRegion := .na
  createdAt := "2026-01-01T00:00:00.000Z"
  consent := { email := true, sms := false, whatsapp := false, push := false,
               globallyOptedOut := false }

/-- The case of the sample invoice, after a soft decline. -/
def softCase : SagaAttempt := { invoice, method, decline := some decline, customer := some customer }

/-- A host of a saga, whose clock goes on by an hour with every reading. -/
def host (adapter : ProcessorAdapter) : SagaHost Unit where
  world := World.init () fun n => 1786881600000 + n * 3600000
  adapters _ := adapter
  others _ := []

end Sample

/-- The first retry is answered as one of a stolen card, and the saga charges it again. -/
theorem no_second_charge_fails :
    ¬ NoSecondCharge ((sagaRun Sample.service Sample.env false ⟨2, 60, 60⟩ Sample.softCase
      (Sample.host (Sample.declining .stolenCard))).flatMap fun e =>
        e.asked Sample.service Sample.env false) := by
  decide +kernel

/-! ## The cap on the attempts -/

section

variable {σ : Type} (s : RecoveryCaseService) (env : Env σ) (shadow : Bool)

namespace SagaExecution

variable (e : SagaExecution (SagaHost σ))

/-- What becomes of the charge of a fresh credential. -/
def freshReply (m : PaymentMethod) (t : Tally) : Reply :=
  AX10M.freshReply s e.adapter (e.params shadow) m t

/-- Two fresh credentials are charged: the refreshed card without success, and then the backup
    method. -/
def BothFresh : Prop := ∃ u c m,
  refreshedFor e.adapter (e.params shadow) = some u ∧
  e.freshReply s shadow u (e.world s env).tally = .answered c ∧ c.result.outcome ≠ .succeeded ∧
  backupFor e.adapter (e.params shadow) = some m ∧
  e.freshReply s shadow m ((e.world s env).tally.count c
    (credentialKey e.input.attempt.invoice.id u) e.stamp) ≠ .withheld

/-- A recovery on other credentials is decided on, and charges two of them. -/
def ChargesBoth : Prop :=
  e.action s env shadow = .cardUpdateComms ∧ shadow = false ∧ e.BothFresh s env shadow

theorem length_asked (r : Reply) (invoice : Invoice) (m : PaymentMethod) (key : String) :
    (r.asked invoice m key).length ≤ 1 := by
  cases r <;> simp [Reply.asked]

theorem length_asked_eq {r : Reply} (hr : r ≠ .withheld) (invoice : Invoice) (m : PaymentMethod)
    (key : String) : (r.asked invoice m key).length = 1 := by
  cases r with
  | withheld => exact absurd rfl hr
  | _ => rfl

theorem length_backup (t : Tally) :
    (backupDealt s e.adapter (e.params shadow) e.stamp t).asked.length ≤ 1 := by
  unfold backupDealt
  split
  · simp
  · exact length_asked _ _ _ _

/-- The charges of the fresh credentials. -/
theorem length_credentials :
    let l := (credentialsDealt s e.adapter (e.params shadow) e.stamp e.stamp
      (e.world s env).tally).asked.length
    l ≤ 2 ∧ (l ≤ 1 ↔ ¬ e.BothFresh s env shadow) := by
  intro l
  cases hu : refreshedFor e.adapter (e.params shadow) with
  | none =>
    have hl : l ≤ 1 := by
      simp only [l, credentialsDealt, hu]
      exact length_backup s shadow e _
    refine ⟨by omega, iff_of_true hl ?_⟩
    rintro ⟨u, c, m, h, -⟩
    rw [hu] at h
    cases h
  | some u =>
    cases hr : AX10M.freshReply s e.adapter (e.params shadow) u (e.world s env).tally with
    | answered c =>
      by_cases ho : c.result.outcome = .succeeded
      · have hl : l ≤ 1 := by
          simp only [l, credentialsDealt, hu, hr, Reply.concludes, ho, decide_true, if_true]
          exact length_asked (.answered c) _ _ _
        refine ⟨by omega, iff_of_true hl ?_⟩
        rintro ⟨u', c', m, h, h', ho', -⟩
        obtain rfl := Option.some.inj (hu.symm.trans h)
        obtain rfl := Reply.answered.inj (hr.symm.trans h')
        exact ho' ho
      · have hl : l = 1 + (backupDealt s e.adapter (e.params shadow) e.stamp
            ((e.world s env).tally.count c (credentialKey e.input.attempt.invoice.id u)
              e.stamp)).asked.length := by
          simp only [l, credentialsDealt, hu, hr, Reply.concludes, ho, decide_false,
            Bool.false_eq_true, if_false, List.length_append]
          rfl
        have hb := length_backup s shadow e
          ((e.world s env).tally.count c (credentialKey e.input.attempt.invoice.id u) e.stamp)
        refine ⟨by omega, ?_⟩
        rw [hl]
        cases hm : backupFor e.adapter (e.params shadow) with
        | none =>
          refine iff_of_true (by simp [backupDealt, hm]) ?_
          rintro ⟨u', c', m, -, -, -, h, -⟩
          rw [hm] at h
          cases h
        | some m =>
          simp only [backupDealt, hm, Reply.dealt]
          by_cases hw : AX10M.freshReply s e.adapter (e.params shadow) m
              ((e.world s env).tally.count c (credentialKey e.input.attempt.invoice.id u)
                e.stamp) = .withheld
          · refine iff_of_true (by rw [hw]; simp [Reply.asked]) ?_
            rintro ⟨u', c', m', h, h', -, hm', hw'⟩
            obtain rfl := Option.some.inj (hu.symm.trans h)
            obtain rfl := Reply.answered.inj (hr.symm.trans h')
            obtain rfl := Option.some.inj (hm.symm.trans hm')
            exact hw' hw
          · rw [length_asked_eq hw]
            refine iff_of_false (by omega) (not_not.2 ?_)
            exact ⟨u, c, m, hu, hr, ho, hm, hw⟩
    | withheld =>
      have hl : l ≤ 1 := by
        simp only [l, credentialsDealt, hu, hr, Reply.concludes, Bool.false_eq_true, if_false]
        exact length_backup s shadow e _
      refine ⟨by omega, iff_of_true hl ?_⟩
      rintro ⟨u', c, m, h, h', -⟩
      obtain rfl := Option.some.inj (hu.symm.trans h)
      cases hr.symm.trans h'
    | rejected =>
      have hl : l ≤ 1 := by
        simp only [l, credentialsDealt, hu, hr, Reply.concludes, if_true]
        exact length_asked .rejected _ _ _
      refine ⟨by omega, iff_of_true hl ?_⟩
      rintro ⟨u', c, m, h, h', -⟩
      obtain rfl := Option.some.inj (hu.symm.trans h)
      cases hr.symm.trans h'

variable {e}

/-- An execution asks for one charge at most, or for two of fresh credentials. -/
theorem length_le (ht : e.input.nowIso.isSome) :
    (e.asked s env shadow).length ≤ 2 ∧
      ((e.asked s env shadow).length ≤ 1 ↔ ¬ e.ChargesBoth s env shadow) := by
  rw [asked_eq ht, ChargesBoth]
  cases e.action s env shadow with
  | suppress => simp [executedDealt]
  | retry =>
    have h : (executedDealt s e.adapter (e.params shadow) e.stamp e.stamp (e.world s env).tally
        .retry).asked.length ≤ 1 := length_asked _ _ _ _
    exact ⟨by omega, iff_of_true h (by simp)⟩
  | cardUpdateComms =>
    change (if shadow then _ else _ : Dealt).asked.length ≤ 2 ∧ _
    cases shadow with
    | true => simp [executedDealt, params, ServiceRecoveryCasePort.params]
    | false =>
      obtain ⟨hl, hiff⟩ := length_credentials s env false e
      refine ⟨hl, hiff.trans (not_congr ?_)⟩
      exact ⟨fun h => ⟨rfl, rfl, h⟩, fun h => h.2.2⟩

/-- From the cap on, an execution asks for nothing. -/
theorem asked_of_cap (ht : e.input.nowIso.isSome)
    (h : defaultGuardrailPolicy.maxRetryAttempts ≤ ((e.params shadow).attemptNumber : ℤ) - 1) :
    e.asked s env shadow = [] := by
  have fresh : ∀ m t, AX10M.freshReply s e.adapter (e.params shadow) m t = .withheld :=
    fun m t => if_neg (by rw [freshAllowed_of_cap h]; exact Bool.false_ne_true)
  have backup : ∀ t, (backupDealt s e.adapter (e.params shadow) e.stamp t).asked = [] := by
    intro t
    unfold backupDealt
    split
    · rfl
    · rw [fresh]
      rfl
  rw [asked_eq ht]
  cases e.action s env shadow with
  | suppress => rfl
  | retry =>
    have hr : AX10M.retryReply s e.adapter (e.params shadow) (e.world s env).tally = .withheld :=
      if_neg (by rw [retryAllowed_of_cap h, Bool.false_and]; exact Bool.false_ne_true)
    simp only [executedDealt, hr]
    rfl
  | cardUpdateComms =>
    simp only [executedDealt]
    split
    · rfl
    · unfold credentialsDealt
      split
      · exact backup _
      · simp only [fresh, Reply.concludes, Bool.false_eq_true, if_false, backup, List.append_nil]
        rfl

end SagaExecution

/-- The charges of the executions from attempt `n` on stay within the cap exactly if the execution of
    the last attempt charges one method. -/
theorem total_le_cap_iff {config : SchedulerConfig} {attempt : SagaAttempt}
    {es : List (SagaExecution (SagaHost σ))} {n : ℕ} (hn : 1 ≤ n) (hn9 : n ≤ 9)
    (hf : Follows config attempt n es)
    (hone : ∀ e ∈ es, Continued config e → (e.asked s env shadow).length = 1) :
    (es.flatMap fun e => e.asked s env shadow).length + (n - 1) ≤ 8 ↔
      ∀ e ∈ es, e.input.attemptNumber = 8 → ¬ e.ChargesBoth s env shadow := by
  -- on the executions: all but the last ask for one charge, and the last one for two at most
  induction es generalizing n with
  | nil => simp; omega
  | cons e es ih =>
    obtain ⟨-, hnum, ht, hnext, hes⟩ := hf
    obtain ⟨h2, h1⟩ := SagaExecution.length_le s env shadow ht
    have hcap : n = 9 → e.asked s env shadow = [] := fun h9 =>
      SagaExecution.asked_of_cap s env shadow ht (by
        change _ ≤ (e.input.attemptNumber : ℤ) - 1
        rw [hnum, h9]
        decide)
    rw [List.flatMap_cons, List.length_append, List.forall_mem_cons, ← h1, hnum]
    cases es with
    | nil =>
      simp only [List.flatMap_nil, List.length_nil, Nat.add_zero, List.not_mem_nil, false_implies,
        implies_true, and_true]
      by_cases h9 : n = 9
      · rw [hcap h9, List.length_nil]
        omega
      · omega
    | cons e' es =>
      have hc : Continued config e := by
        obtain ⟨r, hr, hp⟩ := hnext (by simp)
        exact ⟨r, hr, by rw [hnum]; exact hp⟩
      have h := hone e List.mem_cons_self hc
      have h9 : n ≠ 9 := fun h9 => by
        rw [hcap h9] at h
        cases h
      rw [← ih (n := n + 1) (by omega) (by omega) hes fun e he => hone e (List.mem_cons_of_mem _ he)]
      omega

/-- The charges of a saga stay within the cap on attempts exactly if the execution of the last attempt
    does not charge two fresh credentials. -/
theorem charges_le_cap_iff (config : SchedulerConfig) (attempt : SagaAttempt) (H : SagaHost σ) :
    (((sagaRun s env shadow config attempt H).flatMap fun e =>
        e.asked s env shadow).length : ℤ) ≤ defaultGuardrailPolicy.maxRetryAttempts ↔
      ∀ e ∈ sagaRun s env shadow config attempt H,
        (e.input.attemptNumber : ℤ) = defaultGuardrailPolicy.maxRetryAttempts →
          ¬ e.ChargesBoth s env shadow := by
  have hone : ∀ e ∈ sagaRun s env shadow config attempt H, Continued config e →
      (e.asked s env shadow).length = 1 := by
    intro e he hc
    obtain ⟨c, -, -, -, hasked⟩ := hc.asked he
    rw [hasked]
    rfl
  have h := total_le_cap_iff s env shadow le_rfl (by omega)
    (sagaRun_follows s env shadow config attempt H) hone
  have hmax : defaultGuardrailPolicy.maxRetryAttempts = ((8 : ℕ) : ℤ) := rfl
  rw [hmax]
  simp only [Nat.cast_inj, Nat.cast_le]
  exact h

end

namespace Sample

/-- A processor that declines every charge, of a customer with a refreshed card and a second one. -/
def threeCards : ProcessorAdapter :=
  { declining .insufficientFunds with
    fetchUpdatedCard := fun m => some (some { m with token := "tok_2" })
    listPaymentMethods := fun _ => some [{ method with id := "pm_2", token := "tok_3" }] }

/-- A policy that gives up on a card one attempt before the cap of its network. -/
def wary : Env Unit :=
  { env with policy := { env.policy with
      decide := fun _ _ ctx =>
        let near := ctx.compliance.any fun c => c.networkCap.any (c.attemptsInNetworkWindow + 1 ≥ ·)
        { action := if near then .cardUpdateComms else .retry, retryAt := some ctx.now,
          recoverabilityScore := 3 / 5, expectedValueMinor := 81, rationale := "wary" } } }

/-- The case of the sample invoice, on a card of no known network. -/
def unbranded : SagaAttempt := { softCase with method := { method with brand := none } }

end Sample

/-- Seven retries of the card are followed by charges of the refreshed card and the second one. -/
theorem charges_le_cap_fails :
    ¬ (((sagaRun Sample.service Sample.wary false defaultSchedulerConfig Sample.unbranded
      (Sample.host Sample.threeCards)).flatMap fun e =>
        e.asked Sample.service Sample.wary false).length : ℤ) ≤
          defaultGuardrailPolicy.maxRetryAttempts := by
  decide +kernel

end AX10M
