/-
  Charges that the processor answers as pending.

  Such a charge is entered as a failed one, and the snapshot of its execution stands before
  it: from then on its invoice is labelled in the training corpus (`labelled_of_pending`).  A
  payment that is reported later appends nothing, so only another charge of the invoice
  could make the label one of a recovery.  The saga of the charge does end there
  (`saga_ends_pending`).
-/
import AX10M.Recovery.Outcome
import AX10M.Recovery.SagaRun
import AX10M.RecoveryEngine.LedgerSamples

namespace AX10M

open Js Effects LedgerSamples

/-- The charge was answered as pending. -/
def AskedCharge.Pending (a : AskedCharge) : Prop := ∃ r ∈ a.answer, r.outcome = .pending

instance : DecidablePred AskedCharge.Pending := fun a =>
  inferInstanceAs (Decidable (∃ r ∈ a.answer, r.outcome = .pending))

/-! ## Entries of a trace -/

/-- The entry of a failed charge of the invoice. -/
def FailureOf (i : String) (x : LedgerEntry) : Prop := x.type = .chargeFailed ∧ x.isFor i

/-- Every charge of the trace whose answer is not a success is entered as a failed one. -/
def Recorded {W : Type} (l : List (Performed ServiceSig W)) : Prop :=
  ∀ a ∈ l.filterMap askedCharge, ∀ r ∈ a.answer, r.outcome ≠ .succeeded →
    ∃ e ∈ l, ∃ x, e.op = .ledgerAppend x ∧ FailureOf a.invoice.id x

namespace Recorded

variable {W : Type} {l l' : List (Performed ServiceSig W)}

theorem nil : Recorded ([] : List (Performed ServiceSig W)) := by simp [Recorded]

theorem append (h : Recorded l) (h' : Recorded l') : Recorded (l ++ l') := by
  intro a ha r hr hs
  rw [List.filterMap_append] at ha
  rcases List.mem_append.1 ha with ha | ha
  · obtain ⟨e, he, hx⟩ := h a ha r hr hs
    exact ⟨e, List.mem_append_left _ he, hx⟩
  · obtain ⟨e, he, hx⟩ := h' a ha r hr hs
    exact ⟨e, List.mem_append_right _ he, hx⟩

end Recorded

section

variable {σ : Type} (s : RecoveryCaseService) (env : Env σ)

/-- The ledger only grows. -/
theorem handle_ledger_mono (o : ServiceOp) (w : World σ) {x : LedgerEntry} (hx : x ∈ w.ledger) :
    x ∈ (World.handle env o w).2.ledger := by
  cases o with
  | ledgerAppend e => exact List.mem_append_left _ hx
  | attemptCharge a i m k =>
    simp only [World.handle]
    split <;> exact hx
  | _ => exact hx

theorem serve_ledger_mono (w : World σ) (r : Request) {x : LedgerEntry} (hx : x ∈ w.ledger) :
    x ∈ (serve s env w r).ledger :=
  Prog.exec_inv (fun w : World σ => x ∈ w.ledger) (fun o w _ => handle_ledger_mono env o w)
    (Prog.uses_true _) hx

theorem serveAll_ledger_mono (w : World σ) (rs : List Request) {x : LedgerEntry}
    (hx : x ∈ w.ledger) : x ∈ (serveAll s env w rs).ledger :=
  serveAll_inv s env (P := fun _ => True) (I := fun w => x ∈ w.ledger)
    (fun w r _ => serve_ledger_mono s env w r) (fun _ _ => trivial) hx

/-- What a program appends is in the ledger after it. -/
theorem mem_ledger_of_trace {α : Type} {p : Async α} {w : World σ}
    {e : Performed ServiceSig (World σ)} {x : LedgerEntry}
    (he : e ∈ p.trace (World.handle env) w) (hx : e.op = .ledgerAppend x) :
    x ∈ (p.exec (World.handle env) w).2.ledger := by
  refine Prog.exec_of_mem_trace (I := fun w : World σ => x ∈ w.ledger)
    (fun o w => handle_ledger_mono env o w) he ?_
  rw [hx]
  exact List.mem_append_right _ List.mem_cons_self

/-! ## What an execution enters -/

variable {s env} {α β : Type}

/-- The operation is no charge. -/
def ChargesNothing : ServiceOp → Prop
  | .attemptCharge _ _ _ _ => False
  | _ => True

theorem ChargesNothing.not_asked {W : Type} (e : Performed ServiceSig W)
    (h : ChargesNothing e.op) : askedCharge e = none := by
  obtain ⟨o, r, w⟩ := e
  cases o with
  | attemptCharge a i m k => exact h.elim
  | _ => rfl

theorem Untallied.chargesNothing (o : ServiceOp) (h : Untallied o) : ChargesNothing o := by
  cases o with
  | attemptCharge a i m k => exact h.elim
  | _ => trivial

theorem Smooth.chargesNothing (o : ServiceOp) (h : Smooth o) : ChargesNothing o :=
  Untallied.chargesNothing o h.1

/-- Code that charges nothing has nothing to enter. -/
theorem Recorded.of_uses {p : Async α} (hp : p.Uses ChargesNothing) (w : World σ) :
    Recorded (p.trace (World.handle env) w) := by
  intro a ha
  have : (p.trace (World.handle env) w).filterMap askedCharge = [] :=
    Prog.observed_of_uses ChargesNothing.not_asked hp w
  rw [this] at ha
  cases ha

theorem Recorded.bind {p : Async α} (hp : ∀ w, Recorded (p.trace (World.handle env) w))
    {f : α → Async β} (hf : ∀ a w, Recorded ((f a).trace (World.handle env) w)) (w : World σ) :
    Recorded ((p.bind f).trace (World.handle env) w) :=
  Prog.trace_bind_ind .nil (fun _ _ => .append) hp hf w

/-- An operation that is no charge, and recorded code. -/
theorem Recorded.op {o : ServiceOp} (ho : ChargesNothing o) {k : o.Res → Async α}
    (hk : ∀ r w, Recorded ((k r).trace (World.handle env) w)) (w : World σ) :
    Recorded ((Prog.op (S := ServiceSig) o k).trace (World.handle env) w) :=
  Recorded.bind (p := Prog.perform o) (Recorded.of_uses ⟨ho, fun _ => trivial⟩) hk w

theorem stampOr_smooth (nowIso : Option String) :
    (RecoveryCaseService.stampOr nowIso).Uses Smooth := by
  cases nowIso
  · exact newDateIso_smooth
  · trivial

/-- The entry of a charge that did not succeed. -/
theorem recordCharge_failure (env : Env σ) (adapter : ProcessorAdapter) (invoice : Invoice)
    (key : String) (n : ℕ) (r : ChargeResult) (hr : r.outcome ≠ .succeeded) (w : World σ) :
    ∃ e ∈ (RecoveryCaseService.recordCharge adapter invoice key n r).trace (World.handle env) w,
      ∃ x, e.op = .ledgerAppend x ∧ FailureOf invoice.id x := by
  simp only [RecoveryCaseService.recordCharge, if_neg hr]
  refine ⟨_, List.mem_cons_of_mem _ List.mem_cons_self, _, rfl, rfl, ?_⟩
  rw [LedgerEntry.isFor_iff]
  rfl

theorem chargeLive_recorded (adapter : ProcessorAdapter) (invoice : Invoice)
    (method : PaymentMethod) (n : ℕ) (nowIso : Option String) (w : World σ) :
    Recorded ((s.chargeLive adapter invoice method n nowIso).trace (World.handle env) w) := by
  unfold RecoveryCaseService.chargeLive
  simp only [call, Prog.bind_eq, Prog.op_bind, Prog.pure_bind, Prog.pure_eq]
  refine Recorded.op (o := .attemptsGet invoice.id) trivial (fun attempts w => ?_) w
  refine Recorded.op (o := .attemptsSet invoice.id _) trivial (fun _ w => ?_) w
  set key := s.chargeKey invoice method n
  intro a ha r hr hs
  rw [Prog.trace_op] at ha ⊢
  rcases ho : World.handle env (.attemptCharge adapter invoice method key) w with ⟨_ | result, w'⟩
  · -- a rejected call has no answer
    rw [ho] at ha
    obtain rfl : a = ⟨invoice, method, key, none⟩ := by simpa [askedCharge] using ha
    cases hr
  · rw [ho] at ha
    have rest : ((RecoveryCaseService.stampOr nowIso).bind fun stamp =>
        Prog.op (S := ServiceSig) (.credentialIncrement (credentialKey invoice.id method) stamp)
          fun _ => (RecoveryCaseService.recordCharge adapter invoice key n result).bind fun _ =>
            (RecoveryCaseService.recordOutcomeNow invoice method result.outcome).bind fun _ =>
              .pure result.outcome).Uses ChargesNothing :=
      ((stampOr_smooth nowIso).imp Smooth.chargesNothing).bind fun stamp => ⟨trivial, fun _ =>
        ((recordCharge_smooth adapter invoice key n result).imp Smooth.chargesNothing).bind fun _ =>
        ((recordOutcomeNow_smooth invoice method _).imp Smooth.chargesNothing).bind fun _ => trivial⟩
    obtain rfl : a = ⟨invoice, method, key, some result⟩ := by
      have hnone := Prog.observed_of_uses (h := World.handle env) ChargesNothing.not_asked rest w'
      change a ∈ _ :: Prog.observed (World.handle env) askedCharge _ w' at ha
      rw [hnone] at ha
      exact List.mem_singleton.1 ha
    obtain rfl : result = r := Option.some.inj hr
    obtain ⟨stamp, w₁, hst⟩ := Prog.exec_returns (smooth_accepted env) (stampOr_smooth nowIso) w'
    obtain ⟨e, he, hx⟩ := recordCharge_failure env adapter invoice key n result hs
      (World.handle env (.credentialIncrement (credentialKey invoice.id method) stamp) w₁).2
    refine ⟨e, List.mem_cons_of_mem _ (Prog.mem_trace_bind_right hst ?_), hx⟩
    exact List.mem_cons_of_mem _ (Prog.mem_trace_bind_left he)

theorem attemptRecovery_recorded (adapter : ProcessorAdapter) (invoice : Invoice)
    (method : PaymentMethod) (proposed : ProposedAction) (n : ℕ) (nowIso : Option String)
    (shadow : Bool) (w : World σ) :
    Recorded ((s.attemptRecovery adapter invoice method proposed n nowIso shadow).trace
      (World.handle env) w) := by
  have note : ∀ (type : LedgerEventType) (detail : Record)
      (res : RecoveryResult × Option ChargeOutcome) (w : World σ), Recorded
        (((appendNow invoice.merchantId type detail).bind fun _ => .pure res).trace
          (World.handle env) w) := by
    intro type detail res w
    refine Recorded.bind (Recorded.of_uses ((appendNow_smooth _ _ _).imp Smooth.chargesNothing))
      (fun _ w => ?_) w
    exact .nil
  unfold RecoveryCaseService.attemptRecovery
  split
  · exact note _ _ _ w
  · split
    · exact note _ _ _ w
    · refine Recorded.bind (chargeLive_recorded adapter invoice method n nowIso) (fun _ w => ?_) w
      exact .nil

theorem chargeFresh_recorded (adapter : ProcessorAdapter) (p : ExecuteParams)
    (features : RecoveryFeatures) (m : PaymentMethod) (via : String) (w : World σ) :
    Recorded ((s.chargeFresh adapter p features m via).trace (World.handle env) w) := by
  refine Recorded.bind (Recorded.of_uses ((appendNow_smooth _ _ _).imp Smooth.chargesNothing))
    (fun _ w => ?_) w
  refine Recorded.op (o := .credentialWindow _ _) trivial (fun credWin w => ?_) w
  refine Recorded.op (o := .now) trivial (fun _ w => ?_) w
  refine Recorded.bind (attemptRecovery_recorded adapter p.invoice m _ _ _ _) (fun _ w => ?_) w
  exact .nil

theorem alternateRail_recorded (adapter : ProcessorAdapter) (p : ExecuteParams)
    (features : RecoveryFeatures) (updated : Option PaymentMethod) (w : World σ) :
    Recorded ((s.alternateRail adapter p features updated).trace (World.handle env) w) := by
  unfold RecoveryCaseService.alternateRail
  split
  · exact .nil
  · refine Recorded.op (o := .listPaymentMethods _ _) trivial (fun methods w => ?_) w
    simp only [Prog.bind]
    split
    · exact .nil
    · refine Recorded.bind (chargeFresh_recorded adapter p features _ _) (fun _ w => ?_) w
      exact .nil

theorem executeCredentialRecovery_recorded (adapter : ProcessorAdapter) (p : ExecuteParams)
    (features : RecoveryFeatures) (w : World σ) :
    Recorded ((s.executeCredentialRecovery adapter p features).trace (World.handle env) w) := by
  refine Recorded.op (o := .fetchUpdatedCard _ _) trivial (fun updated w => ?_) w
  simp only [Prog.bind]
  split
  · exact alternateRail_recorded adapter p features _ w
  · refine Recorded.bind (chargeFresh_recorded adapter p features _ _) (fun o w => ?_) w
    split
    · exact .nil
    · exact alternateRail_recorded adapter p features _ w

theorem retryCharge_recorded (adapter : ProcessorAdapter) (p : ExecuteParams)
    (features : RecoveryFeatures) (credWin : CredentialAttemptWindow) (decision : RecoveryDecision)
    (w : World σ) :
    Recorded ((s.retryCharge adapter p features credWin decision).trace (World.handle env) w) := by
  refine Recorded.bind (Recorded.of_uses (RecoveryCaseService.localHourOr_uses trivial _))
    (fun hour w => ?_) w
  refine Recorded.bind (attemptRecovery_recorded adapter p.invoice p.method _ _ _ _)
    (fun exec w => Recorded.of_uses ?_ w) w
  exact (RecoveryCaseService.learnOnline_uses (fun _ _ _ => trivial) _ _ _ _).bind fun _ => trivial

/-- Every charge of an execution that does not succeed is entered as a failed one. -/
theorem executeRecovery_recorded (adapter : ProcessorAdapter) (p : ExecuteParams) (w : World σ) :
    Recorded ((s.executeRecovery adapter p).trace (World.handle env) w) := by
  have conclude : ∀ features decision (w : World σ),
      Recorded ((s.concludeWithoutRetry adapter p features decision).trace (World.handle env) w) :=
    fun features decision w => Recorded.of_uses ((s.concludeWithoutRetry_uses adapter p features
      decision).imp fun o h => Untallied.chargesNothing o (CaseOp.untallied o h)) w
  have features : (RecoveryCaseService.featuresFor p.invoice p.method.bin p.decline p.attemptNumber
      p.customer).Uses ChargesNothing := ⟨trivial, fun _ => ⟨trivial, fun _ => trivial⟩⟩
  refine Recorded.bind (Recorded.of_uses features) (fun features w => ?_) w
  refine Recorded.op (o := .credentialWindow _ _) trivial (fun credWin w => ?_) w
  refine Recorded.op (o := .now) trivial (fun now w => ?_) w
  refine Recorded.op (o := .decide _ _) trivial (fun decision w => ?_) w
  refine Recorded.bind (Recorded.of_uses ((appendNow_smooth _ _ _).imp Smooth.chargesNothing))
    (fun _ w => ?_) w
  split
  · split
    · refine Recorded.bind (executeCredentialRecovery_recorded adapter p features)
        (fun ok w => ?_) w
      split
      · exact .nil
      · exact conclude features decision w
    · exact conclude features decision w
  · exact retryCharge_recorded adapter p features credWin decision w

/-- The entry with the snapshot of the features of an invoice. -/
def SnapshotOf (i : String) (x : LedgerEntry) : Prop :=
  x.type = .recoveryPlanned ∧ x.isFor i ∧ (object? (x.field "features")).isSome

/-- Every execution enters the snapshot of its features. -/
theorem executeRecovery_snapshot (s : RecoveryCaseService) (env : Env σ)
    (adapter : ProcessorAdapter) (p : ExecuteParams) (w : World σ) :
    ∃ e ∈ (s.executeRecovery adapter p).trace (World.handle env) w,
      ∃ x, e.op = .ledgerAppend x ∧ SnapshotOf p.invoice.id x := by
  -- five operations that read, the time of the entry, and the entry
  refine ⟨_, List.mem_cons_of_mem _ (List.mem_cons_of_mem _ (List.mem_cons_of_mem _
    (List.mem_cons_of_mem _ (List.mem_cons_of_mem _ (List.mem_cons_of_mem _
      List.mem_cons_self))))), _, rfl, rfl, ?_, rfl⟩
  rw [LedgerEntry.isFor_iff]
  rfl

end

/-! ## Runs with pending charges -/

/-- The processor reports the invoice as paid. -/
def ReportsPaid (i : String) : Request → Prop
  | .webhook event _ => ∃ invoice, event.body = .invoicePaid (some invoice) ∧ invoice.id = i
  | _ => False

/-- The processor reports the invoice as failed. -/
def ReportsFailed (i : String) : Request → Prop
  | .webhook event _ => ∃ payload invoice,
      event.body = .invoiceFailed payload ∧ payload.invoice = some invoice ∧ invoice.id = i
  | _ => False

/-- The ledger has one recovery of the invoice, of the amount, and no sample of the training corpus
    says that the invoice was not recovered. -/
structure Resolved (l : List LedgerEntry) (i : String) (amount : ℚ) : Prop where
  once : (l.filter fun e => e.type = .caseRecovered ∧ e.isFor i).map LedgerEntry.amount = [amount]
  not_failed : ∀ weight x, (i, x) ∈ labelled l weight → x.recovered = true

/-- The training corpus has no sample of the invoice. -/
def Unlabelled (l : List LedgerEntry) (i : String) : Prop :=
  ∀ weight x, (i, x) ∉ labelled l weight

section

variable {σ : Type} (s : RecoveryCaseService) (env : Env σ)

/-- A charge of the execution is answered as pending. -/
def PendingIn (w : World σ) (adapter : ProcessorAdapter) (p : ExecuteParams) : Prop :=
  ∃ a ∈ (s.executeRecovery adapter p).observed (World.handle env) askedCharge w, a.Pending

instance (w : World σ) (adapter : ProcessorAdapter) (p : ExecuteParams) :
    Decidable (PendingIn s env w adapter p) :=
  inferInstanceAs (Decidable (∃ a ∈ (s.executeRecovery adapter p).observed (World.handle env)
    askedCharge w, a.Pending))

/-- Each time a charge of the invoice is answered as pending, the invoice is resolved once it is
    reported as paid, and unlabelled as long as nothing is reported. -/
def PendingResolves (policy : σ) (clock : ℕ → ℤ) (rs : List Request) (i : String) : Prop :=
  ∀ before adapter p later rest, rs = before ++ .execute adapter p :: (later ++ rest) →
    p.invoice.id = i →
    PendingIn s env (serveAll s env (World.init policy clock) before) adapter p →
    let l := (serveAll s env (World.init policy clock)
      (before ++ .execute adapter p :: later)).ledger
    ((∃ r ∈ later, ReportsPaid i r) → Resolved l i p.invoice.amount.amount) ∧
    ((∀ r ∈ later, ¬ ReportsPaid i r ∧ ¬ ReportsFailed i r) → Unlabelled l i)

/-- Of the executions of a saga, none comes after one with a charge that is answered as pending. -/
def EndsPending (shadow : Bool) (config : SchedulerConfig) (attempt : SagaAttempt)
    (H : SagaHost σ) : Prop :=
  (sagaRun s env shadow config attempt H).Pairwise fun e _ =>
    ∀ a ∈ e.asked s env shadow, ¬ a.Pending

theorem saga_ends_pending (shadow : Bool) (config : SchedulerConfig) (attempt : SagaAttempt)
    (H : SagaHost σ) : EndsPending s env shadow config attempt H := by
  refine (sagaRun_follows s env shadow config attempt H).pairwise.imp_of_mem ?_
  intro e _ he _ hc a ha hpending
  obtain ⟨c, -, -, hnp, hasked⟩ := hc.asked he
  rw [hasked, List.mem_singleton] at ha
  subst ha
  obtain ⟨r, hr, hrp⟩ := hpending
  obtain rfl := Option.some.inj hr
  exact hnp hrp

/-- Every charge that an execution asks for is of its invoice. -/
theorem executeRecovery_asked_invoice {w : World σ} {adapter : ProcessorAdapter}
    {p : ExecuteParams} {a : AskedCharge}
    (ha : a ∈ (s.executeRecovery adapter p).observed (World.handle env) askedCharge w) :
    a.invoice = p.invoice := by
  obtain ⟨⟨o, r, v⟩, he, hask⟩ := List.mem_filterMap.1 ha
  have := (s.executeRecovery_uses adapter p).of_mem_trace he
  cases o with
  | attemptCharge a' i m k =>
    obtain ⟨n, -, hinv, -⟩ := this
    obtain rfl := Option.some.inj hask
    exact hinv
  | _ => simp [askedCharge] at hask

/-- From a charge on that is answered as pending, its invoice is labelled, as recovered exactly if
    the ledger says so. -/
theorem labelled_of_pending {w : World σ} {adapter : ProcessorAdapter} {p : ExecuteParams}
    (hp : PendingIn s env w adapter p) (hi : p.invoice.id ≠ "") (later : List Request)
    (weight : Bool) :
    let l := (serveAll s env w (.execute adapter p :: later)).ledger
    ∃ x, (p.invoice.id, x) ∈ labelled l weight ∧
      (x.recovered = true ↔ ∃ e ∈ l, e.type = .caseRecovered ∧ e.isFor p.invoice.id) := by
  intro l
  have stays : ∀ {e : Performed ServiceSig (World σ)} {x : LedgerEntry},
      e ∈ (s.executeRecovery adapter p).trace (World.handle env) w → e.op = .ledgerAppend x →
        x ∈ l := by
    intro e x he hx
    exact serveAll_ledger_mono s env _ later
      (mem_ledger_of_trace env (Prog.mem_trace_bind_left he) hx)
  obtain ⟨e, he, x, hx, ht, hf, ho⟩ := executeRecovery_snapshot s env adapter p w
  obtain ⟨a, ha, r, hr, hrp⟩ := hp
  obtain ⟨e', he', x', hx', ht', hf'⟩ := executeRecovery_recorded adapter p w a ha r hr (by simp [hrp])
  rw [executeRecovery_asked_invoice s env ha] at hf'
  exact labelled_of_failed hi weight ⟨x, stays he hx, ht, hf, ho⟩ ⟨x', stays he' hx', ht', hf'⟩

/-- Pending charges of an invoice resolve in a run only if it has none.  From such a charge on the
    invoice is labelled, and as long as no charge of it succeeds, no recovery is entered, whatever
    is reported.  The saga of the charge makes no further one. -/
theorem pending_resolves_iff (policy : σ) (clock : ℕ → ℤ) (rs : List Request) {i : String}
    (hi : i ≠ "") :
    (PendingResolves s env policy clock rs i ↔
      ∀ before adapter p after, rs = before ++ .execute adapter p :: after → p.invoice.id = i →
        ¬ PendingIn s env (serveAll s env (World.init policy clock) before) adapter p) ∧
    (∀ before adapter p later rest, rs = before ++ .execute adapter p :: (later ++ rest) →
      p.invoice.id = i →
      PendingIn s env (serveAll s env (World.init policy clock) before) adapter p →
      let w := serveAll s env (World.init policy clock) (before ++ .execute adapter p :: later)
      (∀ weight, ∃ x, (i, x) ∈ labelled w.ledger weight ∧
        (x.recovered = true ↔ ∃ e ∈ w.ledger, e.type = .caseRecovered ∧ e.isFor i)) ∧
      (Uncollected w.charges i → ∀ e ∈ w.ledger, e.isFor i → e.type ≠ .caseRecovered)) ∧
    ∀ shadow config attempt H, EndsPending s env shadow config attempt H := by
  have label : ∀ before adapter p later, p.invoice.id = i →
      PendingIn s env (serveAll s env (World.init policy clock) before) adapter p →
      ∀ weight, let l := (serveAll s env (World.init policy clock)
          (before ++ .execute adapter p :: later)).ledger
        ∃ x, (i, x) ∈ labelled l weight ∧
          (x.recovered = true ↔ ∃ e ∈ l, e.type = .caseRecovered ∧ e.isFor i) := by
    rintro before adapter p later rfl hp weight
    rw [serveAll_append]
    exact labelled_of_pending s env hp hi later weight
  refine ⟨⟨?_, ?_⟩, ?_, saga_ends_pending s env⟩
  · intro h before adapter p after hrs hpi hp
    -- nothing has been reported right after the charge
    obtain ⟨x, hx, -⟩ := label before adapter p [] hpi hp true
    exact (h before adapter p [] after hrs hpi hp).2 (by simp) true x hx
  · intro h before adapter p later rest hrs hpi hp
    exact absurd hp (h before adapter p (later ++ rest) hrs hpi)
  · intro before adapter p later rest hrs hpi hp w
    refine ⟨label before adapter p later hpi hp, fun hu e he hf ht => ?_⟩
    exact (netChange_eq_none.1 (untouched_run s env policy clock _ i hu e he hf)).1 ht

end

namespace Sample

/-- A processor that answers every charge as pending. -/
def pending : ProcessorAdapter :=
  { stripe with respond := fun _ _ _ => some { outcome := .pending } }

/-- The sample invoice is charged, and reported as paid later. -/
def pendingThenPaid : List Request :=
  [.execute pending attempt, .webhook (event "paid_1" (.invoicePaid (some invoice))) none]

end Sample

/-- The charge of the sample invoice is answered as pending. -/
theorem pending_resolves_iff_sample :
    ¬ PendingResolves Sample.service Sample.env () (fun _ => 1786881600000) Sample.pendingThenPaid
      "inv_1" := by
  have h := pending_resolves_iff Sample.service Sample.env () (fun _ => 1786881600000)
    Sample.pendingThenPaid (i := "inv_1") (by decide)
  intro hr
  exact h.1.1 hr [] Sample.pending Sample.attempt _ rfl rfl (by decide +kernel)

/-- After the payment is reported there is no recovery, and the invoice counts as not recovered. -/
theorem pending_resolves_fails :
    let l := (serveAll Sample.service Sample.env Sample.world Sample.pendingThenPaid).ledger
    (labelled l).map (fun x => (x.1, x.2.recovered)) = [("inv_1", false)] ∧
      ¬ PendingResolves Sample.service Sample.env () (fun _ => 1786881600000)
        Sample.pendingThenPaid "inv_1" := by
  intro l
  refine ⟨by decide +kernel, fun h => ?_⟩
  have hpaid := (h [] Sample.pending Sample.attempt [_] [] rfl rfl (by decide +kernel)).1
    ⟨_, List.mem_cons_self, Sample.invoice, rfl, rfl⟩
  exact absurd hpaid.once (by decide +kernel)

end AX10M
