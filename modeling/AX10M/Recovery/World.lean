/-
  The surroundings of the service, and the meaning of its operations on them.

  The processor de-duplicates by idempotency key: a key under which a charge
  succeeded is answered with that success again, and no money moves.  The wall
  clock is a stream of readings, one for each time it is read.
-/
import AX10M.Onboarding
import AX10M.Recovery.Service
import Mathlib.Data.Rat.Cast.Order

namespace AX10M

open Js Effects

/-- What the surroundings are made of and do not change: the policy, the BIN table, the
    dunning agent and the message transports. -/
structure Env (σ : Type) where
  policy : RetryPolicy σ
  featureStore : FeatureStoreConfig
  compose : DunningContext → Option DunningMessage
  send : Bool → DunningMessage → DunningRecipient → SendResult

/-- A credential's counter: its attempts, and when the last one was. -/
structure CredentialCount where
  count : ℕ
  lastAt : String
  deriving DecidableEq

/-- A charge the processor was asked for, and its answer. -/
structure ChargeCall where
  invoice : Invoice
  key : String
  result : ChargeResult
  /-- the money that moved -/
  moved : ℚ
  deriving DecidableEq

/-- The state of the surroundings. -/
structure World (σ : Type) where
  ledger : List LedgerEntry
  openedInvoices : List String
  attempts : Map String ℕ
  credentialAttempts : Map String CredentialCount
  featureStore : FeatureStore
  onboarding : OnboardingStore
  policy : σ
  /-- the charges asked of the processor, in order -/
  charges : List ChargeCall
  dispatched : List DurableRecoveryRequest
  sent : List String
  clock : ℕ → ℤ

/-- Minutes from one instant to another, rounded down (`minutesBetween`). -/
def minutesBetween (nowIso lastAt : String) : NumOrNaN :=
  match Date.parse nowIso, Date.parse lastAt with
  | some a, some b => some ((a - b) / 60000 : ℤ)
  | _, _ => none

/-- The window of a credential, read at the time of a saga. -/
def credentialWindow (counts : Map String CredentialCount) (key : String)
    (nowIso : Option String) : CredentialAttemptWindow :=
  match counts.get key with
  | none => { attemptsInWindow := 0 }
  | some e => ⟨e.count, (truthy nowIso).map fun t => minutesBetween t e.lastAt⟩

/-- Count an attempt on a credential. -/
def credentialIncrement (counts : Map String CredentialCount) (key nowIso : String) :
    Map String CredentialCount :=
  counts.set key ⟨((counts.get key).map CredentialCount.count).getD 0 + 1, nowIso⟩

/-- The processor has a succeeded charge under the key. -/
def settled (charges : List ChargeCall) (key : String) : Bool :=
  charges.any fun c => c.key = key ∧ c.result.outcome = .succeeded

/-- The answer of the processor to a charge, and the record of it. -/
def processorCharge (charges : List ChargeCall) (adapter : ProcessorAdapter) (invoice : Invoice)
    (method : PaymentMethod) (key : String) : Option ChargeCall :=
  if settled charges key then
    some ⟨invoice, key, { outcome := .succeeded, idempotentReplay := true }, 0⟩
  else (adapter.respond invoice method key).map fun r =>
    ⟨invoice, key, r, if r.outcome = .succeeded then invoice.amount.amount else 0⟩

theorem settled_append (l : List ChargeCall) (c : ChargeCall) (key : String) :
    settled (l ++ [c]) key = (settled l key || decide (c.key = key ∧
      c.result.outcome = .succeeded)) := by
  simp [settled]

theorem processorCharge_invoice {charges : List ChargeCall} {adapter : ProcessorAdapter}
    {invoice : Invoice} {method : PaymentMethod} {key : String} {c : ChargeCall}
    (h : processorCharge charges adapter invoice method key = some c) :
    c.invoice = invoice ∧ c.key = key := by
  unfold processorCharge at h
  split at h
  · simp only [Option.some.injEq] at h
    subst h
    exact ⟨rfl, rfl⟩
  · obtain ⟨r, -, rfl⟩ := Option.map_eq_some_iff.1 h
    exact ⟨rfl, rfl⟩

namespace World

variable {σ : Type}

/-- The world before anything has happened. -/
def init (policy : σ) (clock : ℕ → ℤ) : World σ where
  ledger := []
  openedInvoices := []
  attempts := Map.empty
  credentialAttempts := Map.empty
  featureStore := FeatureStore.empty
  onboarding := Map.empty
  policy := policy
  charges := []
  dispatched := []
  sent := []
  clock := clock

/-- The meaning of the operations. -/
def handle (env : Env σ) : Handler ServiceSig (World σ)
  | .now, w => (some (w.clock 0), { w with clock := fun n => w.clock (n + 1) })
  | .ledgerAppend e, w => (some (), { w with ledger := w.ledger ++ [e] })
  | .ledgerAll, w => (some w.ledger, w)
  | .openedInvoicesHas i, w => (some (decide (i ∈ w.openedInvoices)), w)
  | .openedInvoicesAdd i, w => (some (), { w with openedInvoices := w.openedInvoices.insert i })
  | .attemptsGet i, w => (some (w.attempts.get i), w)
  | .attemptsSet i n, w => (some (), { w with attempts := w.attempts.set i n })
  | .credentialWindow k t, w => (some (AX10M.credentialWindow w.credentialAttempts k t), w)
  | .credentialIncrement k t, w =>
    (some (), { w with
      credentialAttempts := AX10M.credentialIncrement w.credentialAttempts k t })
  | .attemptCharge a i m k, w =>
    match processorCharge w.charges a i m k with
    | some c => (some c.result, { w with charges := w.charges ++ [c] })
    | none => (none, w)
  | .fetchUpdatedCard a m, w => (some ((a.fetchUpdatedCard m).getD none), w)
  | .listPaymentMethods a c, w => (some ((a.listPaymentMethods c).getD []), w)
  | .dispatch r, w => (some (), { w with dispatched := w.dispatched ++ [r] })
  | .observe m c t d, w => (some (), { w with featureStore := w.featureStore.observe m c t d })
  | .recordOutcome m c b r t, w =>
    (some (), { w with
      featureStore := w.featureStore.recordOutcome env.featureStore m c b r t })
  | .enrich ctx, w => (some (w.featureStore.enrich env.featureStore ctx), w)
  | .decide f ctx, w => (some (env.policy.decide w.policy f ctx), w)
  | .update f d r, w => (some (), { w with policy := env.policy.update w.policy f d r })
  | .recordFailure m i c a, w =>
    (some (), { w with onboarding := w.onboarding.recordFailure m i c a })
  | .recordBaselineRecovery m i, w =>
    (some (), { w with onboarding := w.onboarding.recordBaselineRecovery m i })
  | .compose ctx, w => (env.compose ctx, w)
  | .sendDedupeHas k, w => (some (decide (k ∈ w.sent)), w)
  | .sendDedupeRecord k, w => (some (), { w with sent := w.sent.insert k })
  | .send l m r, w => (some (env.send l m r), w)
  | .throw _, w => (none, w)

/-! ### Running the operations -/

section

variable {α : Type} (env : Env σ) (w : World σ)

@[simp] theorem exec_now (k : ℤ → Async α) :
    Prog.exec (handle env) (.op .now k) w =
      (k (w.clock 0)).exec (handle env) { w with clock := fun n => w.clock (n + 1) } := rfl

@[simp] theorem exec_ledgerAppend (e : LedgerEntry) (k : Unit → Async α) :
    Prog.exec (handle env) (.op (.ledgerAppend e) k) w =
      (k ()).exec (handle env) { w with ledger := w.ledger ++ [e] } := rfl

@[simp] theorem exec_ledgerAll (k : List LedgerEntry → Async α) :
    Prog.exec (handle env) (.op .ledgerAll k) w = (k w.ledger).exec (handle env) w := rfl

@[simp] theorem exec_attemptsGet (i : String) (k : Option ℕ → Async α) :
    Prog.exec (handle env) (.op (.attemptsGet i) k) w =
      (k (w.attempts.get i)).exec (handle env) w := rfl

@[simp] theorem exec_attemptsSet (i : String) (n : ℕ) (k : Unit → Async α) :
    Prog.exec (handle env) (.op (.attemptsSet i n) k) w =
      (k ()).exec (handle env) { w with attempts := w.attempts.set i n } := rfl

@[simp] theorem exec_credentialWindow (key : String) (t : Option String)
    (k : CredentialAttemptWindow → Async α) :
    Prog.exec (handle env) (.op (.credentialWindow key t) k) w =
      (k (AX10M.credentialWindow w.credentialAttempts key t)).exec (handle env) w := rfl

@[simp] theorem exec_credentialIncrement (key t : String) (k : Unit → Async α) :
    Prog.exec (handle env) (.op (.credentialIncrement key t) k) w =
      (k ()).exec (handle env) { w with
        credentialAttempts := AX10M.credentialIncrement w.credentialAttempts key t } := rfl

end

end World

end AX10M
