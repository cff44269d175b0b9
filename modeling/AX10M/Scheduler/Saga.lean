/-
  The recovery saga (`@ax10m/scheduler`): plan an attempt, sleep until its time,
  execute it, and go on with the next one while charges fail.

  The saga is a program over the operations of its host: the clock, durable
  sleeps, and the two activities of the port.
-/
import AX10M.Js.Date
import AX10M.Recovery.Ops

namespace AX10M

open Js Effects

structure SchedulerConfig where
  /-- ceiling on the charge attempts of a case -/
  maxAttempts : ℕ
  /-- wait for a pending charge to settle -/
  settlementWindowMinutes : ℤ
  /-- gap before the next attempt when the engine gives no time -/
  fallbackBackoffMinutes : ℤ

/-- `DEFAULT_SCHEDULER_CONFIG`. -/
def defaultSchedulerConfig : SchedulerConfig := ⟨8, 60, 60⟩

/-- The inputs of a plan or an execution. -/
structure AttemptInput where
  attempt : SagaAttempt
  attemptNumber : ℕ
  /-- the saga's time at execution -/
  nowIso : Option String := none

/-- What the engine or the guardrail did on an execution. -/
inductive ExecutedAction where
  | charged | shadowed | guardrailSuppressed | engineSuppressed | cardUpdateComms
  deriving DecidableEq, Repr

/-- The text of an executed action. -/
def ExecutedAction.text : ExecutedAction → String
  | charged => "charged" | shadowed => "shadowed"
  | guardrailSuppressed => "guardrail_suppressed" | engineSuppressed => "engine_suppressed"
  | cardUpdateComms => "card_update_comms"

structure ExecuteResult where
  action : ExecutedAction
  outcome : Option ChargeOutcome := none
  decision : RecoveryDecision

/-- Why a saga stopped. -/
inductive StopReason where
  | recovered | exhausted | engineSuppressed | guardrailSuppressed | cardUpdateComms
  | shadowComplete | pendingHandoff
  deriving DecidableEq, Repr

/-- The text of a reason. -/
def StopReason.text : StopReason → String
  | recovered => "recovered" | exhausted => "exhausted"
  | engineSuppressed => "engine_suppressed" | guardrailSuppressed => "guardrail_suppressed"
  | cardUpdateComms => "card_update_comms" | shadowComplete => "shadow_complete"
  | pendingHandoff => "pending_handoff"

inductive SagaEventKind where
  | planned | slept | executed | awaitingSettlement | stopped
  deriving DecidableEq, Repr

/-- A recorded event of a saga. -/
structure SagaEvent where
  /-- `at` -/
  time : String
  kind : SagaEventKind
  attemptNumber : ℕ
  detail : Record

structure RecoverySagaResult where
  status : StopReason
  attempts : ℕ
  timeline : List SagaEvent

/-! ## Decisions -/

inductive PlanStep where
  | sleepThenExecute (target : String)
  | executeNow
  | stop (reason : StopReason)

inductive PostExecuteStep where
  | retry (nextAttemptNumber : ℕ)
  | awaitSettlement
  | stop (reason : StopReason)
  deriving DecidableEq

/-- The text of an instant; a date that is none has no text. -/
def isoText (ms : Option ℤ) : Except String String :=
  match ms with
  | some ms => .ok (Date.toISOString ms)
  | none => .error "Invalid time value"

/-- Add minutes to an instant. -/
def addMinutes (iso : String) (minutes : ℤ) : Except String String :=
  isoText ((Date.parse iso).map fun ms => ms + minutes * 60000)

/-- The time to sleep until: the engine's if it lies ahead, none if it has passed, and a fixed gap
    from now if there is none. -/
def futureTime (retryAt : Option String) (now : String) (fallbackMinutes : ℤ) :
    Except String (Option String) :=
  match (truthy retryAt).bind Date.parse with
  | some t =>
    match Date.parse now with
    | some nowMs => .ok (if t > nowMs then some (Date.toISOString t) else none)
    | none => .ok none
  | none => (addMinutes now fallbackMinutes).map some

/-- What to do before a planned attempt is executed. -/
def planStep (decision : RecoveryDecision) (now : String) (config : SchedulerConfig) :
    Except String PlanStep :=
  match decision.action with
  | .cardUpdateComms => .ok (.stop .cardUpdateComms)
  | .suppress => .ok (.stop .engineSuppressed)
  | .retry => do
    match ← futureTime decision.retryAt now config.fallbackBackoffMinutes with
    | none => .ok .executeNow
    | some target => .ok (.sleepThenExecute target)

/-- What to do after an attempt was executed. -/
def postExecuteStep (result : ExecuteResult) (attemptNumber : ℕ) (config : SchedulerConfig) :
    PostExecuteStep :=
  match result.action with
  | .shadowed => .stop .shadowComplete
  | .engineSuppressed => .stop .engineSuppressed
  | .guardrailSuppressed => .stop .guardrailSuppressed
  | .cardUpdateComms => .stop .cardUpdateComms
  | .charged =>
    if result.outcome = some .succeeded then .stop .recovered
    else if result.outcome = some .pending then .awaitSettlement
    else if attemptNumber + 1 > config.maxAttempts then .stop .exhausted
    else .retry (attemptNumber + 1)

/-! ## The driver -/

/-- The operations of the host of a saga. -/
inductive SagaOp where
  | now
  | sleepUntil (iso : String)
  | plan (input : AttemptInput)
  | execute (input : AttemptInput)
  | throw (message : String)

/-- The result of an operation. -/
@[reducible] def SagaOp.Res : SagaOp → Type
  | .now => String
  | .sleepUntil _ => Unit
  | .plan _ => RecoveryDecision
  | .execute _ => ExecuteResult
  | .throw _ => Empty

/-- The signature of the host. -/
abbrev SagaSig : Sig := ⟨SagaOp, SagaOp.Res⟩

/-- A saga, or a part of one. -/
abbrev Saga (α : Type) := Prog SagaSig α

/-- A single operation of the host. -/
abbrev host (o : SagaOp) : Saga o.Res := .op o .pure

namespace Saga

/-- Add an event to the timeline. -/
def record (timeline : List SagaEvent) (kind : SagaEventKind) (attemptNumber : ℕ)
    (detail : Record) : Saga (List SagaEvent) := do
  let t ← host .now
  return timeline ++ [⟨t, kind, attemptNumber, detail⟩]

/-- Stop with a reason. -/
def stop (timeline : List SagaEvent) (reason : StopReason) (attemptNumber : ℕ) :
    Saga RecoverySagaResult := do
  let timeline ← record timeline .stopped attemptNumber [("reason", .str reason.text)]
  return ⟨reason, attemptNumber, timeline⟩

/-- A value, or an exception. -/
def orThrow {α : Type} : Except String α → Saga α
  | .ok a => .pure a
  | .error message => do return (← host (.throw message)).elim

/-- Sleep until a time. -/
def sleep (timeline : List SagaEvent) (attemptNumber : ℕ) (target : String) :
    Saga (List SagaEvent) := do
  host (.sleepUntil target)
  record timeline .slept attemptNumber [("until", .str target)]

/-- Wait for a pending charge to settle, and hand the case off. -/
def awaitSettlement (timeline : List SagaEvent) (config : SchedulerConfig) (attemptNumber : ℕ) :
    Saga RecoverySagaResult := do
  let target ← orThrow (addMinutes (← host .now) config.settlementWindowMinutes)
  host (.sleepUntil target)
  let timeline ← record timeline .awaitingSettlement attemptNumber [("until", .str target)]
  stop timeline .pendingHandoff attemptNumber

/-- Execute an attempt, and stop or go on with the next one. -/
def execute (config : SchedulerConfig) (attempt : SagaAttempt)
    (again : ℕ → List SagaEvent → Saga RecoverySagaResult) (attemptNumber : ℕ)
    (timeline : List SagaEvent) : Saga RecoverySagaResult := do
  let now ← host .now
  let result ← host (.execute { attempt, attemptNumber, nowIso := some now })
  let timeline ← record timeline .executed attemptNumber
    [("action", .str result.action.text),
      ("outcome", (result.outcome.map fun o => Json.str o.text).getD .null)]
  match postExecuteStep result attemptNumber config with
  | .stop reason => stop timeline reason attemptNumber
  | .awaitSettlement => awaitSettlement timeline config attemptNumber
  | .retry next => again next timeline

/-- The loop of the driver, for so many more turns. -/
def attempts (config : SchedulerConfig) (attempt : SagaAttempt) :
    ℕ → ℕ → List SagaEvent → Saga RecoverySagaResult
  | 0, attemptNumber, timeline => stop timeline .exhausted attemptNumber
  | turns + 1, attemptNumber, timeline => do
    let decision ← host (.plan { attempt, attemptNumber })
    let timeline ← record timeline .planned attemptNumber
      [("action", .str decision.action.text),
        ("retryAt", (decision.retryAt.map .str).getD .null), ("rationale", .str decision.rationale)]
    let step ← orThrow (planStep decision (← host .now) config)
    match step with
    | .stop reason => stop timeline reason attemptNumber
    | .executeNow => execute config attempt (attempts config attempt turns) attemptNumber timeline
    | .sleepThenExecute target =>
      let timeline ← sleep timeline attemptNumber target
      execute config attempt (attempts config attempt turns) attemptNumber timeline

end Saga

/-- Run the saga of a case to its end. -/
def runRecoverySaga (attempt : SagaAttempt) (config : SchedulerConfig := defaultSchedulerConfig) :
    Saga RecoverySagaResult :=
  Saga.attempts config attempt (config.maxAttempts + 2) 1 []

/-! ## What a saga does -/

/-- The operation works on the attempts of the invoice. -/
def Concerns (invoiceId : String) : SagaOp → Prop
  | .plan input | .execute input => input.attempt.invoice.id = invoiceId
  | _ => True

/-- The operation only reads the clock. -/
def Idle : SagaOp → Prop
  | .now => True
  | _ => False

/-- The result says that a charge succeeded. -/
def Recovers : (o : SagaOp) → o.Res → Prop
  | .execute _, result => result.action = .charged ∧ result.outcome = some .succeeded
  | _, _ => False

namespace Saga

variable (config : SchedulerConfig) (attempt : SagaAttempt)

/-- Operations that are none of the two activities. -/
def Hosts : SagaOp → Prop
  | .plan _ | .execute _ => False
  | _ => True

theorem Hosts.concerns (i : String) (o : SagaOp) (h : Hosts o) : Concerns i o := by
  cases o with
  | plan input => exact h.elim
  | execute input => exact h.elim
  | _ => trivial

theorem Hosts.not_recovers (o : SagaOp) (h : Hosts o) (r : o.Res) : ¬ Recovers o r := by
  cases o with
  | execute input => exact h.elim
  | _ => exact id

theorem Idle.hosts (o : SagaOp) (h : Idle o) : Hosts o := by
  cases o with
  | now => trivial
  | _ => exact h.elim

theorem record_idle (timeline : List SagaEvent) (kind : SagaEventKind) (n : ℕ) (detail : Record) :
    (record timeline kind n detail).Uses Idle := ⟨trivial, fun _ => trivial⟩

theorem stop_idle (timeline : List SagaEvent) (reason : StopReason) (n : ℕ) :
    (stop timeline reason n).Uses Idle := (record_idle _ _ _ _).bind fun _ => trivial

theorem record_hosts (timeline : List SagaEvent) (kind : SagaEventKind) (n : ℕ)
    (detail : Record) : (record timeline kind n detail).Uses Hosts :=
  (record_idle _ _ _ _).imp Idle.hosts

theorem stop_hosts (timeline : List SagaEvent) (reason : StopReason) (n : ℕ) :
    (stop timeline reason n).Uses Hosts := (stop_idle _ _ _).imp Idle.hosts

theorem orThrow_hosts {α : Type} (x : Except String α) : (orThrow x).Uses Hosts := by
  cases x
  · exact ⟨trivial, fun r => r.elim⟩
  · trivial

theorem sleep_hosts (timeline : List SagaEvent) (n : ℕ) (target : String) :
    (sleep timeline n target).Uses Hosts := ⟨trivial, fun _ => record_hosts _ _ _ _⟩

theorem awaitSettlement_hosts (timeline : List SagaEvent) (n : ℕ) :
    (awaitSettlement timeline config n).Uses Hosts := by
  refine ⟨trivial, fun t => (orThrow_hosts _).bind fun target => ⟨trivial, fun _ => ?_⟩⟩
  exact (record_hosts _ _ _ _).bind fun _ => stop_hosts _ _ _

theorem hosts_until {α : Type} {p : Saga α} (hp : p.Uses Hosts) : p.Until Recovers Idle :=
  (hp.imp Hosts.not_recovers).until

theorem hosts_bind_until {α β : Type} {p : Saga α} {f : α → Saga β} (hp : p.Uses Hosts)
    (hf : ∀ a, (f a).Until Recovers Idle) : (p.bind f).Until Recovers Idle :=
  Prog.Until.bind (hp.imp Hosts.not_recovers) hf

theorem hosts_bind_concerns {α β : Type} {p : Saga α} {f : α → Saga β} (hp : p.Uses Hosts)
    (hf : ∀ a, (f a).Uses (Concerns attempt.invoice.id)) :
    (p.bind f).Uses (Concerns attempt.invoice.id) :=
  (hp.imp (Hosts.concerns _)).bind hf

/-- After a success there is no next attempt. -/
theorem postExecuteStep_of_success {result : ExecuteResult}
    (h : result.action = .charged ∧ result.outcome = some .succeeded) (n : ℕ) :
    postExecuteStep result n config = .stop .recovered := by
  simp [postExecuteStep, h.1, h.2]

theorem execute_until {again : ℕ → List SagaEvent → Saga RecoverySagaResult}
    (ha : ∀ n timeline, (again n timeline).Until Recovers Idle) (n : ℕ)
    (timeline : List SagaEvent) :
    (execute config attempt again n timeline).Until Recovers Idle := by
  unfold execute
  simp only [host, Prog.bind_eq, Prog.op_bind, Prog.pure_bind]
  refine fun now => ⟨fun result => ⟨?_, fun hr => ?_⟩, False.elim⟩
  · refine hosts_bind_until (record_hosts _ _ _ _) fun timeline' => ?_
    split
    · exact hosts_until (stop_hosts _ _ _)
    · exact hosts_until (awaitSettlement_hosts _ _ _)
    · exact ha _ _
  · refine (record_idle _ _ _ _).bind fun timeline' => ?_
    rw [postExecuteStep_of_success config hr]
    exact stop_idle _ _ _

/-- Once a charge succeeded, a saga only reads the clock. -/
theorem attempts_until (turns n : ℕ) (timeline : List SagaEvent) :
    (attempts config attempt turns n timeline).Until Recovers Idle := by
  induction turns generalizing n timeline with
  | zero => exact hosts_until (stop_hosts _ _ _)
  | succ turns ih =>
    simp only [attempts, host, Prog.bind_eq, Prog.op_bind, Prog.pure_bind]
    refine fun decision => ⟨?_, False.elim⟩
    refine hosts_bind_until (record_hosts _ _ _ _) fun timeline' now => ⟨?_, False.elim⟩
    refine hosts_bind_until (orThrow_hosts _) fun step => ?_
    cases step with
    | stop reason => exact hosts_until (stop_hosts _ _ _)
    | executeNow => exact execute_until config attempt ih _ _
    | sleepThenExecute target =>
      exact hosts_bind_until (sleep_hosts _ _ _)
        fun timeline'' => execute_until config attempt ih _ _

theorem execute_concerns {again : ℕ → List SagaEvent → Saga RecoverySagaResult}
    (ha : ∀ n timeline, (again n timeline).Uses (Concerns attempt.invoice.id)) (n : ℕ)
    (timeline : List SagaEvent) :
    (execute config attempt again n timeline).Uses (Concerns attempt.invoice.id) := by
  unfold execute
  simp only [host, Prog.bind_eq, Prog.op_bind, Prog.pure_bind]
  refine ⟨trivial, fun now => ⟨rfl, fun result => ?_⟩⟩
  refine hosts_bind_concerns attempt (record_hosts _ _ _ _) fun timeline' => ?_
  split
  · exact (stop_hosts _ _ _).imp (Hosts.concerns _)
  · exact (awaitSettlement_hosts _ _ _).imp (Hosts.concerns _)
  · exact ha _ _

/-- A saga works on the attempts of its invoice. -/
theorem attempts_concerns (turns n : ℕ) (timeline : List SagaEvent) :
    (attempts config attempt turns n timeline).Uses (Concerns attempt.invoice.id) := by
  induction turns generalizing n timeline with
  | zero => exact (stop_hosts _ _ _).imp (Hosts.concerns _)
  | succ turns ih =>
    simp only [attempts, host, Prog.bind_eq, Prog.op_bind, Prog.pure_bind]
    refine ⟨rfl, fun decision => ?_⟩
    refine hosts_bind_concerns attempt (record_hosts _ _ _ _) fun timeline' =>
      ⟨trivial, fun now => ?_⟩
    refine hosts_bind_concerns attempt (orThrow_hosts _) fun step => ?_
    cases step with
    | stop reason => exact (stop_hosts _ _ _).imp (Hosts.concerns _)
    | executeNow => exact execute_concerns config attempt ih _ _
    | sleepThenExecute target =>
      exact hosts_bind_concerns attempt (sleep_hosts _ _ _)
        fun timeline'' => execute_concerns config attempt ih _ _

end Saga

end AX10M
