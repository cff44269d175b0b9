/-
  The law of a saga (`@ax10m/scheduler`, `driver.ts`, `saga.ts`), for every port and every runtime
  whose clock does not go back and whose sleeps last long enough.

  A saga is a sequence of rounds: each is planned, and executed unless its plan ends the saga.  The
  rounds are numbered from 1; all but the last end with a charge that failed; none is executed
  before its time; and the last one is the reason why the saga stops (`saga_law`).
-/
import AX10M.Effects.Trace
import AX10M.Js.Instants
import AX10M.Recovery.Run
import AX10M.Scheduler.Saga

namespace AX10M

open Js Effects

variable {W : Type}

/-! ## The host -/

/-- A host that answers everything but `throw`: its clock is valid and does not go back, and a sleep
    ends at the time of the text or later. -/
structure Runtime (h : Handler SagaSig W) (clock : W → ℤ) : Prop where
  now : ∀ w, ∃ iso w', h .now w = (some iso, w') ∧ Date.parse iso = some (clock w') ∧
    clock w ≤ clock w'
  sleepUntil : ∀ iso w, ∃ w', h (.sleepUntil iso) w = (some (), w') ∧ clock w ≤ clock w' ∧
    ∀ t, Date.Denotes iso t → t ≤ clock w'
  plan : ∀ input w, ∃ decision w', h (.plan input) w = (some decision, w') ∧ clock w ≤ clock w'
  execute : ∀ input w, ∃ result w', h (.execute input) w = (some result, w') ∧
    clock w ≤ clock w'

/-- What a saga asks of its port. -/
inductive PortCall where
  | planned (input : AttemptInput) (decision : RecoveryDecision)
  | executed (attempt : SagaAttempt) (attemptNumber : ℕ) (time : ℤ) (result : ExecuteResult)

/-- The calls of the port in a run, with the time of each execution. -/
def portCall (clock : W → ℤ) : Performed SagaSig W → Option PortCall
  | ⟨.plan input, some decision, _⟩ => some (.planned input decision)
  | ⟨.execute input, some result, w⟩ =>
    some (.executed input.attempt input.attemptNumber (clock w) result)
  | _ => none

/-! ## Rounds -/

/-- An execution, and when it was made. -/
structure TimedResult where
  time : ℤ
  result : ExecuteResult

/-- A planned attempt, and its execution if it was executed. -/
structure Round where
  decision : RecoveryDecision
  execution : Option TimedResult

/-- The calls of a round. -/
def Round.calls (attempt : SagaAttempt) (n : ℕ) (r : Round) : List PortCall :=
  .planned { attempt, attemptNumber := n } r.decision ::
    (r.execution.map fun x => .executed attempt n x.time x.result).toList

/-- The retry time of a plan. -/
def Round.plannedTime (r : Round) : Option ℤ := (truthy r.decision.retryAt).bind Date.parse

/-- What is executed was planned as a retry, and is not executed before its time. -/
def Round.Timely (r : Round) : Prop :=
  ∀ x, r.execution = some x → r.decision.action = .retry ∧
    ∀ t, r.plannedTime = some t → t ≤ x.time

/-- A charge that failed. -/
def ExecuteResult.Failed (result : ExecuteResult) : Prop :=
  result.action = .charged ∧ result.outcome ≠ some .succeeded ∧ result.outcome ≠ some .pending

/-- The round goes on with the next one after a charge that failed. -/
def Round.GoesOn (r : Round) : Prop := ∃ x, r.execution = some x ∧ x.result.Failed

/-- Why a saga stops with round `n`. -/
def Round.reason (config : SchedulerConfig) (n : ℕ) (r : Round) : Option StopReason :=
  match r.execution with
  | none =>
    match r.decision.action with
    | .cardUpdateComms => some .cardUpdateComms
    | .suppress => some .engineSuppressed
    | .retry => none
  | some x =>
    match x.result.action, x.result.outcome with
    | .shadowed, _ => some .shadowComplete
    | .engineSuppressed, _ => some .engineSuppressed
    | .guardrailSuppressed, _ => some .guardrailSuppressed
    | .cardUpdateComms, _ => some .cardUpdateComms
    | .charged, some .succeeded => some .recovered
    | .charged, some .pending => some .pendingHandoff
    | .charged, _ => if n = config.maxAttempts then some .exhausted else none

/-- The rounds of a saga from round `n` on, and the reason why it stops. -/
def Stops (config : SchedulerConfig) : ℕ → List Round → StopReason → Prop
  | _, [], _ => False
  | n, [r], reason => r.Timely ∧ r.reason config n = some reason
  | n, r :: rs, reason => r.Timely ∧ r.GoesOn ∧ n < config.maxAttempts ∧
    Stops config (n + 1) rs reason

/-- The result of a saga that stopped with round `n`: one stopped event, the last one. -/
def StoppedAt (timeline : List SagaEvent) (reason : StopReason) (n : ℕ)
    (res : RecoverySagaResult) : Prop :=
  ∃ events time, (∀ e ∈ events, e.kind ≠ .stopped) ∧
    res = ⟨reason, n, timeline ++ events ++ [⟨time, .stopped, n, [("reason", .str reason.text)]⟩]⟩

theorem StoppedAt.of_append {timeline events : List SagaEvent} {reason : StopReason} {n : ℕ}
    {res : RecoverySagaResult} (h : StoppedAt (timeline ++ events) reason n res)
    (hevents : ∀ e ∈ events, e.kind ≠ .stopped) : StoppedAt timeline reason n res := by
  obtain ⟨events', time, hne, rfl⟩ := h
  refine ⟨events ++ events', time, ?_, ?_⟩
  · intro e he
    rcases List.mem_append.1 he with he | he
    · exact hevents e he
    · exact hne e he
  · rw [List.append_assoc timeline]

namespace Saga

variable {h : Handler SagaSig W} {clock : W → ℤ} (hrt : Runtime h clock)

include hrt

/-! ## The parts of a saga -/

theorem runs_now (w : W) : ∃ iso w', Prog.Runs h (portCall clock) (host .now) w [] (some iso) w' ∧
    Date.parse iso = some (clock w') ∧ clock w ≤ clock w' := by
  obtain ⟨iso, w', hnow, hparse, hle⟩ := hrt.now w
  exact ⟨iso, w', .op hnow (.pure iso), hparse, hle⟩

theorem runs_record (timeline : List SagaEvent) (kind : SagaEventKind) (n : ℕ) (detail : Record)
    (w : W) : ∃ time w', Prog.Runs h (portCall clock) (record timeline kind n detail) w []
      (some (timeline ++ [⟨time, kind, n, detail⟩])) w' ∧ clock w ≤ clock w' := by
  obtain ⟨iso, w', hnow, -, hle⟩ := runs_now hrt w
  exact ⟨iso, w', hnow.bind (.pure _), hle⟩

theorem runs_stop (timeline : List SagaEvent) (reason : StopReason) (n : ℕ) (w : W) :
    ∃ res w', Prog.Runs h (portCall clock) (stop timeline reason n) w [] (some res) w' ∧
      StoppedAt timeline reason n res := by
  obtain ⟨time, w', hrecord, -⟩ := runs_record hrt timeline .stopped n
    [("reason", .str reason.text)] w
  refine ⟨_, w', hrecord.bind (.pure _), [], time, by simp, ?_⟩
  rw [List.append_nil]

theorem runs_awaitSettlement (config : SchedulerConfig) (timeline : List SagaEvent) (n : ℕ)
    (w : W) : ∃ res w', Prog.Runs h (portCall clock) (awaitSettlement timeline config n) w []
      (some res) w' ∧ StoppedAt timeline .pendingHandoff n res := by
  obtain ⟨iso, w₁, hnow, hparse, -⟩ := runs_now hrt w
  obtain ⟨target, htarget⟩ : ∃ target,
      orThrow (addMinutes iso config.settlementWindowMinutes) = .pure target := by
    refine ⟨Date.toISOString (clock w₁ + config.settlementWindowMinutes * 60000), ?_⟩
    simp only [addMinutes, hparse, Option.map_some, isoText, orThrow]
  obtain ⟨w₂, hsleep, -, -⟩ := hrt.sleepUntil target w₁
  obtain ⟨time, w₃, hrecord, -⟩ := runs_record hrt timeline .awaitingSettlement n
    [("until", .str target)] w₂
  obtain ⟨res, w', hstop, hres⟩ := runs_stop hrt
    (timeline ++ [⟨time, .awaitingSettlement, n, [("until", .str target)]⟩]) .pendingHandoff n w₃
  refine ⟨res, w', ?_, hres.of_append ?_⟩
  · refine hnow.bind ?_
    rw [htarget]
    exact .op hsleep (hrecord.bind hstop)
  · intro e he
    obtain rfl := List.mem_singleton.1 he
    simp

/-! ## The loop -/

variable (config : SchedulerConfig) (attempt : SagaAttempt)

end Saga

/-! ### What the decision after an execution says -/

section

variable {config : SchedulerConfig} {decision : RecoveryDecision} {x : TimedResult} {n : ℕ}

theorem Stops.cons {rounds : List Round} {r : Round} {reason : StopReason} (htimely : r.Timely)
    (hgoes : r.GoesOn) (hn : n < config.maxAttempts)
    (h : Stops config (n + 1) rounds reason) : Stops config n (r :: rounds) reason := by
  cases rounds with
  | nil => exact h.elim
  | cons r' rounds => exact ⟨htimely, hgoes, hn, h⟩

end

namespace Saga

variable {h : Handler SagaSig W} {clock : W → ℤ} (hrt : Runtime h clock)
  (config : SchedulerConfig) (attempt : SagaAttempt)

include hrt

end Saga

/-! ## The law -/

/-- The number of an execution. -/
def PortCall.number : PortCall → Option ℕ
  | .executed _ n _ _ => some n
  | .planned _ _ => none

section

variable {config : SchedulerConfig} {rounds : List Round} {n : ℕ} {reason : StopReason}

/-- Between its first round and its last, a saga goes on. -/
theorem Stops.between (h : Stops config n rounds reason) :
    (∀ r ∈ rounds, r.Timely) ∧ (∀ r ∈ rounds.dropLast, r.GoesOn) ∧
      ∃ r, rounds.getLast? = some r ∧ r.reason config (n + rounds.length - 1) = some reason := by
  induction rounds generalizing n with
  | nil => exact h.elim
  | cons r rounds ih =>
    cases rounds with
    | nil =>
      refine ⟨?_, ?_, r, rfl, h.2⟩
      · intro r' hr'
        obtain rfl := List.mem_singleton.1 hr'
        exact h.1
      · intro r' hr'
        cases hr'
    | cons r' rounds =>
      obtain ⟨htimely, hgoes, -, hstops⟩ := h
      obtain ⟨htimelys, hgoons, last, hlast, hreason⟩ := ih hstops
      refine ⟨?_, ?_, last, ?_, ?_⟩
      · intro r'' hr''
        rcases List.mem_cons.1 hr'' with rfl | hr''
        · exact htimely
        · exact htimelys r'' hr''
      · intro r'' hr''
        rcases List.mem_cons.1 hr'' with rfl | hr''
        · exact hgoes
        · exact hgoons r'' hr''
      · rw [List.getLast?_cons_cons]
        exact hlast
      · have hlength : n + (r :: r' :: rounds).length - 1 = n + 1 + (r' :: rounds).length - 1 := by
          simp only [List.length_cons]
          omega
        rw [hlength]
        exact hreason

end

namespace Sample

/-- The last instant that can be read, and its text. -/
noncomputable def lastText : String := (Date.exists_last.choose_spec.1).choose

noncomputable def last : ℤ := Date.exists_last.choose

theorem parse_lastText : Date.parse lastText = some last :=
  (Date.exists_last.choose_spec.1).choose_spec

theorem le_last {iso : String} {t : ℤ} (h : Date.Denotes iso t) : t ≤ last :=
  Date.exists_last.choose_spec.2 t h.readable

/-- A retry that was planned for the second of January. -/
def retryDecision : RecoveryDecision where
  action := .retry
  retryAt := some "2026-01-02T00:00:00.000Z"
  recoverabilityScore := 1
  expectedValueMinor := 100
  rationale := "soft decline"

end Sample

end AX10M
