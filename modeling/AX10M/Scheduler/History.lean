/-
  The executions of a saga, whatever its host answers.

  The driver numbers them from 1 and makes all of them on the inputs of its case; it goes on
  to the next one only after a charge that failed (`attempts_follows`).
-/
import AX10M.Effects.Trace
import AX10M.Scheduler.Saga

namespace AX10M

open Js Effects

/-- An execution that a saga asked its host for: the result is `none` if it was rejected. -/
structure SagaExecution (W : Type) where
  input : AttemptInput
  result : Option ExecuteResult
  host : W

variable {W : Type}

/-- A performed operation of a host, as an execution. -/
def executedOp : Performed SagaSig W → Option (SagaExecution W)
  | ⟨.execute input, result, w⟩ => some ⟨input, result, w⟩
  | _ => none

/-- The executions are those of a saga of the case from attempt `n` on: numbered one by one, each
    stamped with a time, and all but the last followed by the decision to go on. -/
def Follows (config : SchedulerConfig) (attempt : SagaAttempt) : ℕ → List (SagaExecution W) → Prop
  | _, [] => True
  | n, e :: es => e.input.attempt = attempt ∧ e.input.attemptNumber = n ∧
      e.input.nowIso.isSome ∧
      (es ≠ [] → ∃ r, e.result = some r ∧ postExecuteStep r n config = .retry (n + 1)) ∧
      Follows config attempt (n + 1) es

namespace Saga

variable (config : SchedulerConfig) (attempt : SagaAttempt) (h : Handler SagaSig W)

theorem Hosts.not_executed (e : Performed SagaSig W) (he : Hosts e.op) : executedOp e = none := by
  obtain ⟨o, r, w⟩ := e
  cases o with
  | execute input => exact he.elim
  | _ => rfl

/-- After the host's own operations, the executions are those of what follows. -/
theorem follows_after {α : Type} {p : Saga α} (hp : p.Uses Hosts)
    {f : α → Saga RecoverySagaResult} {n : ℕ}
    (hf : ∀ a w, Follows config attempt n ((f a).observed h executedOp w)) (w : W) :
    Follows config attempt n ((p.bind f).observed h executedOp w) :=
  Prog.observed_after Hosts.not_executed (C := Follows config attempt n) trivial hp hf w

/-- The driver goes on with the next number. -/
theorem postExecuteStep_retry {r : ExecuteResult} {n next : ℕ}
    (hr : postExecuteStep r n config = .retry next) : next = n + 1 := by
  unfold postExecuteStep at hr
  split at hr
  all_goals try cases hr
  split_ifs at hr
  cases hr
  rfl

theorem execute_follows {again : ℕ → List SagaEvent → Saga RecoverySagaResult}
    (ha : ∀ n timeline w, Follows config attempt n ((again n timeline).observed h executedOp w))
    (n : ℕ) (timeline : List SagaEvent) (w : W) :
    Follows config attempt n ((execute config attempt again n timeline).observed h executedOp w) := by
  refine follows_after config attempt h (p := host .now) ⟨trivial, fun _ => trivial⟩ ?_ w
  intro now w₁
  simp only [host, Prog.bind_eq, Prog.op_bind, Prog.pure_bind]
  rcases ho : h (.execute { attempt, attemptNumber := n, nowIso := some now }) w₁ with ⟨_ | r, w₂⟩
  · rw [Prog.observed_op_rejected ho]
    exact ⟨rfl, rfl, rfl, fun hne => absurd rfl hne, trivial⟩
  · rw [Prog.observed_op_of ho]
    refine ⟨rfl, rfl, rfl, ?_, ?_⟩
    · -- nothing is executed after the result, unless the decision is to go on
      refine Prog.observed_after Hosts.not_executed
        (C := fun es => es ≠ [] → ∃ r', some r = some r' ∧
          postExecuteStep r' n config = .retry (n + 1)) (fun hne => absurd rfl hne)
        (record_hosts _ _ _ _) (fun timeline' w₃ => ?_) w₂
      cases hpost : postExecuteStep r n config with
      | stop reason =>
        rw [Prog.observed_of_uses Hosts.not_executed (stop_hosts _ _ _)]
        exact fun hne => absurd rfl hne
      | awaitSettlement =>
        rw [Prog.observed_of_uses Hosts.not_executed (awaitSettlement_hosts _ _ _)]
        exact fun hne => absurd rfl hne
      | retry next =>
        obtain rfl := postExecuteStep_retry config hpost
        exact fun _ => ⟨r, rfl, hpost⟩
    · refine follows_after config attempt h (record_hosts _ _ _ _) (fun timeline' w₃ => ?_) w₂
      cases hpost : postExecuteStep r n config with
      | stop reason =>
        rw [Prog.observed_of_uses Hosts.not_executed (stop_hosts _ _ _)]
        trivial
      | awaitSettlement =>
        rw [Prog.observed_of_uses Hosts.not_executed (awaitSettlement_hosts _ _ _)]
        trivial
      | retry next =>
        obtain rfl := postExecuteStep_retry config hpost
        exact ha _ timeline' w₃

/-- What a saga executes. -/
theorem attempts_follows (turns n : ℕ) (timeline : List SagaEvent) (w : W) :
    Follows config attempt n
      ((attempts config attempt turns n timeline).observed h executedOp w) := by
  induction turns generalizing n timeline w with
  | zero =>
    rw [attempts, Prog.observed_of_uses Hosts.not_executed (stop_hosts _ _ _)]
    trivial
  | succ turns ih =>
    simp only [attempts, host, Prog.bind_eq, Prog.op_bind, Prog.pure_bind]
    rcases ho : h (.plan { attempt, attemptNumber := n }) w with ⟨_ | decision, w₁⟩
    · rw [Prog.observed_op_rejected ho]
      trivial
    · rw [Prog.observed_op_of ho]
      change Follows config attempt n (Prog.observed h executedOp _ w₁)
      refine follows_after config attempt h (record_hosts _ _ _ _) (fun timeline' => ?_) w₁
      refine follows_after config attempt h (p := host .now) ⟨trivial, fun _ => trivial⟩
        fun now => ?_
      refine follows_after config attempt h (orThrow_hosts _) fun step w => ?_
      cases step with
      | stop reason =>
        rw [Prog.observed_of_uses Hosts.not_executed (stop_hosts _ _ _)]
        trivial
      | executeNow => exact execute_follows config attempt h (fun n t w => ih n t w) n _ w
      | sleepThenExecute target =>
        exact follows_after config attempt h (sleep_hosts _ _ _)
          (fun timeline'' => execute_follows config attempt h (fun n t w => ih n t w) n _) w

end Saga

/-! ## What follows from it -/

variable {config : SchedulerConfig} {attempt : SagaAttempt} {n : ℕ} {es : List (SagaExecution W)}

/-- Every execution is one of the case. -/
theorem Follows.attempt_eq (h : Follows config attempt n es) :
    ∀ e ∈ es, e.input.attempt = attempt ∧ e.input.nowIso.isSome := by
  induction es generalizing n with
  | nil => simp
  | cons e es ih =>
    obtain ⟨ha, -, ht, -, hes⟩ := h
    intro e' he'
    rcases List.mem_cons.1 he' with rfl | he'
    · exact ⟨ha, ht⟩
    · exact ih hes e' he'

/-- An execution after which another one came was a failed charge. -/
def Continued (config : SchedulerConfig) (e : SagaExecution W) : Prop :=
  ∃ r, e.result = some r ∧
    postExecuteStep r e.input.attemptNumber config = .retry (e.input.attemptNumber + 1)

/-- All executions but the last are continued. -/
theorem Follows.pairwise (h : Follows config attempt n es) :
    es.Pairwise fun e _ => Continued config e := by
  induction es generalizing n with
  | nil => exact .nil
  | cons e es ih =>
    obtain ⟨-, rfl, -, hc, hes⟩ := h
    refine List.pairwise_cons.2 ⟨fun e' he' => hc ?_, ih hes⟩
    exact List.ne_nil_of_mem he'

/-- The driver goes on only after a charge that failed. -/
theorem Continued.failed {e : SagaExecution W} (h : Continued config e) :
    ∃ r, e.result = some r ∧ r.action = .charged ∧ r.outcome ≠ some .succeeded ∧
      r.outcome ≠ some .pending := by
  obtain ⟨r, hr, hp⟩ := h
  refine ⟨r, hr, ?_⟩
  unfold postExecuteStep at hp
  cases ha : r.action with
  | charged =>
    rw [ha] at hp
    simp only at hp
    split_ifs at hp with h₁ h₂
    exact ⟨rfl, h₁, h₂⟩
  | _ => simp [ha] at hp

end AX10M
