/-
  The sequenced saga (`@ax10m/scheduler`, `sequenced-driver.ts`): all retries are planned at once,
  and the saga walks the plan.

  The saga builds every call from the case and the number of the step alone, and has no ceiling of
  its own.  Hence it runs the plan that it was given, for every port, if and only if the plan has no
  more retries than are allowed and names no other method than the one of the case
  (`keepsPlan_iff`).
-/
import AX10M.Scheduler.Law
import Mathlib.Data.List.TakeWhile

namespace AX10M

open Js Effects

variable {W : Type}

/-! ## The driver -/

namespace Sequenced

/-- Stop after an execution, or go on if it was a charge that failed. -/
def conclude (config : SchedulerConfig) (attemptNumber : ℕ) (result : ExecuteResult)
    (timeline : List SagaEvent) (next : Saga RecoverySagaResult) : Saga RecoverySagaResult :=
  match result.action with
  | .shadowed => Saga.stop timeline .shadowComplete attemptNumber
  | .guardrailSuppressed => Saga.stop timeline .guardrailSuppressed attemptNumber
  | .engineSuppressed => Saga.stop timeline .engineSuppressed attemptNumber
  | .cardUpdateComms => Saga.stop timeline .cardUpdateComms attemptNumber
  | .charged =>
    if result.outcome = some .succeeded then Saga.stop timeline .recovered attemptNumber
    else if result.outcome = some .pending then Saga.awaitSettlement timeline config attemptNumber
    else next

/-- Execute the steps one after the other. -/
def walk (config : SchedulerConfig) (attempt : SagaAttempt) :
    List RetryStep → ℕ → List SagaEvent → Saga RecoverySagaResult
  | [], lastAttempt, timeline => Saga.stop timeline .exhausted lastAttempt
  | step :: steps, _, timeline =>
    if step.action ≠ .retry then
      Saga.stop timeline (if step.action = .cardUpdate then .cardUpdateComms else .engineSuppressed)
        step.attemptNumber
    else do
      host (.sleepUntil step.time)
      let timeline ← Saga.record timeline .slept step.attemptNumber
        [("until", .str step.time), ("methodRef", (step.methodRef.map .str).getD .null)]
      let now ← host .now
      let result ← host
        (.execute { attempt, attemptNumber := step.attemptNumber, nowIso := some now })
      let timeline ← Saga.record timeline .executed step.attemptNumber
        [("action", .str result.action.text),
          ("outcome", (result.outcome.map fun o => Json.str o.text).getD .null)]
      conclude config step.attemptNumber result timeline
        (walk config attempt steps step.attemptNumber timeline)

end Sequenced

/-- Plan the sequence of a case and walk it; the first argument is the port's `planSequence`, if it
    has one. -/
def runSequencedRecoverySaga (planSequence : Option (AttemptInput → List RetryStep))
    (attempt : SagaAttempt) (config : SchedulerConfig := defaultSchedulerConfig) :
    Saga RecoverySagaResult :=
  match planSequence with
  | none => Saga.orThrow (.error "runSequencedRecoverySaga: port does not implement planSequence.")
  | some planSequence => do
    let steps := planSequence { attempt, attemptNumber := 1 }
    let timeline ← Saga.record [] .planned 1 [("steps", .num steps.length)]
    if steps.length = 0 then Saga.stop timeline .engineSuppressed 1
    else Sequenced.walk config attempt steps 1 timeline

/-! ## What it is meant to do -/

/-- The call executes the step: at its time or later, and on the method that it names. -/
def Executes (step : RetryStep) (call : PortCall) : Prop :=
  ∃ attempt time result, call = .executed attempt step.attemptNumber time result ∧
    step.action = .retry ∧ (∀ t, Date.parse step.time = some t → t ≤ time) ∧
    ∀ ref, step.methodRef = some ref → attempt.method.processorRef = ref

theorem Sequenced.conclude_of_failed {result : ExecuteResult} (h : result.Failed)
    (config : SchedulerConfig) (n : ℕ) (timeline : List SagaEvent)
    (next : Saga RecoverySagaResult) : conclude config n result timeline next = next := by
  obtain ⟨haction, hsucceeded, hpending⟩ := h
  simp only [conclude, haction, if_neg hsucceeded, if_neg hpending]

/-- The call is a charge that failed. -/
def PortCall.Failed : PortCall → Prop
  | .executed _ _ _ result => result.Failed
  | .planned _ _ => False

/-- The calls run the plan: they execute its first steps, each one once and in their order, no more
    than are allowed, and end with the first one that did not fail. -/
def RunsPlan (config : SchedulerConfig) (steps : List RetryStep) (calls : List PortCall) : Prop :=
  (∃ walked, walked <+: steps ∧ walked.length ≤ config.maxAttempts ∧
    List.Forall₂ Executes walked calls) ∧ ∀ call ∈ calls.dropLast, call.Failed

/-- Whatever port and runtime, the sequenced saga of the case ends and runs its plan. -/
def KeepsPlan (planSequence : AttemptInput → List RetryStep) (attempt : SagaAttempt)
    (config : SchedulerConfig) : Prop :=
  ∀ (W : Type) (h : Handler SagaSig W) (clock : W → ℤ), Runtime h clock → ∀ w,
    ∃ calls res w', Prog.Runs h (portCall clock)
        (runSequencedRecoverySaga (some planSequence) attempt config) w calls (some res) w' ∧
      RunsPlan config (planSequence { attempt, attemptNumber := 1 }) calls

/-- The steps before the first one that is not a retry. -/
def retries (steps : List RetryStep) : List RetryStep :=
  steps.takeWhile fun step => step.action = .retry

/-! ## What it does -/

/-- The call executes the step at its time or later, on the method of the case. -/
def Charges (attempt : SagaAttempt) (step : RetryStep) (call : PortCall) : Prop :=
  ∃ time result, call = .executed attempt step.attemptNumber time result ∧
    ∀ t, Date.parse step.time = some t → t ≤ time

namespace Sequenced

variable {h : Handler SagaSig W} {clock : W → ℤ} (hrt : Runtime h clock)
  (config : SchedulerConfig) (attempt : SagaAttempt)

include hrt

theorem runs_conclude {result : ExecuteResult} (hresult : ¬ result.Failed) (n : ℕ)
    (timeline : List SagaEvent) (next : Saga RecoverySagaResult) (w : W) :
    ∃ res w', Prog.Runs h (portCall clock) (conclude config n result timeline next) w []
      (some res) w' := by
  have hstop : ∀ reason, ∃ res w', Prog.Runs h (portCall clock)
      (Saga.stop timeline reason n) w [] (some res) w' := by
    intro reason
    obtain ⟨res, w', hruns, -⟩ := Saga.runs_stop hrt timeline reason n w
    exact ⟨res, w', hruns⟩
  unfold conclude
  cases haction : result.action with
  | charged =>
    by_cases hsucceeded : result.outcome = some .succeeded
    · simp only [if_pos hsucceeded]
      exact hstop _
    · by_cases hpending : result.outcome = some .pending
      · simp only [if_neg hsucceeded, if_pos hpending]
        obtain ⟨res, w', hruns, -⟩ := Saga.runs_awaitSettlement hrt config timeline n w
        exact ⟨res, w', hruns⟩
      · exact absurd ⟨haction, hsucceeded, hpending⟩ hresult
  | _ => exact hstop _

/-- A walk executes the first retries of its steps, up to one that does not fail, and all of them if
    all fail. -/
theorem walk_runs (steps : List RetryStep) (lastAttempt : ℕ) (timeline : List SagaEvent) (w : W) :
    ∃ calls res w', Prog.Runs h (portCall clock) (walk config attempt steps lastAttempt timeline) w
        calls (some res) w' ∧
      (∃ walked, walked <+: retries steps ∧ List.Forall₂ (Charges attempt) walked calls) ∧
      (∀ call ∈ calls.dropLast, call.Failed) ∧
      ((∀ a n time result, .executed a n time result ∈ calls → result.Failed) →
        calls.length = (retries steps).length) := by
  induction steps generalizing lastAttempt timeline w with
  | nil =>
    obtain ⟨res, w', hruns, -⟩ := Saga.runs_stop hrt timeline .exhausted lastAttempt w
    exact ⟨[], res, w', hruns, ⟨[], List.nil_prefix, .nil⟩, by simp, fun _ => rfl⟩
  | cons step steps ih =>
    by_cases hretry : step.action = .retry
    · obtain ⟨w₁, hsleep, -, hdue⟩ := hrt.sleepUntil step.time w
      obtain ⟨slept, w₂, hrecord, hle₂⟩ := Saga.runs_record hrt timeline .slept step.attemptNumber
        [("until", .str step.time), ("methodRef", (step.methodRef.map .str).getD .null)] w₁
      obtain ⟨iso, w₃, hnow, -, hle₃⟩ := Saga.runs_now hrt w₂
      obtain ⟨result, w₄, hexecute, -⟩ := hrt.execute ⟨attempt, step.attemptNumber, some iso⟩ w₃
      let timeline' := timeline ++ [⟨slept, .slept, step.attemptNumber,
        [("until", .str step.time), ("methodRef", (step.methodRef.map .str).getD .null)]⟩]
      let event : Record := [("action", .str result.action.text),
        ("outcome", (result.outcome.map fun o => Json.str o.text).getD .null)]
      obtain ⟨executed, w₅, hrecord', -⟩ :=
        Saga.runs_record hrt timeline' .executed step.attemptNumber event w₄
      let timeline'' := timeline' ++ [⟨executed, .executed, step.attemptNumber, event⟩]
      have hcharges : Charges attempt step
          (.executed attempt step.attemptNumber (clock w₃) result) := by
        refine ⟨clock w₃, result, rfl, ?_⟩
        intro t ht
        exact (hdue t (.inl ht)).trans (hle₂.trans hle₃)
      have hretries : retries (step :: steps) = step :: retries steps := by
        rw [retries, List.takeWhile_cons, if_pos (by simpa using hretry), retries]
      -- the rest of the walk, after the call
      have hruns : ∀ {calls : List PortCall} {res : RecoverySagaResult} {w' : W},
          Prog.Runs h (portCall clock) (conclude config step.attemptNumber result timeline''
            (walk config attempt steps step.attemptNumber timeline'')) w₅ calls (some res) w' →
          Prog.Runs h (portCall clock) (walk config attempt (step :: steps) lastAttempt timeline) w
            (.executed attempt step.attemptNumber (clock w₃) result :: calls) (some res) w' := by
        intro calls res w' hrest
        rw [walk, if_neg (not_not_intro hretry)]
        exact .op hsleep (hrecord.bind (hnow.bind (.op hexecute (hrecord'.bind hrest))))
      by_cases hfailed : result.Failed
      · obtain ⟨calls, res, w', hwalk, ⟨walked, hprefix, hcalls⟩, hlast, hall⟩ :=
          ih step.attemptNumber timeline'' w₅
        refine ⟨_, res, w', hruns ?_, ⟨step :: walked, ?_, .cons hcharges hcalls⟩, ?_, ?_⟩
        · rw [conclude_of_failed hfailed]
          exact hwalk
        · rw [hretries]
          exact List.cons_prefix_cons.2 ⟨rfl, hprefix⟩
        · intro call hcall
          cases calls with
          | nil => cases hcall
          | cons next calls =>
            rcases List.mem_cons.1 hcall with rfl | hcall
            · exact hfailed
            · exact hlast call hcall
        · intro hcalls
          rw [hretries, List.length_cons, List.length_cons,
            hall fun a n t r hcall => hcalls a n t r (List.mem_cons_of_mem _ hcall)]
      · obtain ⟨res, w', hlast⟩ := runs_conclude hrt config hfailed step.attemptNumber timeline''
          (walk config attempt steps step.attemptNumber timeline'') w₅
        refine ⟨_, res, w', hruns hlast, ⟨[step], ?_, .cons hcharges .nil⟩, ?_, ?_⟩
        · rw [hretries]
          exact List.cons_prefix_cons.2 ⟨rfl, List.nil_prefix⟩
        · intro call hcall
          cases hcall
        · intro hcalls
          exact absurd (hcalls _ _ _ _ (List.mem_singleton_self _)) hfailed
    · obtain ⟨res, w', hruns, -⟩ := Saga.runs_stop hrt timeline
        (if step.action = .cardUpdate then .cardUpdateComms else .engineSuppressed)
        step.attemptNumber w
      refine ⟨[], res, w', ?_, ⟨[], List.nil_prefix, .nil⟩, by simp, ?_⟩
      · rw [walk, if_pos hretry]
        exact hruns
      · intro _
        rw [retries, List.takeWhile_cons, if_neg (by simpa using hretry)]
        rfl

/-- So does the saga with the plan of its port. -/
theorem runSequencedRecoverySaga_runs (planSequence : AttemptInput → List RetryStep) (w : W) :
    ∃ calls res w', Prog.Runs h (portCall clock)
        (runSequencedRecoverySaga (some planSequence) attempt config) w calls (some res) w' ∧
      (∃ walked, walked <+: retries (planSequence { attempt, attemptNumber := 1 }) ∧
        List.Forall₂ (Charges attempt) walked calls) ∧
      (∀ call ∈ calls.dropLast, call.Failed) ∧
      ((∀ a n time result, .executed a n time result ∈ calls → result.Failed) →
        calls.length = (retries (planSequence { attempt, attemptNumber := 1 })).length) := by
  obtain ⟨time, w₁, hrecord, -⟩ := Saga.runs_record hrt [] .planned 1
    [("steps", .num (planSequence { attempt, attemptNumber := 1 }).length)] w
  have hruns : ∀ {p : List SagaEvent → Saga RecoverySagaResult} {calls : List PortCall}
      {res : RecoverySagaResult} {w' : W},
      (runSequencedRecoverySaga (some planSequence) attempt config =
        (Saga.record [] .planned 1
          [("steps", .num (planSequence { attempt, attemptNumber := 1 }).length)]).bind p) →
      Prog.Runs h (portCall clock) (p [⟨time, .planned, 1,
        [("steps", .num (planSequence { attempt, attemptNumber := 1 }).length)]⟩]) w₁ calls
        (some res) w' →
      Prog.Runs h (portCall clock) (runSequencedRecoverySaga (some planSequence) attempt config) w
        calls (some res) w' := by
    intro p calls res w' hp hrest
    rw [hp]
    exact hrecord.bind hrest
  by_cases hempty : (planSequence { attempt, attemptNumber := 1 }).length = 0
  · obtain ⟨res, w', hstop, -⟩ := Saga.runs_stop hrt _ .engineSuppressed 1 w₁
    refine ⟨[], res, w', hruns rfl ?_, ⟨[], List.nil_prefix, .nil⟩, by simp, ?_⟩
    · simp only [if_pos hempty]
      exact hstop
    · intro _
      rw [List.length_eq_zero_iff.1 hempty]
      rfl
  · obtain ⟨calls, res, w', hwalk, hcalls⟩ :=
      walk_runs hrt config attempt (planSequence { attempt, attemptNumber := 1 }) 1 _ w₁
    refine ⟨calls, res, w', hruns rfl ?_, hcalls⟩
    simp only [if_neg hempty]
    exact hwalk

end Sequenced

/-- Calls on the method of the case execute their steps if the steps name no other. -/
theorem executes_iff {attempt : SagaAttempt} {steps : List RetryStep} {calls : List PortCall}
    (h : List.Forall₂ (Charges attempt) steps calls) :
    List.Forall₂ Executes steps calls ↔ ∀ step ∈ steps, step.action = .retry ∧
      ∀ ref, step.methodRef = some ref → attempt.method.processorRef = ref := by
  induction h with
  | nil => simp
  | @cons step call steps calls hcall _ ih =>
    rw [List.forall₂_cons, ih, List.forall_mem_cons]
    refine and_congr_left fun _ => ?_
    obtain ⟨time, result, rfl, htime⟩ := hcall
    constructor
    · rintro ⟨attempt', time', result', heq, hretry, -, hmethod⟩
      cases heq
      exact ⟨hretry, hmethod⟩
    · rintro ⟨hretry, hmethod⟩
      exact ⟨attempt, time, result, rfl, hretry, htime, hmethod⟩

theorem mem_retries {step : RetryStep} {steps : List RetryStep} (h : step ∈ retries steps) :
    step.action = .retry := by
  simpa using List.mem_takeWhile_imp h

namespace Sample

/-- A charge that was declined. -/
def declined : ExecuteResult :=
  { action := .charged, outcome := some .failed, decision := retryDecision }

/-- A host at the end of time, where all charges fail. -/
noncomputable def decliningHost : Handler SagaSig Unit
  | .now, _ => (some lastText, ())
  | .sleepUntil _, _ => (some (), ())
  | .plan _, _ => (some retryDecision, ())
  | .execute _, _ => (some declined, ())
  | .throw _, _ => (none, ())

theorem decliningHost_runtime : Runtime decliningHost fun _ => last where
  now _ := ⟨lastText, (), rfl, parse_lastText, le_rfl⟩
  sleepUntil _ _ := ⟨(), rfl, le_rfl, fun _ => le_last⟩
  plan _ _ := ⟨retryDecision, (), rfl, le_rfl⟩
  execute _ _ := ⟨declined, (), rfl, le_rfl⟩

theorem decliningHost_failed {p : Saga RecoverySagaResult} {a : SagaAttempt} {n : ℕ} {time : ℤ}
    {result : ExecuteResult}
    (h : .executed a n time result ∈ p.observed decliningHost (portCall fun _ => last) ()) :
    result.Failed := by
  obtain ⟨⟨op, res, w⟩, he, hcall⟩ := List.mem_filterMap.1 h
  have hres := Prog.res_of_mem_trace he
  cases op with
  | execute input =>
    cases hres
    cases hcall
    exact ⟨rfl, by decide, by decide⟩
  | plan input =>
    cases hres
    cases hcall
  | _ => cases hcall

end Sample

/-- When all charges fail, the saga executes all retries of its plan. -/
theorem declining_runs (planSequence : AttemptInput → List RetryStep) (attempt : SagaAttempt)
    (config : SchedulerConfig) : ∃ calls,
    (∀ calls' res w', Prog.Runs Sample.decliningHost (portCall fun _ => Sample.last)
        (runSequencedRecoverySaga (some planSequence) attempt config) () calls' res w' →
      calls' = calls) ∧
    List.Forall₂ (Charges attempt) (retries (planSequence { attempt, attemptNumber := 1 }))
      calls := by
  obtain ⟨calls, res, w', hruns, ⟨walked, hprefix, hcalls⟩, -, hall⟩ :=
    Sequenced.runSequencedRecoverySaga_runs Sample.decliningHost_runtime config attempt
      planSequence ()
  refine ⟨calls, ?_, ?_⟩
  · intro calls' res' w'' hruns'
    rw [← hruns'.sees, hruns.sees]
  · have hfailed : ∀ a n time result, .executed a n time result ∈ calls → result.Failed := by
      intro a n time result hcall
      rw [← hruns.sees] at hcall
      exact Sample.decliningHost_failed hcall
    have hlength : walked.length = (retries (planSequence { attempt, attemptNumber := 1 })).length :=
      hcalls.length_eq.trans (hall hfailed)
    rw [← hprefix.eq_of_length hlength]
    exact hcalls

variable {planSequence : AttemptInput → List RetryStep} {attempt : SagaAttempt}
  {config : SchedulerConfig}

/-- What a plan that is run is like: the host where all charges fail tells. -/
theorem KeepsPlan.fits (h : KeepsPlan planSequence attempt config) :
    (retries (planSequence { attempt, attemptNumber := 1 })).length ≤ config.maxAttempts ∧
    ∀ step ∈ retries (planSequence { attempt, attemptNumber := 1 }), ∀ ref,
      step.methodRef = some ref → attempt.method.processorRef = ref := by
  obtain ⟨calls, hcalls, hcharges⟩ := declining_runs planSequence attempt config
  obtain ⟨calls', res, w', hruns, ⟨walked, hprefix, hmax, hexecutes⟩, -⟩ :=
    h Unit Sample.decliningHost _ Sample.decliningHost_runtime ()
  obtain rfl := hcalls _ _ _ hruns
  have hlength := hexecutes.length_eq.trans hcharges.length_eq.symm
  have hwalked : walked = retries (planSequence { attempt, attemptNumber := 1 }) :=
    (List.prefix_of_prefix_length_le hprefix (List.takeWhile_prefix _) hlength.le).eq_of_length
      hlength
  subst hwalked
  exact ⟨hmax, fun step hstep => ((executes_iff hcharges).1 hexecutes step hstep).2⟩

namespace Sample

/-- The steps of a plan with the methods that they name. -/
def steps (refs : List String) : List RetryStep :=
  refs.zipIdx.map fun (ref, i) =>
    { attemptNumber := i + 1, time := "2026-01-02T00:00:00.000Z", action := .retry,
      methodRef := some ref, expectedRecoverability := 1 / 2, rationale := "" }

end Sample

/-- A plan with a second method for its last step is not run, and neither is one of two steps when
    one is allowed. -/
theorem keepsPlan_fails :
    ¬ KeepsPlan (fun _ => Sample.steps ["pm_ref_1", "pm_ref_1", "pm_ref_2"])
        { invoice := Sample.invoice, method := Sample.method } defaultSchedulerConfig ∧
      ¬ KeepsPlan (fun _ => Sample.steps ["pm_ref_1", "pm_ref_1"])
        { invoice := Sample.invoice, method := Sample.method } ⟨1, 60, 60⟩ := by
  constructor
  · intro h
    have hmethod := h.fits.2 _ (List.getLast_mem (List.cons_ne_nil _ _)) "pm_ref_2" rfl
    exact absurd hmethod (by decide)
  · intro h
    exact absurd h.fits.1 (by decide)

variable (planSequence attempt config) in
/-- The saga runs the plan that it was given, for every port and runtime, if and only if the plan
    has no more retries than are allowed, and names no other method than the one of the case. -/
theorem keepsPlan_iff : KeepsPlan planSequence attempt config ↔
    (retries (planSequence { attempt, attemptNumber := 1 })).length ≤ config.maxAttempts ∧
    ∀ step ∈ retries (planSequence { attempt, attemptNumber := 1 }), ∀ ref,
      step.methodRef = some ref → attempt.method.processorRef = ref := by
  constructor
  · exact KeepsPlan.fits
  · rintro ⟨hmax, hmethods⟩ W h clock hrt w
    obtain ⟨calls, res, w', hruns, ⟨walked, hprefix, hcalls⟩, hlast, -⟩ :=
      Sequenced.runSequencedRecoverySaga_runs hrt config attempt planSequence w
    refine ⟨calls, res, w', hruns, ⟨walked, hprefix.trans (List.takeWhile_prefix _),
      hprefix.length_le.trans hmax, (executes_iff hcalls).2 ?_⟩, hlast⟩
    intro step hstep
    have hstep := hprefix.subset hstep
    exact ⟨mem_retries hstep, hmethods step hstep⟩

end AX10M
