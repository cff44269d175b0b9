/-
  The onboarding lifecycle and the recovery service, which share their events.

  A platform takes lifecycle operations and webhooks one after the other.  What a
  webhook dispatches does not depend on the onboarding of the merchant: a recovery is
  live whenever the deployment charges live.  Live recoveries are for active merchants
  only, exactly if every failure that is dispatched comes from one
  (`live_only_when_active_iff`).
-/
import AX10M.Recovery.Failure

namespace AX10M

open Js Effects

/-- A lifecycle operation, or a webhook that is ingested. -/
inductive PlatformStep where
  | connect (merchantId processor now : String)
  | recordFailure (merchantId invoiceId : String) (declineCode : DeclineCode) (amount : MinorUnits)
  | recordBaselineRecovery (merchantId invoiceId : String)
  | activate (merchantId now : String)
  | webhook (processorId : String) (ingested : Ingested)

section

variable {σ : Type} (s : RecoveryCaseService) (env : Env σ)

namespace Platform

/-- Take over the onboardings that an operation leaves; an operation that fails leaves them. -/
def onboard (w : World σ) : Except String OnboardingStore → World σ
  | .ok st => { w with onboarding := st }
  | .error _ => w

/-- One step. -/
def step (w : World σ) : PlatformStep → World σ
  | .connect m processor now => onboard w (w.onboarding.connect m processor now)
  | .recordFailure m i code amount =>
    { w with onboarding := w.onboarding.recordFailure m i code amount }
  | .recordBaselineRecovery m i =>
    { w with onboarding := w.onboarding.recordBaselineRecovery m i }
  | .activate m now => onboard w (w.onboarding.activate m now)
  | .webhook pid ingested => ingest s env pid w ingested

/-- A run. -/
def run (w : World σ) (steps : List PlatformStep) : World σ := steps.foldl (step s env) w

/-- What a step dispatches, with the status of the merchant at the moment of each dispatch. -/
def dispatches (w : World σ) :
    PlatformStep → List (DurableRecoveryRequest × Option OnboardingStatus)
  | .webhook pid ingested =>
    (s.ingestWithAdapter pid ingested).observed (World.handle env) dispatchSeen w
  | _ => []

end Platform

/-- The failure of an invoice is one that is dispatched: it carries a payment method, and its
    unit is assigned to treatment. -/
def ToDispatch (event : CanonicalEvent) (invoice : Invoice) : Prop :=
  ∃ payload, event.body = .invoiceFailed payload ∧ payload.invoice = some invoice ∧
    payload.method.isSome ∧
    ∃ a, s.assignmentOf invoice payload.decline = .ok a ∧ a.bucket = .treatment

theorem toDispatch_iff (hd : s.durableRecovery) (event : CanonicalEvent) (invoice : Invoice) :
    ToDispatch s event invoice ↔ ∃ r, s.dispatchOf event = some r ∧ r.attempt.invoice = invoice := by
  constructor
  · rintro ⟨payload, hb, hi, hm, a, ha, hbk⟩
    obtain ⟨method, hm⟩ := Option.isSome_iff_exists.1 hm
    simp [RecoveryCaseService.dispatchOf, RecoveryCaseService.dispatchIn, hb, hi, ha, hbk, hm, hd]
  · rintro ⟨r, hr, rfl⟩
    obtain ⟨payload, invoice, method, a, hb, hi, hm, ha, hbk, hri, -⟩ := s.dispatchOf_eq_some hr
    exact ⟨payload, hb, hri ▸ hi, by simp [hm], a, hri ▸ ha, hbk⟩

/-- What a webhook dispatches. -/
theorem dispatches_webhook (pid : String) (ingested : Ingested) (w : World σ) :
    Platform.dispatches s env w (.webhook pid ingested) =
      match ingested with
      | .ok events => (events.filterMap s.dispatchOf).map fun r =>
          (r, w.onboarding.status r.attempt.invoice.merchantId)
      | .error _ => [] := by
  cases ingested with
  | ok events => exact (handleEvents_dispatches s env pid events w).1
  | error message => rfl

/-! ## Activation -/

/-- The merchant passes the gates of its shadow window: it has connected, and its view says it is
    ready. -/
def PassesGates (w : World σ) (m now : String) : Prop :=
  ∃ o, w.onboarding.get m = some o ∧ (o.view now).readiness.ready = true

/-- A step that makes a merchant active is its activation, at a time when it passes the gates. -/
theorem active_step {w : World σ} {st : PlatformStep} {m : String}
    (h : (Platform.step s env w st).onboarding.status m = some .active)
    (hw : w.onboarding.status m ≠ some .active) :
    ∃ now, st = .activate m now ∧ PassesGates w m now := by
  cases st with
  | connect m' processor now =>
    simp only [Platform.step, Platform.onboard] at h
    cases hc : w.onboarding.connect m' processor now with
    | error e =>
      rw [hc] at h
      exact absurd h hw
    | ok st' =>
      rw [hc] at h
      rcases w.onboarding.status_connect hc m with hs | ⟨-, hs⟩
      · exact absurd (hs.symm.trans h) hw
      · cases hs.symm.trans h
  | recordFailure m' i code amount =>
    exact absurd ((w.onboarding.status_inShadow m' _ m).symm.trans h) hw
  | recordBaselineRecovery m' i =>
    exact absurd ((w.onboarding.status_inShadow m' _ m).symm.trans h) hw
  | activate m' now =>
    simp only [Platform.step, Platform.onboard] at h
    cases hc : w.onboarding.activate m' now with
    | error e =>
      rw [hc] at h
      exact absurd h hw
    | ok st' =>
      rw [hc] at h
      rcases w.onboarding.status_activate hc m with hs | ⟨rfl, -, hgates⟩
      · exact absurd (hs.symm.trans h) hw
      · exact ⟨now, rfl, hgates⟩
  | webhook pid ingested =>
    refine absurd (Eq.trans ?_ h) hw
    cases ingested with
    | ok events => exact ((handleEvents_dispatches s env pid events w).2 m).symm
    | error message => rfl

/-- A merchant that becomes active in a run was activated in it, when it passed the gates. -/
theorem active_run {w : World σ} {steps : List PlatformStep} {m : String}
    (h : (Platform.run s env w steps).onboarding.status m = some .active)
    (hw : w.onboarding.status m ≠ some .active) :
    ∃ before now after, steps = before ++ .activate m now :: after ∧
      PassesGates (Platform.run s env w before) m now := by
  induction steps using List.reverseRecOn with
  | nil => exact absurd h hw
  | append_singleton steps st ih =>
    by_cases hs : (Platform.run s env w steps).onboarding.status m = some .active
    · obtain ⟨before, now, after, rfl, hgates⟩ := ih hs
      exact ⟨before, now, after ++ [st], by simp, hgates⟩
    · rw [Platform.run, List.foldl_concat] at h
      obtain ⟨now, rfl, hgates⟩ := active_step s env h hs
      exact ⟨steps, now, [], rfl, hgates⟩

/-! ## Live recoveries -/

/-- In a step, live recoveries are for active merchants only, exactly if every failure that is
    dispatched is of a merchant that is active before the step. -/
theorem live_step_iff (hd : s.durableRecovery) (hl : s.liveCharging) (w : World σ)
    (st : PlatformStep) :
    (∀ d ∈ Platform.dispatches s env w st, d.1.shadow = false → d.2 = some .active) ↔
      ∀ pid events, st = .webhook pid (.ok events) → ∀ e ∈ events, ∀ invoice,
        ToDispatch s e invoice → w.onboarding.status invoice.merchantId = some .active := by
  constructor
  · rintro h pid events rfl e he invoice hto
    obtain ⟨r, hr, rfl⟩ := (toDispatch_iff s hd e invoice).1 hto
    obtain ⟨-, -, -, -, -, -, -, -, -, -, hlive⟩ := s.dispatchOf_eq_some hr
    rw [hl] at hlive
    refine h (r, _) ?_ hlive
    rw [dispatches_webhook]
    exact List.mem_map.2 ⟨r, List.mem_filterMap.2 ⟨e, he, hr⟩, rfl⟩
  · intro h d hdis _
    cases st with
    | webhook pid ingested =>
      rw [dispatches_webhook] at hdis
      cases ingested with
      | error message => cases hdis
      | ok events =>
        obtain ⟨r, hr, rfl⟩ := List.mem_map.1 hdis
        obtain ⟨e, he, hr⟩ := List.mem_filterMap.1 hr
        exact h pid events rfl e he _ ((toDispatch_iff s hd e _).2 ⟨r, hr, rfl⟩)
    | _ => cases hdis

/-- With durable dispatch and live charging, in every step of a run live recoveries are
    dispatched for active merchants only, exactly if in every webhook of the run the failures
    that are dispatched are of merchants that are active by then. -/
theorem live_only_when_active_iff (hd : s.durableRecovery) (hl : s.liveCharging) (w : World σ)
    (steps : List PlatformStep) :
    (∀ before st after, steps = before ++ st :: after →
      ∀ d ∈ Platform.dispatches s env (Platform.run s env w before) st,
        d.1.shadow = false → d.2 = some .active) ↔
    ∀ before pid events after, steps = before ++ .webhook pid (.ok events) :: after →
      ∀ e ∈ events, ∀ invoice, ToDispatch s e invoice →
        (Platform.run s env w before).onboarding.status invoice.merchantId = some .active := by
  constructor
  · intro h before pid events after he
    exact (live_step_iff s env hd hl _ _).1 (h before _ after he) pid events rfl
  · intro h before st after he
    refine (live_step_iff s env hd hl _ st).2 ?_
    rintro pid events rfl
    exact h before pid events after he

end

namespace Sample

/-- A failure of the sample invoice that carries its payment method. -/
def failedWithMethod : CanonicalEvent :=
  event "f1" (.invoiceFailed
    { invoice := some invoice, decline := some decline, method := some method })

/-- The merchant connects; the next day an invoice of it fails. -/
def shadowWindow : List PlatformStep :=
  [.connect "mrc_1" "stripe" "2026-08-16T12:00:00.000Z", .webhook "stripe" (.ok [failedWithMethod])]

end Sample

/-- A merchant in its shadow window is dispatched live. -/
theorem live_only_when_active_fails :
    ∃ before st, Sample.shadowWindow = before ++ [st] ∧
      ∃ d ∈ Platform.dispatches Sample.service Sample.env
          (Platform.run Sample.service Sample.env Sample.world before) st,
        d.1.shadow = false ∧ d.2 = some .shadow := by
  refine ⟨[.connect "mrc_1" "stripe" "2026-08-16T12:00:00.000Z"],
    .webhook "stripe" (.ok [Sample.failedWithMethod]), rfl, ?_⟩
  decide +kernel

theorem live_only_when_active_sample :
    (∀ before st after, Sample.shadowWindow = before ++ st :: after →
      ∀ d ∈ Platform.dispatches Sample.service Sample.env
          (Platform.run Sample.service Sample.env Sample.world before) st,
        d.1.shadow = false → d.2 = some .active) ↔
    ∀ before pid events after, Sample.shadowWindow = before ++ .webhook pid (.ok events) :: after →
      ∀ e ∈ events, ∀ invoice, ToDispatch Sample.service e invoice →
        (Platform.run Sample.service Sample.env Sample.world before).onboarding.status
          invoice.merchantId = some .active :=
  live_only_when_active_iff Sample.service Sample.env rfl rfl Sample.world Sample.shadowWindow

end AX10M
