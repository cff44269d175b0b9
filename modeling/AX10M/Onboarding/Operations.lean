/-
  Runs of the onboarding service.

  `performAll_get`: the onboarding of a merchant is what was reported since it connected last, or
  that of a shadow window in which it was activated, with what was reported up to then.

  `activation_kept_iff`: an active merchant was activated in its current window when all gates were
  passed; it stays active with its observations if and only if no active merchant connects again.
-/
import AX10M.Js.Groups
import AX10M.Onboarding.Observed

namespace AX10M

open Js

/-- An operation of the onboarding service, with what its clock reads. -/
inductive OnboardingOp where
  | connect (merchantId processor now : String)
  | recordFailure (merchantId invoiceId : String) (declineCode : DeclineCode) (amount : MinorUnits)
  | recordBaselineRecovery (merchantId invoiceId : String)
  | status (merchantId now : String)
  | activate (merchantId now : String)

namespace OnboardingOp

/-- What an operation reports of a merchant. -/
def report (merchantId : String) : OnboardingOp → Option ShadowReport
  | recordFailure m invoiceId declineCode amount =>
    if m = merchantId then some (.failed invoiceId declineCode amount) else none
  | recordBaselineRecovery m invoiceId => if m = merchantId then some (.paid invoiceId) else none
  | _ => none

/-- The operation connects the merchant. -/
def Connects (merchantId : String) (op : OnboardingOp) : Prop :=
  ∃ processor now, op = connect merchantId processor now ∧ merchantId ≠ "" ∧ processor ≠ ""

end OnboardingOp

open OnboardingOp

/-- What operations report of a merchant. -/
def reportsOf (merchantId : String) (ops : List OnboardingOp) : List ShadowReport :=
  ops.filterMap (report merchantId)

theorem reportsOf_concat (m : String) (ops : List OnboardingOp) (op : OnboardingOp) :
    reportsOf m (ops ++ [op]) = reportsOf m ops ++ (op.report m).toList := by
  rw [reportsOf, List.filterMap_append, List.filterMap_cons, List.filterMap_nil, reportsOf]
  cases op.report m <;> rfl

namespace OnboardingStore

/-- Take over what an operation leaves; one that fails leaves the store as it is. -/
def orKeep (st : OnboardingStore) : Except String OnboardingStore → OnboardingStore
  | .ok st' => st'
  | .error _ => st

/-- The store after an operation. -/
def perform (st : OnboardingStore) : OnboardingOp → OnboardingStore
  | .connect m processor now => st.orKeep (st.connect m processor now)
  | .recordFailure m i code amount => st.recordFailure m i code amount
  | .recordBaselineRecovery m i => st.recordBaselineRecovery m i
  | .status _ _ => st
  | .activate m now => st.orKeep (st.activate m now)

/-- The store after some operations. -/
def performAll (ops : List OnboardingOp) : OnboardingStore := ops.foldl perform Map.empty

theorem performAll_concat (ops : List OnboardingOp) (op : OnboardingOp) :
    performAll (ops ++ [op]) = (performAll ops).perform op := by
  rw [performAll, List.foldl_append]
  rfl

end OnboardingStore

open OnboardingStore

/-! ## One operation -/

section

variable {st : OnboardingStore} {op : OnboardingOp} {m : String} {o : MerchantOnboarding}

/-- The onboarding of a merchant that has just connected. -/
def MerchantOnboarding.fresh (merchantId processor now : String) : MerchantOnboarding :=
  ⟨beginOnboarding merchantId processor now, Map.empty⟩

/-- The onboarding of a merchant after its activation. -/
def MerchantOnboarding.activated (o : MerchantOnboarding) (now : String) : MerchantOnboarding :=
  { o with state := { o.state with status := .active, activatedAt := some now } }

theorem perform_connects {processor now : String} (hm : m ≠ "") (hp : processor ≠ "") :
    (st.perform (.connect m processor now)).get m = some (.fresh m processor now) := by
  rw [perform, connect_eq st hm hp]
  exact Map.get_set_self ..

/-- A merchant that connects changes no other one; one that does not, none. -/
theorem perform_connect_of_not {m' processor now : String}
    (h : ¬ Connects m (.connect m' processor now)) :
    (st.perform (.connect m' processor now)).get m = st.get m := by
  by_cases hempty : m' = "" ∨ processor = ""
  · rw [perform, OnboardingStore.connect, if_pos hempty]
    rfl
  · obtain ⟨hm, hp⟩ := not_or.1 hempty
    rw [perform, connect_eq st hm hp]
    refine Map.get_set_ne _ ?_ _
    rintro rfl
    exact h ⟨processor, now, rfl, hm, hp⟩

/-- What an activation of a merchant does: nothing, unless the merchant is in shadow and ready. -/
theorem OnboardingStore.perform_activate_eq (m' now : String) :
    st.perform (.activate m' now) = st ∨
      ∃ o', st.get m' = some o' ∧
        st.perform (.activate m' now) = Map.set st m' (o'.activated now) := by
  rw [perform, OnboardingStore.activate]
  cases ho' : st.get m' with
  | none => exact .inl rfl
  | some o' =>
    by_cases hs : o'.state.status = .active
    · left
      simp only [hs, if_true]
      rfl
    · cases hr : (o'.view now).readiness.ready with
      | false =>
        left
        simp only [hs, if_false, hr, Bool.not_false, if_true]
        rfl
      | true =>
        refine .inr ⟨o', rfl, ?_⟩
        simp only [hs, if_false, hr, Bool.not_true, Bool.false_eq_true, AX10M.activate,
          Bool.false_and]
        rfl

/-- An activation makes a merchant in shadow active if it is ready, and changes no other one. -/
theorem perform_activate (h : st.get m = some o) (hs : o.state.status = .shadow) (m' now : String) :
    (st.perform (.activate m' now)).get m =
      some (if m' = m ∧ (o.view now).readiness.ready = true then o.activated now else o) := by
  by_cases hm : m' = m
  · subst hm
    rw [perform, OnboardingStore.activate, h]
    simp only [hs, reduceCtorEq, if_false, true_and]
    cases hr : (o.view now).readiness.ready with
    | false => exact h
    | true =>
      simp only [Bool.not_true, Bool.false_eq_true, if_false, AX10M.activate, hs, reduceCtorEq, hr,
        Bool.false_and]
      exact Map.get_set_self ..
  · rw [if_neg fun hand => hm hand.1, ← h]
    rcases st.perform_activate_eq m' now with hsame | ⟨o', -, hset⟩
    · rw [hsame]
    · rw [hset]
      exact Map.get_set_ne _ (Ne.symm hm) _

/-- An activation changes no merchant that is active. -/
theorem perform_activate_of_active (h : st.get m = some o) (hs : o.state.status = .active)
    (m' now : String) : (st.perform (.activate m' now)).get m = some o := by
  rw [← h]
  by_cases hm : m' = m
  · subst hm
    rw [perform, OnboardingStore.activate, h]
    simp only [hs, if_true]
    exact h
  · rcases st.perform_activate_eq m' now with hsame | ⟨o', -, hset⟩
    · rw [hsame]
    · rw [hset]
      exact Map.get_set_ne _ (Ne.symm hm) _

/-- What an operation other than a connection leaves of a merchant in shadow. -/
theorem perform_shadow (h : st.get m = some o) (hs : o.state.status = .shadow)
    (hnot : ¬ Connects m op) :
    (st.perform op).get m = some { o with
      observations := (op.report m).elim o.observations (ShadowReport.enter o.observations) } ∨
    ∃ now, op = .activate m now ∧ (o.view now).readiness.ready = true ∧
      (st.perform op).get m = some (o.activated now) := by
  cases op with
  | connect m' processor now =>
    left
    rw [perform_connect_of_not hnot]
    exact h
  | recordFailure m' i code amount =>
    left
    rw [perform, OnboardingStore.recordFailure, get_inShadow h hs, report]
    split_ifs <;> rfl
  | recordBaselineRecovery m' i =>
    left
    rw [perform, OnboardingStore.recordBaselineRecovery, get_inShadow h hs, report]
    split_ifs <;> rfl
  | status m' now => exact .inl h
  | activate m' now =>
    rw [perform_activate h hs]
    split_ifs with hready
    · obtain ⟨rfl, hready⟩ := hready
      exact .inr ⟨now, rfl, hready, rfl⟩
    · exact .inl rfl

/-- An operation other than a connection changes no merchant that is active. -/
theorem perform_active (h : st.get m = some o) (hs : o.state.status = .active)
    (hnot : ¬ Connects m op) : (st.perform op).get m = some o := by
  have hquiet : ∀ m' f, (st.inShadow m' f).get m = some o := by
    intro m' f
    rw [get_inShadow_of_not _ m' f, h]
    intro o' ho'
    obtain rfl := Option.some.inj (h.symm.trans ho')
    rw [hs]
    decide
  cases op with
  | connect m' processor now =>
    rw [perform_connect_of_not hnot]
    exact h
  | recordFailure m' i code amount => exact hquiet m' _
  | recordBaselineRecovery m' i => exact hquiet m' _
  | status m' now => exact h
  | activate m' now => exact perform_activate_of_active h hs m' now

/-- No operation other than a connection makes a merchant known. -/
theorem perform_unknown (h : st.get m = none) (hnot : ¬ Connects m op) :
    (st.perform op).get m = none := by
  have hquiet : ∀ m' f, (st.inShadow m' f).get m = none := by
    intro m' f
    rw [get_inShadow_of_not _ m' f, h]
    intro o ho
    rw [h] at ho
    cases ho
  cases op with
  | connect m' processor now =>
    rw [perform_connect_of_not hnot]
    exact h
  | recordFailure m' i code amount => exact hquiet m' _
  | recordBaselineRecovery m' i => exact hquiet m' _
  | status m' now => exact h
  | activate m' now =>
    rcases st.perform_activate_eq m' now with hsame | ⟨o', ho', hset⟩
    · rw [hsame]
      exact h
    · rw [hset, Map.get_set_ne, h]
      rintro rfl
      rw [h] at ho'
      cases ho'

end

/-! ## Runs -/

section

variable {ops : List OnboardingOp} {m : String} {o : MerchantOnboarding}

/-- The onboarding is that of a merchant in shadow: what was reported since it connected last. -/
def InShadow (m : String) (ops : List OnboardingOp) (o : MerchantOnboarding) : Prop :=
  ∃ before processor start since, ops = before ++ .connect m processor start :: since ∧
    (∀ op ∈ since, ¬ Connects m op) ∧
    o = ⟨beginOnboarding m processor start, shadowObservations (reportsOf m since)⟩

/-- The onboarding is that of a merchant that was activated in its shadow window, when it was
    ready, and has not connected since. -/
def WasActivated (m : String) (ops : List OnboardingOp) (o : MerchantOnboarding) : Prop :=
  ∃ before now after o', ops = before ++ .activate m now :: after ∧
    (∀ op ∈ after, ¬ Connects m op) ∧ InShadow m before o' ∧
    (o'.view now).readiness.ready = true ∧ o = o'.activated now

theorem InShadow.status (h : InShadow m ops o) : o.state.status = .shadow := by
  obtain ⟨_, _, _, _, -, -, rfl⟩ := h
  rfl

theorem WasActivated.status (h : WasActivated m ops o) : o.state.status = .active := by
  obtain ⟨_, _, _, _, -, -, -, -, rfl⟩ := h
  rfl

/-- In every run, a merchant that the service knows is in shadow or was activated. -/
theorem performAll_get (h : (performAll ops).get m = some o) :
    InShadow m ops o ∨ WasActivated m ops o := by
  induction ops using List.reverseRecOn generalizing o with
  | nil => cases h
  | append_singleton ops op ih =>
    rw [performAll_concat] at h
    by_cases hconnects : Connects m op
    · obtain ⟨processor, now, rfl, hm, hp⟩ := hconnects
      rw [perform_connects hm hp] at h
      obtain rfl := Option.some.inj h
      refine .inl ⟨ops, processor, now, [], rfl, ?_, rfl⟩
      intro op hop
      cases hop
    · have hquiet : ∀ l : List OnboardingOp, (∀ op ∈ l, ¬ Connects m op) →
          ∀ op' ∈ l ++ [op], ¬ Connects m op' := by
        intro l hl op' hop'
        rcases List.mem_append.1 hop' with hop' | hop'
        · exact hl op' hop'
        · rw [List.mem_singleton.1 hop']
          exact hconnects
      cases hold : (performAll ops).get m with
      | none =>
        rw [perform_unknown hold hconnects] at h
        cases h
      | some o' =>
        rcases ih hold with hshadow | hactive
        · obtain ⟨before, processor, start, since, rfl, hsince, rfl⟩ := id hshadow
          rcases perform_shadow hold hshadow.status hconnects with
            hentry | ⟨now, rfl, hready, hentry⟩
          · rw [hentry] at h
            obtain rfl := Option.some.inj h
            refine .inl ⟨before, processor, start, since ++ [op], by simp, hquiet since hsince, ?_⟩
            rw [reportsOf_concat]
            cases op.report m with
            | none => simp only [Option.elim_none, Option.toList_none, List.append_nil]
            | some r =>
              simp only [Option.elim_some, Option.toList_some, shadowObservations_concat]
          · rw [hentry] at h
            obtain rfl := Option.some.inj h
            refine .inr ⟨_, now, [], _, rfl, ?_, hshadow, hready, rfl⟩
            intro op hop
            cases hop
        · rw [perform_active hold hactive.status hconnects] at h
          obtain rfl := Option.some.inj h
          obtain ⟨before, now, after, o, rfl, hafter, hshadow, hready, rfl⟩ := hactive
          exact .inr ⟨before, now, after ++ [op], o, by simp, hquiet after hafter, hshadow, hready,
            rfl⟩

/-- The progress of a window that has started. -/
theorem shadowProgress_started {state : OnboardingState} {start : String}
    (h : state.shadowStartedAt = some start) (hstart : start ≠ "") (now : String) :
    (shadowProgress state now).elapsedDays = OnboardingState.daysBetween start now ∧
      (shadowProgress state now).windowComplete =
        (OnboardingState.daysBetween start now).any fun days : ℚ =>
          days ≥ state.shadowWindowDays := by
  unfold shadowProgress
  split
  next hnone => cases h.symm.trans hnone
  next hempty => exact absurd (Option.some.inj (h.symm.trans hempty)) hstart
  next start' _ hsome =>
    obtain rfl := Option.some.inj (h.symm.trans hsome)
    exact ⟨rfl, rfl⟩

theorem gate_eq_nil {c : Prop} [Decidable c] (reason : String) :
    (if c then [reason] else []) = [] ↔ ¬ c := by
  split_ifs with h <;> simp [h]

/-- The gates of a merchant in shadow: the window is over, enough failures were observed, and the
    projection is positive. -/
theorem readiness_iff {processor start now : String} {obs : Map String ShadowObservation} :
    (MerchantOnboarding.view ⟨beginOnboarding m processor start, obs⟩ now).readiness.ready = true ↔
      start ≠ "" ∧ ∃ days, OnboardingState.daysBetween start now = some days ∧
        defaultOnboardingConfig.shadowWindowDays ≤ days ∧
        defaultOnboardingConfig.minFailuresToActivate ≤ obs.values.length ∧
        0 < (projectShadow obs.values (some days)).projectedMonthlyValue.amount := by
  by_cases hstart : start = ""
  · subst hstart
    simp [MerchantOnboarding.view, readiness, shadowProgress, beginOnboarding]
  · have hstarted : (beginOnboarding m processor start).shadowStartedAt = some start := rfl
    obtain ⟨helapsed, hcomplete⟩ := shadowProgress_started hstarted hstart now
    rw [MerchantOnboarding.view, readiness, if_neg (by simp [beginOnboarding])]
    simp only [helapsed, hcomplete]
    cases hdays : OnboardingState.daysBetween start now with
    | none => simp
    | some days =>
      simp only [Option.any_some, beginOnboarding, if_true, reduceCtorEq, if_false, List.nil_append,
        Option.some.injEq, exists_eq_left', ne_eq, hstart, not_false_eq_true, true_and]
      have hobserved : (projectShadow obs.values (some days)).observedFailures =
          obs.values.length := rfl
      rw [List.isEmpty_iff, List.append_eq_nil_iff, List.append_eq_nil_iff, gate_eq_nil,
        gate_eq_nil, gate_eq_nil, Bool.not_eq_true', decide_eq_false_iff_not, not_not, not_lt,
        not_le, hobserved, and_assoc]

/-- The merchant connected, and since then all gates were passed when it was activated. -/
def ActivatedInWindow (m : String) (ops : List OnboardingOp) : Prop :=
  ∃ before processor start since now after,
    ops = before ++ .connect m processor start :: (since ++ .activate m now :: after) ∧
    (∀ op ∈ since ++ after, ¬ Connects m op) ∧
    ∃ days, OnboardingState.daysBetween start now = some days ∧
      defaultOnboardingConfig.shadowWindowDays ≤ days ∧
      defaultOnboardingConfig.minFailuresToActivate ≤
        (shadowObservations (reportsOf m since)).values.length ∧
      0 < (projectShadow (shadowObservations (reportsOf m since)).values
        (some days)).projectedMonthlyValue.amount

/-- No operation takes an active merchant out of active, or discards its observations. -/
def ActiveKept (ops : List OnboardingOp) : Prop :=
  ∀ before op after, ops = before ++ op :: after → ∀ m o, (performAll before).get m = some o →
    o.state.status = .active → ∃ o', (performAll (before ++ [op])).get m = some o' ∧
      o'.state.status = .active ∧ o'.observations = o.observations

theorem WasActivated.inWindow (h : WasActivated m ops o) : ActivatedInWindow m ops := by
  obtain ⟨_, now, after, o', rfl, hafter, ⟨before, processor, start, since, rfl, hsince, rfl⟩,
    hready, -⟩ := h
  obtain ⟨-, hgates⟩ := readiness_iff.1 hready
  refine ⟨before, processor, start, since, now, after, by simp, ?_, hgates⟩
  intro op hop
  rcases List.mem_append.1 hop with hop | hop
  · exact hsince op hop
  · exact hafter op hop

/-- A merchant that connects is not active any more. -/
theorem not_active_of_connects {op : OnboardingOp} (h : Connects m op) :
    (performAll (ops ++ [op])).status m = some .shadow := by
  obtain ⟨processor, now, rfl, hm, hp⟩ := h
  rw [performAll_concat, OnboardingStore.status, perform_connects hm hp]
  rfl

/-- A merchant that connects and is not activated is in shadow. -/
theorem performAll_since (before : List OnboardingOp) {processor start : String} (hm : m ≠ "")
    (hp : processor ≠ "") {since : List OnboardingOp}
    (hsince : ∀ op ∈ since, ¬ Connects m op ∧ ∀ now, op ≠ .activate m now) :
    (performAll (before ++ .connect m processor start :: since)).get m =
      some ⟨beginOnboarding m processor start, shadowObservations (reportsOf m since)⟩ := by
  induction since using List.reverseRecOn with
  | nil =>
    rw [performAll_concat, perform_connects hm hp]
    rfl
  | append_singleton since op ih =>
    have hold := ih fun op' hop' => hsince op' (List.mem_append_left _ hop')
    obtain ⟨hnot, hstays⟩ := hsince op List.mem_concat_self
    rw [← List.cons_append, ← List.append_assoc, performAll_concat, reportsOf_concat]
    rcases perform_shadow hold rfl hnot with hentry | ⟨now, rfl, -⟩
    · rw [hentry]
      cases op.report m with
      | none => simp only [Option.elim_none, Option.toList_none, List.append_nil]
      | some r => simp only [Option.elim_some, Option.toList_some, shadowObservations_concat]
    · exact absurd rfl (hstays now)

/-- Failures of different invoices are all observed. -/
theorem shadowObservations_failed {ids : List String} (h : ids.Nodup) (code : DeclineCode)
    (amount : MinorUnits) :
    (shadowObservations (ids.map fun i => .failed i code amount)).entries =
      ids.map fun i => (i, ⟨code, amount, false⟩) := by
  induction ids using List.reverseRecOn with
  | nil => rfl
  | append_singleton ids i ih =>
    obtain ⟨hids, -, hnew⟩ := List.nodup_append'.1 h
    have hold := ih hids
    have habsent : (shadowObservations (ids.map fun i => .failed i code amount)).get i = none := by
      rw [Map.get_eq_none_iff, Map.keys, hold, List.map_map]
      intro hmem
      obtain ⟨j, hj, rfl⟩ := List.mem_map.1 hmem
      exact hnew hj (List.mem_singleton_self _)
    rw [List.map_append, List.map_singleton, shadowObservations_concat, ShadowReport.enter,
      Map.entries_set_new habsent, hold, List.map_append, List.map_singleton]

/-- In every run, an active merchant was activated in its current window when all gates were
    passed; and no operation takes an active merchant out of active or discards its observations,
    if and only if no merchant connects when it is active. -/
theorem activation_kept_iff (ops : List OnboardingOp) :
    (∀ m, (performAll ops).status m = some .active → ActivatedInWindow m ops) ∧
    (ActiveKept ops ↔ ∀ before op after, ops = before ++ op :: after → ∀ m, Connects m op →
      (performAll before).status m ≠ some .active) := by
  refine ⟨?_, ?_, ?_⟩
  · intro m h
    obtain ⟨o, ho, hs⟩ := Option.map_eq_some_iff.1 h
    rcases performAll_get ho with hshadow | hactive
    · rw [hshadow.status] at hs
      cases hs
    · exact hactive.inWindow
  · intro hkept before op after heq m hconnects h
    obtain ⟨o, ho, hs⟩ := Option.map_eq_some_iff.1 h
    obtain ⟨o', ho', hs', -⟩ := hkept before op after heq m o ho hs
    have hnow : (performAll (before ++ [op])).status m = _ := not_active_of_connects hconnects
    rw [OnboardingStore.status, ho', Option.map_some, hs'] at hnow
    cases hnow
  · intro hnever before op after heq m o ho hs
    refine ⟨o, ?_, hs, rfl⟩
    rw [performAll_concat]
    refine perform_active ho hs fun hconnects => hnever before op after heq m hconnects ?_
    rw [OnboardingStore.status, ho, Option.map_some, hs]

end

namespace Sample

/-- Two hundred invoices. -/
def shadowIds : List String :=
  (List.range 200).map fun n => String.ofList (List.replicate n 'i')

theorem shadowIds_nodup : shadowIds.Nodup := by
  refine List.Nodup.map ?_ List.nodup_range
  intro a b h
  have hlist := congrArg (fun s : String => s.toList.length) h
  simpa using hlist

/-- A merchant connects and has a failure of each invoice in its window. -/
def window : List OnboardingOp :=
  .connect "mrc_1" "stripe" "2026-08-01T00:00:00.000Z" ::
    shadowIds.map fun i => .recordFailure "mrc_1" i .insufficientFunds 4900

/-- It is activated two weeks later, and connects again. -/
def reconnected : List OnboardingOp :=
  window ++ [.activate "mrc_1" "2026-08-15T00:00:00.000Z",
    .connect "mrc_1" "stripe" "2026-08-16T00:00:00.000Z"]

end Sample

/-- The merchant is in shadow in its window, and ready at its end. -/
theorem Sample.window_get : ∃ o, (performAll Sample.window).get "mrc_1" = some o ∧
    o.state.status = .shadow ∧
    (o.view "2026-08-15T00:00:00.000Z").readiness.ready = true := by
  let since := Sample.shadowIds.map fun i =>
    OnboardingOp.recordFailure "mrc_1" i .insufficientFunds 4900
  have hsince : ∀ op ∈ since, ¬ Connects "mrc_1" op ∧ ∀ now, op ≠ .activate "mrc_1" now := by
    intro op hop
    obtain ⟨i, -, rfl⟩ := List.mem_map.1 hop
    refine ⟨?_, ?_⟩
    · rintro ⟨_, _, h, -⟩
      cases h
    · intro now h
      cases h
  have hget : (performAll Sample.window).get "mrc_1" =
      some ⟨beginOnboarding "mrc_1" "stripe" "2026-08-01T00:00:00.000Z",
        shadowObservations (reportsOf "mrc_1" since)⟩ :=
    performAll_since [] (by decide) (by decide) hsince
  have hreports : reportsOf "mrc_1" since =
      Sample.shadowIds.map fun i => .failed i .insufficientFunds 4900 := by
    rw [reportsOf, List.filterMap_map]
    exact congrFun (List.filterMap_eq_map (f := fun i =>
      ShadowReport.failed i .insufficientFunds 4900)) Sample.shadowIds
  have hvalues : (shadowObservations (reportsOf "mrc_1" since)).values =
      List.replicate 200 ⟨.insufficientFunds, 4900, false⟩ := by
    rw [hreports, Map.values, shadowObservations_failed Sample.shadowIds_nodup, List.map_map,
      Sample.shadowIds, List.map_map]
    exact List.map_const' ..
  refine ⟨_, hget, rfl, readiness_iff.2 ⟨by decide, 14, by decide +kernel, by decide +kernel, ?_⟩⟩
  rw [hvalues]
  exact ⟨by decide +kernel, by decide +kernel⟩

/-- An active merchant that connects again is not active any more. -/
theorem activation_kept_fails :
    (performAll (Sample.window ++ [.activate "mrc_1" "2026-08-15T00:00:00.000Z"])).status "mrc_1" =
      some .active ∧
    (performAll Sample.reconnected).status "mrc_1" = some .shadow ∧
    ¬ ActiveKept Sample.reconnected := by
  obtain ⟨o, ho, hshadow, hready⟩ := Sample.window_get
  have hactive : (performAll (Sample.window ++
      [.activate "mrc_1" "2026-08-15T00:00:00.000Z"])).get "mrc_1" =
      some (o.activated "2026-08-15T00:00:00.000Z") := by
    rw [performAll_concat, perform_activate ho hshadow, if_pos ⟨rfl, hready⟩]
  have hsplit : Sample.reconnected =
      (Sample.window ++ [.activate "mrc_1" "2026-08-15T00:00:00.000Z"]) ++
        [.connect "mrc_1" "stripe" "2026-08-16T00:00:00.000Z"] := by
    rw [List.append_assoc]
    rfl
  have hagain : (performAll Sample.reconnected).status "mrc_1" = some .shadow := by
    rw [hsplit]
    exact not_active_of_connects ⟨_, _, rfl, by decide, by decide⟩
  refine ⟨?_, hagain, ?_⟩
  · rw [OnboardingStore.status, hactive]
    rfl
  · intro hkept
    obtain ⟨o', ho', hs', -⟩ := hkept _ _ [] hsplit "mrc_1" _ hactive rfl
    rw [← hsplit] at ho'
    rw [OnboardingStore.status, ho', Option.map_some, hs'] at hagain
    cases hagain

end AX10M
