/-
  The onboarding service: the merchants that connected, the baseline failures and
  recoveries that the recovery service feeds it while they are in shadow, and their
  activation.
-/
import AX10M.Onboarding.Lifecycle

namespace AX10M

open Js

/-- The onboarding of a merchant: its state, and its observations by invoice. -/
structure MerchantOnboarding where
  state : OnboardingState
  observations : Map String ShadowObservation

/-- The onboardings of all merchants. -/
abbrev OnboardingStore := Map String MerchantOnboarding

/-- What the dashboard is shown of a merchant. -/
structure OnboardingStatusView where
  state : OnboardingState
  progress : ShadowProgress
  projection : ShadowProjection
  readiness : Readiness

/-- The status view of a merchant. -/
def MerchantOnboarding.view (m : MerchantOnboarding) (now : String) : OnboardingStatusView :=
  let progress := shadowProgress m.state now
  let projection := projectShadow m.observations.values progress.elapsedDays
  ⟨m.state, progress, projection, AX10M.readiness m.state projection progress⟩

namespace OnboardingStore

variable (st : OnboardingStore)

/-- The status of a merchant's onboarding, if it has one. -/
def status (merchantId : String) : Option OnboardingStatus :=
  (st.get merchantId).map fun m => m.state.status

/-- Connect a merchant: it enters the shadow window, without observations. -/
def connect (merchantId processor now : String) : Except String OnboardingStore :=
  if merchantId = "" ∨ processor = "" then .error "merchantId and processor are required"
  else .ok (st.set merchantId ⟨beginOnboarding merchantId processor now, Map.empty⟩)

/-- Change the observations of a merchant in shadow mode. -/
def inShadow (merchantId : String)
    (f : Map String ShadowObservation → Map String ShadowObservation) : OnboardingStore :=
  match st.get merchantId with
  | some m => if m.state.status = .shadow then
      Map.set st merchantId { m with observations := f m.observations } else st
  | none => st

/-- Record a baseline failure observed in shadow mode. -/
def recordFailure (merchantId invoiceId : String) (declineCode : DeclineCode)
    (amount : MinorUnits) : OnboardingStore :=
  st.inShadow merchantId fun obs => obs.set invoiceId ⟨declineCode, amount, false⟩

/-- Mark that an invoice was recovered by the merchant's own baseline. -/
def recordBaselineRecovery (merchantId invoiceId : String) : OnboardingStore :=
  st.inShadow merchantId fun obs =>
    match obs.get invoiceId with
    | some o => obs.set invoiceId { o with baselineRecovered := true }
    | none => obs

/-- Activate a merchant, if it is ready. -/
def activate (merchantId now : String) : Except String OnboardingStore := do
  match st.get merchantId with
  | none => .error s!"No onboarding for merchant {merchantId}"
  | some m =>
    if m.state.status = .active then return st
    else
      let view := m.view now
      if !view.readiness.ready then
        .error ("Cannot activate: " ++ "; ".intercalate view.readiness.reasons)
      else
        let state ← AX10M.activate m.state view.readiness now
        return st.set merchantId { m with state }

/-- Observations change no status. -/
theorem status_inShadow (merchantId : String)
    (f : Map String ShadowObservation → Map String ShadowObservation) (m : String) :
    (st.inShadow merchantId f).status m = st.status m := by
  unfold inShadow status
  split
  next o ho =>
    split
    · by_cases hm : m = merchantId
      · subst hm
        rw [Map.get_set_self, ho]
        rfl
      · rw [Map.get_set_ne _ hm]
    · rfl
  next => rfl

/-- Only the merchant that connects changes its status; it is in shadow. -/
theorem status_connect {st' : OnboardingStore} {merchantId processor now : String}
    (h : st.connect merchantId processor now = .ok st') (m : String) :
    st'.status m = st.status m ∨ m = merchantId ∧ st'.status m = some .shadow := by
  unfold connect at h
  split_ifs at h
  obtain rfl := Except.ok.inj h
  by_cases hm : m = merchantId
  · subst hm
    refine .inr ⟨rfl, ?_⟩
    rw [status, Map.get_set_self]
    rfl
  · exact .inl (by rw [status, Map.get_set_ne _ hm, status])

/-- Only the merchant that is activated changes its status; it becomes active, and the gates of
    its shadow window were passed. -/
theorem status_activate {st' : OnboardingStore} {merchantId now : String}
    (h : st.activate merchantId now = .ok st') (m : String) :
    st'.status m = st.status m ∨ m = merchantId ∧ st'.status m = some .active ∧
      ∃ o, st.get merchantId = some o ∧ (o.view now).readiness.ready = true := by
  unfold activate at h
  split at h
  · cases h
  next o ho =>
    by_cases ha : o.state.status = .active
    · rw [if_pos ha] at h
      obtain rfl := Except.ok.inj h
      exact .inl rfl
    · rw [if_neg ha] at h
      cases hr : (o.view now).readiness.ready with
      | false => simp [hr] at h
      | true =>
        cases hs : AX10M.activate o.state (o.view now).readiness now with
        | error e => simp [hr, hs, bind, Except.bind] at h
        | ok state =>
          obtain rfl : st' = st.set merchantId { o with state } := by
            simpa [hr, hs, bind, Except.bind, pure, Except.pure] using h.symm
          by_cases hm : m = merchantId
          · subst hm
            refine .inr ⟨rfl, ?_, o, ho, hr⟩
            rw [status, Map.get_set_self]
            exact congrArg some (activate_eq_ok hs).1
          · exact .inl (by rw [status, Map.get_set_ne _ hm, status])

end OnboardingStore

end AX10M
