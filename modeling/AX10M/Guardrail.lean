/-
  The compliance guardrail (`@ax10m/guardrail`): hard constraints on the actions
  the policy proposes.

  `evaluate` gives the first constraint an action breaks, in the order of the
  source, or allows it.
-/
import AX10M.Canonical
import Mathlib.Algebra.Order.Ring.Rat

namespace AX10M

inductive ProposedActionKind where
  /-- the original credential again -/
  | chargeRetry
  /-- a refreshed card or a stored backup method -/
  | freshCredentialCharge
  | comms
  deriving DecidableEq, Repr

inductive CommsChannel where
  | email | sms | whatsapp | push | inApp
  deriving DecidableEq, Repr

/-- The text of a channel. -/
def CommsChannel.text : CommsChannel → String
  | email => "email" | sms => "sms" | whatsapp => "whatsapp" | push => "push" | inApp => "in_app"

inductive CardNetwork where
  | visa | mastercard | amex | discover | other
  deriving DecidableEq, Repr

/-- The text of a network. -/
def CardNetwork.text : CardNetwork → String
  | visa => "visa" | mastercard => "mastercard" | amex => "amex" | discover => "discover"
  | other => "other"

/-- A number that may be `NaN` (`none`). -/
abbrev NumOrNaN := Option ℚ

/-- Comparison with a number: `NaN` is not below anything. -/
def NumOrNaN.lt (x : NumOrNaN) (y : ℚ) : Bool :=
  match x with
  | some x => decide (x < y)
  | none => false

structure ProposedAction where
  kind : ProposedActionKind
  channel : Option CommsChannel := none
  declineCode : DeclineCode
  declineFamily : DeclineFamily
  /-- attempts already made on this case -/
  attemptsSoFar : ℤ
  cardNetwork : Option CardNetwork := none
  /-- attempts within the network's rolling window -/
  attemptsInWindow : Option ℤ := none
  minutesSinceLastAttempt : Option NumOrNaN := none
  localHour : ℤ
  hasConsent : Bool
  globallyOptedOut : Bool

/-- The retry cap of a card network. -/
structure NetworkRetryCap where
  maxAttemptsPerWindow : ℤ
  windowDays : ℕ
  minMinutesBetween : ℚ

/-- Hours `[start, end)` of the day without messages. -/
structure QuietHours where
  start : ℤ
  stop : ℤ

structure GuardrailPolicy where
  maxRetryAttempts : ℤ
  networkCaps : Option (CardNetwork → NetworkRetryCap)
  quietHours : QuietHours

/-- The caps of the default policy differ only in their number of attempts. -/
def conservativeCap (maxAttemptsPerWindow : ℤ) : NetworkRetryCap :=
  { maxAttemptsPerWindow, windowDays := 30, minMinutesBetween := 60 }

/-- `DEFAULT_GUARDRAIL_POLICY`. -/
def defaultGuardrailPolicy : GuardrailPolicy where
  maxRetryAttempts := 8
  networkCaps := some fun
    | .visa => conservativeCap 15
    | .mastercard => conservativeCap 10
    | .amex => conservativeCap 10
    | .discover => conservativeCap 10
    | .other => conservativeCap 8
  quietHours := ⟨21, 8⟩

/-- Why an action was suppressed. -/
inductive SuppressionReason where
  | hardDecline | retryCapReached | quietHours | noConsent | globalOptOut | nonRetriableCode
  | networkWindowCapReached | minIntervalNotElapsed
  deriving DecidableEq, Repr

/-- The text of a reason. -/
def SuppressionReason.text : SuppressionReason → String
  | hardDecline => "hard_decline_suppressed"
  | retryCapReached => "retry_attempt_cap_reached"
  | quietHours => "quiet_hours"
  | noConsent => "no_consent"
  | globalOptOut => "global_opt_out"
  | nonRetriableCode => "non_retriable_code"
  | networkWindowCapReached => "network_window_cap_reached"
  | minIntervalNotElapsed => "min_interval_not_elapsed"

inductive GuardrailDecision where
  | allow
  | suppress (reason : SuppressionReason) (message : String)

/-- Whether an action is allowed. -/
def GuardrailDecision.isAllow : GuardrailDecision → Bool
  | allow => true
  | suppress _ _ => false

/-- The text of a number that may be `NaN`. -/
def NumOrNaN.text : NumOrNaN → String
  | some x => if x.den = 1 then toString x.num else toString x
  | none => "NaN"

/-- Whether an hour lies in the quiet hours, which may wrap around midnight. -/
def inQuietHours (hour : ℤ) (window : QuietHours) : Bool :=
  if window.start = window.stop then false
  else if window.start > window.stop then decide (hour ≥ window.start ∨ hour < window.stop)
  else decide (hour ≥ window.start ∧ hour < window.stop)

/-- The blocks on charging the same dead card again. -/
def sameCardBlock (action : ProposedAction) : Option GuardrailDecision :=
  if action.kind = .chargeRetry then
    if action.declineFamily = .hard then
      some (.suppress .hardDecline s!"Hard decline ({action.declineCode.text}) — same-card retries suppressed; route to card refresh / alternate rail / comms.")
    else if !isRetriable action.declineCode then
      some (.suppress .nonRetriableCode s!"Decline code {action.declineCode.text} is not retriable on the same card.")
    else none
  else none

/-- The attempt caps, for both kinds of charge. -/
def chargeCaps (action : ProposedAction) (policy : GuardrailPolicy) : GuardrailDecision :=
  if action.attemptsSoFar ≥ policy.maxRetryAttempts then
    .suppress .retryCapReached s!"Retry cap reached ({action.attemptsSoFar}/{policy.maxRetryAttempts})."
  else
    match policy.networkCaps with
    | none => .allow
    | some caps =>
      let cap := caps (action.cardNetwork.getD .other)
      let network := (action.cardNetwork.map CardNetwork.text).getD "network"
      let inWindow := action.attemptsInWindow.getD action.attemptsSoFar
      if (action.minutesSinceLastAttempt.map (·.lt cap.minMinutesBetween)).getD false then
        .suppress .minIntervalNotElapsed s!"Only {(action.minutesSinceLastAttempt.getD none).text}min since last attempt; {network} requires ≥{NumOrNaN.text (some cap.minMinutesBetween)}min."
      else if inWindow ≥ cap.maxAttemptsPerWindow then
        .suppress .networkWindowCapReached s!"{network} retry cap reached ({inWindow}/{cap.maxAttemptsPerWindow} in {cap.windowDays}d)."
      else .allow

/-- The constraints on a message. -/
def commsBlocks (action : ProposedAction) (policy : GuardrailPolicy) : GuardrailDecision :=
  let channel := (action.channel.map CommsChannel.text).getD "unknown"
  if !action.hasConsent then
    .suppress .noConsent s!"No consent for channel {channel}."
  else if inQuietHours action.localHour policy.quietHours then
    .suppress .quietHours s!"Local hour {action.localHour} falls within quiet hours [{policy.quietHours.start}, {policy.quietHours.stop})."
  else .allow

/-- The first constraint an action breaks.  The kinds are those of the type, so the closing
    fail-closed branch of the source is not reached. -/
def evaluate (action : ProposedAction) (policy : GuardrailPolicy := defaultGuardrailPolicy) :
    GuardrailDecision :=
  if action.globallyOptedOut then
    .suppress .globalOptOut "Customer has globally opted out of all contact."
  else
    match sameCardBlock action with
    | some d => d
    | none =>
      match action.kind with
      | .chargeRetry | .freshCredentialCharge => chargeCaps action policy
      | .comms => commsBlocks action policy

/-- A charge that is let through is within the caps of its network. -/
theorem chargeCaps_within {action : ProposedAction} {policy : GuardrailPolicy}
    {caps : CardNetwork → NetworkRetryCap} (hc : policy.networkCaps = some caps)
    (h : (chargeCaps action policy).isAllow) :
    action.attemptsInWindow.getD action.attemptsSoFar <
        (caps (action.cardNetwork.getD .other)).maxAttemptsPerWindow ∧
      ∀ m, action.minutesSinceLastAttempt = some (some m) →
        (caps (action.cardNetwork.getD .other)).minMinutesBetween ≤ m := by
  unfold chargeCaps at h
  simp only [hc] at h
  split_ifs at h with h₁ h₂ h₃
  · cases h
  · cases h
  · cases h
  · refine ⟨not_le.1 h₃, fun m hm => ?_⟩
    simpa [hm, NumOrNaN.lt] using h₂

/-- A charge within the minimum interval of its credential is suppressed. -/
theorem chargeCaps_min_interval {action : ProposedAction} {policy : GuardrailPolicy}
    {caps : CardNetwork → NetworkRetryCap} {m : ℚ} (hc : policy.networkCaps = some caps)
    (hm : action.minutesSinceLastAttempt = some (some m))
    (hlt : m < (caps (action.cardNetwork.getD .other)).minMinutesBetween) :
    (chargeCaps action policy).isAllow = false := by
  by_contra h
  exact absurd ((chargeCaps_within hc (by simpa using h)).2 m hm) (not_le.2 hlt)

/-- From the cap on, no charge is let through. -/
theorem chargeCaps_of_cap {action : ProposedAction} {policy : GuardrailPolicy}
    (h : policy.maxRetryAttempts ≤ action.attemptsSoFar) :
    (chargeCaps action policy).isAllow = false := by
  rw [chargeCaps, if_pos h]
  rfl

theorem sameCardBlock_isAllow {action : ProposedAction} {d : GuardrailDecision}
    (h : sameCardBlock action = some d) : d.isAllow = false := by
  unfold sameCardBlock at h
  split_ifs at h <;> cases h <;> rfl

/-- The minimum interval of the default policy. -/
theorem default_minMinutesBetween {caps : CardNetwork → NetworkRetryCap}
    (hc : defaultGuardrailPolicy.networkCaps = some caps) (n : CardNetwork) :
    (caps n).minMinutesBetween = 60 := by
  simp only [defaultGuardrailPolicy, Option.some.injEq] at hc
  subst hc
  cases n <;> rfl

/-- The default policy lets no charge through within an hour of the last one. -/
theorem chargeCaps_default {action : ProposedAction} {m : ℚ}
    (hm : action.minutesSinceLastAttempt = some (some m)) (hlt : m < 60) :
    (chargeCaps action defaultGuardrailPolicy).isAllow = false :=
  chargeCaps_min_interval rfl hm (by rw [default_minMinutesBetween rfl]; exact hlt)

end AX10M
