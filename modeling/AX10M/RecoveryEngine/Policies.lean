/-
  The policies that do not learn (`policy.ts` of `@ax10m/recovery-engine`): the heuristic one, and
  the one that prices attempts by their cost and by the fines of the networks.

  * `HeuristicPolicy.decide_action`, `CostAwarePolicy.decide_action`: which action is chosen;
  * `HeuristicPolicy.decide_retry`, `CostAwarePolicy.decide_retry`: what a retry is.
-/
import AX10M.Js.Fixed
import AX10M.RecoveryEngine.Objective

namespace AX10M

open Js

/-- A decision with the fields the service does not read. -/
structure PolicyDecision extends RecoveryDecision where
  paymentMethodRef : Option String := none
  netValueMinor : Option ℚ := none
  costBreakdown : Option ActionCost := none

/-- A retry of the card of these declines is hopeless. -/
def deadCredential (code : DeclineCode) : Prop := familyOf code = .hard ∨ code = .expiredCard

instance (code : DeclineCode) : Decidable (deadCredential code) :=
  inferInstanceAs (Decidable (familyOf code = .hard ∨ code = .expiredCard))

/-- A number in a text. -/
def numeralText (x : ℚ) : String := String.ofList (numberText x)

/-- How a score below the threshold is explained. -/
def belowThreshold (score : ℚ) (cfg : PolicyConfig) : String :=
  s!"P(recover)={toFixed 1 (score * 100)}% below the " ++
    s!"{toFixed 0 (cfg.minRecoverabilityToRetry * 100)}% retry threshold — suppress"

/-! ## The heuristic policy -/

/-- What an attempt is expected to bring. -/
def expectedValue (score amountMinor retention attemptCost : ℚ) : ℤ :=
  Js.round (score * amountMinor * retention - attemptCost)

/-- The policy of a cold start. -/
structure HeuristicPolicy where
  model : RecoveryFeatures → ℚ

/-- The decision; `none` where the time of a retry throws. -/
def HeuristicPolicy.decide (p : HeuristicPolicy) (features : RecoveryFeatures)
    (ctx : PolicyContext) : Option PolicyDecision :=
  let cfg := ctx.config.getD defaultPolicyConfig
  let score := p.model features
  let ev := expectedValue score features.amountMinor cfg.retentionMultiplier cfg.attemptCostMinor
  if deadCredential features.declineCode then
    some { action := .cardUpdateComms, recoverabilityScore := score, expectedValueMinor := ev,
           rationale := s!"{features.declineCode.text}: credential is dead — route to " ++
             "card-update comms, do not retry the same card." }
  else if score < cfg.minRecoverabilityToRetry then
    some { action := .suppress, recoverabilityScore := score, expectedValueMinor := 0,
           rationale := belowThreshold score cfg ++
             " (a retry would likely just add cost/fine risk)." }
  else if ev ≤ 0 then
    some { action := .suppress, recoverabilityScore := score, expectedValueMinor := ev,
           rationale := s!"Expected value {ev} ≤ 0 — attempt cost exceeds expected recovery; " ++
             "suppress." }
  else
    (optimalRetryTime features ctx.now).map fun timing =>
      { action := .retry, retryAt := some timing.retryAt,
        paymentMethodRef := (selectMethod features ctx.methods).map AvailableMethod.ref,
        recoverabilityScore := score, expectedValueMinor := ev,
        rationale := timing.rationale ++
          s!" P(recover)={toFixed 0 (score * 100)}%, EV={ev} minor." }

/-! ## The cost-aware policy -/

/-- The primary policy. -/
structure CostAwarePolicy where
  model : RecoveryFeatures → ℚ

/-- The decision; `none` where the time of a retry throws. -/
def CostAwarePolicy.decide (p : CostAwarePolicy) (features : RecoveryFeatures)
    (ctx : PolicyContext) : Option PolicyDecision :=
  let cfg := ctx.config.getD defaultPolicyConfig
  let cost := ctx.cost.getD defaultCostModel
  let score := p.model features
  let comms := commsNetValue score features.amountMinor cost
  let retry := retryNetValue score features.amountMinor cost ctx.compliance
  let fine := retry.cost.fineCostMinor
  if deadCredential features.declineCode then
    some { action := .cardUpdateComms, recoverabilityScore := score,
           expectedValueMinor := comms.netValueMinor, netValueMinor := some comms.netValueMinor,
           costBreakdown := some comms.cost,
           rationale := s!"{features.declineCode.text}: credential is dead — route to " ++
             s!"card-update comms (net value {numeralText comms.netValueMinor} minor)." }
  else if score < cfg.minRecoverabilityToRetry then
    some { action := .suppress, recoverabilityScore := score, expectedValueMinor := 0,
           netValueMinor := some 0, rationale := belowThreshold score cfg ++ "." }
  else if retry.netValueMinor ≤ 0 then
    let fineNote := if fine > 0 then
      s!" (incl. {fine} minor expected fine cost near the network cap)" else ""
    some { action := .suppress, recoverabilityScore := score,
           expectedValueMinor := retry.netValueMinor, netValueMinor := some retry.netValueMinor,
           costBreakdown := some retry.cost,
           rationale := s!"Net value {numeralText retry.netValueMinor} ≤ 0{fineNote} — " ++
             "attempt cost exceeds expected recovery; suppress." }
  else
    (optimalRetryTime features ctx.now).map fun timing =>
      let fineNote := if fine > 0 then s!", fine-risk {fine}" else ""
      { action := .retry, retryAt := some timing.retryAt,
        paymentMethodRef := (selectMethod features ctx.methods).map AvailableMethod.ref,
        recoverabilityScore := score, expectedValueMinor := retry.netValueMinor,
        netValueMinor := some retry.netValueMinor, costBreakdown := some retry.cost,
        rationale := timing.rationale ++ s!" P(recover)={toFixed 0 (score * 100)}%, " ++
          s!"net value={numeralText retry.netValueMinor} minor{fineNote}." }

/-! ## What is chosen -/

/-- A retry that is proposed is one of a live credential, worth its cost. -/
structure WorthRetrying (score floor net : ℚ) (code : DeclineCode) : Prop where
  live : ¬ deadCredential code
  likely : floor ≤ score
  profitable : 0 < net

instance (score floor net : ℚ) (code : DeclineCode) :
    Decidable (WorthRetrying score floor net code) :=
  decidable_of_iff (¬ deadCredential code ∧ floor ≤ score ∧ 0 < net)
    ⟨fun h => ⟨h.1, h.2.1, h.2.2⟩, fun h => ⟨h.live, h.likely, h.profitable⟩⟩

/-- The action of both policies: of a dead credential the customer is asked for another card, and a
    retry that is not worth it is suppressed; `none` where its time throws. -/
def chosenAction (score floor net : ℚ) (features : RecoveryFeatures) (now : String) :
    Option RecoveryActionKind :=
  if deadCredential features.declineCode then some .cardUpdateComms
  else if WorthRetrying score floor net features.declineCode then
    (optimalRetryTime features now).map fun _ => .retry
  else some .suppress

section

variable {score floor net : ℚ} {features : RecoveryFeatures} (now : String)

theorem chosenAction_dead (h : deadCredential features.declineCode) :
    chosenAction score floor net features now = some .cardUpdateComms := if_pos h

theorem chosenAction_retry (h : WorthRetrying score floor net features.declineCode) :
    chosenAction score floor net features now =
      (optimalRetryTime features now).map fun _ => .retry := by
  rw [chosenAction, if_neg h.live, if_pos h]

theorem chosenAction_suppress (hdead : ¬ deadCredential features.declineCode)
    (h : ¬ WorthRetrying score floor net features.declineCode) :
    chosenAction score floor net features now = some .suppress := by
  rw [chosenAction, if_neg hdead, if_neg h]

/-- A retry is chosen if it is worth it and has a time. -/
theorem chosenAction_eq_retry_iff : chosenAction score floor net features now = some .retry ↔
    WorthRetrying score floor net features.declineCode ∧
      ∃ timing, optimalRetryTime features now = some timing := by
  by_cases h : WorthRetrying score floor net features.declineCode
  · rw [chosenAction_retry now h, Option.map_eq_some_iff]
    constructor
    · rintro ⟨timing, htiming, -⟩
      exact ⟨h, timing, htiming⟩
    · rintro ⟨-, timing, htiming⟩
      exact ⟨timing, htiming, rfl⟩
  · by_cases hdead : deadCredential features.declineCode
    · rw [chosenAction_dead now hdead]
      simp [h]
    · rw [chosenAction_suppress now hdead h]
      simp [h]

/-- The decision of both policies, by what is chosen on each of its branches. -/
theorem action_of_branches {comms low loss : PolicyDecision} {retry : RetryTiming → PolicyDecision}
    {unprofitable : Prop} [Decidable unprofitable] (hnet : unprofitable ↔ net ≤ 0)
    (hcomms : comms.action = .cardUpdateComms) (hlow : low.action = .suppress)
    (hloss : loss.action = .suppress) (hretry : ∀ timing, (retry timing).action = .retry) :
    (if deadCredential features.declineCode then some comms
      else if score < floor then some low
      else if unprofitable then some loss
      else (optimalRetryTime features now).map retry).map (·.action) =
    chosenAction score floor net features now := by
  by_cases hdead : deadCredential features.declineCode
  · rw [if_pos hdead, chosenAction_dead now hdead, Option.map_some, hcomms]
  rw [if_neg hdead]
  by_cases hscore : score < floor
  · rw [if_pos hscore, chosenAction_suppress now hdead fun h => not_le.2 hscore h.likely,
      Option.map_some, hlow]
  rw [if_neg hscore]
  by_cases hloss' : unprofitable
  · rw [if_pos hloss', chosenAction_suppress now hdead fun h => not_lt.2 (hnet.1 hloss') h.profitable,
      Option.map_some, hloss]
  · have hworth : WorthRetrying score floor net features.declineCode :=
      ⟨hdead, not_lt.1 hscore, not_le.1 fun h => hloss' (hnet.2 h)⟩
    rw [if_neg hloss', chosenAction_retry now hworth, Option.map_map]
    exact Option.map_congr fun timing _ => hretry timing

/-- A decision of both policies that is a retry is the one of the last branch. -/
theorem retry_of_branches {comms low loss d : PolicyDecision}
    {retry : RetryTiming → PolicyDecision} {unprofitable : Prop} [Decidable unprofitable]
    (hcomms : comms.action = .cardUpdateComms) (hlow : low.action = .suppress)
    (hloss : loss.action = .suppress)
    (h : (if deadCredential features.declineCode then some comms
      else if score < floor then some low
      else if unprofitable then some loss
      else (optimalRetryTime features now).map retry) = some d) (hd : d.action = .retry) :
    ∃ timing, optimalRetryTime features now = some timing ∧ d = retry timing := by
  have hne : ∀ other : PolicyDecision, other.action ≠ .retry → some other ≠ some d := by
    intro other hother heq
    obtain rfl := Option.some.inj heq
    exact hother hd
  split_ifs at h with hdead hscore hnet
  · exact absurd h (hne comms (by rw [hcomms]; decide))
  · exact absurd h (hne low (by rw [hlow]; decide))
  · exact absurd h (hne loss (by rw [hloss]; decide))
  · obtain ⟨timing, htiming, rfl⟩ := Option.map_eq_some_iff.1 h
    exact ⟨timing, htiming, rfl⟩

end

theorem HeuristicPolicy.decide_action (p : HeuristicPolicy) (features : RecoveryFeatures)
    (ctx : PolicyContext) :
    (p.decide features ctx).map (·.action) =
      chosenAction (p.model features)
        (ctx.config.getD defaultPolicyConfig).minRecoverabilityToRetry
        (expectedValue (p.model features) features.amountMinor
          (ctx.config.getD defaultPolicyConfig).retentionMultiplier
          (ctx.config.getD defaultPolicyConfig).attemptCostMinor) features ctx.now :=
  action_of_branches ctx.now Int.cast_nonpos.symm rfl rfl rfl fun _ => rfl

theorem CostAwarePolicy.decide_action (p : CostAwarePolicy) (features : RecoveryFeatures)
    (ctx : PolicyContext) :
    (p.decide features ctx).map (·.action) =
      chosenAction (p.model features)
        (ctx.config.getD defaultPolicyConfig).minRecoverabilityToRetry
        (retryNetValue (p.model features) features.amountMinor (ctx.cost.getD defaultCostModel)
          ctx.compliance).netValueMinor features ctx.now :=
  action_of_branches ctx.now Iff.rfl rfl rfl rfl fun _ => rfl

theorem HeuristicPolicy.decide_retry {p : HeuristicPolicy} {features : RecoveryFeatures}
    {ctx : PolicyContext} {d : PolicyDecision} (h : p.decide features ctx = some d)
    (hd : d.action = .retry) : d.expectedValueMinor = expectedValue (p.model features)
      features.amountMinor (ctx.config.getD defaultPolicyConfig).retentionMultiplier
      (ctx.config.getD defaultPolicyConfig).attemptCostMinor := by
  obtain ⟨timing, -, rfl⟩ := retry_of_branches ctx.now rfl rfl rfl h hd
  rfl

/-- What a retry of the cost-aware policy is. -/
theorem CostAwarePolicy.decide_retry {p : CostAwarePolicy} {features : RecoveryFeatures}
    {ctx : PolicyContext} {d : PolicyDecision} (h : p.decide features ctx = some d)
    (hd : d.action = .retry) : ∃ timing, optimalRetryTime features ctx.now = some timing ∧
      d.retryAt = some timing.retryAt ∧
      d.paymentMethodRef = (selectMethod features ctx.methods).map AvailableMethod.ref ∧
      d.expectedValueMinor = (retryNetValue (p.model features) features.amountMinor
        (ctx.cost.getD defaultCostModel) ctx.compliance).netValueMinor := by
  obtain ⟨timing, htiming, rfl⟩ := retry_of_branches ctx.now rfl rfl rfl h hd
  exact ⟨timing, htiming, rfl, rfl, rfl⟩

end AX10M
