/-
  The bandit of the service (`recovery-case.service.ts`, `buildPolicy` to `learnOnline`): the live
  policy, the state it shares with other processes, and the baseline of its contributions.
-/
import AX10M.RecoveryEngine.Bandit

namespace AX10M

open Js

/-- The fields of the service around its bandit. -/
structure Flywheel (K : Type) where
  recoverabilityModel : RecoveryFeatures → ℚ
  banditEnabled : Bool
  bandit : Option (LinUcbBanditPolicy K)
  /-- whether a store is wired -/
  banditStore : Bool
  banditBaseline : LinUcbBanditState K
  banditUpdatesSinceFlush : ℕ
  banditTotalUpdates : ℕ

/-- After so many outcomes a flush is started (`BANDIT_FLUSH_EVERY`). -/
def banditFlushEvery : ℕ := 25

namespace Flywheel

section

variable {K : Type} [Field K]

/-- The policy of the service: a bandit that has learned nothing, if it is enabled. -/
def buildPolicy (s : Flywheel K) : Flywheel K :=
  { s with bandit :=
      if s.banditEnabled then some (.new s.recoverabilityModel (defaultLinUcbOptions K))
      else none }

/-- The service as it is constructed. -/
def init (model : RecoveryFeatures → ℚ) : Flywheel K where
  recoverabilityModel := model
  banditEnabled := false
  bandit := none
  banditStore := false
  banditBaseline := emptyBanditState (defaultLinUcbOptions K).lambda
  banditUpdatesSinceFlush := 0
  banditTotalUpdates := 0

def useBanditPolicy (s : Flywheel K) : Flywheel K := buildPolicy { s with banditEnabled := true }

def useBanditStore (s : Flywheel K) : Flywheel K := { s with banditStore := true }

def useChampion (s : Flywheel K) (model : RecoveryFeatures → ℚ) : Flywheel K :=
  buildPolicy { s with recoverabilityModel := model }

end

section

variable {K : Type} [Field K] [LinearOrder K]

/-- Take over what the store answers (`loadBanditState`). -/
def loadBanditState (s : Flywheel K) (store : Option (LinUcbBanditState K)) : Flywheel K :=
  match s.bandit, s.banditStore with
  | some bandit, true =>
    match store with
    | some state => { s with bandit := some (bandit.restore state), banditBaseline := state }
    | none => { s with banditBaseline := bandit.snapshot }
  | _, _ => s

/-- What a flush saves: the stored state and what `current` is ahead of the baseline. -/
def merged (s : Flywheel K) (store : Option (LinUcbBanditState K))
    (current : LinUcbBanditState K) : LinUcbBanditState K :=
  let persisted := store.getD (emptyBanditState (defaultLinUcbOptions K).lambda)
  mergeBanditDelta persisted current s.banditBaseline

/-- What a flush leaves once the save is done: the pooled model, which is the new baseline. -/
def adopt (s : Flywheel K) (bandit : LinUcbBanditPolicy K) (merged : LinUcbBanditState K) :
    Flywheel K :=
  { s with bandit := some (bandit.restore merged), banditBaseline := merged,
           banditUpdatesSinceFlush := 0 }

/-- A whole flush, with nothing in between (`flushBanditState`). -/
def flushBanditState (s : Flywheel K) (store : Option (LinUcbBanditState K)) :
    Option (LinUcbBanditState K) × Flywheel K :=
  match s.bandit, s.banditStore with
  | some bandit, true =>
    let merged := s.merged store bandit.snapshot
    (some merged, s.adopt bandit merged)
  | _, _ => (store, s)

/-- The observation of an outcome, if it is one: the amount less the fee, or the fee alone. -/
def observation (features : RecoveryFeatures) (decision : RecoveryDecision) (outcome : String)
    (amountMinor : ℚ) : Option Observation :=
  if outcome ≠ "succeeded" ∧ outcome ≠ "failed" then none
  else some ⟨features, decision,
    if outcome = "succeeded" then amountMinor - attemptFeeMinor else -attemptFeeMinor⟩

/-- The live policy learns an observation, if it is a bandit. -/
def learn (math : JsMath K) (s : Flywheel K) (o : Observation) : Flywheel K :=
  { s with bandit := s.bandit.map fun bandit => bandit.learn math o }

/-- Feed back one outcome (`learnOnline`), and whether that starts a flush. -/
def learnOnline (math : JsMath K) (s : Flywheel K) (features : RecoveryFeatures)
    (decision : RecoveryDecision) (outcome : String) (amountMinor : ℚ) : Flywheel K × Bool :=
  match observation features decision outcome amountMinor with
  | none => (s, false)
  | some o =>
    let s := s.learn math o
    if decision.action.arm.isNone then (s, false)
    else
      let s := { s with banditTotalUpdates := s.banditTotalUpdates + 1,
                        banditUpdatesSinceFlush := s.banditUpdatesSinceFlush + 1 }
      if s.bandit.isSome ∧ s.banditStore ∧ s.banditUpdatesSinceFlush ≥ banditFlushEvery then
        ({ s with banditUpdatesSinceFlush := 0 }, true)
      else (s, false)

/-- An outcome that is none changes nothing. -/
theorem learnOnline_of_none (math : JsMath K) (s : Flywheel K) {features : RecoveryFeatures}
    {decision : RecoveryDecision} {outcome : String} {amountMinor : ℚ}
    (h : observation features decision outcome amountMinor = none) :
    s.learnOnline math features decision outcome amountMinor = (s, false) := by
  unfold learnOnline
  rw [h]

/-- An outcome of a suppressed action is not counted. -/
theorem learnOnline_of_suppressed (math : JsMath K) (s : Flywheel K) {features : RecoveryFeatures}
    {decision : RecoveryDecision} {outcome : String} {amountMinor : ℚ} {o : Observation}
    (h : observation features decision outcome amountMinor = some o)
    (harm : decision.action.arm = none) :
    s.learnOnline math features decision outcome amountMinor = (s.learn math o, false) := by
  unfold learnOnline
  rw [h, harm]
  rfl

/-- Other outcomes are learned and counted. -/
theorem learnOnline_of_arm (math : JsMath K) (s : Flywheel K) {features : RecoveryFeatures}
    {decision : RecoveryDecision} {outcome : String} {amountMinor : ℚ} {o : Observation}
    (h : observation features decision outcome amountMinor = some o) {arm : BanditArm}
    (harm : decision.action.arm = some arm) :
    ∃ since, (s.learnOnline math features decision outcome amountMinor).1 =
      { s.learn math o with banditTotalUpdates := s.banditTotalUpdates + 1,
                            banditUpdatesSinceFlush := since } := by
  unfold learnOnline
  rw [h, harm]
  simp only [Option.isNone_some, Bool.false_eq_true, if_false]
  split_ifs
  · exact ⟨_, rfl⟩
  · exact ⟨_, rfl⟩

/-- What an outcome changes beside the counters: the live policy, if it learns. -/
theorem learnOnline_fields (math : JsMath K) (s : Flywheel K) (features : RecoveryFeatures)
    (decision : RecoveryDecision) (outcome : String) (amountMinor : ℚ) :
    let t := (s.learnOnline math features decision outcome amountMinor).1
    t.bandit = s.bandit.map (fun bandit =>
        (observation features decision outcome amountMinor).elim bandit (bandit.learn math)) ∧
      t.banditBaseline = s.banditBaseline ∧ t.banditStore = s.banditStore ∧
      t.banditEnabled = s.banditEnabled := by
  unfold learnOnline
  cases observation features decision outcome amountMinor with
  | none => exact ⟨Option.map_id'.symm, rfl, rfl, rfl⟩
  | some o =>
    simp only [Option.elim_some]
    split_ifs
    · exact ⟨rfl, rfl, rfl, rfl⟩
    · exact ⟨rfl, rfl, rfl, rfl⟩
    · exact ⟨rfl, rfl, rfl, rfl⟩

end

end Flywheel

end AX10M
