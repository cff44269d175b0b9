/-
  The bandit of a fleet (`recovery-case.service.ts`, `loadBanditState` and `flushBanditState`;
  `contextual-bandit.ts`, `mergeBanditDelta`).

  Processes learn, load and flush in any order, each flush as a whole.  The statistics of the fleet
  are a pool of differences (`BanditFleet.pool_run`).  So, once nothing is pending, the stored state
  is `λI`, 0 and 0 and the sum of what was saved, and restores the policy that learns the same
  observations by itself, in any order.  What was saved is all that was learned, unless a process
  loads while it has something pending: the load replaces what it has learned.
-/
import AX10M.Pools.Delta
import AX10M.Recovery.Flywheel
import AX10M.RecoveryEngine.ColdStart

namespace AX10M

open Js Matrices Matrix Pools

/-! ## Processes and their store -/

/-- The processes of a fleet, and the state they share. -/
structure BanditFleet (P K : Type) where
  store : Option (LinUcbBanditState K)
  processes : P → Flywheel K

section

variable {P K : Type} [DecidableEq P] [Field K] [LinearOrder K]

namespace BanditFleet

/-- Processes whose bandit and store are wired, each with its model. -/
def start (model : P → RecoveryFeatures → ℚ) : BanditFleet P K where
  store := none
  processes p := (Flywheel.init (model p)).useBanditPolicy.useBanditStore

/-- One step of a process. -/
def after (math : JsMath K) (s : BanditFleet P K) : Step P Observation → BanditFleet P K
  | .learn p o =>
    { s with processes := Function.update s.processes p ((s.processes p).learn math o) }
  | .load p =>
    { s with processes := Function.update s.processes p ((s.processes p).loadBanditState s.store) }
  | .flush p =>
    let (store, process) := (s.processes p).flushBanditState s.store
    ⟨store, Function.update s.processes p process⟩

/-- The fleet after some steps. -/
def run (math : JsMath K) (model : P → RecoveryFeatures → ℚ) (xs : List (Step P Observation)) :
    BanditFleet P K := xs.foldl (BanditFleet.after math) (start model)

/-- What is stored, or else the state of nothing learned. -/
def persisted (s : BanditFleet P K) : LinUcbBanditState K :=
  s.store.getD (emptyBanditState (defaultLinUcbOptions K).lambda)

end BanditFleet

/-! ## The fleet as a pool -/

/-- A bandit and a store are wired. -/
def Flywheel.Ready (s : Flywheel K) : Prop :=
  ∃ bandit, s.bandit = some bandit ∧ bandit.opts = defaultLinUcbOptions K ∧ s.banditStore = true

/-- The statistics of the live policy and of the baseline. -/
def Flywheel.member (s : Flywheel K) : Member (BanditStats K) where
  current := (s.bandit.map fun bandit => bandit.snapshot.stats).getD 0
  baseline := s.banditBaseline.stats

theorem Flywheel.Ready.learn (math : JsMath K) {s : Flywheel K} (h : s.Ready) (o : Observation) :
    (s.learn math o).Ready ∧ (s.learn math o).member =
      { s.member with current := s.member.current + o.gain math (defaultLinUcbOptions K) } := by
  obtain ⟨bandit, hbandit, hopts, hstore⟩ := h
  constructor
  · refine ⟨bandit.learn math o, ?_, ?_, hstore⟩
    · simp [Flywheel.learn, hbandit]
    · rw [LinUcbBanditPolicy.learn_opts, hopts]
  · simp [Flywheel.member, Flywheel.learn, hbandit, LinUcbBanditPolicy.stats_learn, hopts]

theorem Flywheel.Ready.load {s : Flywheel K} (h : s.Ready)
    (store : Option (LinUcbBanditState K)) :
    (s.loadBanditState store).Ready ∧ (s.loadBanditState store).member =
      let total := (store.map LinUcbBanditState.stats).getD s.member.current
      ⟨total, total⟩ := by
  obtain ⟨bandit, hbandit, hopts, hstore⟩ := h
  cases store with
  | none =>
    constructor
    · refine ⟨bandit, ?_, hopts, ?_⟩
      · simp [loadBanditState, hbandit, hstore]
      · simp [loadBanditState, hbandit, hstore]
    · simp [loadBanditState, hbandit, hstore, Flywheel.member]
  | some state =>
    constructor
    · refine ⟨bandit.restore state, ?_, hopts, ?_⟩
      · simp [loadBanditState, hbandit, hstore]
      · simp [loadBanditState, hbandit, hstore]
    · simp [loadBanditState, hbandit, hstore, Flywheel.member]

theorem Flywheel.Ready.flush {s : Flywheel K} (h : s.Ready)
    (store : Option (LinUcbBanditState K)) :
    (s.flushBanditState store).2.Ready ∧
      let merged := (store.map LinUcbBanditState.stats).getD
        (emptyBanditState (defaultLinUcbOptions K).lambda).stats +
          (s.member.current - s.member.baseline)
      (s.flushBanditState store).1.map LinUcbBanditState.stats = some merged ∧
        (s.flushBanditState store).2.member = ⟨merged, merged⟩ := by
  obtain ⟨bandit, hbandit, hopts, hstore⟩ := h
  have hmerged : (s.merged store bandit.snapshot).stats =
      (store.map LinUcbBanditState.stats).getD
        (emptyBanditState (defaultLinUcbOptions K).lambda).stats +
          (s.member.current - s.member.baseline) := by
    cases store <;> simp [Flywheel.merged, Flywheel.member, hbandit]
  simp only [← hmerged]
  refine ⟨⟨bandit.restore (s.merged store bandit.snapshot), ?_, hopts, ?_⟩, ?_, ?_⟩
  · simp [flushBanditState, hbandit, hstore, adopt]
  · simp [flushBanditState, hbandit, hstore, adopt]
  · simp [flushBanditState, hbandit, hstore]
  · simp [flushBanditState, hbandit, hstore, adopt, Flywheel.member]

namespace BanditFleet

/-- The statistics of a fleet. -/
def pool (s : BanditFleet P K) : Pool P (BanditStats K) where
  store := s.store.map LinUcbBanditState.stats
  members p := (s.processes p).member

omit [LinearOrder K] in
theorem members_update (s : BanditFleet P K) (p : P) (t : Flywheel K) :
    (fun q => (Function.update s.processes p t q).member) =
      Function.update s.pool.members p t.member := by
  funext q
  by_cases hq : q = p
  · subst hq
    simp
  · simp [hq, pool]

/-- Each step of a fleet is the step of the pool. -/
theorem pool_after (math : JsMath K) {s : BanditFleet P K} (h : ∀ p, (s.processes p).Ready)
    (x : Step P Observation) : (∀ p, ((s.after math x).processes p).Ready) ∧
      (s.after math x).pool = s.pool.after (Observation.gain math (defaultLinUcbOptions K))
        (emptyBanditState (defaultLinUcbOptions K).lambda).stats x := by
  have hready : ∀ (p : P) {t : Flywheel K}, t.Ready →
      ∀ q, (Function.update s.processes p t q).Ready := by
    intro p t ht q
    by_cases hq : q = p
    · subst hq
      rw [Function.update_self]
      exact ht
    · rw [Function.update_of_ne hq]
      exact h q
  cases x with
  | learn p o =>
    obtain ⟨hr, hm⟩ := (h p).learn math o
    refine ⟨hready p hr, ?_⟩
    simp only [pool, BanditFleet.after, Pool.after, members_update, hm]
  | load p =>
    obtain ⟨hr, hm⟩ := (h p).load s.store
    refine ⟨hready p hr, ?_⟩
    simp only [pool, BanditFleet.after, Pool.after, members_update, hm]
  | flush p =>
    obtain ⟨hr, hstore, hm⟩ := (h p).flush s.store
    refine ⟨hready p hr, ?_⟩
    simp only [pool, BanditFleet.after, Pool.after, members_update, hm, hstore]

omit [DecidableEq P] [LinearOrder K] in
theorem start_ready (model : P → RecoveryFeatures → ℚ) (p : P) :
    (((start model : BanditFleet P K).processes p)).Ready :=
  ⟨.new (model p) (defaultLinUcbOptions K), rfl, rfl, rfl⟩

/-- What is stored and what is pending, after any steps. -/
theorem pool_run (math : JsMath K) (model : P → RecoveryFeatures → ℚ)
    (xs : List (Step P Observation)) :
    Tallied (Observation.gain math (defaultLinUcbOptions K))
      (emptyBanditState (defaultLinUcbOptions K).lambda).stats (run math model xs).pool
      (tally xs) := by
  have hrun : ∀ (s : BanditFleet P K), (∀ p, (s.processes p).Ready) →
      (xs.foldl (BanditFleet.after math) s).pool = xs.foldl (Pool.after
        (Observation.gain math (defaultLinUcbOptions K))
        (emptyBanditState (defaultLinUcbOptions K).lambda).stats) s.pool := by
    induction xs with
    | nil => intro s _; rfl
    | cons x xs ih =>
      intro s hs
      obtain ⟨hready, hpool⟩ := pool_after math hs x
      rw [List.foldl_cons, List.foldl_cons, ih _ hready, hpool]
  rw [run, hrun _ (start_ready model)]
  refine tallied_run rfl ?_ xs
  intro p
  simp [pool, Flywheel.member, start, Flywheel.useBanditStore, Flywheel.useBanditPolicy,
    Flywheel.buildPolicy, Flywheel.init]

/-- The stored statistics are the sum of what was saved. -/
theorem persisted_stats (math : JsMath K) (model : P → RecoveryFeatures → ℚ)
    (xs : List (Step P Observation)) : (run math model xs).persisted.stats =
      (emptyBanditState (defaultLinUcbOptions K).lambda).stats +
        ((tally xs).saved.map (Observation.gain math (defaultLinUcbOptions K))).sum := by
  rw [← (pool_run math model xs).store]
  unfold persisted pool
  cases (run math model xs).store <;> rfl

end BanditFleet

/-! ## One policy that learns by itself -/

/-- The statistics of a policy that learns some observations. -/
theorem stats_foldl_learn (math : JsMath K) (os : List Observation) :
    ∀ p : LinUcbBanditPolicy K, (os.foldl (LinUcbBanditPolicy.learn math) p).snapshot.stats =
      p.snapshot.stats + (os.map (Observation.gain math p.opts)).sum := by
  induction os with
  | nil => intro p; simp
  | cons o os ih =>
    intro p
    rw [List.foldl_cons, ih, LinUcbBanditPolicy.stats_learn, LinUcbBanditPolicy.learn_opts,
      List.map_cons, List.sum_cons, add_assoc]

/-- The stored state restores the policy that learned what was saved, in any order. -/
theorem restore_persisted [IsStrictOrderedRing K] (math : JsMath K)
    (model : P → RecoveryFeatures → ℚ) (xs : List (Step P Observation))
    (champion : RecoveryFeatures → ℚ) {os : List Observation} (h : os.Perm (tally xs).saved) :
    (LinUcbBanditPolicy.new champion (defaultLinUcbOptions K)).restore
        (BanditFleet.run math model xs).persisted =
      os.foldl (LinUcbBanditPolicy.learn math) (.new champion (defaultLinUcbOptions K)) := by
  have hlambda : 0 < (defaultLinUcbOptions K).lambda := one_pos
  have hstats : (BanditFleet.run math model xs).persisted.stats =
      (os.foldl (LinUcbBanditPolicy.learn math)
        (.new champion (defaultLinUcbOptions K))).snapshot.stats := by
    rw [BanditFleet.persisted_stats, stats_foldl_learn, LinUcbBanditPolicy.snapshot_new]
    exact congrArg _ (h.map _).sum_eq.symm
  obtain ⟨hmodel, hopts⟩ := LinUcbBanditPolicy.foldl_learn_same math os
    (LinUcbBanditPolicy.new champion (defaultLinUcbOptions K))
  exact LinUcbBanditPolicy.restore_eq
    (LinUcbBanditPolicy.foldl_learn_sound math os (LinUcbBanditPolicy.new_sound champion hlambda))
    hmodel.symm hopts.symm hstats

/-! ## What is stored -/

/-- The observations of an arm. -/
def learnedOn (arm : BanditArm) (os : List Observation) : List Observation :=
  os.filter fun o => o.decision.action.arm = some arm

/-- The statistics of an arm are `λI`, 0 and 0, and for each of its observations `xxᵀ`, `r·x`
    and 1. -/
structure IsPooled (math : JsMath K) (arm : BanditArm) (os : List Observation)
    (s : BanditArmSnapshot K) : Prop where
  a : s.a = (defaultLinUcbOptions K).lambda • (1 : Matrix (Fin featureDim) (Fin featureDim) K) +
    ((learnedOn arm os).map fun o =>
      vecMulVec (featureVector math o.features) (featureVector math o.features)).sum
  b : s.b = ((learnedOn arm os).map fun o =>
    ((o.realizedRewardMinor : K) / (defaultLinUcbOptions K).rewardScaleMinor) •
      featureVector math o.features).sum
  n : s.n = (learnedOn arm os).length

omit [LinearOrder K] in
theorem sum_gain (math : JsMath K) (opts : LinUcbOptions K) (arm : BanditArm)
    (os : List Observation) : ((os.map (Observation.gain math opts)).sum) arm =
      (((learnedOn arm os).map fun o =>
          vecMulVec (featureVector math o.features) (featureVector math o.features)).sum,
        ((learnedOn arm os).map fun o => ((o.realizedRewardMinor : K) / opts.rewardScaleMinor) •
          featureVector math o.features).sum, ((learnedOn arm os).length : ℤ)) := by
  induction os with
  | nil => rfl
  | cons o os ih =>
    rw [List.map_cons, List.sum_cons, Pi.add_apply, ih]
    by_cases ho : o.decision.action.arm = some arm
    · have hgain : o.gain math opts arm = (vecMulVec (featureVector math o.features)
          (featureVector math o.features), ((o.realizedRewardMinor : K) / opts.rewardScaleMinor) •
          featureVector math o.features, 1) := by
        unfold Observation.gain
        rw [ho]
        exact Pi.single_eq_same ..
      have hcons : learnedOn arm (o :: os) = o :: learnedOn arm os := by
        simp [learnedOn, ho]
      rw [hgain, hcons, List.map_cons, List.sum_cons, List.map_cons, List.sum_cons,
        List.length_cons, Prod.mk_add_mk, Prod.mk_add_mk]
      push_cast
      rw [add_comm (1 : ℤ)]
    · have hgain : o.gain math opts arm = 0 := by
        unfold Observation.gain
        cases harm : o.decision.action.arm with
        | none => rfl
        | some arm' =>
          rw [harm] at ho
          exact Pi.single_eq_of_ne (fun h => ho (congrArg some h.symm)) _
      have hcons : learnedOn arm (o :: os) = learnedOn arm os := by
        simp [learnedOn, ho]
      rw [hgain, hcons, zero_add]

variable [FloorRing K] [IsStrictOrderedRing K]

/-- Once nothing is pending, the stored statistics are those of the saved observations, and they
    restore a policy that decides like one that learned these by itself; and all observations are
    saved, each once, if no process loads while something of it is pending. -/
theorem fleet_pools_saved (math : JsMath K) (model : P → RecoveryFeatures → ℚ)
    (xs : List (Step P Observation)) (hpending : ∀ p, (tally xs).pending p = []) :
    (∀ arm, IsPooled math arm (tally xs).saved
        ((BanditFleet.run math model xs).persisted.arms arm)) ∧
      (∀ (champion : RecoveryFeatures → ℚ) (os : List Observation), os.Perm (tally xs).saved →
        ∀ (features : RecoveryFeatures) (ctx : PolicyContext),
          ((LinUcbBanditPolicy.new champion (defaultLinUcbOptions K)).restore
            (BanditFleet.run math model xs).persisted).decide math features ctx =
          (os.foldl (LinUcbBanditPolicy.learn math)
            (.new champion (defaultLinUcbOptions K))).decide math features ctx) ∧
      (LoadsSettled xs → (tally xs).saved.Perm (learned xs)) := by
  refine ⟨?_, ?_, fun hloads => saved_perm_learned hloads hpending⟩
  · intro arm
    have harm := congrFun (BanditFleet.persisted_stats math model xs) arm
    rw [Pi.add_apply, sum_gain] at harm
    simp only [LinUcbBanditState.stats, emptyBanditState, Prod.mk_add_mk, zero_add,
      Prod.mk.injEq] at harm
    obtain ⟨ha, hb, hn⟩ := harm
    exact ⟨ha, hb, hn⟩
  · intro champion os h features ctx
    rw [restore_persisted math model xs champion h]

end

/-! ### A load over what is pending -/

/-- A retry that recovered 99.85. -/
def retriedOnce : Observation where
  features := ⟨.insufficientFunds, 10000, "usd", .na, .credit, 365, 1 / 2, 1, 0, 1 / 2⟩
  decision := ⟨.retry, none, 1 / 2, 0, ""⟩
  realizedRewardMinor := 9985

/-- A process that loads again before it flushes what it has learned. -/
def loadsOverLearning : List (Step ℕ Observation) :=
  [.load 0, .learn 0 retriedOnce, .load 0, .flush 0]

theorem loadsOverLearning_pending (p : ℕ) : (tally loadsOverLearning).pending p = [] := by
  simp [tally, loadsOverLearning, Tally.after]

/-- Then the observation is lost: the stored state has none. -/
theorem learning_lost_by_load :
    (∀ p, (tally loadsOverLearning).pending p = []) ∧
      (learnedOn .retry (learned loadsOverLearning)).length = 1 ∧
      ((BanditFleet.run realMath (fun _ _ => 0) loadsOverLearning).persisted.arms .retry).n = 0 :=
  ⟨loadsOverLearning_pending, rfl, rfl⟩

/-- Two processes of which one loads what the other has flushed. -/
def twoProcesses : List (Step ℕ Observation) :=
  [.load 0, .load 1, .learn 0 retriedOnce, .flush 0, .load 1, .learn 1 retriedOnce, .flush 1]

theorem twoProcesses_pending (p : ℕ) : (tally twoProcesses).pending p = [] := by
  simp [tally, twoProcesses, Tally.after]

theorem fleet_pools_saved_two :
    IsPooled realMath .retry [retriedOnce, retriedOnce]
      ((BanditFleet.run realMath (fun _ _ => 1 / 2) twoProcesses).persisted.arms .retry) :=
  (fleet_pools_saved realMath (fun _ _ => 1 / 2) twoProcesses twoProcesses_pending).1 .retry

end AX10M
