/-
  The baseline of the bandit (`recovery-case.service.ts`, `buildPolicy` to `learnOnline`).

  A flush adds to the store what the live policy is ahead of its baseline.  That is what was learned
  since the last load or flush, as long as no policy is built anew: `useBanditPolicy` and
  `useChampion` put a policy that has learned nothing in place of the live one and leave the
  baseline, so that a later flush takes from the store what the live policy had
  (`ahead_by_learned_iff`).
-/
import AX10M.Recovery.Fleet

namespace AX10M

open Js Matrices Matrix Pools

/-- What happens to the service and to the state in the store. -/
inductive FlywheelStep (K : Type) where
  | useBanditPolicy
  | useBanditStore
  | useChampion (model : RecoveryFeatures → ℚ)
  | loadBanditState
  | learnOnline (features : RecoveryFeatures) (decision : RecoveryDecision) (outcome : String)
    (amountMinor : ℚ)
  | flushBanditState
  /-- another process saves a state -/
  | saved (state : LinUcbBanditState K)

/-- The service, the store, and what was learned since the last load or flush. -/
structure FlywheelRun (K : Type) where
  service : Flywheel K
  store : Option (LinUcbBanditState K)
  learned : List Observation

section

variable {K : Type} [Field K] [LinearOrder K]

/-- Whether loads and flushes do anything. -/
def Flywheel.wired (s : Flywheel K) : Bool := s.bandit.isSome && s.banditStore

namespace FlywheelRun

/-- One step. -/
def after (math : JsMath K) (s : FlywheelRun K) : FlywheelStep K → FlywheelRun K
  | .useBanditPolicy => { s with service := s.service.useBanditPolicy }
  | .useBanditStore => { s with service := s.service.useBanditStore }
  | .useChampion model => { s with service := s.service.useChampion model }
  | .loadBanditState =>
    { s with service := s.service.loadBanditState s.store
             learned := if s.service.wired then [] else s.learned }
  | .learnOnline features decision outcome amountMinor =>
    { s with service := (s.service.learnOnline math features decision outcome amountMinor).1
             learned := if s.service.bandit.isSome then s.learned ++
               (Flywheel.observation features decision outcome amountMinor).toList
               else s.learned }
  | .flushBanditState =>
    let (store, service) := s.service.flushBanditState s.store
    ⟨service, store, if s.service.wired then [] else s.learned⟩
  | .saved state => { s with store := some state }

/-- The run over a store that earlier runs left. -/
def run (math : JsMath K) (model : RecoveryFeatures → ℚ) (store : Option (LinUcbBanditState K))
    (xs : List (FlywheelStep K)) : FlywheelRun K :=
  xs.foldl (FlywheelRun.after math) ⟨.init model, store, []⟩

theorem run_append (math : JsMath K) (model : RecoveryFeatures → ℚ)
    (store : Option (LinUcbBanditState K)) (xs : List (FlywheelStep K)) (x : FlywheelStep K) :
    run math model store (xs ++ [x]) = (run math model store xs).after math x :=
  List.foldl_append

/-- What the outcomes that were learned add to the statistics. -/
def gained (math : JsMath K) (s : FlywheelRun K) : BanditStats K :=
  (s.learned.map (Observation.gain math (defaultLinUcbOptions K))).sum

/-- The live policy is ahead of its baseline by what was learned, so that this is what a flush adds
    to the store. -/
structure AheadByLearned (math : JsMath K) (s : FlywheelRun K) : Prop where
  ahead : ∀ bandit, s.service.bandit = some bandit →
    bandit.snapshot.stats - s.service.banditBaseline.stats = s.gained math
  flushed : ∀ bandit, s.service.bandit = some bandit →
    (s.service.merged s.store bandit.snapshot).stats =
      (s.store.getD (emptyBanditState (defaultLinUcbOptions K).lambda)).stats + s.gained math

omit [LinearOrder K] in
theorem aheadByLearned_iff {math : JsMath K} {s : FlywheelRun K} : AheadByLearned math s ↔
    ∀ bandit, s.service.bandit = some bandit →
      bandit.snapshot.stats - s.service.banditBaseline.stats = s.gained math := by
  constructor
  · intro h
    exact h.ahead
  · intro h
    refine ⟨h, ?_⟩
    intro bandit hbandit
    rw [Flywheel.merged, stats_mergeBanditDelta, h bandit hbandit]

end FlywheelRun

/-! ## Building the policy anew -/

/-- The steps that build the policy. -/
def FlywheelStep.builds : FlywheelStep K → Prop
  | .useBanditPolicy | .useChampion _ => True
  | _ => False

/-- The live policy has learned nothing, and loaded nothing. -/
def LinUcbBanditPolicy.Unlearned (p : LinUcbBanditPolicy K) : Prop :=
  p.snapshot.arms = (emptyBanditState (defaultLinUcbOptions K).lambda).arms

omit [LinearOrder K] in
theorem LinUcbBanditPolicy.unlearned_iff {p : LinUcbBanditPolicy K} : p.Unlearned ↔
    p.snapshot.stats = (emptyBanditState (defaultLinUcbOptions K).lambda).stats := by
  constructor
  · intro h
    unfold LinUcbBanditState.stats
    rw [h]
  · intro h
    exact arms_eq_of_stats h

/-- Whenever the policy is built, the live policy has learned nothing. -/
def BuildsUnlearned (math : JsMath K) (model : RecoveryFeatures → ℚ)
    (store : Option (LinUcbBanditState K)) (xs : List (FlywheelStep K)) : Prop :=
  ∀ pre x post, xs = pre ++ x :: post → x.builds →
    ∀ bandit, (FlywheelRun.run math model store pre).service.bandit = some bandit →
      bandit.Unlearned

/-! ## Every run -/

/-- A live policy has the default options; without one nothing was learned or loaded. -/
structure FlywheelRun.Wellformed (s : FlywheelRun K) : Prop where
  enabled : s.service.bandit.isSome = s.service.banditEnabled
  opts : ∀ bandit, s.service.bandit = some bandit → bandit.opts = defaultLinUcbOptions K
  none : s.service.bandit = none → s.learned = [] ∧
    s.service.banditBaseline = emptyBanditState (defaultLinUcbOptions K).lambda

namespace FlywheelRun

/-- The steps that build the policy put one that has learned nothing in place. -/
theorem after_builds (math : JsMath K) {s : FlywheelRun K} (h : s.Wellformed) {x : FlywheelStep K}
    (hx : x.builds) :
    (s.after math x).service.banditBaseline = s.service.banditBaseline ∧
      (s.after math x).learned = s.learned ∧
      ((s.after math x).service.bandit = none ∧ s.service.bandit = none ∧
          (s.after math x).service.banditEnabled = false ∨
        ∃ model, (s.after math x).service.bandit = some (.new model (defaultLinUcbOptions K)) ∧
          (s.after math x).service.banditEnabled = true) := by
  cases x with
  | useBanditPolicy => exact ⟨rfl, rfl, Or.inr ⟨s.service.recoverabilityModel, rfl, rfl⟩⟩
  | useChampion model =>
    refine ⟨rfl, rfl, ?_⟩
    cases henabled : s.service.banditEnabled with
    | false =>
      left
      have hnone : s.service.bandit = none := by
        have hsome := h.enabled
        rw [henabled] at hsome
        exact Option.not_isSome_iff_eq_none.1 (by rw [hsome]; exact Bool.false_ne_true)
      exact ⟨by simp [after, Flywheel.useChampion, Flywheel.buildPolicy, henabled], hnone, henabled⟩
    | true =>
      right
      exact ⟨model, by simp [after, Flywheel.useChampion, Flywheel.buildPolicy, henabled], henabled⟩
  | useBanditStore => exact hx.elim
  | loadBanditState => exact hx.elim
  | learnOnline => exact hx.elim
  | flushBanditState => exact hx.elim
  | saved => exact hx.elim

/-- Without a live policy the other steps do nothing to it. -/
theorem after_none (math : JsMath K) {s : FlywheelRun K} (h : s.service.bandit = none)
    {x : FlywheelStep K} (hx : ¬ x.builds) :
    (s.after math x).service.bandit = none ∧ (s.after math x).learned = s.learned ∧
      (s.after math x).service.banditBaseline = s.service.banditBaseline ∧
      (s.after math x).service.banditEnabled = s.service.banditEnabled := by
  cases x with
  | useBanditPolicy => exact absurd trivial hx
  | useChampion => exact absurd trivial hx
  | useBanditStore => exact ⟨h, rfl, rfl, rfl⟩
  | saved => exact ⟨h, rfl, rfl, rfl⟩
  | loadBanditState => simp [after, Flywheel.loadBanditState, Flywheel.wired, h]
  | flushBanditState => simp [after, Flywheel.flushBanditState, Flywheel.wired, h]
  | learnOnline features decision outcome amountMinor =>
    obtain ⟨hbandit, hbaseline, -, henabled⟩ := s.service.learnOnline_fields math features decision
      outcome amountMinor
    simp [after, hbandit, hbaseline, henabled, h]

/-- The other steps keep the live policy ahead of the baseline by what was learned. -/
theorem after_some (math : JsMath K) {s : FlywheelRun K} {bandit : LinUcbBanditPolicy K}
    (h : s.service.bandit = some bandit) (hopts : bandit.opts = defaultLinUcbOptions K)
    {x : FlywheelStep K} (hx : ¬ x.builds) :
    ∃ bandit', (s.after math x).service.bandit = some bandit' ∧
      bandit'.opts = defaultLinUcbOptions K ∧
      (s.after math x).service.banditEnabled = s.service.banditEnabled ∧
      (bandit.snapshot.stats - s.service.banditBaseline.stats = s.gained math →
        bandit'.snapshot.stats - (s.after math x).service.banditBaseline.stats =
          (s.after math x).gained math) := by
  cases x with
  | useBanditPolicy => exact absurd trivial hx
  | useChampion => exact absurd trivial hx
  | useBanditStore => exact ⟨bandit, h, hopts, rfl, id⟩
  | saved => exact ⟨bandit, h, hopts, rfl, id⟩
  | loadBanditState =>
    by_cases hstore : s.service.banditStore
    · cases hstate : s.store with
      | none =>
        refine ⟨bandit, ?_, hopts, ?_, ?_⟩
        all_goals simp [after, Flywheel.loadBanditState, Flywheel.wired, gained, h, hstore, hstate]
      | some state =>
        refine ⟨bandit.restore state, ?_, hopts, ?_, ?_⟩
        all_goals simp [after, Flywheel.loadBanditState, Flywheel.wired, gained, h, hstore, hstate]
    · refine ⟨bandit, ?_, hopts, ?_, ?_⟩
      all_goals simp [after, Flywheel.loadBanditState, Flywheel.wired, gained, h, hstore]
  | flushBanditState =>
    by_cases hstore : s.service.banditStore
    · refine ⟨bandit.restore (s.service.merged s.store bandit.snapshot), ?_, hopts, ?_, ?_⟩
      all_goals simp [after, Flywheel.flushBanditState, Flywheel.adopt, Flywheel.wired, gained, h,
        hstore]
    · refine ⟨bandit, ?_, hopts, ?_, ?_⟩
      all_goals simp [after, Flywheel.flushBanditState, Flywheel.wired, gained, h, hstore]
  | learnOnline features decision outcome amountMinor =>
    obtain ⟨hbandit, hbaseline, -, henabled⟩ := s.service.learnOnline_fields math features decision
      outcome amountMinor
    rw [h, Option.map_some] at hbandit
    have hlearned : (s.after math (.learnOnline features decision outcome amountMinor)).learned =
        s.learned ++ (Flywheel.observation features decision outcome amountMinor).toList := by
      simp [after, h]
    refine ⟨_, hbandit, ?_, henabled, ?_⟩
    · cases Flywheel.observation features decision outcome amountMinor with
      | none => exact hopts
      | some o => exact (bandit.learn_opts math o).trans hopts
    · intro hahead
      show _ - ((s.service.learnOnline math features decision outcome
        amountMinor).1).banditBaseline.stats = _
      rw [hbaseline, gained, hlearned]
      cases Flywheel.observation features decision outcome amountMinor with
      | none => simpa [gained] using hahead
      | some o =>
        simp only [Option.elim_some, Option.toList_some, List.map_append, List.sum_append,
          List.map_singleton, List.sum_singleton, LinUcbBanditPolicy.stats_learn, hopts]
        rw [add_sub_right_comm, hahead, gained]

theorem Wellformed.after (math : JsMath K) {s : FlywheelRun K} (h : s.Wellformed)
    (x : FlywheelStep K) : (s.after math x).Wellformed := by
  by_cases hx : x.builds
  · obtain ⟨hbaseline, hlearned, hnew⟩ := after_builds math h hx
    rcases hnew with ⟨hnone, hbefore, henabled⟩ | ⟨model, hsome, henabled⟩
    · refine ⟨by rw [hnone, henabled]; rfl, ?_, ?_⟩
      · intro bandit hbandit
        rw [hnone] at hbandit
        cases hbandit
      · intro _
        rw [hlearned, hbaseline]
        exact h.none hbefore
    · refine ⟨by rw [hsome, henabled]; rfl, ?_, ?_⟩
      · intro bandit hbandit
        rw [hsome] at hbandit
        obtain rfl := Option.some.inj hbandit
        rfl
      · intro hnone
        rw [hsome] at hnone
        cases hnone
  · cases hbandit : s.service.bandit with
    | none =>
      obtain ⟨hnone, hlearned, hbaseline, henabled⟩ := after_none math hbandit hx
      refine ⟨by rw [hnone, henabled, ← h.enabled, hbandit], ?_, ?_⟩
      · intro bandit hsome
        rw [hnone] at hsome
        cases hsome
      · intro _
        rw [hlearned, hbaseline]
        exact h.none hbandit
    | some bandit =>
      obtain ⟨bandit', hsome, hopts, henabled, -⟩ :=
        after_some math hbandit (h.opts bandit hbandit) hx
      refine ⟨by rw [hsome, henabled, ← h.enabled, hbandit]; rfl, ?_, ?_⟩
      · intro bandit'' hbandit''
        rw [hsome] at hbandit''
        obtain rfl := Option.some.inj hbandit''
        exact hopts
      · intro hnone
        rw [hsome] at hnone
        cases hnone

theorem wellformed_run (math : JsMath K) (model : RecoveryFeatures → ℚ)
    (store : Option (LinUcbBanditState K)) (xs : List (FlywheelStep K)) :
    (run math model store xs).Wellformed := by
  induction xs using List.reverseRecOn with
  | nil => exact ⟨rfl, fun _ h => (nomatch h), fun _ => ⟨rfl, rfl⟩⟩
  | append_singleton xs x ih =>
    rw [run_append]
    exact ih.after math x

/-- A step that builds the policy keeps the law if and only if the live policy had learned
    nothing. -/
theorem builds_ahead_iff (math : JsMath K) {s : FlywheelRun K} (h : s.Wellformed)
    (hahead : AheadByLearned math s) {x : FlywheelStep K} (hx : x.builds) :
    AheadByLearned math (s.after math x) ↔
      ∀ bandit, s.service.bandit = some bandit → bandit.Unlearned := by
  obtain ⟨hbaseline, hlearned, hnew⟩ := after_builds math h hx
  have hgained : (s.after math x).gained math = s.gained math := by rw [gained, hlearned, gained]
  rw [aheadByLearned_iff, hbaseline, hgained]
  rcases hnew with ⟨hnone, hbefore, -⟩ | ⟨model, hsome, -⟩
  · rw [hnone, hbefore]
    constructor
    · intro _ bandit hbandit
      cases hbandit
    · intro _ bandit hbandit
      cases hbandit
  · rw [hsome]
    constructor
    · intro hafter bandit hbandit
      have hnew := hafter _ rfl
      rw [← hahead.ahead bandit hbandit, sub_left_inj] at hnew
      exact LinUcbBanditPolicy.unlearned_iff.2 hnew.symm
    · intro hunlearned bandit' hbandit'
      obtain rfl := Option.some.inj hbandit'
      show (emptyBanditState (defaultLinUcbOptions K).lambda).stats - _ = _
      cases hbandit : s.service.bandit with
      | none =>
        obtain ⟨hnone, hempty⟩ := h.none hbandit
        rw [gained, hnone, hempty, sub_self]
        rfl
      | some bandit =>
        rw [← LinUcbBanditPolicy.unlearned_iff.1 (hunlearned bandit hbandit)]
        exact hahead.ahead bandit hbandit

/-- The other steps keep it. -/
theorem AheadByLearned.after {math : JsMath K} {s : FlywheelRun K} (hahead : AheadByLearned math s)
    (h : s.Wellformed) {x : FlywheelStep K} (hx : ¬ x.builds) :
    AheadByLearned math (s.after math x) := by
  rw [aheadByLearned_iff]
  intro bandit' hbandit'
  cases hbandit : s.service.bandit with
  | none =>
    obtain ⟨hnone, -⟩ := after_none math hbandit hx
    rw [hnone] at hbandit'
    cases hbandit'
  | some bandit =>
    obtain ⟨bandit'', hsome, -, -, hkeeps⟩ := after_some math hbandit (h.opts bandit hbandit) hx
    rw [hsome] at hbandit'
    obtain rfl := Option.some.inj hbandit'
    exact hkeeps (hahead.ahead bandit hbandit)

end FlywheelRun

theorem BuildsUnlearned.prefix {math : JsMath K} {model : RecoveryFeatures → ℚ}
    {store : Option (LinUcbBanditState K)} {xs ys : List (FlywheelStep K)}
    (h : BuildsUnlearned math model store (xs ++ ys)) : BuildsUnlearned math model store xs := by
  intro pre x post hxs
  refine h pre x (post ++ ys) ?_
  rw [hxs, List.append_assoc, List.cons_append]

/-- In every run the live policy is, after each step, ahead of the baseline by what was learned
    since the last load or flush, if and only if no policy is built anew over one that has learned
    something or was loaded. -/
theorem ahead_by_learned_iff (math : JsMath K) (model : RecoveryFeatures → ℚ)
    (store : Option (LinUcbBanditState K)) (xs : List (FlywheelStep K)) :
    (∀ pre post, xs = pre ++ post →
        (FlywheelRun.run math model store pre).AheadByLearned math) ↔
      BuildsUnlearned math model store xs := by
  constructor
  · intro h pre x post hxs hx
    have hwf := FlywheelRun.wellformed_run math model store pre
    have hpre := h pre (x :: post) hxs
    have hafter := h (pre ++ [x]) post (by rw [hxs, List.append_assoc, List.singleton_append])
    rw [FlywheelRun.run_append] at hafter
    exact (FlywheelRun.builds_ahead_iff math hwf hpre hx).1 hafter
  · intro h pre post hxs
    rw [hxs] at h
    have hpre := h.prefix
    clear h hxs post
    induction pre using List.reverseRecOn with
    | nil => exact FlywheelRun.aheadByLearned_iff.2 fun bandit hbandit => by cases hbandit
    | append_singleton xs x ih =>
      have hbefore := ih hpre.prefix
      have hwf := FlywheelRun.wellformed_run math model store xs
      rw [FlywheelRun.run_append]
      by_cases hx : x.builds
      · exact (FlywheelRun.builds_ahead_iff math hwf hbefore hx).2 (hpre xs x [] rfl hx)
      · exact hbefore.after hwf hx

end

/-! ### A champion over a loaded policy -/

/-- The state of one observation that another process has saved. -/
noncomputable def savedOnce : LinUcbBanditState ℝ :=
  ((LinUcbBanditPolicy.new (fun _ => 1 / 2) (defaultLinUcbOptions ℝ)).learn realMath
    retriedOnce).snapshot

/-- A process that loads it, and then puts another model in place. -/
def championOverLoaded : List (FlywheelStep ℝ) :=
  [.useBanditPolicy, .useBanditStore, .loadBanditState, .useChampion fun _ => 1 / 2]

/-- Nothing was learned, but the live policy is one observation behind its baseline, and the next
    flush takes the observation from the store. -/
theorem champion_behind_baseline :
    ¬ (FlywheelRun.run realMath (fun _ => 1 / 2) (some savedOnce)
        championOverLoaded).AheadByLearned realMath ∧
      (savedOnce.arms .retry).n = 1 ∧
      (((FlywheelRun.run realMath (fun _ => 1 / 2) (some savedOnce)
        (championOverLoaded ++ [.flushBanditState])).store.getD savedOnce).arms .retry).n = 0 := by
  refine ⟨?_, rfl, rfl⟩
  intro h
  have hn := congrArg (fun stats => (stats .retry).2.2) (h.ahead _ rfl)
  have hzero : (-1 : ℤ) = 0 := hn
  exact absurd hzero (by omega)

end AX10M
