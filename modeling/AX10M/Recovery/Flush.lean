/-
  Flushes in the background (`recovery-case.service.ts`, `flushBanditState` and `learnOnline`).

  A flush takes a snapshot, waits for the store to load and to save, and restores what it has saved
  over the live policy.  What is learned before that, after the snapshot, is lost; what two flushes
  take from the same baseline is counted twice.  If nothing is learned between the snapshot and the
  end of a save, neither happens, in any order of the answers of the store, and with any of them
  failing (`flush_keeps_learning`).
-/
import AX10M.Pools.Flights
import AX10M.Recovery.Fleet

namespace AX10M

open Js Matrices Matrix Pools

/-- What happens in a process and at its store: the store reads or writes for the flush `k`, and
    what the flush waits for resolves or fails. -/
inductive FlushEvent where
  | learnOnline (features : RecoveryFeatures) (decision : RecoveryDecision) (outcome : String)
    (amountMinor : ℚ)
  | reads (k : ℕ)
  | loaded (k : ℕ)
  | writes (k : ℕ)
  | saved (k : ℕ)
  | fails (k : ℕ)

/-- A process, its store, and the flushes that are not settled, by the order in which they were
    started. -/
structure FlushRun (K : Type) where
  service : Flywheel K
  store : Option (LinUcbBanditState K)
  started : ℕ
  flights : ℕ → Option (Flight (LinUcbBanditState K))

section

variable {K : Type} [Field K] [LinearOrder K]

namespace FlushRun

/-- A flush in another phase, or settled. -/
def put (s : FlushRun K) (k : ℕ) (f : Option (Flight (LinUcbBanditState K))) : FlushRun K :=
  { s with flights := Function.update s.flights k f }

/-- One event.  A flush holds its snapshot (and the number of outcomes learned before it, which only
    proofs read); it adds the baseline of the moment when its load resolves. -/
def after (math : JsMath K) (s : FlushRun K) : FlushEvent → FlushRun K
  | .learnOnline features decision outcome amountMinor =>
    let (service, starts) := s.service.learnOnline math features decision outcome amountMinor
    let s := { s with service }
    match service.bandit, starts with
    | some bandit, true =>
      { s.put s.started (some ⟨bandit.snapshot, service.banditTotalUpdates, .loading⟩) with
        started := s.started + 1 }
    | _, _ => s
  | .reads k => match s.flights k with
    | some ⟨current, n, .loading⟩ => s.put k (some ⟨current, n, .read s.store⟩)
    | _ => s
  | .loaded k => match s.flights k with
    | some ⟨current, n, .read persisted⟩ =>
      s.put k (some ⟨current, n, .saving (s.service.merged persisted current)⟩)
    | _ => s
  | .writes k => match s.flights k with
    | some ⟨current, n, .saving merged⟩ =>
      { s.put k (some ⟨current, n, .written merged⟩) with store := some merged }
    | _ => s
  | .saved k => match s.flights k, s.service.bandit with
    | some ⟨_, _, .written merged⟩, some bandit =>
      { s.put k none with service := s.service.adopt bandit merged }
    | _, _ => s
  | .fails k => match s.flights k with
    | some ⟨_, _, .loading⟩ | some ⟨_, _, .read _⟩ | some ⟨_, _, .saving _⟩ => s.put k none
    | _ => s

/-- A process that has loaded what earlier runs left in the store. -/
def start (model : RecoveryFeatures → ℚ) (store : Option (LinUcbBanditState K)) : FlushRun K where
  service := ((Flywheel.init model).useBanditPolicy.useBanditStore).loadBanditState store
  store
  started := 0
  flights _ := none

/-- The run over a store. -/
def run (math : JsMath K) (model : RecoveryFeatures → ℚ) (store : Option (LinUcbBanditState K))
    (xs : List FlushEvent) : FlushRun K := xs.foldl (FlushRun.after math) (start model store)

/-- What the next flush would store: persisted and the difference to the baseline. -/
def pooled (s : FlushRun K) (bandit : LinUcbBanditPolicy K) : LinUcbBanditState K :=
  s.service.merged s.store bandit.snapshot

end FlushRun

/-- The observation of an event. -/
def FlushEvent.observation : FlushEvent → Option Observation
  | .learnOnline features decision outcome amountMinor =>
    Flywheel.observation features decision outcome amountMinor
  | _ => none

/-- Whenever a save succeeds, nothing was learned since the snapshot of its flush. -/
def SavesSettled (math : JsMath K) (model : RecoveryFeatures → ℚ)
    (store : Option (LinUcbBanditState K)) (xs : List FlushEvent) : Prop :=
  ∀ pre k post, xs = pre ++ .saved k :: post →
    ∀ f, (FlushRun.run math model store pre).flights k = some f → f.phase.isWritten = true →
      f.learned = (FlushRun.run math model store pre).service.banditTotalUpdates

namespace FlushRun

/-! ## Statistics of a run -/

/-- The statistics of a run. -/
def aloft (s : FlushRun K) : Aloft (BanditStats K) where
  store := s.store.map LinUcbBanditState.stats
  current := s.service.member.current
  baseline := s.service.member.baseline
  learned := s.service.banditTotalUpdates
  flights k := (s.flights k).map (Flight.map LinUcbBanditState.stats)

omit [LinearOrder K] in
theorem aloft_put (s : FlushRun K) (k : ℕ) (f : Option (Flight (LinUcbBanditState K))) :
    (s.put k f).aloft = s.aloft.put k (f.map (Flight.map LinUcbBanditState.stats)) := by
  simp only [aloft, put, Aloft.put, Aloft.mk.injEq, true_and]
  funext j
  by_cases hj : j = k
  · subst hj
    simp
  · simp [hj]

omit [LinearOrder K] in
/-- What a merge adds up to. -/
theorem stats_merged {s : Flywheel K} (persisted : Option (LinUcbBanditState K))
    (current : LinUcbBanditState K) : (s.merged persisted current).stats =
      (persisted.map LinUcbBanditState.stats).getD
        (emptyBanditState (defaultLinUcbOptions K).lambda).stats +
          (current.stats - s.member.baseline) := by
  cases persisted <;> rfl

theorem aloft_reads (math : JsMath K) (gain : Observation → BanditStats K) (e : BanditStats K)
    (s : FlushRun K) (k : ℕ) :
    (s.after math (.reads k)).aloft = s.aloft.after gain e (.reads k) := by
  rcases hf : s.flights k with _ | ⟨c, n, _ | _ | _ | _⟩
  all_goals
    have hf' : s.aloft.flights k = (s.flights k).map (Flight.map LinUcbBanditState.stats) := rfl
    rw [hf] at hf'
    simp only [Option.map_none, Option.map_some, Flight.map, Phase.map] at hf'
    simp only [after, Aloft.after, hf, hf', aloft_put]
  rfl

theorem aloft_loaded (math : JsMath K) (gain : Observation → BanditStats K) (s : FlushRun K)
    (k : ℕ) : (s.after math (.loaded k)).aloft =
      s.aloft.after gain (emptyBanditState (defaultLinUcbOptions K).lambda).stats (.loaded k) := by
  rcases hf : s.flights k with _ | ⟨c, n, _ | _ | _ | _⟩
  all_goals
    have hf' : s.aloft.flights k = (s.flights k).map (Flight.map LinUcbBanditState.stats) := rfl
    rw [hf] at hf'
    simp only [Option.map_none, Option.map_some, Flight.map, Phase.map] at hf'
    simp only [after, Aloft.after, hf, hf', aloft_put, Option.map_some, Flight.map, Phase.map,
      stats_merged]
  rfl

theorem aloft_writes (math : JsMath K) (gain : Observation → BanditStats K) (e : BanditStats K)
    (s : FlushRun K) (k : ℕ) :
    (s.after math (.writes k)).aloft = s.aloft.after gain e (.writes k) := by
  rcases hf : s.flights k with _ | ⟨c, n, _ | _ | merged | _⟩
  case some.saving =>
    have hf' : s.aloft.flights k = some ⟨c.stats, n, .saving merged.stats⟩ := by
      simp only [aloft, hf, Option.map_some, Flight.map, Phase.map]
    simp only [after, Aloft.after, hf, hf']
    have hput := s.aloft_put k (some ⟨c, n, .written merged⟩)
    simp only [aloft, put, Aloft.put, Option.map_some, Flight.map, Phase.map, Aloft.mk.injEq,
      true_and] at hput ⊢
    exact hput
  all_goals
    have hf' : s.aloft.flights k = (s.flights k).map (Flight.map LinUcbBanditState.stats) := rfl
    rw [hf] at hf'
    simp only [Option.map_none, Option.map_some, Flight.map, Phase.map] at hf'
    simp only [after, Aloft.after, hf, hf']

theorem aloft_saved (math : JsMath K) (gain : Observation → BanditStats K) (e : BanditStats K)
    {s : FlushRun K} (h : s.service.Ready) (k : ℕ) :
    (s.after math (.saved k)).aloft = s.aloft.after gain e (.saved k) := by
  obtain ⟨bandit, hbandit, -⟩ := h
  rcases hf : s.flights k with _ | ⟨c, n, _ | _ | _ | merged⟩
  case some.written =>
    have hf' : s.aloft.flights k = some ⟨c.stats, n, .written merged.stats⟩ := by
      simp only [aloft, hf, Option.map_some, Flight.map, Phase.map]
    simp only [after, Aloft.after, hf, hf', hbandit]
    have hput := s.aloft_put k none
    simp only [aloft, put, Aloft.put, Option.map_none, Aloft.mk.injEq, true_and,
      Flywheel.adopt, Flywheel.member, Option.map_some, Option.getD_some,
      LinUcbBanditPolicy.stats_restore] at hput ⊢
    exact hput
  all_goals
    have hf' : s.aloft.flights k = (s.flights k).map (Flight.map LinUcbBanditState.stats) := rfl
    rw [hf] at hf'
    simp only [Option.map_none, Option.map_some, Flight.map, Phase.map] at hf'
    simp only [after, Aloft.after, hf, hf']

theorem aloft_fails (math : JsMath K) (gain : Observation → BanditStats K) (e : BanditStats K)
    (s : FlushRun K) (k : ℕ) :
    (s.after math (.fails k)).aloft = s.aloft.after gain e (.fails k) := by
  rcases hf : s.flights k with _ | ⟨c, n, _ | _ | _ | _⟩
  all_goals
    have hf' : s.aloft.flights k = (s.flights k).map (Flight.map LinUcbBanditState.stats) := rfl
    rw [hf] at hf'
    simp only [Option.map_none, Option.map_some, Flight.map, Phase.map] at hf'
    simp only [after, Aloft.after, hf, hf', aloft_put, Option.map_none]

/-- A bandit is live, and only flushes that were started are in flight. -/
structure Sound (s : FlushRun K) : Prop where
  ready : s.service.Ready
  unstarted : ∀ k, s.started ≤ k → s.flights k = none

omit [LinearOrder K] in
theorem Sound.put {s : FlushRun K} (h : s.Sound) {k : ℕ} {f : Flight (LinUcbBanditState K)}
    (hf : s.flights k = some f) (f' : Option (Flight (LinUcbBanditState K))) :
    (s.put k f').Sound := by
  refine ⟨h.ready, ?_⟩
  intro j hj
  have hne : j ≠ k := by
    rintro rfl
    rw [h.unstarted j hj] at hf
    cases hf
  show Function.update s.flights k f' j = none
  rw [Function.update_of_ne hne]
  exact h.unstarted j hj

/-- What the statistics of a run gain by an event. -/
def gainsOf (math : JsMath K) (x : FlushEvent) : BanditStats K :=
  (x.observation.map (Observation.gain math (defaultLinUcbOptions K))).getD 0

/-- A process that learns and starts no flush. -/
theorem aloft_learn (math : JsMath K) {s : FlushRun K} (h : s.service.Ready) (o : Observation)
    (since : ℕ) (e : BanditStats K) :
    let service := { s.service.learn math o with
      banditTotalUpdates := s.service.banditTotalUpdates + 1, banditUpdatesSinceFlush := since }
    service.Ready ∧ ({ s with service } : FlushRun K).aloft =
      s.aloft.after (Observation.gain math (defaultLinUcbOptions K)) e (.learn o none) := by
  obtain ⟨hready, hmember⟩ := h.learn math o
  refine ⟨hready, ?_⟩
  have hm : ({ s.service.learn math o with
      banditTotalUpdates := s.service.banditTotalUpdates + 1,
      banditUpdatesSinceFlush := since } : Flywheel K).member =
      (s.service.learn math o).member := rfl
  simp only [aloft, Aloft.after, hm, hmember]

/-- The three ways an outcome is fed back: it is none, it is of a suppressed action, or it is
    learned, and may start a flush. -/
theorem after_learnOnline (math : JsMath K) {s : FlushRun K} (h : s.Sound)
    (features : RecoveryFeatures) (decision : RecoveryDecision) (outcome : String)
    (amountMinor : ℚ) :
    let x := FlushEvent.learnOnline features decision outcome amountMinor
    (s.after math x).Sound ∧
      (((s.after math x).aloft = s.aloft ∧ gainsOf math x = (0 : BanditStats K)) ∨
        ∃ o k, (∀ j ∈ k, s.flights j = none) ∧
          gainsOf math x = o.gain math (defaultLinUcbOptions K) ∧
          (s.after math x).aloft = s.aloft.after
            (Observation.gain math (defaultLinUcbOptions K))
            (emptyBanditState (defaultLinUcbOptions K).lambda).stats (.learn o k)) := by
  intro x
  cases ho : Flywheel.observation features decision outcome amountMinor with
  | none =>
    have hsame : s.after math x = s := by
      simp only [x, after, s.service.learnOnline_of_none math ho]
      cases s.service.bandit <;> rfl
    have hgains : gainsOf math x = (0 : BanditStats K) := by
      simp only [gainsOf, x, FlushEvent.observation, ho]
      rfl
    rw [hsame]
    exact ⟨h, Or.inl ⟨rfl, hgains⟩⟩
  | some o =>
    have hgains : gainsOf math x = o.gain math (defaultLinUcbOptions K) := by
      simp only [gainsOf, x, FlushEvent.observation, ho]
      rfl
    have hdecision : o.decision = decision := by
      unfold Flywheel.observation at ho
      split_ifs at ho
      · cases ho
        rfl
      · cases ho
        rfl
    cases harm : decision.action.arm with
    | none =>
      have hzero : o.gain math (defaultLinUcbOptions K) = (0 : BanditStats K) := by
        unfold Observation.gain
        rw [hdecision, harm]
      obtain ⟨hready, hmember⟩ := h.ready.learn math o
      have hafter : s.after math x = { s with service := s.service.learn math o } := by
        simp only [x, after, s.service.learnOnline_of_suppressed math ho harm]
        cases (s.service.learn math o).bandit <;> rfl
      rw [hafter]
      refine ⟨⟨hready, h.unstarted⟩, Or.inl ⟨?_, hgains.trans hzero⟩⟩
      simp only [aloft, hmember, hzero, add_zero]
      rfl
    | some arm =>
      obtain ⟨since, hservice⟩ := s.service.learnOnline_of_arm math ho harm
      obtain ⟨hready, haloft⟩ := aloft_learn math h.ready o since
        (emptyBanditState (defaultLinUcbOptions K).lambda).stats
      rw [← hservice] at hready haloft
      generalize hr : s.service.learnOnline math features decision outcome amountMinor = r
        at hready haloft
      obtain ⟨service, starts⟩ := r
      obtain ⟨bandit, hbandit, hopts, hstore⟩ := hready
      have hlive : service.bandit = some bandit := hbandit
      cases starts with
      | false =>
        have hafter : s.after math x = { s with service } := by
          simp only [x, after, hr, hlive]
        rw [hafter]
        refine ⟨⟨⟨bandit, hbandit, hopts, hstore⟩, h.unstarted⟩, Or.inr ⟨o, none, ?_, hgains, ?_⟩⟩
        · intro j hj
          cases hj
        · exact haloft
      | true =>
        have hafter : s.after math x = { ({ s with service } : FlushRun K).put s.started
            (some ⟨bandit.snapshot, service.banditTotalUpdates, .loading⟩) with
            started := s.started + 1 } := by
          simp only [x, after, hr, hlive]
        constructor
        · rw [hafter]
          refine ⟨⟨bandit, hbandit, hopts, hstore⟩, ?_⟩
          intro k hk
          have hk : s.started + 1 ≤ k := hk
          have hne : k ≠ s.started := by omega
          show Function.update s.flights s.started _ k = none
          rw [Function.update_of_ne hne]
          exact h.unstarted k (by omega)
        · refine Or.inr ⟨o, some s.started, ?_, hgains, ?_⟩
          · intro j hj
            obtain rfl := Option.some.inj hj
            exact h.unstarted s.started le_rfl
          · have hcurrent : ({ s with service } : FlushRun K).aloft.current =
                bandit.snapshot.stats := by
              simp only [aloft, Flywheel.member, hlive, Option.map_some, Option.getD_some]
            have hput := ({ s with service } : FlushRun K).aloft_put s.started
              (some ⟨bandit.snapshot, service.banditTotalUpdates, .loading⟩)
            simp only [Option.map_some, Flight.map, Phase.map, ← hcurrent] at hput
            have haloft : ({ s with service } : FlushRun K).aloft = _ := haloft
            have hlearned : service.banditTotalUpdates = s.service.banditTotalUpdates + 1 :=
              congrArg Aloft.learned haloft
            rw [haloft] at hput
            rw [hafter]
            refine Eq.trans ?_ (hput.trans ?_)
            · rfl
            · rw [hlearned]
              rfl

theorem Sound.after (math : JsMath K) {s : FlushRun K} (h : s.Sound) (x : FlushEvent) :
    (s.after math x).Sound := by
  cases x with
  | learnOnline features decision outcome amountMinor =>
    exact (after_learnOnline math h features decision outcome amountMinor).1
  | reads k =>
    rcases hf : s.flights k with _ | ⟨c, n, _ | _ | _ | _⟩
    all_goals simp only [FlushRun.after, hf]
    case some.loading => exact h.put hf _
    all_goals exact h
  | loaded k =>
    rcases hf : s.flights k with _ | ⟨c, n, _ | _ | _ | _⟩
    all_goals simp only [FlushRun.after, hf]
    case some.read => exact h.put hf _
    all_goals exact h
  | writes k =>
    rcases hf : s.flights k with _ | ⟨c, n, _ | _ | merged | _⟩
    all_goals simp only [FlushRun.after, hf]
    case some.saving =>
      have hput := h.put hf (some ⟨c, n, .written merged⟩)
      exact ⟨hput.ready, hput.unstarted⟩
    all_goals exact h
  | saved k =>
    obtain ⟨bandit, hbandit, hopts, hstore⟩ := h.ready
    rcases hf : s.flights k with _ | ⟨c, n, _ | _ | _ | merged⟩
    all_goals simp only [FlushRun.after, hf, hbandit]
    case some.written =>
      have hput := h.put hf none
      exact ⟨⟨bandit.restore merged, rfl, hopts, hstore⟩, hput.unstarted⟩
    all_goals exact h
  | fails k =>
    rcases hf : s.flights k with _ | ⟨c, n, _ | _ | _ | _⟩
    all_goals simp only [FlushRun.after, hf]
    case none => exact h
    case some.written => exact h
    all_goals exact h.put hf _

/-- The level of every event. -/
theorem level_event (math : JsMath K) {s : FlushRun K} (h : s.Sound) {total : BanditStats K}
    (hlevel : Doomed s.aloft ∨
      OnLevel (emptyBanditState (defaultLinUcbOptions K).lambda).stats s.aloft total)
    {x : FlushEvent} (hx : ∀ k, x = .saved k → ∀ f, s.flights k = some f →
      f.phase.isWritten = true → f.learned = s.service.banditTotalUpdates) :
    Doomed (s.after math x).aloft ∨
      OnLevel (emptyBanditState (defaultLinUcbOptions K).lambda).stats (s.after math x).aloft
        (total + gainsOf math x) := by
  cases x with
  | learnOnline features decision outcome amountMinor =>
    obtain ⟨-, ⟨hsame, hgains⟩ | ⟨o, k, hk, hgains, hafter⟩⟩ :=
      after_learnOnline math h features decision outcome amountMinor
    · rw [hsame, hgains, add_zero]
      exact hlevel
    · rw [hafter, hgains]
      refine level_after hlevel ?_
      cases k with
      | none => trivial
      | some k =>
        show s.aloft.flights k = none
        simp only [aloft, hk k rfl, Option.map_none]
  | reads k =>
    rw [aloft_reads math (Observation.gain math (defaultLinUcbOptions K))
      (emptyBanditState (defaultLinUcbOptions K).lambda).stats]
    exact level_after hlevel trivial
  | loaded k =>
    rw [aloft_loaded math (Observation.gain math (defaultLinUcbOptions K))]
    exact level_after hlevel trivial
  | writes k =>
    rw [aloft_writes math (Observation.gain math (defaultLinUcbOptions K))
      (emptyBanditState (defaultLinUcbOptions K).lambda).stats]
    exact level_after hlevel trivial
  | saved k =>
    rw [aloft_saved math (Observation.gain math (defaultLinUcbOptions K))
      (emptyBanditState (defaultLinUcbOptions K).lambda).stats h.ready]
    refine level_after hlevel ?_
    intro f hf hwritten
    obtain ⟨g, hg, rfl⟩ := Option.map_eq_some_iff.1 hf
    refine hx k rfl g hg ?_
    cases hphase : g.phase <;> simp_all [Flight.map, Phase.map, Phase.isWritten]
  | fails k =>
    rw [aloft_fails math (Observation.gain math (defaultLinUcbOptions K))
      (emptyBanditState (defaultLinUcbOptions K).lambda).stats]
    exact level_after hlevel trivial

theorem run_append (math : JsMath K) (model : RecoveryFeatures → ℚ)
    (store : Option (LinUcbBanditState K)) (xs : List FlushEvent) (x : FlushEvent) :
    run math model store (xs ++ [x]) = (run math model store xs).after math x :=
  List.foldl_append

theorem start_sound (model : RecoveryFeatures → ℚ) (store : Option (LinUcbBanditState K)) :
    (start model store).Sound := by
  have hready : ((Flywheel.init model : Flywheel K).useBanditPolicy.useBanditStore).Ready :=
    ⟨.new model (defaultLinUcbOptions K), rfl, rfl, rfl⟩
  exact ⟨(hready.load store).1, fun _ _ => rfl⟩

theorem start_level (model : RecoveryFeatures → ℚ) (store : Option (LinUcbBanditState K)) :
    OnLevel (emptyBanditState (defaultLinUcbOptions K).lambda).stats (start model store).aloft
      ((start model store).aloft.store.getD
        (emptyBanditState (defaultLinUcbOptions K).lambda).stats) := by
  have hready : ((Flywheel.init model : Flywheel K).useBanditPolicy.useBanditStore).Ready :=
    ⟨.new model (defaultLinUcbOptions K), rfl, rfl, rfl⟩
  obtain ⟨-, hmember⟩ := hready.load store
  refine onLevel_start (fun _ => rfl) ?_
  simp only [aloft, start, hmember]

theorem sound_run (math : JsMath K) (model : RecoveryFeatures → ℚ)
    (store : Option (LinUcbBanditState K)) (xs : List FlushEvent) :
    (run math model store xs).Sound := by
  induction xs using List.reverseRecOn with
  | nil => exact start_sound model store
  | append_singleton xs x ih =>
    rw [run_append]
    exact ih.after math x

theorem level_run (math : JsMath K) (model : RecoveryFeatures → ℚ)
    (store : Option (LinUcbBanditState K)) {xs : List FlushEvent}
    (h : SavesSettled math model store xs) :
    Doomed (run math model store xs).aloft ∨
      OnLevel (emptyBanditState (defaultLinUcbOptions K).lambda).stats
        (run math model store xs).aloft
        ((store.getD (emptyBanditState (defaultLinUcbOptions K).lambda)).stats +
          ((xs.filterMap FlushEvent.observation).map
            (Observation.gain math (defaultLinUcbOptions K))).sum) := by
  induction xs using List.reverseRecOn with
  | nil =>
    right
    have hlevel := start_level model store
    rw [List.filterMap_nil, List.map_nil, List.sum_nil, add_zero]
    cases store <;> exact hlevel
  | append_singleton xs x ih =>
    have hbefore : SavesSettled math model store xs := by
      intro pre k post hxs
      refine h pre k (post ++ [x]) ?_
      rw [hxs, List.append_assoc, List.cons_append]
    have hstep := level_event math (sound_run math model store xs) (ih hbefore) (x := x) ?_
    · have hsum : ((xs ++ [x]).filterMap FlushEvent.observation).map
          (Observation.gain math (defaultLinUcbOptions K)) =
          (xs.filterMap FlushEvent.observation).map
            (Observation.gain math (defaultLinUcbOptions K)) ++
          (x.observation.toList).map (Observation.gain math (defaultLinUcbOptions K)) := by
        rw [List.filterMap_append, List.map_append]
        cases hx : x.observation <;> simp [hx]
      have hgains : gainsOf math x = ((x.observation.toList).map
          (Observation.gain math (defaultLinUcbOptions K))).sum := by
        unfold gainsOf
        cases x.observation <;> simp
      rw [run_append, hsum, List.sum_append, ← hgains, ← add_assoc]
      exact hstep
    · rintro k rfl f hf
      exact h xs k [] rfl f hf

/-- A run whose last event only is a save. -/
theorem savesSettled_of_last {math : JsMath K} {model : RecoveryFeatures → ℚ}
    {store : Option (LinUcbBanditState K)} {xs : List FlushEvent} {k : ℕ}
    (hxs : ∀ j, .saved j ∉ xs) (h : ∀ f, (run math model store xs).flights k = some f →
      f.learned = (run math model store xs).service.banditTotalUpdates) :
    SavesSettled math model store (xs ++ [.saved k]) := by
  intro pre j post hpre f hf _
  rcases List.eq_nil_or_concat' post with rfl | ⟨post, x, rfl⟩
  · obtain ⟨rfl, hj⟩ := List.append_inj' hpre rfl
    cases hj
    exact h f hf
  · have hsplit : xs ++ [.saved k] = (pre ++ .saved j :: post) ++ [x] := by
      rw [hpre, List.append_assoc, List.cons_append]
    obtain ⟨rfl, -⟩ := List.append_inj' hsplit rfl
    exact absurd (List.mem_append_right _ List.mem_cons_self) (hxs j)

end FlushRun

/-! ## Each outcome once -/

/-- One state is another with some observations added to an arm: for each `xxᵀ`, `r·x` and 1. -/
structure Adds (math : JsMath K) (arm : BanditArm) (os : List Observation)
    (s s' : BanditArmSnapshot K) : Prop where
  a : s'.a = s.a + ((learnedOn arm os).map fun o =>
    vecMulVec (featureVector math o.features) (featureVector math o.features)).sum
  b : s'.b = s.b + ((learnedOn arm os).map fun o =>
    ((o.realizedRewardMinor : K) / (defaultLinUcbOptions K).rewardScaleMinor) •
      featureVector math o.features).sum
  n : s'.n = s.n + (learnedOn arm os).length

omit [LinearOrder K] in
theorem adds_of_stats {math : JsMath K} {os : List Observation} {s s' : LinUcbBanditState K}
    (h : s'.stats = s.stats + (os.map (Observation.gain math (defaultLinUcbOptions K))).sum)
    (arm : BanditArm) : Adds math arm os (s.arms arm) (s'.arms arm) := by
  have harm := congrFun h arm
  rw [Pi.add_apply, sum_gain] at harm
  simp only [LinUcbBanditState.stats, Prod.mk_add_mk, Prod.mk.injEq] at harm
  obtain ⟨ha, hb, hn⟩ := harm
  exact ⟨ha, hb, hn⟩

/-- In a run in which nothing is learned between the snapshot and the save of a flush that succeeds,
    once all flushes have settled: persisted, and what the live policy is ahead of its baseline, are
    what was stored at first and each outcome once. -/
theorem flush_keeps_learning (math : JsMath K) (model : RecoveryFeatures → ℚ)
    (store : Option (LinUcbBanditState K)) (xs : List FlushEvent)
    (hsaves : SavesSettled math model store xs)
    (hsettled : ∀ k, (FlushRun.run math model store xs).flights k = none) :
    ∃ bandit, (FlushRun.run math model store xs).service.bandit = some bandit ∧
      ∀ arm, Adds math arm (xs.filterMap FlushEvent.observation)
        ((store.getD (emptyBanditState (defaultLinUcbOptions K).lambda)).arms arm)
        (((FlushRun.run math model store xs).pooled bandit).arms arm) := by
  obtain ⟨bandit, hbandit, -⟩ := (FlushRun.sound_run math model store xs).ready
  refine ⟨bandit, hbandit, ?_⟩
  have hbalanced := balanced_of_settled (FlushRun.level_run math model store hsaves) fun k => by
    simp only [FlushRun.aloft, hsettled k, Option.map_none]
  refine adds_of_stats ?_
  rw [FlushRun.pooled, FlushRun.stats_merged, ← hbalanced]
  simp only [FlushRun.aloft, Flywheel.member, hbandit, Option.map_some, Option.getD_some]

end

/-! ### An outcome learned while a flush is saved -/

/-- A retry that succeeds. -/
def retried : FlushEvent :=
  .learnOnline retriedOnce.features retriedOnce.decision "succeeded" 10000

/-- Twenty-five outcomes start a flush. -/
def flushStarts : List FlushEvent := List.replicate 25 retried ++ [.reads 0, .loaded 0]

/-- One more outcome comes before the flush has saved. -/
def learnsMeanwhile : List FlushEvent := flushStarts ++ [retried, .writes 0, .saved 0]

theorem learnsMeanwhile_settled (k : ℕ) :
    (FlushRun.run realMath (fun _ => 1 / 2) none learnsMeanwhile).flights k = none := by
  cases k with
  | zero =>
    refine Option.isNone_iff_eq_none.1 ?_
    decide +kernel
  | succ k =>
    refine (FlushRun.sound_run realMath (fun _ => 1 / 2) none learnsMeanwhile).unstarted _ ?_
    have hstarted : (FlushRun.run realMath (fun _ => 1 / 2) none learnsMeanwhile).started = 1 := by
      decide +kernel
    omega

/-- It is lost: of twenty-six outcomes, twenty-five are left once all flushes have settled. -/
theorem outcome_lost_by_flush :
    (∀ k, (FlushRun.run realMath (fun _ => 1 / 2) none learnsMeanwhile).flights k = none) ∧
      (learnedOn .retry (learnsMeanwhile.filterMap FlushEvent.observation)).length = 26 ∧
      ∀ bandit, (FlushRun.run realMath (fun _ => 1 / 2) none learnsMeanwhile).service.bandit =
          some bandit →
        (((FlushRun.run realMath (fun _ => 1 / 2) none learnsMeanwhile).pooled bandit).arms
          .retry).n = 25 := by
  refine ⟨learnsMeanwhile_settled, by decide +kernel, ?_⟩
  intro bandit hbandit
  have hn : (FlushRun.run realMath (fun _ => 1 / 2) none learnsMeanwhile).service.bandit.map
      (fun bandit => (((FlushRun.run realMath (fun _ => 1 / 2) none learnsMeanwhile).pooled
        bandit).arms .retry).n) = some 25 := by
    decide +kernel
  rw [hbandit] at hn
  exact Option.some.inj hn

/-- The flush alone. -/
def flushAlone : List FlushEvent := flushStarts ++ [.writes 0] ++ [.saved 0]

theorem flushAlone_saves : SavesSettled realMath (fun _ => 1 / 2) none flushAlone := by
  refine FlushRun.savesSettled_of_last ?_ ?_
  · intro j
    simp [flushStarts, retried]
  · intro f hf
    have hlearned : ((FlushRun.run realMath (fun _ => 1 / 2) none
        (flushStarts ++ [.writes 0])).flights 0).map Flight.learned = some 25 := by
      decide +kernel
    have htotal : (FlushRun.run realMath (fun _ => 1 / 2) none
        (flushStarts ++ [.writes 0])).service.banditTotalUpdates = 25 := by
      decide +kernel
    rw [hf] at hlearned
    rw [htotal]
    exact Option.some.inj hlearned

theorem flushAlone_settled (k : ℕ) :
    (FlushRun.run realMath (fun _ => 1 / 2) none flushAlone).flights k = none := by
  cases k with
  | zero =>
    refine Option.isNone_iff_eq_none.1 ?_
    decide +kernel
  | succ k =>
    refine (FlushRun.sound_run realMath (fun _ => 1 / 2) none flushAlone).unstarted _ ?_
    have hstarted : (FlushRun.run realMath (fun _ => 1 / 2) none flushAlone).started = 1 := by
      decide +kernel
    omega

theorem flush_keeps_learning_alone :
    ∃ bandit, (FlushRun.run realMath (fun _ => 1 / 2) none flushAlone).service.bandit =
        some bandit ∧
      ∀ arm, Adds realMath arm (flushAlone.filterMap FlushEvent.observation)
        ((emptyBanditState (defaultLinUcbOptions ℝ).lambda).arms arm)
        (((FlushRun.run realMath (fun _ => 1 / 2) none flushAlone).pooled bandit).arms arm) :=
  flush_keeps_learning realMath (fun _ => 1 / 2) none flushAlone flushAlone_saves
    flushAlone_settled

end AX10M
