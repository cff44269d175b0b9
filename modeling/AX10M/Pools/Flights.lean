/-
  Flushes in flight.

  A member of a pool flushes in the background: it takes a copy of what it has, reads the store,
  adds the difference to the baseline it has then, writes the sum and takes it over.  It goes on
  learning meanwhile.  If nothing was learned between the copy and the end of each flush that
  succeeds, the store and what the member is ahead of its baseline hold everything that was learned,
  once (`level_after`): such flushes do not overlap, and one that fails changes nothing.
-/
import Mathlib.Algebra.BigOperators.Group.List.Basic
import Mathlib.Algebra.Group.Basic
import Mathlib.Tactic.Abel

namespace Pools

/-- How far a flush is. -/
inductive Phase (G : Type*) where
  | loading
  | read (persisted : Option G)
  | saving (merged : G)
  | written (merged : G)

/-- A flush: its copy, and how much had been learned when it was taken. -/
structure Flight (G : Type*) where
  current : G
  learned : ℕ
  phase : Phase G

/-- A flush of another type of totals. -/
def Phase.map {G H : Type*} (g : G → H) : Phase G → Phase H
  | .loading => .loading
  | .read persisted => .read (persisted.map g)
  | .saving merged => .saving (g merged)
  | .written merged => .written (g merged)

def Flight.map {G H : Type*} (g : G → H) (f : Flight G) : Flight H :=
  ⟨g f.current, f.learned, f.phase.map g⟩

/-- The member, its store and its flushes. -/
structure Aloft (G : Type*) where
  store : Option G
  current : G
  baseline : G
  learned : ℕ
  flights : ℕ → Option (Flight G)

inductive Event (O : Type*) where
  /-- learn `o`, and start the flush `k` if there is one -/
  | learn (o : O) (k : Option ℕ)
  /-- the store reads -/
  | reads (k : ℕ)
  /-- the load resolves -/
  | loaded (k : ℕ)
  /-- the store writes -/
  | writes (k : ℕ)
  /-- the save resolves -/
  | saved (k : ℕ)
  /-- the load or the save fails -/
  | fails (k : ℕ)

variable {G O : Type*} [AddCommGroup G]

section

variable (gain : O → G) (empty : G)

/-- A flush in another phase. -/
def Aloft.put (s : Aloft G) (k : ℕ) (f : Option (Flight G)) : Aloft G :=
  { s with flights := Function.update s.flights k f }

/-- One event; those a flush is not ready for do nothing. -/
def Aloft.after (s : Aloft G) : Event O → Aloft G
  | .learn o k =>
    let s := { s with current := s.current + gain o, learned := s.learned + 1 }
    match k with
    | none => s
    | some k => s.put k (some ⟨s.current, s.learned, .loading⟩)
  | .reads k => match s.flights k with
    | some ⟨c, n, .loading⟩ => s.put k (some ⟨c, n, .read s.store⟩)
    | _ => s
  | .loaded k => match s.flights k with
    | some ⟨c, n, .read persisted⟩ =>
      s.put k (some ⟨c, n, .saving (persisted.getD empty + (c - s.baseline))⟩)
    | _ => s
  | .writes k => match s.flights k with
    | some ⟨c, n, .saving merged⟩ => { s.put k (some ⟨c, n, .written merged⟩) with store := merged }
    | _ => s
  | .saved k => match s.flights k with
    | some ⟨_, _, .written merged⟩ => { s.put k none with current := merged, baseline := merged }
    | _ => s
  | .fails k => match s.flights k with
    | some ⟨_, _, .loading⟩ | some ⟨_, _, .read _⟩ | some ⟨_, _, .saving _⟩ => s.put k none
    | _ => s

end

/-! ## What is kept -/

/-- Whether the store has written the sum. -/
def Phase.isWritten : Phase G → Bool
  | .written _ => true
  | _ => false

/-- A flush whose sum is written although something was learned after its copy: it must not
    succeed. -/
def Doomed (s : Aloft G) : Prop :=
  ∃ k f, s.flights k = some f ∧ f.phase.isWritten = true ∧ f.learned < s.learned

/-- What a flush holds, if nothing was learned since its copy. -/
def Phase.Fits (s : Aloft G) (total : G) : Phase G → Prop
  | .loading => True
  | .read persisted => persisted = s.store
  | .saving merged => merged = total
  | .written merged => merged = total ∧ s.store = some total

/-- The store and what the member is ahead of its baseline are the total, unless a flush is between
    its write and its end; and nothing was learned since its copy. -/
structure OnLevel (empty : G) (s : Aloft G) (total : G) : Prop where
  le : ∀ k f, s.flights k = some f → f.learned ≤ s.learned
  unique : ∀ k k' f f', s.flights k = some f → s.flights k' = some f' → f.learned = s.learned →
    f'.learned = s.learned → k = k'
  balanced : (∀ k f, s.flights k = some f → f.phase.isWritten = false) →
    s.store.getD empty + (s.current - s.baseline) = total
  fresh : ∀ k f, s.flights k = some f → f.learned = s.learned →
    f.current = s.current ∧ f.phase.Fits s total
  written : ∀ k f, s.flights k = some f → f.phase.isWritten = true → f.learned = s.learned

/-- The events that may happen: a new flush has a new name, and one that succeeds has seen
    everything learned so far. -/
def Event.Ok (s : Aloft G) : Event O → Prop
  | .learn _ (some k) => s.flights k = none
  | .saved k => ∀ f, s.flights k = some f → f.phase.isWritten = true → f.learned = s.learned
  | _ => True

/-- What an event adds to the total. -/
def Event.gains (gain : O → G) : Event O → G
  | .learn o _ => gain o
  | _ => 0

omit [AddCommGroup G] in
theorem Doomed.put {s : Aloft G} (h : Doomed s) {k : ℕ}
    (hk : ∀ f, s.flights k = some f → f.phase.isWritten = false) (f' : Option (Flight G)) :
    Doomed (s.put k f') := by
  obtain ⟨j, f, hf, hwritten, hlt⟩ := h
  refine ⟨j, f, ?_, hwritten, hlt⟩
  have hne : j ≠ k := by
    rintro rfl
    rw [hk f hf] at hwritten
    cases hwritten
  show Function.update s.flights k f' j = some f
  rw [Function.update_of_ne hne, hf]

/-- A flush that is not written moves on to a phase that fits, or ends. -/
theorem OnLevel.put {empty : G} {s : Aloft G} {total : G} (h : OnLevel empty s total) {k : ℕ}
    {f : Flight G} (hf : s.flights k = some f) (hphase : f.phase.isWritten = false)
    {f' : Option (Flight G)} (hf' : ∀ g, f' = some g → g.current = f.current ∧
      g.learned = f.learned ∧ g.phase.isWritten = false ∧
      (f.learned = s.learned → g.phase.Fits s total)) : OnLevel empty (s.put k f') total := by
  -- a flush of the new state is the new one, or another one as it was
  have hcases : ∀ j g, (s.put k f').flights j = some g →
      (j = k ∧ f' = some g) ∨ (j ≠ k ∧ s.flights j = some g) := by
    intro j g hj
    by_cases hjk : j = k
    · subst hjk
      left
      exact ⟨rfl, by simpa [Aloft.put] using hj⟩
    · right
      exact ⟨hjk, by simpa [Aloft.put, hjk] using hj⟩
  -- and was there before, with the same copy
  have hsame : ∀ j g, (s.put k f').flights j = some g →
      ∃ g', s.flights j = some g' ∧ g'.learned = g.learned := by
    intro j g hj
    rcases hcases j g hj with ⟨rfl, hg⟩ | ⟨-, hg⟩
    · exact ⟨f, hf, (hf' g hg).2.1.symm⟩
    · exact ⟨g, hg, rfl⟩
  refine ⟨?_, ?_, ?_, ?_, ?_⟩
  · intro j g hj
    obtain ⟨g', hg', hlearned⟩ := hsame j g hj
    rw [← hlearned]
    exact h.le j g' hg'
  · intro j j' g g' hj hj' hg hg'
    obtain ⟨q, hq, hlearned⟩ := hsame j g hj
    obtain ⟨q', hq', hlearned'⟩ := hsame j' g' hj'
    exact h.unique j j' q q' hq hq' (hlearned.trans hg) (hlearned'.trans hg')
  · intro hnone
    refine h.balanced fun j g hj => ?_
    by_cases hjk : j = k
    · subst hjk
      rw [hf] at hj
      obtain rfl := Option.some.inj hj
      exact hphase
    · refine hnone j g ?_
      simpa [Aloft.put, hjk] using hj
  · intro j g hj hg
    rcases hcases j g hj with ⟨rfl, hnew⟩ | ⟨-, hold⟩
    · obtain ⟨hcurrent, hlearned, -, hfits⟩ := hf' g hnew
      have hfresh : f.learned = s.learned := hlearned.symm.trans hg
      refine ⟨hcurrent.trans (h.fresh j f hf hfresh).1, ?_⟩
      have := hfits hfresh
      cases hp : g.phase <;> rw [hp] at this <;> exact this
    · obtain ⟨hcurrent, hfits⟩ := h.fresh j g hold hg
      refine ⟨hcurrent, ?_⟩
      cases hp : g.phase <;> rw [hp] at hfits <;> exact hfits
  · intro j g hj hwritten
    rcases hcases j g hj with ⟨rfl, hnew⟩ | ⟨-, hold⟩
    · rw [(hf' g hnew).2.2.1] at hwritten
      cases hwritten
    · exact h.written j g hold hwritten

/-- Something is learned, and a flush may start. -/
theorem OnLevel.learn {gain : O → G} {empty : G} {s : Aloft G} {total : G}
    (h : OnLevel empty s total) (o : O) {k : Option ℕ} (hk : Event.Ok s (.learn o k)) :
    Doomed (s.after gain empty (.learn o k)) ∨
      OnLevel empty (s.after gain empty (.learn o k)) (total + gain o) := by
  -- the flights are those of before, which are stale now, and the new one
  have hflights : ∀ j f, (s.after gain empty (.learn o k)).flights j = some f →
      s.flights j = some f ∨ (k = some j ∧ f = ⟨s.current + gain o, s.learned + 1, .loading⟩) := by
    intro j f hj
    cases k with
    | none => exact Or.inl hj
    | some k =>
      by_cases hjk : j = k
      · subst hjk
        right
        refine ⟨rfl, ?_⟩
        simpa [Aloft.after, Aloft.put, eq_comm] using hj
      · left
        simpa [Aloft.after, Aloft.put, hjk] using hj
  have hlearned : (s.after gain empty (.learn o k)).learned = s.learned + 1 := by
    cases k <;> rfl
  have hcurrent : (s.after gain empty (.learn o k)).current = s.current + gain o := by
    cases k <;> rfl
  have hstore : (s.after gain empty (.learn o k)).store = s.store := by cases k <;> rfl
  have hbaseline : (s.after gain empty (.learn o k)).baseline = s.baseline := by cases k <;> rfl
  by_cases hwritten : ∃ j f, s.flights j = some f ∧ f.phase.isWritten = true
  · left
    obtain ⟨j, f, hf, hphase⟩ := hwritten
    refine ⟨j, f, ?_, hphase, ?_⟩
    · cases k with
      | none => exact hf
      | some k =>
        have hne : j ≠ k := by
          rintro rfl
          rw [show s.flights j = none from hk] at hf
          cases hf
        simpa [Aloft.after, Aloft.put, hne] using hf
    · rw [hlearned]
      exact Nat.lt_succ_of_le (h.le j f hf)
  · right
    have hnone : ∀ j f, s.flights j = some f → f.phase.isWritten = false := by
      intro j f hf
      by_contra hne
      exact hwritten ⟨j, f, hf, by simpa using hne⟩
    have hnew : ∀ j f, (s.after gain empty (.learn o k)).flights j = some f →
        f.learned = s.learned + 1 →
        k = some j ∧ f = ⟨s.current + gain o, s.learned + 1, .loading⟩ := by
      intro j f hj hf
      rcases hflights j f hj with hold | hnew
      · have := h.le j f hold
        omega
      · exact hnew
    refine ⟨?_, ?_, ?_, ?_, ?_⟩
    · intro j f hj
      rw [hlearned]
      rcases hflights j f hj with hold | ⟨-, rfl⟩
      · exact (h.le j f hold).trans (Nat.le_succ _)
      · exact le_rfl
    · intro j j' f f' hj hj' hf hf'
      rw [hlearned] at hf hf'
      obtain ⟨hkj, -⟩ := hnew j f hj hf
      obtain ⟨hkj', -⟩ := hnew j' f' hj' hf'
      exact Option.some.inj (hkj.symm.trans hkj')
    · intro _
      rw [hstore, hcurrent, hbaseline, ← h.balanced hnone]
      abel
    · intro j f hj hf
      rw [hlearned] at hf
      obtain ⟨-, rfl⟩ := hnew j f hj hf
      exact ⟨hcurrent.symm, trivial⟩
    · intro j f hj hphase
      rcases hflights j f hj with hold | ⟨-, rfl⟩
      · rw [hnone j f hold] at hphase
        cases hphase
      · cases hphase

/-- The store writes the sum of a flush. -/
theorem OnLevel.writes {gain : O → G} {empty : G} {s : Aloft G} {total : G}
    (h : OnLevel empty s total) {k n : ℕ} {c merged : G}
    (hf : s.flights k = some ⟨c, n, .saving merged⟩) :
    Doomed (s.after gain empty (.writes k : Event O)) ∨
      OnLevel empty (s.after gain empty (.writes k : Event O)) total := by
  have hafter : s.after gain empty (.writes k : Event O) =
      { s.put k (some ⟨c, n, .written merged⟩) with store := merged } := by
    simp only [Aloft.after, hf]
  have hself : (s.after gain empty (.writes k : Event O)).flights k =
      some ⟨c, n, .written merged⟩ := by
    rw [hafter]
    exact Function.update_self ..
  have hother : ∀ j, j ≠ k → (s.after gain empty (.writes k : Event O)).flights j =
      s.flights j := by
    intro j hj
    rw [hafter]
    exact Function.update_of_ne hj ..
  have hle := h.le k _ hf
  rcases hle.eq_or_lt with hn | hn
  · right
    have hn : n = s.learned := hn
    obtain ⟨hcurrent, hmerged⟩ := h.fresh k _ hf hn
    have hmerged : merged = total := hmerged
    have hstale : ∀ j g, j ≠ k → (s.after gain empty (.writes k : Event O)).flights j = some g →
        g.learned ≠ s.learned := by
      intro j g hj hg hfresh
      rw [hother j hj] at hg
      exact hj (h.unique j k g _ hg hf hfresh hn)
    have hlearned : (s.after gain empty (.writes k : Event O)).learned = s.learned := by
      rw [hafter]
      rfl
    have hcurrent' : (s.after gain empty (.writes k : Event O)).current = s.current := by
      rw [hafter]
      rfl
    have hstore : (s.after gain empty (.writes k : Event O)).store = some merged := by
      rw [hafter]
    refine ⟨?_, ?_, ?_, ?_, ?_⟩
    · intro j g hg
      rw [hlearned]
      by_cases hj : j = k
      · subst hj
        rw [hself] at hg
        obtain rfl := Option.some.inj hg
        exact hle
      · rw [hother j hj] at hg
        exact h.le j g hg
    · intro j j' g g' hg hg' hfresh hfresh'
      rw [hlearned] at hfresh hfresh'
      by_cases hj : j = k
      · by_cases hj' : j' = k
        · rw [hj, hj']
        · exact absurd hfresh' (hstale j' g' hj' hg')
      · exact absurd hfresh (hstale j g hj hg)
    · intro hnone
      have := hnone k _ hself
      cases this
    · intro j g hg hfresh
      rw [hlearned] at hfresh
      by_cases hj : j = k
      · subst hj
        rw [hself] at hg
        obtain rfl := Option.some.inj hg
        refine ⟨hcurrent.trans hcurrent'.symm, hmerged, ?_⟩
        rw [hstore, hmerged]
      · exact absurd hfresh (hstale j g hj hg)
    · intro j g hg hwritten
      rw [hlearned]
      by_cases hj : j = k
      · subst hj
        rw [hself] at hg
        obtain rfl := Option.some.inj hg
        exact hn
      · rw [hother j hj] at hg
        exact h.written j g hg hwritten
  · left
    refine ⟨k, _, hself, rfl, ?_⟩
    rw [hafter]
    exact hn

/-- A flush succeeds that has seen everything. -/
theorem OnLevel.saved {gain : O → G} {empty : G} {s : Aloft G} {total : G}
    (h : OnLevel empty s total) {k n : ℕ} {c merged : G}
    (hf : s.flights k = some ⟨c, n, .written merged⟩) :
    OnLevel empty (s.after gain empty (.saved k : Event O)) total := by
  have hafter : s.after gain empty (.saved k : Event O) =
      { s.put k none with current := merged, baseline := merged } := by
    simp only [Aloft.after, hf]
  have hfresh := h.written k _ hf rfl
  obtain ⟨-, hmerged, hstore⟩ := h.fresh k _ hf hfresh
  have hold : ∀ j g, (s.after gain empty (.saved k : Event O)).flights j = some g →
      j ≠ k ∧ s.flights j = some g := by
    intro j g hg
    rw [hafter] at hg
    by_cases hj : j = k
    · subst hj
      simp [Aloft.put] at hg
    · refine ⟨hj, ?_⟩
      simpa [Aloft.put, hj] using hg
  have hstale : ∀ j g, (s.after gain empty (.saved k : Event O)).flights j = some g →
      g.learned ≠ s.learned := by
    intro j g hg hlearned
    obtain ⟨hj, hg⟩ := hold j g hg
    exact hj (h.unique j k g _ hg hf hlearned hfresh)
  have hlearned : (s.after gain empty (.saved k : Event O)).learned = s.learned := by
    rw [hafter]
    rfl
  refine ⟨?_, ?_, ?_, ?_, ?_⟩
  · intro j g hg
    rw [hlearned]
    exact h.le j g (hold j g hg).2
  · intro j j' g g' hg _ hg' _
    rw [hlearned] at hg'
    exact absurd hg' (hstale j g hg)
  · intro _
    rw [hafter]
    show s.store.getD empty + (merged - merged) = total
    rw [hstore, Option.getD_some, sub_self, add_zero]
  · intro j g hg hg'
    rw [hlearned] at hg'
    exact absurd hg' (hstale j g hg)
  · intro j g hg hwritten
    rw [hlearned]
    exact h.written j g (hold j g hg).2 hwritten

theorem level_put {empty : G} {s : Aloft G} {total : G} (h : Doomed s ∨ OnLevel empty s total)
    {k : ℕ} {f : Flight G} (hf : s.flights k = some f) (hphase : f.phase.isWritten = false)
    {f' : Option (Flight G)} (hf' : OnLevel empty s total → ∀ g, f' = some g →
      g.current = f.current ∧ g.learned = f.learned ∧ g.phase.isWritten = false ∧
      (f.learned = s.learned → g.phase.Fits s total)) :
    Doomed (s.put k f') ∨ OnLevel empty (s.put k f') total := by
  rcases h with h | h
  · left
    refine h.put (fun g hg => ?_) f'
    rw [hf] at hg
    obtain rfl := Option.some.inj hg
    exact hphase
  · right
    exact h.put hf hphase (hf' h)

/-- What a flush that has seen everything adds up to. -/
theorem OnLevel.merged {empty : G} {s : Aloft G} {total : G} (h : OnLevel empty s total) {k n : ℕ}
    {c : G} {persisted : Option G} (hf : s.flights k = some ⟨c, n, .read persisted⟩)
    (hn : n = s.learned) : persisted.getD empty + (c - s.baseline) = total := by
  obtain ⟨hcurrent, hread⟩ := h.fresh k _ hf hn
  have hread : persisted = s.store := hread
  have hcurrent : c = s.current := hcurrent
  rw [hread, hcurrent]
  refine h.balanced fun j g hg => ?_
  by_contra hwritten
  have hj : j = k := h.unique j k g _ hg hf (h.written j g hg (by simpa using hwritten)) hn
  subst hj
  rw [hf] at hg
  obtain rfl := Option.some.inj hg
  exact hwritten rfl

/-- One event. -/
theorem level_after {gain : O → G} {empty : G} {s : Aloft G} {total : G}
    (h : Doomed s ∨ OnLevel empty s total) {x : Event O} (hx : x.Ok s) :
    Doomed (s.after gain empty x) ∨ OnLevel empty (s.after gain empty x) (total + x.gains gain) := by
  cases x with
  | learn o k =>
    rcases h with h | h
    · left
      obtain ⟨j, f, hf, hphase, hlt⟩ := h
      cases k with
      | none => exact ⟨j, f, hf, hphase, Nat.lt_succ_of_lt hlt⟩
      | some k =>
        have hne : j ≠ k := by
          rintro rfl
          rw [show s.flights j = none from hx] at hf
          cases hf
        refine ⟨j, f, ?_, hphase, Nat.lt_succ_of_lt hlt⟩
        simpa [Aloft.after, Aloft.put, hne] using hf
    · exact h.learn o hx
  | reads k =>
    show _ ∨ OnLevel empty _ (total + 0)
    rw [add_zero]
    rcases hf : s.flights k with _ | ⟨c, n, _ | _ | _ | _⟩
    case some.loading =>
      simp only [Aloft.after, hf]
      refine level_put h hf rfl ?_
      rintro - g ⟨⟩
      exact ⟨rfl, rfl, rfl, fun _ => rfl⟩
    all_goals
      simp only [Aloft.after, hf]
      exact h
  | loaded k =>
    show _ ∨ OnLevel empty _ (total + 0)
    rw [add_zero]
    rcases hf : s.flights k with _ | ⟨c, n, _ | _ | _ | _⟩
    case some.read =>
      simp only [Aloft.after, hf]
      refine level_put h hf rfl ?_
      rintro hclean g ⟨⟩
      exact ⟨rfl, rfl, rfl, fun hn => hclean.merged hf hn⟩
    all_goals
      simp only [Aloft.after, hf]
      exact h
  | writes k =>
    show _ ∨ OnLevel empty _ (total + 0)
    rw [add_zero]
    rcases hf : s.flights k with _ | ⟨c, n, _ | _ | merged | _⟩
    case some.saving =>
      rcases h with h | h
      · left
        simp only [Aloft.after, hf]
        refine h.put (fun g hg => ?_) (some ⟨c, n, .written merged⟩)
        rw [hf] at hg
        obtain rfl := Option.some.inj hg
        rfl
      · exact h.writes hf
    all_goals
      simp only [Aloft.after, hf]
      exact h
  | saved k =>
    show _ ∨ OnLevel empty _ (total + 0)
    rw [add_zero]
    rcases hf : s.flights k with _ | ⟨c, n, _ | _ | _ | merged⟩
    case some.written =>
      rcases h with h | h
      · left
        obtain ⟨j, f, hj, hwritten, hlt⟩ := h
        have hne : j ≠ k := by
          rintro rfl
          have := hx f hj hwritten
          omega
        refine ⟨j, f, ?_, hwritten, ?_⟩
        · simpa [Aloft.after, hf, Aloft.put, hne] using hj
        · simp only [Aloft.after, hf]
          exact hlt
      · right
        exact h.saved hf
    all_goals
      simp only [Aloft.after, hf]
      exact h
  | fails k =>
    show _ ∨ OnLevel empty _ (total + 0)
    rw [add_zero]
    rcases hf : s.flights k with _ | ⟨c, n, _ | _ | _ | _⟩
    case none =>
      simp only [Aloft.after, hf]
      exact h
    case some.written =>
      simp only [Aloft.after, hf]
      exact h
    all_goals
      simp only [Aloft.after, hf]
      refine level_put h hf rfl ?_
      rintro - g ⟨⟩

/-- Once no flush is in flight, nothing is lost or doubled. -/
theorem balanced_of_settled {empty : G} {s : Aloft G} {total : G}
    (h : Doomed s ∨ OnLevel empty s total) (hsettled : ∀ k, s.flights k = none) :
    s.store.getD empty + (s.current - s.baseline) = total := by
  rcases h with ⟨k, f, hf, -⟩ | h
  · rw [hsettled k] at hf
    cases hf
  · refine h.balanced fun k f hf => ?_
    rw [hsettled k] at hf
    cases hf

/-- A member that is at its baseline, over a store that holds it. -/
theorem onLevel_start {empty : G} {s : Aloft G} (hflights : ∀ k, s.flights k = none)
    (hbaseline : s.current = s.baseline) : OnLevel empty s (s.store.getD empty) := by
  refine ⟨?_, ?_, ?_, ?_, ?_⟩
  · intro k f hf
    rw [hflights k] at hf
    cases hf
  · intro k k' f f' hf
    rw [hflights k] at hf
    cases hf
  · intro _
    rw [hbaseline, sub_self, add_zero]
  · intro k f hf
    rw [hflights k] at hf
    cases hf
  · intro k f hf
    rw [hflights k] at hf
    cases hf

end Pools
