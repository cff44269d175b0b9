/-
  Traces: what a run of a program performed, in order, each operation with the world it
  met and the result it got.

  * `p.trace h w`: the operations that the run of `p` from `w` performs; the last one may
    be rejected;
  * `p.observed h g w`: what the observation `g` sees of them;
  * `Runs h g p w l res w'`: the run of `p` from `w` ends with `res` in `w'`, and `g` sees
    `l`.  Its rules follow the program (`Runs.op`, `Runs.bind`); programs whose operations
    `g` does not see add nothing (`runs_of_uses`).
-/
import AX10M.Effects.Prog

namespace Effects

/-- An operation performed in a run: its result, `none` if it was rejected, and the world it met. -/
structure Performed (S : Sig) (W : Type) where
  op : S.Op
  res : Option (S.Res op)
  world : W

variable {S : Sig} {α β W E : Type}

namespace Prog

/-- The operations that a run performs. -/
def trace (h : Handler S W) : Prog S α → W → List (Performed S W)
  | .pure _, _ => []
  | .op o k, w =>
    match h o w with
    | (some r, w') => ⟨o, some r, w⟩ :: (k r).trace h w'
    | (none, _) => [⟨o, none, w⟩]

@[simp] theorem trace_pure (h : Handler S W) (a : α) (w : W) :
    (Prog.pure a : Prog S α).trace h w = [] := rfl

theorem trace_op (h : Handler S W) (o : S.Op) (k : S.Res o → Prog S α) (w : W) :
    (Prog.op o k).trace h w =
      match h o w with
      | (some r, w') => ⟨o, some r, w⟩ :: (k r).trace h w'
      | (none, _) => [⟨o, none, w⟩] := by
  rw [trace]

/-- An accepted operation is followed by what the rest performs. -/
theorem trace_op_of {h : Handler S W} {o : S.Op} {w w' : W} {r : S.Res o}
    (ho : h o w = (some r, w')) (k : S.Res o → Prog S α) :
    (Prog.op o k).trace h w = ⟨o, some r, w⟩ :: (k r).trace h w' := by
  rw [trace_op, ho]

/-- A rejected operation is the last one. -/
theorem trace_op_rejected {h : Handler S W} {o : S.Op} {w w' : W} (ho : h o w = (none, w'))
    (k : S.Res o → Prog S α) : (Prog.op o k).trace h w = [⟨o, none, w⟩] := by
  rw [trace_op, ho]

theorem trace_bind (h : Handler S W) (p : Prog S α) (f : α → Prog S β) (w : W) :
    (p.bind f).trace h w = p.trace h w ++
      match p.exec h w with
      | (some a, w') => (f a).trace h w'
      | (none, _) => [] := by
  induction p generalizing w with
  | pure a => rfl
  | op o k ih =>
    rcases ho : h o w with ⟨_ | r, w'⟩
    · rw [op_bind, trace_op_rejected ho, trace_op_rejected ho, exec_op, ho]
      rfl
    · rw [op_bind, trace_op_of ho, trace_op_of ho, exec_op_of ho, ih r w', List.cons_append]

theorem mem_trace_bind_left {h : Handler S W} {p : Prog S α} {f : α → Prog S β} {w : W}
    {e : Performed S W} (he : e ∈ p.trace h w) : e ∈ (p.bind f).trace h w := by
  rw [trace_bind]
  exact List.mem_append_left _ he

theorem mem_trace_bind_right {h : Handler S W} {p : Prog S α} {f : α → Prog S β} {w w' : W} {a : α}
    (hp : p.exec h w = (some a, w')) {e : Performed S W} (he : e ∈ (f a).trace h w') :
    e ∈ (p.bind f).trace h w := by
  rw [trace_bind, hp]
  exact List.mem_append_right _ he

/-- What holds of nothing, and of two parts together, holds of a program and what follows it. -/
theorem trace_bind_ind {h : Handler S W} {C : List (Performed S W) → Prop} (hnil : C [])
    (happ : ∀ l l', C l → C l' → C (l ++ l')) {p : Prog S α} (hp : ∀ w, C (p.trace h w))
    {f : α → Prog S β} (hf : ∀ a w, C ((f a).trace h w)) (w : W) : C ((p.bind f).trace h w) := by
  rw [trace_bind]
  rcases p.exec h w with ⟨_ | a, w'⟩
  · exact happ _ _ (hp w) hnil
  · exact happ _ _ (hp w) (hf a w')

/-- What is performed is what the program can perform. -/
theorem Uses.of_mem_trace {h : Handler S W} {P : S.Op → Prop} {p : Prog S α} (hp : p.Uses P)
    {w : W} {e : Performed S W} (he : e ∈ p.trace h w) : P e.op := by
  induction p generalizing w with
  | pure a => cases he
  | op o k ih =>
    rw [trace_op] at he
    rcases ho : h o w with ⟨_ | r, w'⟩ <;> rw [ho] at he
    · rw [List.mem_singleton.1 he]
      exact hp.1
    · rcases List.mem_cons.1 he with rfl | he
      · exact hp.1
      · exact ih r (hp.2 r) he

/-- The result of what is performed is the handler's. -/
theorem res_of_mem_trace {h : Handler S W} {p : Prog S α} {w : W} {e : Performed S W}
    (he : e ∈ p.trace h w) : e.res = (h e.op e.world).1 := by
  induction p generalizing w with
  | pure a => cases he
  | op o k ih =>
    rw [trace_op] at he
    rcases ho : h o w with ⟨_ | r, w'⟩ <;> rw [ho] at he
    · rw [List.mem_singleton.1 he]
      exact (congrArg Prod.fst ho).symm
    · rcases List.mem_cons.1 he with rfl | he
      · exact (congrArg Prod.fst ho).symm
      · exact ih r he

/-- What an operation of a run brings about, and no operation undoes, holds after the run. -/
theorem exec_of_mem_trace {h : Handler S W} {I : W → Prop} (hI : ∀ o w, I w → I (h o w).2)
    {p : Prog S α} {w : W} {e : Performed S W} (he : e ∈ p.trace h w)
    (hi : I (h e.op e.world).2) : I (p.exec h w).2 := by
  induction p generalizing w with
  | pure a => cases he
  | op o k ih =>
    rw [trace_op] at he
    rw [exec_op]
    rcases ho : h o w with ⟨_ | r, w'⟩ <;> rw [ho] at he
    · obtain rfl := List.mem_singleton.1 he
      simpa only [ho] using hi
    · rcases List.mem_cons.1 he with rfl | he
      · have hw' : I w' := by simpa only [ho] using hi
        exact exec_inv I (fun o w _ => hI o w) (uses_true (k r)) hw'
      · exact ih r he

/-- A program whose operations are never rejected returns. -/
theorem exec_returns {h : Handler S W} {P : S.Op → Prop} (hP : ∀ o w, P o → (h o w).1.isSome)
    {p : Prog S α} (hp : p.Uses P) (w : W) : ∃ a w', p.exec h w = (some a, w') := by
  induction p generalizing w with
  | pure a => exact ⟨a, w, rfl⟩
  | op o k ih =>
    have ho := hP o w hp.1
    rcases hr : h o w with ⟨_ | r, w'⟩ <;> rw [hr] at ho
    · cases ho
    · rw [exec_op_of hr]
      exact ih r (hp.2 r) w'

/-! ### Observations -/

/-- What an observation sees of a run. -/
def observed (h : Handler S W) (g : Performed S W → Option E) (p : Prog S α) (w : W) : List E :=
  (p.trace h w).filterMap g

section

variable (h : Handler S W) (g : Performed S W → Option E)

@[simp] theorem observed_pure (a : α) (w : W) :
    (Prog.pure a : Prog S α).observed h g w = [] := rfl

theorem observed_bind (p : Prog S α) (f : α → Prog S β) (w : W) :
    (p.bind f).observed h g w = p.observed h g w ++
      match p.exec h w with
      | (some a, w') => (f a).observed h g w'
      | (none, _) => [] := by
  rw [observed, trace_bind, List.filterMap_append]
  rcases p.exec h w with ⟨_ | a, w'⟩ <;> rfl

variable {h g}

theorem observed_op_of {o : S.Op} {w w' : W} {r : S.Res o} (ho : h o w = (some r, w'))
    (k : S.Res o → Prog S α) :
    (Prog.op o k).observed h g w = (g ⟨o, some r, w⟩).toList ++ (k r).observed h g w' := by
  rw [observed, trace_op_of ho, List.filterMap_cons, observed]
  cases g ⟨o, some r, w⟩ <;> rfl

theorem observed_op_rejected {o : S.Op} {w w' : W} (ho : h o w = (none, w'))
    (k : S.Res o → Prog S α) : (Prog.op o k).observed h g w = (g ⟨o, none, w⟩).toList := by
  rw [observed, trace_op_rejected ho, List.filterMap_cons]
  cases g ⟨o, none, w⟩ <;> rfl

end

/-- From `w`, the program ends with the result `res` in `w'`, and the observation sees `l`. -/
structure Runs (h : Handler S W) (g : Performed S W → Option E) (p : Prog S α) (w : W)
    (l : List E) (res : Option α) (w' : W) : Prop where
  sees : p.observed h g w = l
  ends : p.exec h w = (res, w')

section

variable {h : Handler S W} {g : Performed S W → Option E} {l l' : List E} {w v w' : W}

theorem Runs.pure (a : α) : Runs h g (.pure a) w [] (some a) w := ⟨rfl, rfl⟩

/-- An accepted operation, and the rest. -/
theorem Runs.op {o : S.Op} {r : S.Res o} (ho : h o w = (some r, v)) {k : S.Res o → Prog S α}
    {res : Option α} (hk : Runs h g (k r) v l res w') :
    Runs h g (.op o k) w ((g ⟨o, some r, w⟩).toList ++ l) res w' :=
  ⟨by rw [observed_op_of ho, hk.sees], by rw [exec_op_of ho, hk.ends]⟩

/-- A rejected operation. -/
theorem Runs.op_rejected {o : S.Op} (ho : h o w = (none, w')) (k : S.Res o → Prog S α) :
    Runs h g (.op o k) w (g ⟨o, none, w⟩).toList none w' :=
  ⟨observed_op_rejected ho k, by rw [exec_op, ho]⟩

/-- A program that returned, and what follows. -/
theorem Runs.bind {p : Prog S α} {a : α} (hp : Runs h g p w l (some a) v) {f : α → Prog S β}
    {res : Option β} (hf : Runs h g (f a) v l' res w') :
    Runs h g (p.bind f) w (l ++ l') res w' := by
  refine ⟨?_, by rw [exec_bind_of hp.ends, hf.ends]⟩
  rw [observed_bind, hp.sees, hp.ends]
  exact congrArg (l ++ ·) hf.sees

/-- A program that was rejected is followed by nothing. -/
theorem Runs.bind_rejected {p : Prog S α} (hp : Runs h g p w l none w') (f : α → Prog S β) :
    Runs h g (p.bind f) w l none w' := by
  refine ⟨?_, by rw [exec_bind, hp.ends]⟩
  rw [observed_bind, hp.sees, hp.ends]
  exact List.append_nil l

variable {P : S.Op → Prop} (hg : ∀ e, P e.op → g e = none)
include hg

/-- Of operations that the observation does not see, nothing is seen. -/
theorem observed_of_uses {p : Prog S α} (hp : p.Uses P) (w : W) : p.observed h g w = [] := by
  rw [observed, List.filterMap_eq_nil_iff]
  exact fun e he => hg e (hp.of_mem_trace he)

theorem runs_of_uses {p : Prog S α} (hp : p.Uses P) (w : W) :
    Runs h g p w [] (p.exec h w).1 (p.exec h w).2 :=
  ⟨observed_of_uses hg hp w, rfl⟩

/-- After operations that are not seen, only what follows is seen, if it is reached. -/
theorem observed_after {C : List E → Prop} (hC : C []) {p : Prog S α} (hp : p.Uses P)
    {f : α → Prog S β} (hf : ∀ a w', C ((f a).observed h g w')) (w : W) :
    C ((p.bind f).observed h g w) := by
  rw [observed_bind, observed_of_uses hg hp, List.nil_append]
  rcases p.exec h w with ⟨_ | a, w'⟩
  · exact hC
  · exact hf a w'

end

end Prog

end Effects
