/-
  Effect programs: sequential code whose every interaction with the outside is
  an operation of a signature.

  A program over `S` is a tree: it returns, or performs an operation and goes on
  with its result.  A handler gives the operations a meaning on a world `W`; an
  operation may be rejected, which ends the program there.

  * `p.exec h w` runs `p` to its end; `p.upTo h n w` stops it, as a crash does,
    before its operation number `n` (`p.ops h w` is the number it has);
    `p.cutOff h cut w` is either;
  * `p.Uses P`: all operations of `p` satisfy `P`; an invariant kept by these
    operations is kept by the program and by each of its crashes (`exec_inv`,
    `upTo_inv`);
  * `p.Until D P`: once an operation has a result in `D`, only operations in `P` follow;
  * `exec_rel`: two worlds no operation of `p` tells apart stay so;
  * `p.wp h Q Z R w`: run from `w`, the program ends in `Q`, or rejected in `Z`, and
    between its operations the world is in `R` (`wp.exec`, `wp.upTo`).
-/
import Mathlib.Data.Nat.Notation
import Mathlib.Logic.Basic

namespace Effects

/-- A signature: operations and the type of the result of each. -/
structure Sig where
  Op : Type
  Res : Op → Type

/-- A program over the operations of `S`. -/
inductive Prog (S : Sig) (α : Type) : Type where
  | pure (a : α)
  | op (o : S.Op) (k : S.Res o → Prog S α)

/-- The meaning of the operations on worlds `W`: a result, or `none` if the
    operation is rejected, and the world it leaves. -/
abbrev Handler (S : Sig) (W : Type) := (o : S.Op) → W → Option (S.Res o) × W

variable {S : Sig} {α β W W' : Type}

namespace Prog

/-- Sequencing. -/
def bind : Prog S α → (α → Prog S β) → Prog S β
  | .pure a, f => f a
  | .op o k, f => .op o fun r => (k r).bind f

instance : Monad (Prog S) where
  pure := .pure
  bind := Prog.bind

/-- A single operation. -/
def perform (o : S.Op) : Prog S (S.Res o) := .op o .pure

@[simp] theorem pure_eq (a : α) : (Pure.pure a : Prog S α) = .pure a := rfl

@[simp] theorem bind_eq (p : Prog S α) (f : α → Prog S β) : p >>= f = p.bind f := rfl

@[simp] theorem map_eq (f : α → β) (p : Prog S α) : f <$> p = p.bind fun a => .pure (f a) := rfl

@[simp] theorem pure_bind (a : α) (f : α → Prog S β) : (Prog.pure a).bind f = f a := rfl

@[simp] theorem op_bind (o : S.Op) (k : S.Res o → Prog S α) (f : α → Prog S β) :
    (Prog.op o k).bind f = .op o fun r => (k r).bind f := rfl

@[simp] theorem perform_bind (o : S.Op) (f : S.Res o → Prog S β) :
    (perform o).bind f = .op o f := rfl

theorem bind_assoc {γ : Type} (p : Prog S α) (f : α → Prog S β) (g : β → Prog S γ) :
    (p.bind f).bind g = p.bind fun a => (f a).bind g := by
  induction p with
  | pure a => rfl
  | op o k ih => simp only [op_bind, ih]

/-- Run a program to its end, or to its first rejected operation. -/
def exec (h : Handler S W) : Prog S α → W → Option α × W
  | .pure a, w => (some a, w)
  | .op o k, w =>
    match h o w with
    | (some r, w') => (k r).exec h w'
    | (none, w') => (none, w')

/-- Run at most `n` operations of a program; it is dead (`none`) if it had more. -/
def upTo (h : Handler S W) : Prog S α → ℕ → W → Option α × W
  | .pure a, _, w => (some a, w)
  | .op _ _, 0, w => (none, w)
  | .op o k, n + 1, w =>
    match h o w with
    | (some r, w') => (k r).upTo h n w'
    | (none, w') => (none, w')

@[simp] theorem upTo_pure (h : Handler S W) (a : α) (n : ℕ) (w : W) :
    (Prog.pure a : Prog S α).upTo h n w = (some a, w) := by
  rw [upTo]

@[simp] theorem upTo_op_zero (h : Handler S W) (o : S.Op) (k : S.Res o → Prog S α) (w : W) :
    (Prog.op o k).upTo h 0 w = (none, w) := by
  rw [upTo]

theorem upTo_op_succ (h : Handler S W) (o : S.Op) (k : S.Res o → Prog S α) (n : ℕ) (w : W) :
    (Prog.op o k).upTo h (n + 1) w =
      match h o w with
      | (some r, w') => (k r).upTo h n w'
      | (none, w') => (none, w') := by
  rw [upTo]

@[simp] theorem exec_pure (h : Handler S W) (a : α) (w : W) :
    (Prog.pure a : Prog S α).exec h w = (some a, w) := rfl

theorem exec_op (h : Handler S W) (o : S.Op) (k : S.Res o → Prog S α) (w : W) :
    (Prog.op o k).exec h w =
      match h o w with
      | (some r, w') => (k r).exec h w'
      | (none, w') => (none, w') := by
  rw [exec]

/-- An accepted operation hands its result on. -/
theorem exec_op_of {h : Handler S W} {o : S.Op} {w w' : W} {r : S.Res o}
    (ho : h o w = (some r, w')) (k : S.Res o → Prog S α) :
    (Prog.op o k).exec h w = (k r).exec h w' := by
  rw [exec_op, ho]

theorem exec_bind (h : Handler S W) (p : Prog S α) (f : α → Prog S β) (w : W) :
    (p.bind f).exec h w =
      match p.exec h w with
      | (some a, w') => (f a).exec h w'
      | (none, w') => (none, w') := by
  induction p generalizing w with
  | pure a => rfl
  | op o k ih =>
    simp only [op_bind, exec_op]
    rcases h o w with ⟨_ | r, w'⟩
    · rfl
    · exact ih r w'

/-- A program that returned goes on with what follows. -/
theorem exec_bind_of {h : Handler S W} {p : Prog S α} {w w' : W} {a : α}
    (hp : p.exec h w = (some a, w')) (f : α → Prog S β) :
    (p.bind f).exec h w = (f a).exec h w' := by
  rw [exec_bind, hp]

/-- The number of operations of a run, up to the first that is rejected. -/
def ops (h : Handler S W) : Prog S α → W → ℕ
  | .pure _, _ => 0
  | .op o k, w =>
    match h o w with
    | (some r, w') => (k r).ops h w' + 1
    | (none, _) => 1

theorem ops_op (h : Handler S W) (o : S.Op) (k : S.Res o → Prog S α) (w : W) :
    (Prog.op o k).ops h w =
      match h o w with
      | (some r, w') => (k r).ops h w' + 1
      | (none, _) => 1 := by
  rw [ops]

/-- A run that is cut off late enough is the whole run, and what follows goes on with the rest. -/
theorem upTo_bind_of_le {h : Handler S W} {p : Prog S α} {n : ℕ} {w : W} (hn : p.ops h w ≤ n)
    (f : α → Prog S β) :
    (p.bind f).upTo h n w =
      match p.exec h w with
      | (some a, w') => (f a).upTo h (n - p.ops h w) w'
      | (none, w') => (none, w') := by
  induction p generalizing n w with
  | pure a => rfl
  | op o k ih =>
    simp only [op_bind, exec_op, ops_op] at hn ⊢
    rcases hr : h o w with ⟨_ | r, w'⟩ <;> rw [hr] at hn
    · have hn : 1 ≤ n := hn
      obtain ⟨n, rfl⟩ : ∃ m, n = m + 1 := ⟨n - 1, by omega⟩
      rw [upTo_op_succ, hr]
    · have hn : (k r).ops h w' + 1 ≤ n := hn
      obtain ⟨n, rfl⟩ : ∃ m, n = m + 1 := ⟨n - 1, by omega⟩
      simp only [upTo_op_succ, hr, Nat.add_sub_add_right]
      exact ih r (by omega)

/-- A run that is cut off earlier is dead. -/
theorem upTo_bind_of_lt {h : Handler S W} {p : Prog S α} {n : ℕ} {w : W} (hn : n < p.ops h w)
    (f : α → Prog S β) : (p.bind f).upTo h n w = (none, (p.upTo h n w).2) := by
  induction p generalizing n w with
  | pure a => simp [ops] at hn
  | op o k ih =>
    cases n with
    | zero => simp only [op_bind, upTo_op_zero]
    | succ n =>
      simp only [op_bind, upTo_op_succ, ops_op] at hn ⊢
      rcases hr : h o w with ⟨_ | r, w'⟩
      · rfl
      · rw [hr] at hn
        have hn : n + 1 < (k r).ops h w' + 1 := hn
        exact ih r (by omega)

/-- Run a program to its end, or up to an operation where it is cut off. -/
def cutOff (h : Handler S W) (p : Prog S α) : Option ℕ → W → Option α × W
  | none, w => p.exec h w
  | some n, w => p.upTo h n w

theorem cutOff_bind_of_le {h : Handler S W} {p : Prog S α} {cut : Option ℕ} {w : W}
    (hc : ∀ n ∈ cut, p.ops h w ≤ n) (f : α → Prog S β) :
    (p.bind f).cutOff h cut w =
      match p.exec h w with
      | (some a, w') => (f a).cutOff h (cut.map (· - p.ops h w)) w'
      | (none, w') => (none, w') := by
  cases cut with
  | none => exact exec_bind h p f w
  | some n => exact upTo_bind_of_le (hc n rfl) f

/-! ### Programs restricted to some operations -/

/-- All operations the program can perform satisfy `P`. -/
def Uses (P : S.Op → Prop) : Prog S α → Prop
  | .pure _ => True
  | .op o k => P o ∧ ∀ r, (k r).Uses P

@[simp] theorem uses_pure (P : S.Op → Prop) (a : α) : (Prog.pure a : Prog S α).Uses P := trivial

@[simp] theorem uses_op (P : S.Op → Prop) (o : S.Op) (k : S.Res o → Prog S α) :
    (Prog.op o k).Uses P ↔ P o ∧ ∀ r, (k r).Uses P := Iff.rfl

theorem uses_true (p : Prog S α) : p.Uses fun _ => True := by
  induction p with
  | pure a => trivial
  | op o k ih => exact ⟨trivial, ih⟩

theorem Uses.bind {P : S.Op → Prop} {p : Prog S α} {f : α → Prog S β} (hp : p.Uses P)
    (hf : ∀ a, (f a).Uses P) : (p.bind f).Uses P := by
  induction p with
  | pure a => exact hf a
  | op o k ih => exact ⟨hp.1, fun r => ih r (hp.2 r)⟩

theorem Uses.imp {P Q : S.Op → Prop} {p : Prog S α} (hp : p.Uses P) (h : ∀ o, P o → Q o) :
    p.Uses Q := by
  induction p with
  | pure a => trivial
  | op o k ih => exact ⟨h o hp.1, fun r => ih r (hp.2 r)⟩

/-- Once an operation of the program has a result in `D`, the rest uses only operations in `P`. -/
def Until (D : (o : S.Op) → S.Res o → Prop) (P : S.Op → Prop) : Prog S α → Prop
  | .pure _ => True
  | .op o k => ∀ r, (k r).Until D P ∧ (D o r → (k r).Uses P)

/-- Before a program that is kept to `P`, operations whose results are never in `D` change
    nothing. -/
theorem Until.bind {D : (o : S.Op) → S.Res o → Prop} {P : S.Op → Prop} {p : Prog S α}
    {f : α → Prog S β} (hp : p.Uses fun o => ∀ r, ¬ D o r) (hf : ∀ a, (f a).Until D P) :
    (p.bind f).Until D P := by
  induction p with
  | pure a => exact hf a
  | op o k ih => exact fun r => ⟨ih r (hp.2 r), fun hd => absurd hd (hp.1 r)⟩

theorem Uses.until {D : (o : S.Op) → S.Res o → Prop} {P : S.Op → Prop} {p : Prog S α}
    (hp : p.Uses fun o => ∀ r, ¬ D o r) : p.Until D P := by
  induction p with
  | pure a => trivial
  | op o k ih => exact fun r => ⟨ih r (hp.2 r), fun hd => absurd hd (hp.1 r)⟩

theorem exec_inv {h : Handler S W} {P : S.Op → Prop} (I : W → Prop)
    (hI : ∀ o w, P o → I w → I (h o w).2) {p : Prog S α} (hp : p.Uses P) {w : W} (hw : I w) :
    I (p.exec h w).2 := by
  induction p generalizing w with
  | pure a => exact hw
  | op o k ih =>
    have := hI o w hp.1 hw
    rw [exec_op]
    rcases hr : h o w with ⟨_ | r, w'⟩ <;> rw [hr] at this
    · exact this
    · exact ih r (hp.2 r) this

theorem upTo_inv {h : Handler S W} {P : S.Op → Prop} (I : W → Prop)
    (hI : ∀ o w, P o → I w → I (h o w).2) {p : Prog S α} (hp : p.Uses P) (n : ℕ) {w : W}
    (hw : I w) : I (p.upTo h n w).2 := by
  induction p generalizing w n with
  | pure a => rwa [upTo_pure]
  | op o k ih =>
    cases n with
    | zero => rwa [upTo_op_zero]
    | succ n =>
      have := hI o w hp.1 hw
      rw [upTo_op_succ]
      rcases hr : h o w with ⟨_ | r, w'⟩ <;> rw [hr] at this
      · exact this
      · exact ih r (hp.2 r) n this

/-- The effect of an operation on a part of the world the program leaves alone. -/
theorem exec_frame {γ : Type} {h : Handler S W} {P : S.Op → Prop} (g : W → γ)
    (hg : ∀ o w, P o → g (h o w).2 = g w) {p : Prog S α} (hp : p.Uses P) (w : W) :
    g (p.exec h w).2 = g w := by
  have step : ∀ o w', P o → g w' = g w → g (h o w').2 = g w :=
    fun o w' ho hw => (hg o w' ho).trans hw
  exact exec_inv (g · = g w) step hp rfl

/-- Two worlds that no operation of the program tells apart give the same result and
    stay so. -/
theorem exec_rel {h : Handler S W} {h' : Handler S W'} {P : S.Op → Prop} (R : W → W' → Prop)
    (hR : ∀ o w w', P o → R w w' → (h o w).1 = (h' o w').1 ∧ R (h o w).2 (h' o w').2)
    {p : Prog S α} (hp : p.Uses P) {w : W} {w' : W'} (hw : R w w') :
    (p.exec h w).1 = (p.exec h' w').1 ∧ R (p.exec h w).2 (p.exec h' w').2 := by
  induction p generalizing w w' with
  | pure a => exact ⟨rfl, hw⟩
  | op o k ih =>
    have := hR o w w' hp.1 hw
    rw [exec_op, exec_op]
    rcases hr : h o w with ⟨r, v⟩
    rcases hr' : h' o w' with ⟨r', v'⟩
    rw [hr, hr'] at this
    obtain ⟨rfl, hv⟩ := this
    cases r with
    | none => exact ⟨rfl, hv⟩
    | some r => exact ih r (hp.2 r) hv

/-! ### Crashes -/

/-- Run from `w`, the program ends with `Q`, or in `Z` if an operation is rejected; before each
    of its operations, where it may be cut off, the world is in `R`. -/
def wp (h : Handler S W) (Q : α → W → Prop) (Z R : W → Prop) : Prog S α → W → Prop
  | .pure a, w => Q a w
  | .op o k, w => R w ∧
    match h o w with
    | (some r, w') => (k r).wp h Q Z R w'
    | (none, w') => Z w'

@[simp] theorem wp_pure (h : Handler S W) (Q : α → W → Prop) (Z R : W → Prop) (a : α) (w : W) :
    (Prog.pure a : Prog S α).wp h Q Z R w ↔ Q a w := Iff.rfl

theorem wp_op (h : Handler S W) (Q : α → W → Prop) (Z R : W → Prop) (o : S.Op)
    (k : S.Res o → Prog S α) (w : W) :
    (Prog.op o k).wp h Q Z R w ↔ R w ∧
      match h o w with
      | (some r, w') => (k r).wp h Q Z R w'
      | (none, w') => Z w' := by
  rw [wp]

theorem wp_bind {h : Handler S W} {Q : β → W → Prop} {Z R : W → Prop} {p : Prog S α}
    {f : α → Prog S β} {w : W} :
    (p.bind f).wp h Q Z R w ↔ p.wp h (fun a w' => (f a).wp h Q Z R w') Z R w := by
  induction p generalizing w with
  | pure a => rfl
  | op o k ih =>
    simp only [op_bind, wp_op]
    rcases h o w with ⟨_ | r, w'⟩
    · rfl
    · simp only [ih]

theorem wp.imp {h : Handler S W} {Q Q' : α → W → Prop} {Z Z' R R' : W → Prop} {p : Prog S α}
    {w : W} (hp : p.wp h Q Z R w) (hQ : ∀ a w', Q a w' → Q' a w') (hZ : ∀ w', Z w' → Z' w')
    (hR : ∀ w', R w' → R' w') : p.wp h Q' Z' R' w := by
  induction p generalizing w with
  | pure a => exact hQ a w hp
  | op o k ih =>
    rw [wp_op] at hp ⊢
    refine ⟨hR w hp.1, ?_⟩
    obtain ⟨-, hk⟩ := hp
    rcases hr : h o w with ⟨_ | r, w'⟩ <;> rw [hr] at hk
    · exact hZ _ hk
    · exact ih r hk

/-- A program of operations that are never rejected does not end in `Z`. -/
theorem wp.of_accepted {h : Handler S W} {Q : α → W → Prop} {Z Y R : W → Prop} {P : S.Op → Prop}
    (hP : ∀ o w, P o → (h o w).1.isSome) {p : Prog S α} (hu : p.Uses P) {w : W}
    (hp : p.wp h Q Z R w) : p.wp h Q Y R w := by
  induction p generalizing w with
  | pure a => exact hp
  | op o k ih =>
    rw [wp_op] at hp ⊢
    refine ⟨hp.1, ?_⟩
    obtain ⟨-, hk⟩ := hp
    have := hP o w hu.1
    rcases hr : h o w with ⟨_ | r, w'⟩ <;> rw [hr] at hk this
    · cases this
    · exact ih r (hu.2 r) hk

/-- What is said of the end of a program is said of its runs. -/
theorem wp.exec {h : Handler S W} {Q : α → W → Prop} {Z R : W → Prop} {p : Prog S α} {w : W}
    (hp : p.wp h Q Z R w) :
    match p.exec h w with
    | (some a, w') => Q a w'
    | (none, w') => Z w' := by
  induction p generalizing w with
  | pure a => exact hp
  | op o k ih =>
    rw [wp_op] at hp
    rw [exec_op]
    obtain ⟨-, hk⟩ := hp
    rcases hr : h o w with ⟨_ | r, w'⟩ <;> rw [hr] at hk
    · exact hk
    · exact ih r hk

/-- What is said of the points between the operations is said of the runs cut off there. -/
theorem wp.upTo {h : Handler S W} {Q : α → W → Prop} {R : W → Prop} {p : Prog S α} {w : W}
    (hp : p.wp h Q R R w) (n : ℕ) :
    match p.upTo h n w with
    | (some a, w') => Q a w'
    | (none, w') => R w' := by
  induction p generalizing w n with
  | pure a => rwa [upTo_pure]
  | op o k ih =>
    rw [wp_op] at hp
    obtain ⟨hw, hk⟩ := hp
    cases n with
    | zero => rwa [upTo_op_zero]
    | succ n =>
      rw [upTo_op_succ]
      rcases hr : h o w with ⟨_ | r, w'⟩ <;> rw [hr] at hk
      · exact hk
      · exact ih r hk n

/-- A part of the world that the program leaves alone stays as it is throughout. -/
theorem wp_frame {γ : Type} {h : Handler S W} {P : S.Op → Prop} (g : W → γ)
    (hg : ∀ o w, P o → g (h o w).2 = g w) {p : Prog S α} (hp : p.Uses P) (w : W) :
    p.wp h (fun _ w' => g w' = g w) (fun w' => g w' = g w) (fun w' => g w' = g w) w := by
  suffices hs : ∀ v, g v = g w →
      p.wp h (fun _ w' => g w' = g w) (fun w' => g w' = g w) (fun w' => g w' = g w) v from
    hs w rfl
  induction p with
  | pure a => exact fun v hv => hv
  | op o k ih =>
    intro v hv
    rw [wp_op]
    have := (hg o v hp.1).trans hv
    refine ⟨hv, ?_⟩
    rcases hr : h o v with ⟨_ | r, v'⟩ <;> rw [hr] at this
    · exact this
    · exact ih r (hp.2 r) v' this

end Prog

/-! ### Runs that leave steps out -/

/-- If a relation is kept by the steps that are made on both sides, and by those that are made on
    the left only, a run is related to the run of the steps that are not left out. -/
theorem foldl_purge {X : Type} {step : W → X → W} {keep : X → Bool} (R : W → W → Prop)
    {l : List X} (both : ∀ x ∈ l, keep x → ∀ w w', R w w' → R (step w x) (step w' x))
    (left : ∀ x ∈ l, ¬ keep x → ∀ w w', R w w' → R (step w x) w') {w w' : W} (h : R w w') :
    R (l.foldl step w) ((l.filter keep).foldl step w') := by
  induction l generalizing w w' with
  | nil => exact h
  | cons x l ih =>
    have ih := fun {w w'} => @ih (fun y hy => both y (List.mem_cons_of_mem x hy))
      (fun y hy => left y (List.mem_cons_of_mem x hy)) w w'
    by_cases hx : keep x
    · rw [List.filter_cons_of_pos hx]
      exact ih (both x List.mem_cons_self hx w w' h)
    · rw [List.filter_cons_of_neg hx]
      exact ih (left x List.mem_cons_self hx w w' h)

end Effects
