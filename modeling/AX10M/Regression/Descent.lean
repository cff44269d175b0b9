/-
  Gradient descent for a linear model behind a link function.

  `descend` takes steps against the gradient over all examples.  The numbers are any with sums,
  products and quotients; `descend_map`: numbers that stand for others take the same steps.
-/
import Mathlib.Data.List.FinRange
import Mathlib.Logic.Function.Iterate

namespace Regression

/-- An example: its features, what was seen of it, and what it counts for. -/
structure Example (R : Type) (d : ℕ) where
  x : Vector R d
  y : R
  weight : R

/-- A weight for each feature, and an intercept. -/
structure Linear (R : Type) (d : ℕ) where
  w : Vector R d
  b : R

theorem get_ofFn {R : Type} {d : ℕ} (f : Fin d → R) (i : Fin d) : (Vector.ofFn f).get i = f i :=
  Vector.getElem_ofFn i.isLt

theorem get_map {K R : Type} {d : ℕ} (φ : K → R) (x : Vector K d) (i : Fin d) :
    (x.map φ).get i = φ (x.get i) :=
  Vector.getElem_map φ i.isLt

section

variable {R : Type} [Add R] [Sub R] [Mul R] {d : ℕ} (link : R → R)

/-- The value of a model on features. -/
def Linear.value (m : Linear R d) (x : Vector R d) : R :=
  (List.finRange d).foldl (fun z i => z + m.w.get i * x.get i) m.b

/-- How far a model is off an example. -/
def residual (m : Linear R d) (e : Example R d) : R := (link (m.value e.x) - e.y) * e.weight

/-- Add the gradient of an example. -/
def addGradient (m g : Linear R d) (e : Example R d) : Linear R d :=
  { w := Vector.ofFn fun i => g.w.get i + residual link m e * e.x.get i
    b := g.b + residual link m e }

theorem addGradient_get (m g : Linear R d) (e : Example R d) (i : Fin d) :
    (addGradient link m g e).w.get i = g.w.get i + residual link m e * e.x.get i :=
  get_ofFn _ i

variable [Zero R]

/-- The gradient over all examples. -/
def gradient (es : List (Example R d)) (m : Linear R d) : Linear R d :=
  es.foldl (addGradient link m) ⟨Vector.ofFn fun _ => 0, 0⟩

theorem gradient_get (es : List (Example R d)) (m : Linear R d) (i : Fin d) :
    (gradient link es m).w.get i = es.foldl (fun g e => g + residual link m e * e.x.get i) 0 := by
  have hfold : ∀ (es : List (Example R d)) (g : Linear R d),
      (es.foldl (addGradient link m) g).w.get i =
        es.foldl (fun g e => g + residual link m e * e.x.get i) (g.w.get i) := by
    intro es
    induction es with
    | nil => exact fun g => rfl
    | cons e es ih =>
      intro g
      rw [List.foldl_cons, ih, addGradient_get, List.foldl_cons]
  rw [gradient, hfold, get_ofFn]

/-- What all examples count for. -/
def totalWeight (es : List (Example R d)) : R := es.foldl (fun a e => a + e.weight) 0

variable [Div R] (lr l2 : R)

/-- A step against the gradient, with a penalty on the weights. -/
def step (es : List (Example R d)) (m : Linear R d) : Linear R d :=
  { w := Vector.ofFn fun i =>
      m.w.get i - lr * ((gradient link es m).w.get i / totalWeight es + l2 * m.w.get i)
    b := m.b - lr * ((gradient link es m).b / totalWeight es) }

theorem step_get (es : List (Example R d)) (m : Linear R d) (i : Fin d) :
    (step link lr l2 es m).w.get i =
      m.w.get i - lr * ((gradient link es m).w.get i / totalWeight es + l2 * m.w.get i) :=
  get_ofFn _ i

/-- A number of steps. -/
def descend (es : List (Example R d)) (n : ℕ) (m : Linear R d) : Linear R d :=
  (step link lr l2 es)^[n] m

theorem descend_succ (es : List (Example R d)) (n : ℕ) (m : Linear R d) :
    descend link lr l2 es (n + 1) m = step link lr l2 es (descend link lr l2 es n m) :=
  Function.iterate_succ_apply' _ n m

end

/-! ## Numbers that stand for others -/

section

variable {K R : Type} {d : ℕ}

def Example.map (φ : K → R) (e : Example K d) : Example R d := ⟨e.x.map φ, φ e.y, φ e.weight⟩

def Linear.map (φ : K → R) (m : Linear K d) : Linear R d := ⟨m.w.map φ, φ m.b⟩

theorem Example.get_map (φ : K → R) (e : Example K d) (i : Fin d) :
    (e.map φ).x.get i = φ (e.x.get i) :=
  Regression.get_map φ e.x i

theorem Linear.get_map (φ : K → R) (m : Linear K d) (i : Fin d) :
    (m.map φ).w.get i = φ (m.w.get i) :=
  Regression.get_map φ m.w i

theorem Linear.ext_get {m m' : Linear R d} (hw : ∀ i : Fin d, m.w.get i = m'.w.get i)
    (hb : m.b = m'.b) : m = m' := by
  obtain ⟨w, b⟩ := m
  obtain ⟨w', b'⟩ := m'
  obtain rfl : b = b' := hb
  exact congrArg (Linear.mk · b) (Vector.ext fun i hi => hw ⟨i, hi⟩)

variable [Zero K] [Add K] [Sub K] [Mul K] [Zero R] [Add R] [Sub R] [Mul R]

/-- The numbers add up and multiply as those they stand for, also behind the link. -/
structure Embeds (φ : K → R) (link : K → K) (link' : R → R) : Prop where
  zero : φ 0 = 0
  add : ∀ x y, φ x + φ y = φ (x + y)
  sub : ∀ x y, φ x - φ y = φ (x - y)
  mul : ∀ x y, φ x * φ y = φ (x * y)
  link : ∀ x, link' (φ x) = φ (link x)

variable {φ : K → R} {link : K → K} {link' : R → R}

theorem value_map (h : Embeds φ link link') (m : Linear K d) (x : Vector K d) :
    (m.map φ).value (x.map φ) = φ (m.value x) := by
  have hfold : ∀ (l : List (Fin d)) (b : K),
      l.foldl (fun z i => z + (m.map φ).w.get i * (x.map φ).get i) (φ b) =
        φ (l.foldl (fun z i => z + m.w.get i * x.get i) b) := by
    intro l
    induction l with
    | nil => exact fun b => rfl
    | cons i l ih =>
      intro b
      have hi : φ b + (m.map φ).w.get i * (x.map φ).get i = φ (b + m.w.get i * x.get i) := by
        rw [← h.add, ← h.mul, Linear.get_map, get_map]
      rw [List.foldl_cons, hi, ih, List.foldl_cons]
  exact hfold _ _

theorem residual_map (h : Embeds φ link link') (m : Linear K d) (e : Example K d) :
    residual link' (m.map φ) (e.map φ) = φ (residual link m e) := by
  rw [residual, residual, ← h.mul, ← h.sub, ← h.link, ← value_map h]
  rfl

theorem gradient_map (h : Embeds φ link link') (es : List (Example K d)) (m : Linear K d) :
    gradient link' (es.map (Example.map φ)) (m.map φ) = (gradient link es m).map φ := by
  have hfold : ∀ (es : List (Example K d)) (g : Linear K d),
      (es.map (Example.map φ)).foldl (addGradient link' (m.map φ)) (g.map φ) =
        (es.foldl (addGradient link m) g).map φ := by
    intro es
    induction es with
    | nil => exact fun g => rfl
    | cons e es ih =>
      intro g
      have hadd : addGradient link' (m.map φ) (g.map φ) (e.map φ) =
          (addGradient link m g e).map φ := by
        refine Linear.ext_get (fun i => ?_) ?_
        · rw [addGradient_get, Linear.get_map, Linear.get_map, addGradient_get, Example.get_map,
            residual_map h, h.mul, h.add]
        · show φ g.b + residual link' (m.map φ) (e.map φ) = φ (g.b + residual link m e)
          rw [residual_map h, h.add]
      rw [List.map_cons, List.foldl_cons, hadd, ih, List.foldl_cons]
  have hzero : (⟨Vector.ofFn fun _ => 0, 0⟩ : Linear R d) =
      Linear.map φ ⟨Vector.ofFn fun _ => 0, 0⟩ := by
    refine Linear.ext_get (fun i => ?_) h.zero.symm
    rw [Linear.get_map, get_ofFn, get_ofFn, h.zero]
  rw [gradient, hzero]
  exact hfold es _

theorem totalWeight_map (h : Embeds φ link link') (es : List (Example K d)) :
    totalWeight (es.map (Example.map φ)) = φ (totalWeight es) := by
  have hfold : ∀ (es : List (Example K d)) (a : K),
      (es.map (Example.map φ)).foldl (fun a e => a + e.weight) (φ a) =
        φ (es.foldl (fun a e => a + e.weight) a) := by
    intro es
    induction es with
    | nil => exact fun a => rfl
    | cons e es ih =>
      intro a
      rw [List.map_cons, List.foldl_cons, List.foldl_cons, ← ih, ← h.add]
      rfl
  rw [totalWeight, ← h.zero]
  exact hfold es 0

variable [Div K] [Div R]

/-- Numbers that stand for others take the same steps, if the quotients by what the examples count
    for are the same. -/
theorem descend_map (h : Embeds φ link link') {es : List (Example K d)}
    (hdiv : ∀ x, φ x / φ (totalWeight es) = φ (x / totalWeight es)) (lr l2 : K) (n : ℕ)
    (m : Linear K d) : descend link' (φ lr) (φ l2) (es.map (Example.map φ)) n (m.map φ) =
      (descend link lr l2 es n m).map φ := by
  have hstep (m : Linear K d) : step link' (φ lr) (φ l2) (es.map (Example.map φ)) (m.map φ) =
      (step link lr l2 es m).map φ := by
    refine Linear.ext_get (fun i => ?_) ?_
    · rw [step_get, Linear.get_map, Linear.get_map, step_get, gradient_map h, totalWeight_map h,
        Linear.get_map, hdiv, h.mul, h.add, h.mul, h.sub]
    · show φ m.b - φ lr * ((gradient link' (es.map (Example.map φ)) (m.map φ)).b /
        totalWeight (es.map (Example.map φ))) =
          φ (m.b - lr * ((gradient link es m).b / totalWeight es))
      rw [gradient_map h, totalWeight_map h, ← h.sub, ← h.mul, ← hdiv]
      rfl
  induction n with
  | zero => rfl
  | succ n ih => rw [descend_succ, descend_succ, ih, hstep]

end

end Regression
