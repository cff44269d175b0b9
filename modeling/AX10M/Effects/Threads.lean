/-
  Threads: programs that take turns on a shared world.

  Each thread has the task it was spawned for and the rest of its program.  An event spawns a
  thread, performs the next operation of one on an input from outside, or lets one die; between its
  operations a thread may wait for any time.

  `Pool.run_inv`: what every event keeps, runs keep.  `Pool.stock` counts what the threads have
  done and what they are about to do; `stock_perform` says how an operation changes it.
-/
import AX10M.Effects.Trace
import Mathlib.Data.List.Induction

namespace Effects

variable {S : Sig} {W I T α : Type}

/-- The next operation of a program. -/
def Prog.next : Prog S α → Option S.Op
  | .pure _ => none
  | .op o _ => some o

/-- A thread: its task, and the rest of its program, `none` if it died. -/
structure Thread (S : Sig) (T α : Type) where
  task : T
  rest : Option (Prog S α)

/-- Threads and their world, with all that was performed. -/
structure Pool (S : Sig) (W T α : Type) where
  world : W
  threads : List (Thread S T α)
  log : List (T × Performed S W)

inductive PoolEvent (T I : Type) where
  | spawn (task : T)
  /-- perform the next operation of thread `k`, on an input -/
  | perform (k : ℕ) (input : I)
  | die (k : ℕ)

namespace Pool

section

variable (prog : T → Prog S α) (h : I → Handler S W)

/-- The pool after an event; a thread that died or has ended does nothing. -/
def after (s : Pool S W T α) : PoolEvent T I → Pool S W T α
  | .spawn task => { s with threads := s.threads ++ [⟨task, some (prog task)⟩] }
  | .perform k input =>
    match s.threads[k]? with
    | some ⟨task, some (.op o rest)⟩ =>
      let (r, w) := h input o s.world
      ⟨w, s.threads.set k ⟨task, r.map rest⟩, s.log ++ [(task, ⟨o, r, s.world⟩)]⟩
    | _ => s
  | .die k =>
    match s.threads[k]? with
    | some thread => { s with threads := s.threads.set k { thread with rest := none } }
    | none => s

/-- The pool after some events. -/
def run (s : Pool S W T α) (events : List (PoolEvent T I)) : Pool S W T α :=
  events.foldl (after prog h) s

@[simp] theorem run_nil (s : Pool S W T α) : s.run prog h [] = s := rfl

theorem run_concat (s : Pool S W T α) (events : List (PoolEvent T I)) (e : PoolEvent T I) :
    s.run prog h (events ++ [e]) = (s.run prog h events).after prog h e := by
  rw [run, List.foldl_append]
  rfl

theorem run_append (s : Pool S W T α) (events events' : List (PoolEvent T I)) :
    s.run prog h (events ++ events') = (s.run prog h events).run prog h events' :=
  List.foldl_append

end

variable {prog : T → Prog S α} {h : I → Handler S W} {s : Pool S W T α}

/-- What every event keeps that may happen, a run of such events keeps. -/
theorem run_inv (Inv : Pool S W T α → Prop) (Ok : Pool S W T α → PoolEvent T I → Prop)
    (hstep : ∀ s e, Inv s → Ok s e → Inv (s.after prog h e)) (hs : Inv s)
    {events : List (PoolEvent T I)}
    (hok : ∀ pre e, pre ++ [e] <+: events → Ok (s.run prog h pre) e) :
    Inv (s.run prog h events) := by
  induction events using List.reverseRecOn with
  | nil => exact hs
  | append_singleton events e ih =>
    rw [run_concat]
    refine hstep _ _ (ih ?_) (hok events e (List.prefix_refl _))
    intro pre e' hpre
    exact hok pre e' (hpre.trans (List.prefix_append events [e]))

/-- What an event does: it spawns a thread, performs an operation, ends a thread, or nothing. -/
theorem after_cases (prog : T → Prog S α) (h : I → Handler S W) (s : Pool S W T α)
    (e : PoolEvent T I) :
    (∃ task, e = .spawn task ∧
      s.after prog h e = { s with threads := s.threads ++ [⟨task, some (prog task)⟩] }) ∨
    (∃ k input task o rest, e = .perform k input ∧ s.threads[k]? = some ⟨task, some (.op o rest)⟩ ∧
      s.after prog h e = ⟨(h input o s.world).2,
        s.threads.set k ⟨task, (h input o s.world).1.map rest⟩,
        s.log ++ [(task, ⟨o, (h input o s.world).1, s.world⟩)]⟩) ∨
    (∃ k thread, e = .die k ∧ s.threads[k]? = some thread ∧
      s.after prog h e = { s with threads := s.threads.set k { thread with rest := none } }) ∨
    s.after prog h e = s := by
  cases e with
  | spawn task => exact .inl ⟨task, rfl, rfl⟩
  | perform k input =>
    rcases hk : s.threads[k]? with _ | ⟨task, _ | _ | ⟨o, rest⟩⟩
    · exact .inr (.inr (.inr (by simp only [after, hk])))
    · exact .inr (.inr (.inr (by simp only [after, hk])))
    · exact .inr (.inr (.inr (by simp only [after, hk])))
    · exact .inr (.inl ⟨k, input, task, o, rest, rfl, hk, by simp only [after, hk]⟩)
  | die k =>
    rcases hk : s.threads[k]? with _ | thread
    · exact .inr (.inr (.inr (by simp only [after, hk])))
    · exact .inr (.inr (.inl ⟨k, thread, rfl, hk, by simp only [after, hk]⟩))

/-! ### What threads have done, and are about to do -/

section

variable (done : T × Performed S W → Bool) (ready : Thread S T α → Bool)

/-- What was done, and the threads that are about to do it. -/
def stock (s : Pool S W T α) : ℕ := s.log.countP done + s.threads.countP ready

variable {k : ℕ} {thread : Thread S T α} (thread' : Thread S T α)

theorem countP_set {threads : List (Thread S T α)} (hk : threads[k]? = some thread) :
    (threads.set k thread').countP ready + (if ready thread then 1 else 0) =
      threads.countP ready + if ready thread' then 1 else 0 := by
  obtain ⟨hlt, hget⟩ := List.getElem?_eq_some_iff.1 hk
  have hpos : (if ready thread then 1 else 0) ≤ threads.countP ready := by
    split_ifs with hr
    · exact List.countP_pos_iff.2 ⟨thread, List.mem_of_getElem? hk, hr⟩
    · exact Nat.zero_le _
  rw [List.countP_set hlt, hget]
  omega

/-- What was done and is about to be done changes with the thread that goes on. -/
theorem stock_perform (w : W) (x : T × Performed S W) (hk : s.threads[k]? = some thread) :
    (⟨w, s.threads.set k thread', s.log ++ [x]⟩ : Pool S W T α).stock done ready +
        (if ready thread then 1 else 0) =
      s.stock done ready + (if done x then 1 else 0) + if ready thread' then 1 else 0 := by
  have hset := countP_set ready thread' hk
  simp only [stock, List.countP_append, List.countP_singleton]
  omega

end

end Pool

end Effects
