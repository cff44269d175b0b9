/-
  Ingress: a webhook is mapped to canonical events by its adapter, and these are handled one
  after the other (`ingestWithAdapter`).
-/
import AX10M.Poal.Ingress
import AX10M.Recovery.Reversal

namespace AX10M

open Js Effects

/-- The event is a failure of the invoice. -/
def Fails (e : CanonicalEvent) (invoice : Invoice) : Prop :=
  ∃ payload, e.body = .invoiceFailed payload ∧ payload.invoice = some invoice

/-- The invoice that an event is about. -/
def EventBody.invoiceId : EventBody → Option String
  | .invoiceFailed p => p.invoice.map Invoice.id
  | .invoicePaid invoice => invoice.map Invoice.id
  | .paymentReversed p | .paymentReversalReverted p => some p.invoiceId
  | _ => none

/-- A webhook is mapped to the event, maybe among others. -/
def Delivers (ingested : Ingested) (e : CanonicalEvent) : Prop :=
  ∃ events, ingested = .ok events ∧ e ∈ events

namespace RecoveryCaseService

variable (s : RecoveryCaseService)

/-- Handle events one after the other, up to the first one that is rejected. -/
def handleEvents (processorId : String) : List CanonicalEvent → Async Unit
  | [] => return ()
  | event :: events => do
    s.handleEvent event (some processorId)
    handleEvents processorId events

/-- Any adapter: canonical events, and then recovery cases. -/
def ingestWithAdapter (processorId : String) (ingested : Ingested) : Async Unit := do
  match ingested with
  | .error message => return (← call (.throw message)).elim
  | .ok events => s.handleEvents processorId events

end RecoveryCaseService

section

variable {σ : Type} (s : RecoveryCaseService) (env : Env σ) (processorId : String)

/-- The world after a webhook is ingested. -/
def ingest (w : World σ) (ingested : Ingested) : World σ :=
  ((s.ingestWithAdapter processorId ingested).exec (World.handle env) w).2

/-- The world after webhooks are ingested one after the other. -/
def ingestAll (w : World σ) (webhooks : List Ingested) : World σ :=
  webhooks.foldl (ingest s env processorId) w

/-- Events that are not rejected are handled one after the other. -/
theorem handleEvents_exec {events : List CanonicalEvent}
    (h : ∀ e ∈ events, ∀ w, ((s.handleEvent e (some processorId)).exec (World.handle env) w).1 =
      some ()) (w : World σ) :
    (s.handleEvents processorId events).exec (World.handle env) w =
      (some (), serveAll s env w (events.map fun e => .webhook e (some processorId))) := by
  induction events generalizing w with
  | nil => rfl
  | cons e events ih =>
    have he : (s.handleEvent e (some processorId)).exec (World.handle env) w =
        (some (), serve s env w (.webhook e (some processorId))) :=
      Prod.ext (h e List.mem_cons_self w) rfl
    rw [RecoveryCaseService.handleEvents, Prog.bind_eq, Prog.exec_bind_of he,
      ih fun e he => h e (List.mem_cons_of_mem _ he)]
    rfl

/-- Moves are not rejected. -/
theorem handleEvent_moves {e : CanonicalEvent} (h : e.body.move.isSome) (w : World σ) :
    ((s.handleEvent e (some processorId)).exec (World.handle env) w).1 = some () := by
  obtain ⟨m, hm⟩ := Option.isSome_iff_exists.1 h
  rw [handleEvent_move s hm, Move.record_exec]

/-- A webhook that is mapped to moves has the effect of each of them in turn. -/
theorem ingest_moves {events : List CanonicalEvent} (h : ∀ e ∈ events, e.body.move.isSome)
    (w : World σ) :
    ingest s env processorId w (.ok events) =
      serveAll s env w (events.map fun e => .webhook e (some processorId)) := by
  have := handleEvents_exec s env processorId
    (fun e he w => handleEvent_moves s env processorId (h e he) w) w
  exact congrArg Prod.snd this

end

end AX10M
