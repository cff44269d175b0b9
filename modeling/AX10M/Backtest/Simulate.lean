/-
  The world of the backtest, and policies that are run over its invoices (`@ax10m/backtest`,
  `rng.ts`, `world.ts`, `sources.ts`, `policy.ts`, `simulate.ts`).

  An invoice has a hidden recovery state; an action on it succeeds by a draw, if the state lets it
  (`actionSucceeds`).  `actionSucceeds_retry`: a retry draws exactly on the days on which the
  invoice is open to retries, and against one and the same bound.  `runPolicy_getElem?`: the outcome
  of an invoice does not depend on the others.  `recovered_of_subperm`: of two policies that only
  retry, the one with more retry days recovers whatever the other one does, and no later.
-/
import AX10M.Canonical
import AX10M.Draws.Generator
import AX10M.Js.Keys
import Mathlib.Data.List.Sort

namespace AX10M.Backtest

open Draws

/-! ## Seeds -/

/-- Derive a child seed from a base seed and a tag. -/
def deriveSeed (base : ℚ) (tag : String) : UInt32 :=
  (Js.utf16 tag).foldl (fun h u => (h ^^^ UInt32.ofNat u) * 0x01000193) (toUint32 base)

/-! ## Parameters -/

/-- The multiplier of the success of actions; the others are those of the generator of
    invoices. -/
structure WorldParams where
  residualScale : ℚ

/-- `DEFAULT_WORLD_PARAMS`. -/
def defaultWorldParams : WorldParams := ⟨1⟩

def residualSuccessRetry : ℚ := 85 / 100
def residualSuccessCardUpdate : ℚ := 75 / 100
def residualSuccessAltRail : ℚ := 90 / 100
def residualSuccessDunning : ℚ := 80 / 100
def altRailOnsetDay : ℚ := 1
def dunningOnsetDay : ℚ := 4

inductive ActionKind where
  | retry | cardUpdate | cardRefresh | alternateRail
  deriving DecidableEq

/-- What can be done about a dead credential. -/
structure CredLatent where
  reissued : Bool
  reissueDay : ℚ
  passiveTokenRail : Bool
  activeAuCovered : Bool
  hasAltRail : Bool
  dunningResponder : Bool

/-- The hidden truth of an invoice. -/
structure Latent where
  recoverable : Bool
  onsetDay : ℚ
  closeDay : ℚ
  cred : Option CredLatent := none

/-- An invoice without its hidden truth. -/
structure ObservedInvoice where
  id : String
  customerId : String
  declineCode : DeclineCode
  amountMinor : MinorUnits
  issuerRegion : IssuerRegion

structure SimInvoice extends ObservedInvoice where
  latent : Latent

/-! ## Actions -/

def clamp01 (x : ℚ) : ℚ := if x < 0 then 0 else if x > 1 then 1 else x

/-- Whether an action on a day after the decline succeeds, and the generator after it. -/
def actionSucceeds (inv : SimInvoice) (day : ℚ) (kind : ActionKind) (rng : Rng)
    (params : WorldParams := defaultWorldParams) : Bool × Rng :=
  let resid (base : ℚ) := rng.below (clamp01 (base * params.residualScale))
  if !inv.latent.recoverable then (false, rng)
  else if day > inv.latent.closeDay then (false, rng)
  else match inv.latent.cred with
    | some cred =>
      match kind with
      | .retry =>
        if cred.reissued && cred.passiveTokenRail && day ≥ cred.reissueDay then
          resid residualSuccessRetry else (false, rng)
      | .cardRefresh =>
        if cred.reissued && cred.activeAuCovered && day ≥ cred.reissueDay then
          resid residualSuccessRetry else (false, rng)
      | .alternateRail =>
        if cred.hasAltRail && day ≥ altRailOnsetDay then
          resid residualSuccessAltRail else (false, rng)
      | .cardUpdate =>
        if cred.dunningResponder && day ≥ dunningOnsetDay then
          resid residualSuccessDunning else (false, rng)
    | none =>
      if day < inv.latent.onsetDay then (false, rng)
      else match kind with
        | .cardRefresh | .alternateRail => (false, rng)
        | .cardUpdate =>
          rng.below (clamp01 (residualSuccessCardUpdate * params.residualScale) * (30 / 100))
        | .retry => resid residualSuccessRetry

/-! ## Retries -/

/-- The invoice is open to retries on a day. -/
def openOn (latent : Latent) (day : ℚ) : Bool :=
  latent.recoverable && day ≤ latent.closeDay && match latent.cred with
    | some cred => cred.reissued && cred.passiveTokenRail && day ≥ cred.reissueDay
    | none => day ≥ latent.onsetDay

/-- The draw of a retry. -/
def drawRetry (params : WorldParams) (rng : Rng) : Bool × Rng :=
  rng.below (clamp01 (residualSuccessRetry * params.residualScale))

/-- A retry draws on the days on which the invoice is open to it. -/
theorem actionSucceeds_retry (inv : SimInvoice) (day : ℚ) (rng : Rng) (params : WorldParams) :
    actionSucceeds inv day .retry rng params =
      if openOn inv.latent day then drawRetry params rng else (false, rng) := by
  obtain ⟨-, recoverable, onsetDay, closeDay, cred⟩ := inv
  unfold actionSucceeds openOn drawRetry
  cases recoverable with
  | false => rfl
  | true =>
    by_cases hclose : day > closeDay
    · have hle : ¬ day ≤ closeDay := not_le.2 hclose
      simp [hclose, hle]
    · have hle : day ≤ closeDay := not_lt.1 hclose
      cases cred with
      | none =>
        by_cases honset : day < onsetDay
        · simp [hclose, hle, honset]
        · have hge : onsetDay ≤ day := not_lt.1 honset
          simp [hclose, hle, honset, hge]
      | some cred => simp [hclose, hle]

end AX10M.Backtest

namespace AX10M.Backtest

open Draws

structure RecoveryAction where
  /-- days since the decline -/
  day : ℚ
  kind : ActionKind

/-- A recovery policy does not see the hidden truth of an invoice. -/
structure Policy where
  plan : ObservedInvoice → List RecoveryAction

def observed (inv : SimInvoice) : ObservedInvoice := inv.toObservedInvoice

structure InvoiceOutcome where
  invoice : SimInvoice
  recovered : Bool
  recoveredMinor : MinorUnits
  /-- the day of the recovery, if there is one -/
  recoveryDay : Option ℚ
  /-- charge attempts, up to success -/
  retriesMade : ℕ

/-- The actions in the order of their days. -/
def sortActions (actions : List RecoveryAction) : List RecoveryAction :=
  actions.insertionSort fun a b => a.day ≤ b.day

/-- Take actions up to the first that succeeds: the day of that, and the retries made. -/
def takeActions (inv : SimInvoice) (params : WorldParams) :
    Rng → ℕ → List RecoveryAction → Option ℚ × ℕ
  | _, retriesMade, [] => (none, retriesMade)
  | rng, retriesMade, a :: actions =>
    let retriesMade := if a.kind = .retry then retriesMade + 1 else retriesMade
    let (succeeds, rng) := actionSucceeds inv a.day a.kind rng params
    if succeeds then (some a.day, retriesMade)
    else takeActions inv params rng retriesMade actions

/-- The outcome of an invoice, with draws of its own. -/
def outcomeOf (policy : Policy) (seed : ℚ) (params : WorldParams) (inv : SimInvoice) :
    InvoiceOutcome :=
  let actions := sortActions (policy.plan (observed inv))
  let rng := mulberry32 (deriveSeed seed inv.id)
  let (recoveryDay, retriesMade) := takeActions inv params rng 0 actions
  { invoice := inv
    recovered := recoveryDay.isSome
    recoveredMinor := if recoveryDay.isSome then inv.amountMinor else 0
    recoveryDay
    retriesMade }

/-- Run a policy over invoices. -/
def runPolicy (invoices : List SimInvoice) (policy : Policy) (seed : ℚ)
    (params : WorldParams := defaultWorldParams) : List InvoiceOutcome :=
  invoices.foldl (fun out inv => out ++ [outcomeOf policy seed params inv]) []

/-! ## Invoices on their own -/

variable {policy : Policy} {seed : ℚ} {params : WorldParams} {inv : SimInvoice}

theorem runPolicy_eq_map (invoices : List SimInvoice) (policy : Policy) (seed : ℚ)
    (params : WorldParams) :
    runPolicy invoices policy seed params = invoices.map (outcomeOf policy seed params) := by
  have hfold : ∀ out : List InvoiceOutcome,
      invoices.foldl (fun out inv => out ++ [outcomeOf policy seed params inv]) out =
        out ++ invoices.map (outcomeOf policy seed params) := by
    induction invoices with
    | nil => exact fun out => (List.append_nil out).symm
    | cons inv invoices ih =>
      intro out
      rw [List.foldl_cons, ih, List.map_cons, List.append_assoc, List.singleton_append]
  exact hfold []

/-- The outcome of an invoice, in whatever list it is. -/
theorem runPolicy_getElem? (invoices : List SimInvoice) (i : ℕ) :
    (runPolicy invoices policy seed params)[i]? =
      invoices[i]?.map (outcomeOf policy seed params) := by
  rw [runPolicy_eq_map, List.getElem?_map]

/-! ## Retries -/

/-- The policy only retries. -/
def RetryOnly (policy : Policy) : Prop := ∀ obs, ∀ a ∈ policy.plan obs, a.kind = .retry

/-- The days on which the policy acts on an invoice. -/
def days (policy : Policy) (inv : SimInvoice) : List ℚ :=
  (policy.plan (observed inv)).map RecoveryAction.day

/-- The days on which the policy acts and the invoice is open to retries, in order. -/
def openDays (policy : Policy) (inv : SimInvoice) : List ℚ :=
  ((days policy inv).insertionSort (· ≤ ·)).filter (openOn inv.latent)

/-- Retries are draws on the days on which the invoice is open to them. -/
theorem takeActions_retry {rng : Rng} {n : ℕ} {actions : List RecoveryAction}
    (h : ∀ a ∈ actions, a.kind = .retry) : (takeActions inv params rng n actions).1 =
      firstHit (drawRetry params) rng
        ((actions.map RecoveryAction.day).filter (openOn inv.latent)) := by
  induction actions generalizing rng n with
  | nil => rfl
  | cons a actions ih =>
    have hkind := h a List.mem_cons_self
    have hrest : ∀ a' ∈ actions, a'.kind = .retry :=
      fun a' ha' => h a' (List.mem_cons_of_mem a ha')
    rw [takeActions, hkind, actionSucceeds_retry, List.map_cons]
    by_cases hopen : openOn inv.latent a.day = true
    · rw [if_pos hopen, List.filter_cons_of_pos hopen, firstHit]
      rcases drawRetry params rng with ⟨hit, rng'⟩
      cases hit with
      | true => rfl
      | false => exact ih hrest
    · rw [if_neg hopen, List.filter_cons_of_neg hopen]
      exact ih hrest

theorem recoveryDay_eq (h : RetryOnly policy) :
    (outcomeOf policy seed params inv).recoveryDay =
      firstHit (drawRetry params) (mulberry32 (deriveSeed seed inv.id)) (openDays policy inv) := by
  have hretry : ∀ a ∈ sortActions (policy.plan (observed inv)), a.kind = .retry :=
    fun a ha => h _ a ((List.mem_insertionSort _).1 ha)
  have hdays : (sortActions (policy.plan (observed inv))).map RecoveryAction.day =
      (days policy inv).insertionSort (· ≤ ·) :=
    List.map_insertionSort _ _ RecoveryAction.day _ fun _ _ _ _ => Iff.rfl
  rw [openDays, ← hdays]
  exact takeActions_retry hretry

theorem recovered_iff : (outcomeOf policy seed params inv).recovered =
    (outcomeOf policy seed params inv).recoveryDay.isSome := rfl

/-- More days leave more days on which the invoice is open, in the same order. -/
theorem openDays_sublist {p q : Policy} (h : (days p inv).Subperm (days q inv)) :
    (openDays p inv).Sublist (openDays q inv) := by
  have hsorted (policy : Policy) :
      ((days policy inv).insertionSort (· ≤ ·)).Pairwise (· ≤ ·) :=
    List.pairwise_insertionSort _ _
  have hsub : ((days p inv).insertionSort (· ≤ ·)).Subperm
      ((days q inv).insertionSort (· ≤ ·)) :=
    ((List.perm_insertionSort _ _).subperm_right.2
      ((List.perm_insertionSort _ _).subperm_left.2 h))
  exact (List.sublist_of_subperm_of_pairwise hsub (hsorted p) (hsorted q)).filter _

/-- **Persistence**: more retry days recover whatever fewer ones do, and no later. -/
theorem recovered_of_subperm {p q : Policy} (hp : RetryOnly p) (hq : RetryOnly q)
    (h : (days p inv).Subperm (days q inv))
    (hrec : (outcomeOf p seed params inv).recovered = true) :
    (outcomeOf q seed params inv).recovered = true ∧
      ∃ d d', (outcomeOf p seed params inv).recoveryDay = some d ∧
        (outcomeOf q seed params inv).recoveryDay = some d' ∧ d' ≤ d := by
  rw [recovered_iff] at hrec
  obtain ⟨d, hd⟩ := Option.isSome_iff_exists.1 hrec
  have hsorted : (openDays q inv).Pairwise (· ≤ ·) :=
    (List.pairwise_insertionSort _ _).filter _
  obtain ⟨d', hd', hle⟩ := firstHit_sublist (openDays_sublist h) hsorted
    ((recoveryDay_eq hp).symm.trans hd)
  have hq' := (recoveryDay_eq hq).trans hd'
  exact ⟨by rw [recovered_iff, hq', Option.isSome_some], d, d', hd, hq', hle⟩

end AX10M.Backtest
