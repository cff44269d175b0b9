/-
  The caps of the card networks over runs of executions.

  The guardrail sees the count and the last instant of a credential as they stand in the
  credential store before a charge, and the store counts the charge afterwards.  So the
  store tracks the charges of a run (`Tracks`), and every charge is within its limits.
-/
import AX10M.Logs.Paced
import AX10M.Recovery.Asked
import Mathlib.Tactic.NormNum.Ineq

namespace AX10M

open Js Effects Logs

/-- A charge asked of the processor, with the instant of the saga. -/
structure PlacedCharge where
  charge : AskedCharge
  time : ℤ

namespace PlacedCharge

/-- The key of the credential. -/
def key (c : PlacedCharge) : String := credentialKey c.charge.invoice.id c.charge.method

/-- Both charges are of one invoice and one card token. -/
def SamePair (c c' : PlacedCharge) : Prop :=
  c.charge.invoice.id = c'.charge.invoice.id ∧ c.charge.method.token = c'.charge.method.token

instance (c c' : PlacedCharge) : Decidable (c.SamePair c') :=
  inferInstanceAs (Decidable (_ ∧ _))

theorem SamePair.key {c c' : PlacedCharge} (h : c.SamePair c') : c.key = c'.key := by
  unfold PlacedCharge.key credentialKey
  rw [h.1, h.2]

end PlacedCharge

/-- The cap of the network of a card. -/
def networkCapOf (m : PaymentMethod) : Option NetworkRetryCap :=
  defaultGuardrailPolicy.networkCaps.map fun caps => caps (mapCardNetwork m.brand)

/-- The limits the guardrail holds charges to; the interval of every network is an hour. -/
def cardLimits : Limits PlacedCharge String where
  key := PlacedCharge.key
  time := PlacedCharge.time
  cap c := ((networkCapOf c.charge.method).map NetworkRetryCap.maxAttemptsPerWindow).getD 0
  gap _ := 3600000

theorem cardLimits_cap (c : PlacedCharge) : cardLimits.cap c =
    ((networkCapOf c.charge.method).map NetworkRetryCap.maxAttemptsPerWindow).getD 0 := rfl

/-! ## The credential store -/

/-- The store has counted the charges: at least their number, and none later than the last. -/
def Tracks (counts : Map String CredentialCount) (l : List PlacedCharge) : Prop :=
  ∀ c ∈ l, ∃ e last, counts.get c.key = some e ∧ Date.parse e.lastAt = some last ∧
    c.time ≤ last ∧ (cardLimits.ofKey c.key l).length ≤ e.count

/-- The guardrail lets a charge of the method through on its window. -/
def Cleared (m : PaymentMethod) (credWin : CredentialAttemptWindow) : Prop :=
  (credWin.attemptsInWindow : ℤ) <
      ((networkCapOf m).map NetworkRetryCap.maxAttemptsPerWindow).getD 0 ∧
    ∀ x, credWin.minutesSinceLastAttempt = some (some x) → 60 ≤ x

theorem cleared_of_freshAllowed {n : ℕ} {m : PaymentMethod} {credWin : CredentialAttemptWindow}
    (h : freshAllowed n m credWin) : Cleared m credWin := by
  obtain ⟨hcount, hmin⟩ := chargeCaps_within rfl h
  refine ⟨hcount, fun x hx => ?_⟩
  have := hmin x hx
  rwa [default_minMinutesBetween rfl] at this

theorem cleared_of_retryAllowed {p : ExecuteParams} {code : DeclineCode}
    {credWin : CredentialAttemptWindow} (h : retryAllowed p code credWin) :
    Cleared p.method credWin := by
  unfold retryAllowed evaluate at h
  rw [if_neg Bool.false_ne_true] at h
  split at h
  next d hd =>
    rw [sameCardBlock_isAllow hd] at h
    cases h
  next =>
    obtain ⟨hcount, hmin⟩ := chargeCaps_within rfl h
    refine ⟨hcount, fun x hx => ?_⟩
    have := hmin x (by simp [hx])
    rwa [default_minMinutesBetween rfl] at this

section

variable {counts : Map String CredentialCount} {l : List PlacedCharge} {c : PlacedCharge}
  {t : String}

/-- A text that is an instant is no empty text. -/
theorem truthy_of_parse {ms : ℤ} (ht : Date.parse t = some ms) : truthy (some t) = some t := by
  have hne : t ≠ "" := by
    rintro rfl
    cases ht
  simp [truthy, hne]

/-- What a charge that the guardrail lets through finds of the earlier ones of its credential. -/
theorem Tracks.earlier (h : Tracks counts l) (ht : Date.parse t = some c.time)
    (hc : Cleared c.charge.method (credentialWindow counts c.key (some t))) :
    (cardLimits.ofKey c.key l).length ≤
        ((counts.get c.key).map CredentialCount.count).getD 0 ∧
      ((cardLimits.ofKey c.key l).length : ℤ) < cardLimits.cap c ∧
      ∀ c' ∈ cardLimits.ofKey c.key l, c'.time + 3600000 ≤ c.time := by
  obtain ⟨hcap, hmin⟩ := hc
  cases hg : counts.get c.key with
  | none =>
    -- what the store does not know has not been charged
    have hnil : cardLimits.ofKey c.key l = [] := by
      refine List.eq_nil_iff_forall_not_mem.2 fun c' hc' => ?_
      obtain ⟨hmem, hk⟩ := Limits.mem_ofKey.1 hc'
      obtain ⟨e, last, he, -⟩ := h c' hmem
      rw [show c'.key = c.key from hk, hg] at he
      cases he
    simp only [credentialWindow, hg] at hcap
    rw [hnil]
    exact ⟨le_rfl, hcap, by simp⟩
  | some e =>
    simp only [credentialWindow, hg, truthy_of_parse ht, Option.map_some] at hcap hmin
    have found : ∀ c' ∈ cardLimits.ofKey c.key l, c'.time + 3600000 ≤ c.time ∧
        (cardLimits.ofKey c.key l).length ≤ e.count := by
      intro c' hc'
      obtain ⟨hmem, hk⟩ := Limits.mem_ofKey.1 hc'
      obtain ⟨e', last, he, hlast, hle, hlen⟩ := h c' hmem
      rw [show c'.key = c.key from hk] at he hlen
      obtain rfl := Option.some.inj (hg.symm.trans he)
      have hm : (60 : ℚ) ≤ ((c.time - last) / 60000 : ℤ) :=
        hmin _ (by rw [minutesBetween, ht, hlast])
      have hm' : (60 : ℤ) ≤ (c.time - last) / 60000 := by exact_mod_cast hm
      exact ⟨by omega, hlen⟩
    have hlen : (cardLimits.ofKey c.key l).length ≤ e.count := by
      rcases (cardLimits.ofKey c.key l).eq_nil_or_concat with hnil | ⟨_, c', hcon⟩
      · rw [hnil]
        exact Nat.zero_le _
      · exact (found c' (by rw [hcon]; simp)).2
    refine ⟨hlen, ?_, fun c' hc' => (found c' hc').1⟩
    calc ((cardLimits.ofKey c.key l).length : ℤ) ≤ e.count := by exact_mod_cast hlen
      _ < cardLimits.cap c := hcap

/-- A charge that the guardrail lets through is within its limits, and counted. -/
theorem Tracks.charge (h : Tracks counts l) (ht : Date.parse t = some c.time)
    (hc : Cleared c.charge.method (credentialWindow counts c.key (some t))) :
    cardLimits.Clear l c ∧ Tracks (credentialIncrement counts c.key t) (l ++ [c]) := by
  obtain ⟨hlen, hcap, hgap⟩ := h.earlier ht hc
  refine ⟨⟨hcap, hgap⟩, fun c' hc' => ?_⟩
  rw [Limits.ofKey_concat]
  by_cases hk : c'.key = c.key
  · refine ⟨_, c.time, by rw [credentialIncrement, hk, Map.get_set_self], ht, ?_, ?_⟩
    · rcases List.mem_append.1 hc' with hc' | hc'
      · have := hgap c' (Limits.mem_ofKey.2 ⟨hc', hk⟩)
        omega
      · rw [List.mem_singleton.1 hc']
    · rw [hk, if_pos (show cardLimits.key c = c.key from rfl), List.length_append,
        List.length_singleton]
      exact Nat.succ_le_succ hlen
  · have hmem : c' ∈ l := by
      rcases List.mem_append.1 hc' with hc' | hc'
      · exact hc'
      · exact absurd (congrArg PlacedCharge.key (List.mem_singleton.1 hc')) hk
    obtain ⟨e, last, he, hlast, hle, hcount⟩ := h c' hmem
    refine ⟨e, last, ?_, hlast, hle, ?_⟩
    · rw [credentialIncrement, Map.get_set_ne _ hk]
      exact he
    · rw [if_neg (show ¬ cardLimits.key c = c'.key from fun h => hk h.symm), List.append_nil]
      exact hcount

end

/-! ## The charges of an execution -/

/-- The store has counted the charges, and they are within their limits. -/
def Kept (counts : Map String CredentialCount) (l : List PlacedCharge) : Prop :=
  Tracks counts l ∧ cardLimits.Paced l

/-- What an execution at an instant dealt with, after earlier charges, keeps to the limits. -/
def Dealt.Keeps (d : Dealt) (now : ℤ) (l : List PlacedCharge) : Prop :=
  (∀ a ∈ d.asked, a.answer.isSome) →
    Kept d.tally.credentials (l ++ d.asked.map fun a => ⟨a, now⟩)

section

variable (s : RecoveryCaseService) {p : ExecuteParams} {t : String} {now : ℤ}
  {l : List PlacedCharge} {tally : Tally}

/-- Without a charge nothing changes. -/
theorem Kept.nothing (h : Kept tally.credentials l) : (Dealt.mk [] tally).Keeps now l := by
  intro _
  simpa using h

/-- A charge that is answered was let through by the guardrail. -/
theorem Kept.reply (h : Kept tally.credentials l) (ht : Date.parse t = some now)
    (m : PaymentMethod) {allowed : Bool} {adapter : ProcessorAdapter} {n : ℕ}
    (hc : allowed → Cleared m (credentialWindow tally.credentials (credentialKey p.invoice.id m)
      (some t))) :
    ((replyTo s allowed adapter p.invoice m n tally).dealt s p m t tally).Keeps now l := by
  intro hret
  cases hr : replyTo s allowed adapter p.invoice m n tally with
  | withheld => simpa [Reply.dealt, Reply.asked, Reply.after] using h
  | rejected =>
    rw [hr] at hret
    exact absurd (hret _ List.mem_cons_self) (by simp)
  | answered c =>
    have ha : allowed = true := by
      by_contra hn
      rw [(replyTo_eq_withheld s).2 (by simpa using hn)] at hr
      cases hr
    obtain ⟨hclear, htracks⟩ := h.1.charge (c := ⟨⟨p.invoice, m,
      s.chargeKey p.invoice m p.attemptNumber, some c.result⟩, now⟩) ht (hc ha)
    exact ⟨htracks, h.2.concat hclear⟩

theorem Kept.backup (h : Kept tally.credentials l) (hp : p.nowIso = some t)
    (ht : Date.parse t = some now) (adapter : ProcessorAdapter) :
    (backupDealt s adapter p t tally).Keeps now l := by
  unfold backupDealt
  split
  · exact h.nothing
  · refine h.reply s ht _ fun ha => ?_
    rw [hp] at ha
    exact cleared_of_freshAllowed ha

theorem Kept.credentials (h : Kept tally.credentials l) (hp : p.nowIso = some t)
    (ht : Date.parse t = some now) (adapter : ProcessorAdapter) :
    (credentialsDealt s adapter p t t tally).Keeps now l := by
  unfold credentialsDealt
  split
  · exact h.backup s hp ht adapter
  next u _ =>
    have first : ((freshReply s adapter p u tally).dealt s p u t tally).Keeps now l := by
      refine h.reply s ht u fun ha => ?_
      rw [hp] at ha
      exact cleared_of_freshAllowed ha
    dsimp only
    split
    · exact first
    · intro hret
      simp only [List.forall_mem_append] at hret
      rw [List.map_append, ← List.append_assoc]
      exact (first hret.1).backup s hp ht adapter hret.2

/-- The charges of an execution are within their limits, and counted. -/
theorem Kept.executed (h : Kept tally.credentials l) (hp : p.nowIso = some t)
    (ht : Date.parse t = some now) (adapter : ProcessorAdapter) (action : RecoveryActionKind) :
    (executedDealt s adapter p t t tally action).Keeps now l := by
  cases action with
  | suppress => exact h.nothing
  | retry =>
    refine h.reply s ht p.method fun ha => ?_
    rw [Bool.and_eq_true, hp] at ha
    exact cleared_of_retryAllowed ha.1
  | cardUpdateComms =>
    simp only [executedDealt]
    split
    · exact h.nothing
    · exact h.credentials s hp ht adapter

end

/-! ## Runs -/

section

variable {σ : Type} (s : RecoveryCaseService) (env : Env σ)

/-- The charges that serving a request asks for, at the instant of its saga. -/
def placed (w : World σ) : Request → List PlacedCharge
  | .execute adapter p =>
    ((s.executeRecovery adapter p).observed (World.handle env) askedCharge w).map fun a =>
      ⟨a, (p.nowIso.bind Date.parse).getD 0⟩
  | _ => []

/-- The charges that a run asks for. -/
def placedAll : World σ → List Request → List PlacedCharge
  | _, [] => []
  | w, r :: rs => placed s env w r ++ placedAll (serve s env w r) rs

/-- An execution is given the time of its saga. -/
def Request.Timed : Request → Prop
  | .execute _ p => ∃ t ∈ p.nowIso, (Date.parse t).isSome
  | _ => True

instance : DecidablePred Request.Timed
  | .execute _ p => inferInstanceAs (Decidable (∃ t ∈ p.nowIso, (Date.parse t).isSome))
  | .webhook _ _ | .plan _ _ _ _ => .isTrue trivial

/-- Serving a request keeps to the limits, if the processor answers. -/
theorem Kept.serve {w : World σ} {l : List PlacedCharge} (h : Kept w.credentialAttempts l)
    {r : Request} (hr : r.Timed) (hret : ∀ c ∈ placed s env w r, c.charge.answer.isSome) :
    Kept (serve s env w r).credentialAttempts (l ++ placed s env w r) := by
  have unplaced : (∀ adapter p, r ≠ .execute adapter p) →
      Kept (AX10M.serve s env w r).credentialAttempts (l ++ placed s env w r) := by
    intro hne
    have hb : (AX10M.serve s env w r).credentialAttempts = w.credentialAttempts := by
      rcases serve_books s env w r with hb | ⟨adapter, p, rfl⟩
      · exact congrArg Books.credentials hb
      · exact absurd rfl (hne adapter p)
    rw [hb]
    have hnone : placed s env w r = [] := by
      cases r with
      | execute adapter p => exact absurd rfl (hne adapter p)
      | _ => rfl
    rw [hnone, List.append_nil]
    exact h
  cases r with
  | webhook event pid => exact unplaced (by simp)
  | plan invoice method decline n => exact unplaced (by simp)
  | execute adapter p =>
    obtain ⟨t, hp, hparse⟩ := hr
    obtain ⟨now, ht⟩ := Option.isSome_iff_exists.1 hparse
    obtain ⟨res, w', stamp, stamp', hst, hst', htally, -, ha⟩ := executeRecovery_asks s env adapter p w
    obtain rfl : t = stamp := hst t hp
    obtain rfl : t = stamp' := hst' t hp
    have hp : p.nowIso = some t := hp
    have hserve : (AX10M.serve s env w (.execute adapter p)).tally = w'.tally := by
      change (Prog.exec _ (Prog.bind (s.executeRecovery adapter p) fun _ => .pure ()) w).2.tally = _
      rw [Prog.exec_bind, ha.ends]
      cases res <;> rfl
    have hcred : (AX10M.serve s env w (.execute adapter p)).credentialAttempts =
        (executedDealt s adapter p t t w.tally (decisionAt env w p).action).tally.credentials := by
      rw [← htally, ← hserve]
      rfl
    simp only [placed, hp, Option.bind_some, ht, Option.getD_some, ha.sees] at hret ⊢
    rw [hcred]
    have hkept : Kept w.tally.credentials l := h
    refine hkept.executed s hp ht adapter _ fun a hmem => ?_
    exact hret _ (List.mem_map_of_mem hmem)

/-- A run of executions keeps to the limits. -/
theorem Kept.serveAll {rs : List Request} {w : World σ} {l : List PlacedCharge}
    (h : Kept w.credentialAttempts l) (hrs : ∀ r ∈ rs, r.Timed)
    (hret : ∀ c ∈ placedAll s env w rs, c.charge.answer.isSome) :
    Kept (serveAll s env w rs).credentialAttempts (l ++ placedAll s env w rs) := by
  induction rs generalizing w l with
  | nil =>
    rw [placedAll, List.append_nil]
    exact h
  | cons r rs ih =>
    simp only [placedAll, List.forall_mem_append] at hret
    rw [placedAll, ← List.append_assoc]
    refine ih (h.serve s env (hrs r List.mem_cons_self) hret.1) ?_ hret.2
    exact fun r' hr' => hrs r' (List.mem_cons_of_mem _ hr')

/-- In every run of executions, the charges of one invoice and card token stay within the cap of the
    network in every window of its length, and any two of them are its interval apart. -/
theorem charges_spaced (w : World σ) (rs : List Request) (hrs : ∀ r ∈ rs, r.Timed)
    (hret : ∀ c ∈ placedAll s env w rs, c.charge.answer.isSome)
    (hbrand : ∀ c ∈ placedAll s env w rs, ∀ c' ∈ placedAll s env w rs,
      c.charge.method.token = c'.charge.method.token →
        c.charge.method.brand = c'.charge.method.brand) :
    (∀ c ∈ placedAll s env w rs, ∀ cap ∈ networkCapOf c.charge.method, ∀ start : ℤ,
      (((placedAll s env w rs).filter fun c' => c.SamePair c' ∧ start ≤ c'.time ∧
        c'.time ≤ start + cap.windowDays * Date.msPerDay).length : ℤ) ≤
          cap.maxAttemptsPerWindow) ∧
    (placedAll s env w rs).Pairwise fun c c' => c.SamePair c' →
      ∀ cap ∈ networkCapOf c'.charge.method,
        cap.minMinutesBetween * 60000 ≤ ((c'.time - c.time : ℤ) : ℚ) := by
  have hkept : Kept (serveAll s env w rs).credentialAttempts ([] ++ placedAll s env w rs) :=
    Kept.serveAll s env ⟨by simp [Tracks], Limits.paced_nil⟩ hrs hret
  rw [List.nil_append] at hkept
  refine ⟨fun c hc cap hcap start => ?_, ?_⟩
  · have hlimit : cardLimits.cap c = cap.maxAttemptsPerWindow := by
      rw [cardLimits_cap, Option.mem_def.1 hcap]
      rfl
    have hpos : 0 ≤ cap.maxAttemptsPerWindow := by
      obtain ⟨before, after, heq⟩ := List.append_of_mem hc
      have := (hkept.2 before c after heq).1
      omega
    refine hkept.2.length_le (k := c.key) hpos fun c' hc' hP => ?_
    simp only [decide_eq_true_eq] at hP
    refine ⟨hP.1.key.symm, ?_⟩
    rw [← hlimit, cardLimits_cap, cardLimits_cap, networkCapOf, networkCapOf,
      hbrand c hc c' hc' hP.1.2]
  · refine hkept.2.pairwise.imp fun {c c'} h hsame cap hcap => ?_
    have hms : c.time + 3600000 ≤ c'.time := h hsame.key
    have hmin : cap.minMinutesBetween = 60 := by
      obtain ⟨caps, hcaps, rfl⟩ := Option.map_eq_some_iff.1 hcap
      exact default_minMinutesBetween hcaps _
    have hq : (3600000 : ℚ) ≤ ((c'.time - c.time : ℤ) : ℚ) := by
      have : (3600000 : ℤ) ≤ c'.time - c.time := by omega
      exact_mod_cast this
    rw [hmin]
    exact le_trans (by norm_num) hq

end

/-- Two attempts on the sample invoice, two hours apart, that the processor declines. -/
def Sample.retries : List Request :=
  let adapter := { Sample.stripe with respond := fun _ _ _ => some { outcome := .failed } }
  [.execute adapter Sample.attempt,
    .execute adapter { Sample.attempt with
      attemptNumber := 2, nowIso := some "2026-08-16T14:00:00.000Z" }]

/-- Both of them are charged, an hour apart at least. -/
theorem charges_spaced_sample :
    (placedAll Sample.service Sample.env Sample.world Sample.retries).length = 2 ∧
    (placedAll Sample.service Sample.env Sample.world Sample.retries).Pairwise fun c c' =>
      c.SamePair c' → ∀ cap ∈ networkCapOf c'.charge.method,
        cap.minMinutesBetween * 60000 ≤ ((c'.time - c.time : ℤ) : ℚ) :=
  ⟨by decide +kernel, (charges_spaced Sample.service Sample.env Sample.world Sample.retries
    (by decide +kernel) (by decide +kernel) (by decide +kernel)).2⟩

end AX10M
