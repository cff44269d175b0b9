/-
  Which composed messages are valid (`dunning.ts`).

  A message of the language model is validated, the template is not.  The template always has the
  link, the opt-out and a subject, so that it comes down to the card numbers in the texts it is
  made of and to their length (`template_valid_iff`); and the scan for card numbers finds those
  that stand as words (`composed_iff`).
-/
import AX10M.Comms.Dunning
import AX10M.Js.Runs

namespace AX10M

open Js

/-! ## What a text includes, and its length -/

theorem includesList_append (needle before after : List Char) :
    includesList needle (before ++ (needle ++ after)) = true := by
  induction before with
  | nil =>
    rw [List.nil_append]
    cases hcs : needle ++ after with
    | nil =>
      rw [(List.append_eq_nil_iff.1 hcs).1]
      rfl
    | cons c cs =>
      have hprefix : needle.isPrefixOf (c :: cs) = true := by
        rw [← hcs]
        exact List.isPrefixOf_iff_prefix.2 (List.prefix_append needle after)
      rw [includesList, hprefix]
      rfl
  | cons c before ih =>
    rw [List.cons_append, includesList, ih, Bool.or_true]

theorem includes_append (before needle after : String) :
    includes (before ++ (needle ++ after)) needle = true := by
  rw [includes, String.toList_append, String.toList_append]
  exact includesList_append _ _ _

/-- The length of a text. -/
def len (s : String) : ℕ := (utf16 s).length

theorem len_append (s t : String) : len (s ++ t) = len s + len t := by
  rw [len, utf16, String.toList_append, List.flatMap_append, List.length_append]
  rfl

theorem trim_ne_empty {s : String} {c : Char} (hc : c ∈ s.toList) (hs : isSpace c = false) :
    trim s ≠ "" := by
  intro h
  have hnil := congrArg String.toList h
  rw [trim, String.toList_ofList] at hnil
  exact trimList_ne_nil hc hs hnil

/-! ## Validation -/

/-- What is asked of a message besides that it has no card number. -/
structure Complete (msg : DunningMessage) (ctx : DunningContext) : Prop where
  body : trim msg.body ≠ ""
  link : includes msg.body ctx.updateCardUrl = true
  optOut : hasOptOut msg ctx = true
  length : len msg.body ≤ ctx.channel.maxBody
  subject : ctx.channel = .email → trim (msg.subject.getD "") ≠ ""

theorem containsPanLike_iff (s : String) : containsPanLike s = true ↔ HasWordRun s :=
  panWordSomewhere_iff s

/-- A message is valid if and only if it has what is asked and no run of digits as a word. -/
theorem validateMessage_iff (msg : DunningMessage) (ctx : DunningContext) :
    validateMessage msg ctx = .ok () ↔ ¬ HasWordRun msg.full ∧ Complete msg ctx := by
  rw [← containsPanLike_iff]
  unfold validateMessage
  constructor
  · intro h
    by_cases hbody : trim msg.body = ""
    · simp [hbody] at h
    by_cases hpan : containsPanLike msg.full = true
    · simp [hbody, hpan] at h
    by_cases hlink : includes msg.body ctx.updateCardUrl = true
    swap
    · simp [hbody, hpan, hlink] at h
    by_cases hopt : hasOptOut msg ctx = true
    swap
    · simp [hbody, hpan, hlink, hopt] at h
    rw [if_neg hbody, if_neg hpan, hlink, hopt, if_neg (by decide), if_neg (by decide)] at h
    by_cases hlen : (utf16 msg.body).length > ctx.channel.maxBody
    · rw [if_pos hlen] at h
      cases h
    refine ⟨hpan, hbody, hlink, hopt, not_lt.1 hlen, ?_⟩
    intro hemail hsubject
    rw [if_neg hlen, if_pos ⟨hemail, hsubject⟩] at h
    cases h
  · rintro ⟨hpan, hbody, hlink, hopt, hlen, hsubject⟩
    have hshort : ¬ (utf16 msg.body).length > ctx.channel.maxBody := not_lt.2 hlen
    rw [if_neg hbody, if_neg hpan, hlink, hopt, if_neg (by decide), if_neg (by decide),
      if_neg hshort, if_neg fun h => hsubject h.1 h.2]

/-! ## The texts of the template -/

/-- The parts of a template from an amount to what comes behind the reason. -/
def reasonParts (amount lead : String) (ctx : DunningContext) (tail : String) :
    List (String × String) :=
  match ctx.cardLast4.filter (· ≠ "") with
  | some last4 => [(amount, lead ++ humanReason ctx.declineCode ++ " (card ending "),
      (last4, ")" ++ tail)]
  | none => [(amount, lead ++ humanReason ctx.declineCode ++ tail)]

/-- The parts of the template that are scanned, and the last of them. -/
def templateParts (intl : CurrencyFormat) (ctx : DunningContext) : List (String × String) × String :=
  let amount := Comms.money intl ctx.amountMinor ctx.currency
  match ctx.channel with
  | .sms => ([("", "\n"), (ctx.merchantName, ": your ")] ++
      reasonParts amount " payment didn't go through — " ctx ". Update your card: " ++
      [(ctx.updateCardUrl, " — ")], ctx.optOutInstruction)
  | .email => ([("Action", " needed: update your payment method for "),
      (ctx.merchantName, "\nHi "), (ctx.who, ",\n\nWe tried to process your payment of "),
      (amount, " to ")] ++
      reasonParts ctx.merchantName ", but " ctx
        ".\n\nTo keep your subscription active, please update your card here:\n" ++
      [(ctx.updateCardUrl, "\n\n"), (ctx.optOutInstruction, "\n\nThanks,\n")], ctx.merchantName)

theorem interleave_reasonParts (amount lead : String) (ctx : DunningContext) (tail rest : String) :
    interleave (reasonParts amount lead ctx tail) rest =
      amount ++ (lead ++ (humanReason ctx.declineCode ++ (ctx.last4 ++ (tail ++ rest)))) := by
  unfold reasonParts DunningContext.last4
  cases ctx.cardLast4.filter (· ≠ "") with
  | some last4 => simp only [interleave, String.append_assoc]
  | none => simp only [interleave, String.append_assoc, String.empty_append]

theorem template_full (intl : CurrencyFormat) (ctx : DunningContext) :
    (composeTemplate intl ctx).full =
      interleave (templateParts intl ctx).1 (templateParts intl ctx).2 := by
  unfold composeTemplate templateParts DunningMessage.full
  cases ctx.channel with
  | sms =>
    simp only [interleave_append, interleave_reasonParts, interleave, String.append_assoc,
      String.empty_append, Option.getD_none]
  | email =>
    have haction : "Action needed: update your payment method for " =
      "Action" ++ " needed: update your payment method for " := by decide +kernel
    have hhi : "\nHi " = "\n" ++ "Hi " := by decide +kernel
    have htried : ",\n\nWe tried to process your payment of " =
      ",\n\n" ++ "We tried to process your payment of " := by decide +kernel
    have hkeep : ".\n\nTo keep your subscription active, please update your card here:\n" =
      ".\n\n" ++ "To keep your subscription active, please update your card here:\n" := by
      decide +kernel
    have hthanks : "\n\nThanks,\n" = "\n\n" ++ "Thanks,\n" := by decide +kernel
    simp only [interleave_append, interleave_reasonParts, interleave, String.append_assoc,
      Option.getD_some]
    rw [haction, hhi, htried, hkeep, hthanks]
    simp only [String.append_assoc]


/-- The reasons that are given. -/
def humanReasons : List String :=
  ["your card on file has expired", "your card was reported lost or stolen",
    "the account for your card is closed", "your card can no longer be charged",
    "we couldn't process your card"]

theorem humanReason_mem (code : DeclineCode) : humanReason code ∈ humanReasons := by
  cases code <;> simp [humanReason, humanReasons]

theorem isGap_reason (code : DeclineCode) {lead tail : String} (hlead : isGap lead.toList = true)
    (htail : isGap tail.toList = true) :
    isGap (lead ++ humanReason code ++ tail).toList = true := by
  have hplain : (humanReasons.all fun reason => reason.toList.all fun c => !c.isDigit) = true := by
    decide +kernel
  rw [String.append_assoc, String.toList_append, String.toList_append]
  exact isGap_around hlead (List.all_eq_true.1 hplain _ (humanReason_mem code)) htail

theorem areGaps_append (gaps gaps' : List String) :
    areGaps (gaps ++ gaps') = (areGaps gaps && areGaps gaps') := List.all_append

/-- What stands between the texts of a reason keeps them apart. -/
theorem areGaps_reasonParts (amount : String) (ctx : DunningContext) {lead tail : String}
    (hlead : isGap lead.toList = true) (htail : isGap tail.toList = true) :
    areGaps ((reasonParts amount lead ctx tail).map Prod.snd) = true := by
  have hcard : isGap " (card ending ".toList = true := by decide +kernel
  have hclose : isGap ")".toList = true := by decide +kernel
  unfold reasonParts
  cases ctx.cardLast4.filter (· ≠ "") with
  | some last4 =>
    have hbehind : isGap (")" ++ tail).toList = true := by
      rw [String.toList_append]
      exact @isGap_around _ [] _ hclose rfl htail
    simp only [List.map_cons, List.map_nil, areGaps, List.all_cons, List.all_nil, Bool.and_true,
      isGap_reason _ hlead hcard, hbehind]
  | none =>
    simp only [List.map_cons, List.map_nil, areGaps, List.all_cons, List.all_nil, Bool.and_true,
      isGap_reason _ hlead htail]

theorem template_gaps (intl : CurrencyFormat) (ctx : DunningContext) :
    areGaps ((templateParts intl ctx).1.map Prod.snd) = true := by
  unfold templateParts
  cases ctx.channel with
  | sms =>
    have hfirst : areGaps ["\n", ": your "] = true := by decide +kernel
    have hlast : areGaps [" — "] = true := by decide +kernel
    have hlead : isGap " payment didn't go through — ".toList = true := by decide +kernel
    have htail : isGap ". Update your card: ".toList = true := by decide +kernel
    simp only [List.map_append, areGaps_append, areGaps_reasonParts _ ctx hlead htail,
      List.map_cons, List.map_nil, hfirst, hlast, Bool.and_self]
  | email =>
    have hfirst : areGaps [" needed: update your payment method for ", "\nHi ",
      ",\n\nWe tried to process your payment of ", " to "] = true := by decide +kernel
    have hlast : areGaps ["\n\n", "\n\nThanks,\n"] = true := by decide +kernel
    have hlead : isGap ", but ".toList = true := by decide +kernel
    have htail : isGap
        ".\n\nTo keep your subscription active, please update your card here:\n".toList = true := by
      decide +kernel
    simp only [List.map_append, areGaps_append, areGaps_reasonParts _ ctx hlead htail,
      List.map_cons, List.map_nil, hfirst, hlast, Bool.and_self]

theorem not_hasWordRun_empty : ¬ HasWordRun "" := by
  rw [← containsPanLike_iff]
  exact Bool.false_ne_true

theorem not_hasWordRun_there : ¬ HasWordRun "there" := by
  rw [← containsPanLike_iff, Bool.not_eq_true]
  exact containsPanLike_short (by decide)

theorem not_hasWordRun_action : ¬ HasWordRun "Action" := by
  rw [← containsPanLike_iff, Bool.not_eq_true]
  exact containsPanLike_short (by decide)

/-- A text that is missing or empty has no run. -/
theorem hasWordRun_filter (s : Option String) :
    HasWordRun (s.getD "") ↔ ∃ t ∈ s.filter (· ≠ ""), HasWordRun t := by
  cases s with
  | none =>
    constructor
    · intro h
      exact absurd h not_hasWordRun_empty
    · rintro ⟨t, ht, -⟩
      cases ht
  | some t =>
    by_cases ht : t = ""
    · subst ht
      constructor
      · intro h
        exact absurd h not_hasWordRun_empty
      · rintro ⟨t, ht, -⟩
        simp at ht
    · simp [Option.filter, ht]

theorem hasWordRun_who (ctx : DunningContext) :
    HasWordRun ctx.who ↔ HasWordRun (ctx.customerName.getD "") := by
  rw [hasWordRun_filter, DunningContext.who]
  cases ctx.customerName.filter (· ≠ "") with
  | none =>
    constructor
    · intro h
      exact absurd h not_hasWordRun_there
    · rintro ⟨t, ht, -⟩
      cases ht
  | some t => simp

theorem reasonParts_any (amount lead : String) (ctx : DunningContext) (tail : String) :
    ((reasonParts amount lead ctx tail).any fun p => containsPanLike p.1) = true ↔
      HasWordRun amount ∨ HasWordRun (ctx.cardLast4.getD "") := by
  rw [hasWordRun_filter]
  unfold reasonParts
  cases ctx.cardLast4.filter (· ≠ "") with
  | some last4 =>
    simp only [List.any_cons, List.any_nil, Bool.or_false, Bool.or_eq_true, containsPanLike_iff,
      Option.mem_def, Option.some.injEq, exists_eq_left']
  | none =>
    simp only [List.any_cons, List.any_nil, Bool.or_false, containsPanLike_iff, Option.mem_def,
      reduceCtorEq, false_and, exists_false, or_false]

/-- The template has a run as a word if and only if one of its texts does. -/
theorem template_hasWordRun (intl : CurrencyFormat) (ctx : DunningContext) :
    HasWordRun (composeTemplate intl ctx).full ↔
      HasWordRun ctx.merchantName ∨
        HasWordRun (Comms.money intl ctx.amountMinor ctx.currency) ∨
        HasWordRun (ctx.cardLast4.getD "") ∨
        ctx.channel = .email ∧ HasWordRun (ctx.customerName.getD "") ∨
        HasWordRun ctx.updateCardUrl ∨ HasWordRun ctx.optOutInstruction := by
  rw [← containsPanLike_iff, template_full, containsPanLike_interleave (template_gaps intl ctx),
    Bool.or_eq_true]
  unfold templateParts
  cases ctx.channel with
  | sms =>
    simp only [List.any_append, Bool.or_eq_true, reasonParts_any, List.any_cons, List.any_nil,
      Bool.or_false, containsPanLike_iff, not_hasWordRun_empty, false_or, reduceCtorEq, false_and]
    tauto
  | email =>
    simp only [List.any_append, Bool.or_eq_true, reasonParts_any, List.any_cons, List.any_nil,
      Bool.or_false, containsPanLike_iff, not_hasWordRun_action, false_or, true_and,
      hasWordRun_who]
    tauto

/-! ## The length of the template -/

/-- The length of the body that the template has. -/
def templateLength (intl : CurrencyFormat) (ctx : DunningContext) : ℕ :=
  let amount := len (Comms.money intl ctx.amountMinor ctx.currency)
  let reason := len (humanReason ctx.declineCode)
  let last4 := match ctx.cardLast4.filter (· ≠ "") with
    | some last4 => 15 + len last4
    | none => 0
  let shared := amount + reason + last4 + len ctx.updateCardUrl + len ctx.optOutInstruction
  match ctx.channel with
  | .sms => 59 + len ctx.merchantName + shared
  | .email => 131 + len ctx.who + len ctx.merchantName + len ctx.merchantName + shared

theorem len_last4 (ctx : DunningContext) :
    len ctx.last4 = match ctx.cardLast4.filter (· ≠ "") with
      | some last4 => 15 + len last4
      | none => 0 := by
  have hopen : len " (card ending " = 14 := by decide +kernel
  have hclose : len ")" = 1 := by decide +kernel
  unfold DunningContext.last4
  cases ctx.cardLast4.filter (· ≠ "") with
  | some last4 =>
    simp only [len_append, hopen, hclose]
    omega
  | none => rfl

theorem len_template (intl : CurrencyFormat) (ctx : DunningContext) :
    len (composeTemplate intl ctx).body = templateLength intl ctx := by
  unfold composeTemplate templateLength
  rw [← len_last4]
  cases ctx.channel with
  | sms =>
    have h₁ : len ": your " = 7 := by decide +kernel
    have h₂ : len " payment didn't go through — " = 29 := by decide +kernel
    have h₃ : len ". Update your card: " = 20 := by decide +kernel
    have h₄ : len " — " = 3 := by decide +kernel
    simp only [len_append, h₁, h₂, h₃, h₄]
    omega
  | email =>
    have h₁ : len "Hi " = 3 := by decide +kernel
    have h₂ : len ",\n\n" = 3 := by decide +kernel
    have h₃ : len "We tried to process your payment of " = 36 := by decide +kernel
    have h₄ : len " to " = 4 := by decide +kernel
    have h₅ : len ", but " = 6 := by decide +kernel
    have h₆ : len ".\n\n" = 3 := by decide +kernel
    have h₇ : len "To keep your subscription active, please update your card here:\n" = 64 := by
      decide +kernel
    have h₈ : len "\n\n" = 2 := by decide +kernel
    have h₉ : len "Thanks,\n" = 8 := by decide +kernel
    simp only [len_append, h₁, h₂, h₃, h₄, h₅, h₆, h₇, h₈, h₉]
    omega

/-! ## Valid messages -/

/-- The template has the link, the opt-out and a subject, and is not blank. -/
theorem template_texts (intl : CurrencyFormat) (ctx : DunningContext) :
    includes (composeTemplate intl ctx).body ctx.updateCardUrl = true ∧
      includes (composeTemplate intl ctx).body ctx.optOutInstruction = true ∧
      trim (composeTemplate intl ctx).body ≠ "" ∧
      (ctx.channel = .email → trim ((composeTemplate intl ctx).subject.getD "") ≠ "") := by
  unfold composeTemplate
  cases ctx.channel with
  | sms =>
    refine ⟨?_, ?_, ?_, fun h => by cases h⟩
    · have h := includes_append (ctx.merchantName ++ ": your " ++
        Comms.money intl ctx.amountMinor ctx.currency ++ " payment didn't go through — " ++
        humanReason ctx.declineCode ++ ctx.last4 ++ ". Update your card: ") ctx.updateCardUrl
        (" — " ++ ctx.optOutInstruction)
      simp only [String.append_assoc] at h ⊢
      exact h
    · have h := includes_append (ctx.merchantName ++ ": your " ++
        Comms.money intl ctx.amountMinor ctx.currency ++ " payment didn't go through — " ++
        humanReason ctx.declineCode ++ ctx.last4 ++ ". Update your card: " ++
        ctx.updateCardUrl ++ " — ") ctx.optOutInstruction ""
      simp only [String.append_assoc, String.append_empty] at h ⊢
      exact h
    · have hcolon : ':' ∈ ": your ".toList := by decide
      refine trim_ne_empty ?_ (by decide : isSpace ':' = false)
      simp only [String.toList_append, List.mem_append, hcolon, or_true, true_or]
  | email =>
    refine ⟨?_, ?_, ?_, fun _ => ?_⟩
    · have h := includes_append ("Hi " ++ ctx.who ++ ",\n\n" ++
        "We tried to process your payment of " ++
        Comms.money intl ctx.amountMinor ctx.currency ++ " to " ++ ctx.merchantName ++
        ", but " ++ humanReason ctx.declineCode ++ ctx.last4 ++ ".\n\n" ++
        "To keep your subscription active, please update your card here:\n") ctx.updateCardUrl
        ("\n\n" ++ ctx.optOutInstruction ++ "\n\n" ++ "Thanks,\n" ++ ctx.merchantName)
      simp only [String.append_assoc] at h ⊢
      exact h
    · have h := includes_append ("Hi " ++ ctx.who ++ ",\n\n" ++
        "We tried to process your payment of " ++
        Comms.money intl ctx.amountMinor ctx.currency ++ " to " ++ ctx.merchantName ++
        ", but " ++ humanReason ctx.declineCode ++ ctx.last4 ++ ".\n\n" ++
        "To keep your subscription active, please update your card here:\n" ++
        ctx.updateCardUrl ++ "\n\n") ctx.optOutInstruction
        ("\n\n" ++ "Thanks,\n" ++ ctx.merchantName)
      simp only [String.append_assoc] at h ⊢
      exact h
    · have hletter : 'H' ∈ "Hi ".toList := by decide
      refine trim_ne_empty ?_ (by decide : isSpace 'H' = false)
      simp only [String.toList_append, List.mem_append, hletter, true_or]
    · have hletter : 'A' ∈ "Action needed: update your payment method for ".toList := by
        decide
      refine trim_ne_empty ?_ (by decide : isSpace 'A' = false)
      rw [Option.getD_some, String.toList_append]
      exact List.mem_append_left _ hletter

/-- The template meets everything that is asked but the length. -/
theorem template_complete (intl : CurrencyFormat) (ctx : DunningContext) :
    Complete (composeTemplate intl ctx) ctx ↔ templateLength intl ctx ≤ ctx.channel.maxBody := by
  rw [← len_template]
  constructor
  · intro h
    exact h.length
  · intro hlen
    obtain ⟨hlink, hopt, hbody, hsubject⟩ := template_texts intl ctx
    have hoptOut : hasOptOut (composeTemplate intl ctx) ctx = true := by
      rw [hasOptOut, hopt, Bool.true_or]
    exact ⟨hbody, hlink, hoptOut, hlen, hsubject⟩

/-- The texts that the template is made of have no run of digits as a word and are short. -/
structure TemplateSafe (intl : CurrencyFormat) (ctx : DunningContext) : Prop where
  merchantName : ¬ HasWordRun ctx.merchantName
  amount : ¬ HasWordRun (Comms.money intl ctx.amountMinor ctx.currency)
  cardLast4 : ¬ HasWordRun (ctx.cardLast4.getD "")
  customerName : ctx.channel = .email → ¬ HasWordRun (ctx.customerName.getD "")
  updateCardUrl : ¬ HasWordRun ctx.updateCardUrl
  optOutInstruction : ¬ HasWordRun ctx.optOutInstruction
  length : templateLength intl ctx ≤ ctx.channel.maxBody

theorem template_valid_iff (intl : CurrencyFormat) (ctx : DunningContext) :
    validateMessage (composeTemplate intl ctx) ctx = .ok () ↔ TemplateSafe intl ctx := by
  rw [validateMessage_iff, template_hasWordRun, template_complete]
  constructor
  · rintro ⟨hnone, hlen⟩
    refine ⟨?_, ?_, ?_, ?_, ?_, ?_, hlen⟩
    · exact fun h => hnone (.inl h)
    · exact fun h => hnone (.inr (.inl h))
    · exact fun h => hnone (.inr (.inr (.inl h)))
    · exact fun hemail h => hnone (.inr (.inr (.inr (.inl ⟨hemail, h⟩))))
    · exact fun h => hnone (.inr (.inr (.inr (.inr (.inl h)))))
    · exact fun h => hnone (.inr (.inr (.inr (.inr (.inr h)))))
  · intro h
    refine ⟨?_, h.length⟩
    rintro (hrun | hrun | hrun | ⟨hemail, hrun⟩ | hrun | hrun)
    · exact h.merchantName hrun
    · exact h.amount hrun
    · exact h.cardLast4 hrun
    · exact h.customerName hemail hrun
    · exact h.updateCardUrl hrun
    · exact h.optOutInstruction hrun

/-- A composed message is one of the language model that is valid, or the template. -/
theorem compose_cases (intl : CurrencyFormat) (opts : LlmDunningOptions) (llm : LlmClient)
    (ctx : DunningContext) :
    validateMessage (LlmDunningAgent.compose intl opts llm ctx) ctx = .ok () ∨
      LlmDunningAgent.compose intl opts llm ctx = composeTemplate intl ctx := by
  unfold LlmDunningAgent.compose
  simp only
  split
  next msg _ =>
    cases hvalid : validateMessage msg ctx with
    | ok u => exact .inl hvalid
    | error e => exact .inr rfl
  next => exact .inr rfl

/-- Whatever the language model does, the message is valid, exactly when the texts of the template
    are safe; and no valid message has a run of 13 digits or more, exactly when the runs of a
    message include one that stands as a word, or something else is wrong with it. -/
theorem composed_iff (intl : CurrencyFormat) (opts : LlmDunningOptions) (ctx : DunningContext) :
    ((∀ llm, validateMessage (LlmDunningAgent.compose intl opts llm ctx) ctx = .ok ()) ↔
      TemplateSafe intl ctx) ∧
    ∀ msg : DunningMessage,
      ((validateMessage msg ctx = .ok () → ¬ HasRun 13 msg.full) ↔
        (HasRun 13 msg.full → HasWordRun msg.full ∨ ¬ Complete msg ctx)) := by
  constructor
  · rw [← template_valid_iff]
    constructor
    · intro h
      -- the template is what is left of a language model that fails
      exact h fun _ => .error "overloaded"
    · intro h llm
      rcases compose_cases intl opts llm ctx with hvalid | htemplate
      · exact hvalid
      · rw [htemplate]
        exact h
  · intro msg
    rw [validateMessage_iff]
    constructor
    · intro h hrun
      by_contra hnone
      rw [not_or, not_not] at hnone
      exact h hnone hrun
    · rintro h ⟨hword, hcomplete⟩ hrun
      rcases h hrun with hthis | hthis
      · exact hword hthis
      · exact hthis hcomplete

namespace Sample

/-- A merchant whose name has a card number in it. -/
def cardContext : DunningContext where
  channel := .email
  declineCode := .expiredCard
  merchantName := "Shop 4242424242424242"
  amountMinor := 1299
  currency := "USD"
  updateCardUrl := "https://pay.example/u"
  optOutInstruction := "Reply STOP"
  cardLast4 := none

/-- A text of the language model with a card number behind a letter. -/
def letteredMessage : DunningMessage where
  channel := .email
  subject := some "Card"
  body := "Card x4242424242424242: https://pay.example/u Reply STOP"
  generatedBy := .llm

/-- A platform that formats nothing. -/
def noFormat : CurrencyFormat := fun _ _ => none

end Sample

/-- The template is refused for the card number in the name, and a card number behind a letter is
    accepted. -/
theorem composed_fails :
    validateMessage (LlmDunningAgent.compose Sample.noFormat {} (fun _ => .error "overloaded")
        Sample.cardContext) Sample.cardContext = .error "PAN-like sequence present" ∧
      validateMessage Sample.letteredMessage Sample.cardContext = .ok () ∧
      HasRun 13 Sample.letteredMessage.full := by
  refine ⟨?_, ?_, ?_⟩
  · have hpan : containsPanLike (composeTemplate Sample.noFormat Sample.cardContext).full = true :=
      (containsPanLike_iff _).2 ((template_hasWordRun _ _).2
        (.inl ((containsPanLike_iff _).1 (by decide +kernel))))
    have hbody := (template_texts Sample.noFormat Sample.cardContext).2.2.1
    show validateMessage (composeTemplate Sample.noFormat Sample.cardContext) _ = _
    rw [validateMessage, if_neg hbody, if_pos hpan]
  · decide +kernel
  · exact (panSomewhere_iff _).1 (by decide +kernel)

end AX10M
