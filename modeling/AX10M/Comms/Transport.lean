/-
  The senders of `@ax10m/comms` (`sender.ts`): a dry run, Postmark, Twilio, one that routes by
  channel, and one that retries.

  A sender is a program over requests to a provider and waits.  `built_sends`: whatever the network
  does, a sender that is built of these makes a bounded number of requests, none for a message that
  is refused; every request but the last failed in a way that is worth a retry; and a message is
  reported as sent if and only if the last request was accepted.  `built_carries`: what is requested
  is the message, for its recipient.  `retrying_run`: how a provider is retried.
-/
import AX10M.Comms.Sender
import AX10M.Effects.Trace
import AX10M.Js.Bytes
import AX10M.Js.Keys
import AX10M.Js.Parse
import AX10M.RecoveryEngine
import Mathlib.Tactic.Ring

namespace AX10M.Transport

open Js Effects

/-! ## Requests -/

structure HttpRequest where
  url : String
  headers : List (String × String)
  body : String

/-- What a provider answers: its body, or what reading it throws, and the fields of the body if it is
    JSON (`parseJsonField`). -/
structure FetchResponse where
  ok : Bool
  status : ℕ
  text : Except String String
  field : String → Option String

inductive TransportOp where
  /-- `POST` a request; a network failure or a timeout throws -/
  | fetch (request : HttpRequest)
  | sleep (ms : ℚ)
  | sink (message : DunningMessage) (recipient : DunningRecipient)

@[reducible] def TransportOp.Res : TransportOp → Type
  | fetch _ => Except String FetchResponse
  | _ => Unit

abbrev TransportSig : Sig := ⟨TransportOp, TransportOp.Res⟩

/-- `SendResult`, with what the retries read. -/
structure TransportResult extends SendResult where
  channel : DunningChannel
  retriable : Option Bool := none

/-- `DunningSender`. -/
abbrev Sender := DunningMessage → DunningRecipient → Prog TransportSig TransportResult

/-- What is thrown while a message is sent. -/
inductive SendError where
  | refused (reason : String)
  | thrown (message : String)

/-- Turn any thrown error into a `failed` result. -/
def failed (channel : DunningChannel) (provider : String) : SendError → TransportResult
  | .refused reason =>
    { status := .failed, channel, provider, error := some reason, retriable := some false }
  | .thrown message =>
    { status := .failed, channel, provider, error := some message, retriable := some true }

/-- An HTTP status is worth retrying when it is a server error or explicit rate-limit. -/
def httpRetriable (status : ℕ) : Bool := 500 ≤ status || status = 429

/-! ## Senders -/

/-- The first code units of a text (`text.slice(0, n)`). -/
def sliceUnits : ℕ → List Char → List Char
  | _, [] => []
  | n, c :: cs => if (units c).length ≤ n then c :: sliceUnits (n - (units c).length) cs else []

/-- Post a message that is sendable, and read the answer. -/
def post (channel : DunningChannel) (provider idField : String)
    (request : DunningMessage → DunningRecipient → HttpRequest) : Sender := fun message recipient =>
  match assertSendable message recipient with
  | .error reason => .pure (failed channel provider (.refused reason))
  | .ok () => .op (.fetch (request message recipient)) fun
    | .error thrown => .pure (failed channel provider (.thrown thrown))
    | .ok res =>
      match res.text with
      | .error thrown => .pure (failed channel provider (.thrown thrown))
      | .ok raw =>
        if !res.ok then
          .pure {
            status := .failed, channel, provider
            error := some s!"HTTP {res.status}: {String.ofList (sliceUnits 200 raw.toList)}"
            retriable := some (httpRetriable res.status) }
        else
          .pure { status := .sent, channel, provider, providerMessageId := res.field idField }

/-- The safe default: it validates, and sends nothing. -/
def dryRun (sink : Bool) : Sender := fun message recipient =>
  match assertSendable message recipient with
  | .error reason => .pure (failed message.channel "dry-run" (.refused reason))
  | .ok () =>
    let result : TransportResult :=
      { status := .dryRun, channel := message.channel, provider := "dry-run" }
    if sink then .op (.sink message recipient) fun _ => .pure result else .pure result

structure PostmarkConfig where
  serverToken : String
  fromEmail : String
  messageStream : Option String := none
  baseUrl : Option String := none
  serverToken_ne : serverToken ≠ ""
  fromEmail_ne : fromEmail ≠ ""

/-- The fields of a mail. -/
def mailFields (cfg : PostmarkConfig) (message : DunningMessage) (recipient : DunningRecipient) :
    Record :=
  [("From", .str cfg.fromEmail)] ++ Record.opt "To" (recipient.email.map .str) ++
    [("Subject", .str (message.subject.getD "")), ("TextBody", .str message.body),
      ("MessageStream", .str (cfg.messageStream.getD "outbound"))]

/-- Email via Postmark. -/
def postmark (cfg : PostmarkConfig) : Sender :=
  post .email "postmark" "MessageID" fun message recipient => {
    url := cfg.baseUrl.getD "https://api.postmarkapp.com" ++ "/email"
    headers := [("content-type", "application/json"), ("accept", "application/json"),
      ("x-postmark-server-token", cfg.serverToken)]
    body := String.ofList (stringify (.obj (mailFields cfg message recipient))) }

structure TwilioConfig where
  accountSid : String
  authToken : String
  fromNumber : String
  baseUrl : Option String := none
  accountSid_ne : accountSid ≠ ""
  authToken_ne : authToken ≠ ""
  fromNumber_ne : fromNumber ≠ ""

/-- The fields of a text message; without a phone, the text of what is missing. -/
def smsFields (cfg : TwilioConfig) (message : DunningMessage) (recipient : DunningRecipient) :
    List (String × String) :=
  [("To", recipient.phone.getD "undefined"), ("From", cfg.fromNumber), ("Body", message.body)]

/-- SMS via Twilio. -/
def twilio (cfg : TwilioConfig) : Sender :=
  post .sms "twilio" "sid" fun message recipient => {
    url := cfg.baseUrl.getD "https://api.twilio.com" ++ "/2010-04-01/Accounts/" ++ cfg.accountSid ++
      "/Messages.json"
    headers := [("content-type", "application/x-www-form-urlencoded"),
      ("authorization", "Basic " ++ Base64.encode (utf8 (cfg.accountSid ++ ":" ++ cfg.authToken)))]
    body := FormUrl.encodeTexts (smsFields cfg message recipient) }

/-- Each message to the sender configured for its channel. -/
def composite (email sms : Option Sender) : Sender := fun message recipient =>
  match (match message.channel with | .email => email | .sms => sms) with
  | some target => target message recipient
  | none => .pure {
      status := .failed, channel := message.channel, provider := "composite"
      error := some ("no sender configured for channel " ++ message.channel.text) }

structure RetryOptions where
  maxAttempts : Option ℤ := none
  backoffMs : Option (ℕ → ℚ) := none

/-- Total attempts including the first. -/
def RetryOptions.max (opts : RetryOptions) : ℕ := (Max.max 1 (opts.maxAttempts.getD 3)).toNat

def defaultBackoff (failedAttempt : ℕ) : ℚ := 200 * 2 ^ (failedAttempt - 1)

/-- A result that is worth another try. -/
def TransportResult.isRetriable (r : TransportResult) : Bool :=
  r.status = .failed && r.retriable = some true

/-- Try number `attempt`, and `left` more. -/
def tries (inner : Prog TransportSig TransportResult) (backoff : ℕ → ℚ) :
    ℕ → ℕ → Prog TransportSig TransportResult
  | 0, attempt => inner.bind fun last => .pure { last with attempts := some attempt }
  | left + 1, attempt => inner.bind fun last =>
    if last.isRetriable then .op (.sleep (backoff attempt)) fun _ =>
      tries inner backoff left (attempt + 1)
    else .pure { last with attempts := some attempt }

/-- Retry transient failures with backoff. -/
def retrying (inner : Sender) (opts : RetryOptions) : Sender := fun message recipient =>
  tries (inner message recipient) (opts.backoffMs.getD defaultBackoff) (opts.max - 1) 1

/-- The senders that the package builds, each with a bound on its requests. -/
inductive Built : ℕ → Sender → Prop
  | dryRun (sink : Bool) : Built 0 (dryRun sink)
  | postmark (cfg : PostmarkConfig) : Built 1 (postmark cfg)
  | twilio (cfg : TwilioConfig) : Built 1 (twilio cfg)
  | composite {m n : ℕ} {email sms : Option Sender} (hemail : ∀ s, email = some s → Built m s)
      (hsms : ∀ s, sms = some s → Built n s) : Built (max m n) (composite email sms)
  | retrying {n : ℕ} {inner : Sender} (h : Built n inner) (opts : RetryOptions) :
      Built (opts.max * n) (retrying inner opts)

/-! ## What a run sees -/

/-- What a request brings: an answer, or what it throws. -/
abbrev Outcome := Except String FetchResponse

/-- A request's outcome, or a wait. -/
inductive Seen where
  | outcome (o : Outcome)
  | wait (ms : ℚ)

def Seen.outcome? : Seen → Option Outcome
  | outcome o => some o
  | wait _ => none

variable {W : Type}

/-- The outcomes of requests, and the waits. -/
def seen : Performed TransportSig W → Option Seen
  | ⟨.fetch _, some o, _⟩ => some (.outcome o)
  | ⟨.sleep ms, _, _⟩ => some (.wait ms)
  | _ => none

/-- The outcomes of the requests of a run. -/
def outcomes (l : List Seen) : List Outcome := l.filterMap Seen.outcome?

@[simp] theorem outcomes_nil : outcomes [] = [] := rfl

@[simp] theorem outcomes_append (l l' : List Seen) :
    outcomes (l ++ l') = outcomes l ++ outcomes l' := List.filterMap_append

@[simp] theorem outcomes_wait (ms : ℚ) (l : List Seen) : outcomes (.wait ms :: l) = outcomes l := rfl

/-- A failure that is worth a retry: the network, a rate limit or a server error, or an answer that
    could not be read, which may have been an acceptance. -/
def Transient : Outcome → Prop
  | .error _ => True
  | .ok res =>
    match res.text with
    | .error _ => True
    | .ok _ => res.ok = false ∧ httpRetriable res.status = true

/-- An acceptance that was read. -/
def Accepted : Outcome → Prop
  | .error _ => False
  | .ok res => res.ok = true ∧ ∃ raw, res.text = .ok raw

/-- The requests of a run that ends with a result. -/
structure Sends (n : ℕ) (os : List Outcome) (r : TransportResult) : Prop where
  length : os.length ≤ n
  transient : ∀ o ∈ os.dropLast, Transient o
  sent : r.status = .sent ↔ ∃ o, os.getLast? = some o ∧ Accepted o
  retriable : r.isRetriable = true → ∃ o, os.getLast? = some o ∧ Transient o

theorem not_accepted {o : Outcome} (h : Transient o) : ¬ Accepted o := by
  cases o with
  | error e => exact id
  | ok res =>
    rintro ⟨hok, raw, htext⟩
    simp only [Transient, htext, hok] at h
    exact absurd h.1 (by simp)

theorem Sends.mono {m n : ℕ} {os : List Outcome} {r : TransportResult} (h : Sends m os r)
    (hmn : m ≤ n) : Sends n os r :=
  { h with length := h.length.trans hmn }

theorem Sends.attempts {n : ℕ} {os : List Outcome} {r : TransportResult} (h : Sends n os r)
    (k : ℕ) : Sends n os { r with attempts := some k } :=
  ⟨h.length, h.transient, h.sent, h.retriable⟩

/-- Nothing is requested, and nothing sent. -/
theorem sends_nothing {n : ℕ} {r : TransportResult} (hstatus : r.status ≠ .sent)
    (hretriable : r.isRetriable = false) : Sends n [] r := by
  refine ⟨Nat.zero_le n, fun o ho => absurd ho List.not_mem_nil, ?_, ?_⟩
  · simp [hstatus]
  · simp [hretriable]

/-- After a result that is worth another try, all requests failed in a way that is worth a retry. -/
theorem Sends.all_transient {n : ℕ} {os : List Outcome} {r : TransportResult} (h : Sends n os r)
    (hr : r.isRetriable = true) : ∀ o ∈ os, Transient o := by
  obtain ⟨last, hlast, htransient⟩ := h.retriable hr
  intro o ho
  rw [← List.dropLast_append_getLast? last hlast, List.mem_append, List.mem_singleton] at ho
  rcases ho with ho | rfl
  · exact h.transient o ho
  · exact htransient

/-- A try after one that is worth another. -/
theorem Sends.again {m n : ℕ} {os os' : List Outcome} {r r' : TransportResult} (h : Sends m os r)
    (hr : r.isRetriable = true) (h' : Sends n os' r') : Sends (m + n) (os ++ os') r' := by
  have hlength : (os ++ os').length ≤ m + n := by
    rw [List.length_append]
    exact Nat.add_le_add h.length h'.length
  by_cases hne : os' = []
  · subst hne
    rw [List.append_nil] at hlength ⊢
    refine ⟨hlength, h.transient, ?_, ?_⟩
    · rw [h'.sent]
      constructor
      · rintro ⟨o, ho, -⟩
        cases ho
      · rintro ⟨o, ho, haccepted⟩
        exact absurd haccepted (not_accepted (h.all_transient hr o (List.mem_of_getLast? ho)))
    · intro hr'
      obtain ⟨o, ho, -⟩ := h'.retriable hr'
      cases ho
  · refine ⟨hlength, ?_, ?_, ?_⟩
    · intro o ho
      rw [List.dropLast_append_of_ne_nil hne, List.mem_append] at ho
      rcases ho with ho | ho
      · exact h.all_transient hr o ho
      · exact h'.transient o ho
    · rw [h'.sent, List.getLast?_append_of_ne_nil _ hne]
    · rw [List.getLast?_append_of_ne_nil _ hne]
      exact h'.retriable

/-! ## Each sender -/

/-- Every run that ends does what is said of its requests. -/
def Keeps (n : ℕ) (p : Prog TransportSig TransportResult) : Prop :=
  ∀ (W : Type) (h : Handler TransportSig W) (w w' : W) (r : TransportResult),
    p.exec h w = (some r, w') → Sends n (outcomes (p.observed h seen w)) r

theorem keeps_pure {n : ℕ} {r : TransportResult} (hstatus : r.status ≠ .sent)
    (hretriable : r.isRetriable = false) : Keeps n (.pure r) := by
  intro W h w w' r' hexec
  obtain rfl := Option.some.inj (Prod.mk.inj hexec).1
  exact sends_nothing hstatus hretriable

theorem failed_refused_isRetriable (channel : DunningChannel) (provider reason : String) :
    (failed channel provider (.refused reason)).isRetriable = false := by
  simp [failed, TransportResult.isRetriable]

/-- One request. -/
theorem sends_one {o : Outcome} {r : TransportResult} (hsent : r.status = .sent ↔ Accepted o)
    (hretriable : r.isRetriable = true → Transient o) : Sends 1 [o] r :=
  ⟨le_rfl, fun o ho => absurd ho List.not_mem_nil, by simpa using hsent, by simpa using hretriable⟩

theorem keeps_post (channel : DunningChannel) (provider idField : String)
    (request : DunningMessage → DunningRecipient → HttpRequest) (message : DunningMessage)
    (recipient : DunningRecipient) :
    Keeps 1 (post channel provider idField request message recipient) := by
  unfold post
  cases hsendable : assertSendable message recipient with
  | error reason =>
    exact keeps_pure (by simp [failed]) (failed_refused_isRetriable channel provider reason)
  | ok _ =>
    intro W h w w' r hexec
    rcases hfetch : h (.fetch (request message recipient)) w with ⟨_ | o, v⟩
    · rw [Prog.exec_op, hfetch] at hexec
      cases hexec
    · rw [Prog.exec_op_of hfetch] at hexec
      rw [Prog.observed_op_of hfetch]
      -- the answer is read, and nothing more is requested
      cases o with
      | error thrown =>
        obtain rfl := Option.some.inj (Prod.mk.inj hexec).1
        exact sends_one (by simp [failed, Accepted]) (fun _ => trivial)
      | ok res =>
        cases htext : res.text with
        | error thrown =>
          simp only [htext] at hexec ⊢
          obtain rfl := Option.some.inj (Prod.mk.inj hexec).1
          exact sends_one (by simp [failed, Accepted, htext]) (fun _ => by simp [Transient, htext])
        | ok raw =>
          simp only [htext] at hexec ⊢
          by_cases hok : res.ok = true
          · simp only [hok, Bool.not_true, Bool.false_eq_true, if_false] at hexec ⊢
            obtain rfl := Option.some.inj (Prod.mk.inj hexec).1
            exact sends_one (by simp [Accepted, hok, htext])
              (fun hr => by simp [TransportResult.isRetriable] at hr)
          · simp only [hok, Bool.not_false, if_true] at hexec ⊢
            obtain rfl := Option.some.inj (Prod.mk.inj hexec).1
            exact sends_one (by simp [Accepted, hok])
              (fun hr => by simpa [TransportResult.isRetriable, Transient, hok, htext] using hr)

theorem keeps_dryRun (sink : Bool) (message : DunningMessage) (recipient : DunningRecipient) :
    Keeps 0 (dryRun sink message recipient) := by
  unfold dryRun
  cases hsendable : assertSendable message recipient with
  | error reason =>
    exact keeps_pure (by simp [failed]) (failed_refused_isRetriable _ _ reason)
  | ok _ =>
    cases sink with
    | false => exact keeps_pure (by simp) rfl
    | true =>
      intro W h w w' r hexec
      simp only [if_true] at hexec ⊢
      rcases hsink : h (.sink message recipient) w with ⟨_ | o, v⟩
      · rw [Prog.exec_op, hsink] at hexec
        cases hexec
      · rw [Prog.exec_op_of hsink] at hexec
        rw [Prog.observed_op_of hsink]
        obtain rfl := Option.some.inj (Prod.mk.inj hexec).1
        exact sends_nothing (by simp) rfl

theorem Keeps.mono {m n : ℕ} {p : Prog TransportSig TransportResult} (h : Keeps m p)
    (hmn : m ≤ n) : Keeps n p :=
  fun W handler w w' r hexec => (h W handler w w' r hexec).mono hmn

theorem keeps_tries {n : ℕ} {inner : Prog TransportSig TransportResult} (h : Keeps n inner)
    (backoff : ℕ → ℚ) (left attempt : ℕ) :
    Keeps ((left + 1) * n) (tries inner backoff left attempt) := by
  induction left generalizing attempt with
  | zero =>
    intro W handler w w' r hexec
    rw [tries, Prog.exec_bind] at hexec
    rw [tries, Prog.observed_bind]
    rcases hinner : inner.exec handler w with ⟨_ | last, v⟩
    · rw [hinner] at hexec
      cases hexec
    · rw [hinner] at hexec
      obtain rfl := Option.some.inj (Prod.mk.inj hexec).1
      simpa using (h W handler w v last hinner).attempts attempt
  | succ left ih =>
    intro W handler w w' r hexec
    rw [tries, Prog.exec_bind] at hexec
    rw [tries, Prog.observed_bind]
    rcases hinner : inner.exec handler w with ⟨_ | last, v⟩
    · rw [hinner] at hexec
      cases hexec
    · rw [hinner] at hexec
      have hfirst := h W handler w v last hinner
      by_cases hr : last.isRetriable = true
      · simp only [hr, if_true] at hexec ⊢
        rcases hsleep : handler (.sleep (backoff attempt)) v with ⟨_ | o, v'⟩
        · rw [Prog.exec_op, hsleep] at hexec
          cases hexec
        · rw [Prog.exec_op_of hsleep] at hexec
          rw [Prog.observed_op_of hsleep]
          have hrest := ih (attempt + 1) W handler v' w' r hexec
          have := hfirst.again hr hrest
          rw [outcomes_append]
          refine Sends.mono this ?_
          ring_nf
          exact le_rfl
      · simp only [hr, Bool.false_eq_true, if_false] at hexec ⊢
        obtain rfl := Option.some.inj (Prod.mk.inj hexec).1
        rw [Prog.observed_pure, List.append_nil]
        refine (hfirst.attempts attempt).mono ?_
        exact Nat.le_mul_of_pos_left n (Nat.succ_pos _)

theorem built_keeps {n : ℕ} {s : Sender} (hs : Built n s) (message : DunningMessage)
    (recipient : DunningRecipient) : Keeps n (s message recipient) := by
  induction hs with
  | dryRun sink => exact keeps_dryRun sink message recipient
  | postmark cfg => exact keeps_post _ _ _ _ message recipient
  | twilio cfg => exact keeps_post _ _ _ _ message recipient
  | @composite m n email sms _ _ ihemail ihsms =>
    cases hchannel : message.channel with
    | email =>
      cases email with
      | none =>
        simp only [composite, hchannel]
        exact keeps_pure (by simp) rfl
      | some s =>
        simp only [composite, hchannel]
        exact (ihemail s rfl).mono (Nat.le_max_left m n)
    | sms =>
      cases sms with
      | none =>
        simp only [composite, hchannel]
        exact keeps_pure (by simp) rfl
      | some s =>
        simp only [composite, hchannel]
        exact (ihsms s rfl).mono (Nat.le_max_right m n)
  | @retrying n inner _ opts ih =>
    have hmax : opts.max - 1 + 1 = opts.max := by
      have : 1 ≤ opts.max := by
        unfold RetryOptions.max
        omega
      omega
    have := keeps_tries ih (opts.backoffMs.getD defaultBackoff) (opts.max - 1) 1
    rwa [hmax] at this

/-- A message that is refused is not sent: the sender does nothing, and fails for good. -/
theorem built_refused {n : ℕ} {s : Sender} (hs : Built n s) {message : DunningMessage}
    {recipient : DunningRecipient} {reason : String}
    (h : assertSendable message recipient = .error reason) :
    ∃ r : TransportResult, s message recipient = .pure r ∧ r.status = .failed ∧
      r.isRetriable = false := by
  induction hs with
  | dryRun sink =>
    refine ⟨failed message.channel "dry-run" (.refused reason), ?_, rfl, rfl⟩
    rw [dryRun, h]
  | postmark cfg =>
    refine ⟨failed .email "postmark" (.refused reason), ?_, rfl, rfl⟩
    rw [postmark, post, h]
  | twilio cfg =>
    refine ⟨failed .sms "twilio" (.refused reason), ?_, rfl, rfl⟩
    rw [twilio, post, h]
  | @composite m n email sms _ _ ihemail ihsms =>
    unfold composite
    cases htarget : (match message.channel with | .email => email | .sms => sms) with
    | none => exact ⟨_, rfl, rfl, rfl⟩
    | some target =>
      cases hchannel : message.channel with
      | email =>
        rw [hchannel] at htarget
        exact ihemail target htarget
      | sms =>
        rw [hchannel] at htarget
        exact ihsms target htarget
  | @retrying n inner _ opts ih =>
    obtain ⟨r, hr, hstatus, hretriable⟩ := ih
    refine ⟨{ r with attempts := some 1 }, ?_, hstatus, hretriable⟩
    unfold retrying
    rw [hr]
    cases opts.max - 1 with
    | zero => rfl
    | succ left => simp [tries, hretriable]

/-- Whatever the network does, a message that is refused is not requested, and its failure is for
    good; of another, every request but the last failed in a way that is worth a retry, and the
    message is reported as sent if and only if the last request was accepted. -/
theorem built_sends {n : ℕ} {s : Sender} (hs : Built n s) (h : Handler TransportSig W) (w : W)
    (message : DunningMessage) (recipient : DunningRecipient) :
    ((∃ reason, assertSendable message recipient = .error reason) →
      ∃ r : TransportResult, s message recipient = .pure r ∧ r.status = .failed ∧
        r.isRetriable = false) ∧
    ∀ r w', (s message recipient).exec h w = (some r, w') →
      Sends n (outcomes ((s message recipient).observed h seen w)) r := by
  constructor
  · rintro ⟨reason, hrefused⟩
    exact built_refused hs hrefused
  · intro r w' hexec
    exact built_keeps hs message recipient W h w w' r hexec

namespace Sample

def mail : DunningMessage where
  channel := .email
  subject := some "Update your card"
  body := "Please update your card"
  generatedBy := .template

def recipient : DunningRecipient := ⟨.email, some "dana@example.test", none⟩

def postmarkConfig : PostmarkConfig where
  serverToken := "token"
  fromEmail := "billing@merchant.test"
  serverToken_ne := by decide
  fromEmail_ne := by decide

/-- Mails with three attempts, and no text messages. -/
def sender : Sender := retrying (composite (some (postmark postmarkConfig)) none) {}

theorem sender_built : Built 3 sender := by
  refine .retrying (n := 1) (.composite (m := 1) (n := 0) ?_ ?_) {}
  · intro s hs
    obtain rfl := Option.some.inj hs
    exact .postmark _
  · intro s hs
    cases hs

def unavailable : Outcome := .ok ⟨false, 503, .ok "try again", fun _ => none⟩

def accepted : Outcome := .ok ⟨true, 200, .ok "", fun _ => some "msg_1"⟩

/-- A network that brings outcomes in turn, and then fails. -/
def network : Handler TransportSig (List Outcome)
  | .fetch _, [] => (some (.error "network down"), [])
  | .fetch _, o :: os => (some o, os)
  | .sleep _, os | .sink _ _, os => (some (), os)

end Sample

/-- A mail is sent after a server error. -/
theorem built_sends_retried :
    ∃ r, (Sample.sender Sample.mail Sample.recipient).exec Sample.network
        [Sample.unavailable, Sample.accepted] = (some r, []) ∧
      Sends 3 (outcomes ((Sample.sender Sample.mail Sample.recipient).observed Sample.network seen
        [Sample.unavailable, Sample.accepted])) r :=
  ⟨_, rfl, (built_sends Sample.sender_built Sample.network [Sample.unavailable, Sample.accepted]
    Sample.mail Sample.recipient).2 _ [] rfl⟩

/-! ## What is requested -/

/-- What an operation has of a message: it is for a message that is not refused, and a request has
    the fields of a mail or of a text message in its body. -/
def Carries (message : DunningMessage) (recipient : DunningRecipient) : TransportOp → Prop
  | .fetch request =>
    assertSendable message recipient = .ok () ∧
      ((∃ cfg, parse request.body = some (.obj (mailFields cfg message recipient))) ∨
        ∃ cfg, FormUrl.decodeTexts request.body = some (smsFields cfg message recipient))
  | .sleep _ => assertSendable message recipient = .ok ()
  | .sink message' recipient' =>
    assertSendable message recipient = .ok () ∧ message' = message ∧ recipient' = recipient

theorem post_carries {channel : DunningChannel} {provider idField : String}
    {request : DunningMessage → DunningRecipient → HttpRequest} {message : DunningMessage}
    {recipient : DunningRecipient} {P : TransportOp → Prop}
    (h : assertSendable message recipient = .ok () → P (.fetch (request message recipient))) :
    (post channel provider idField request message recipient).Uses P := by
  unfold post
  cases hsendable : assertSendable message recipient with
  | error reason => trivial
  | ok _ =>
    refine ⟨h hsendable, fun o => ?_⟩
    cases o with
    | error thrown => trivial
    | ok res =>
      cases htext : res.text with
      | error thrown => simp [htext]
      | ok raw => by_cases hok : res.ok = true <;> simp [htext, hok]

theorem tries_uses {inner : Prog TransportSig TransportResult} {P : TransportOp → Prop}
    (h : inner.Uses P) {backoff : ℕ → ℚ} (hsleep : ∀ ms, P (.sleep ms)) (left attempt : ℕ) :
    (tries inner backoff left attempt).Uses P := by
  induction left generalizing attempt with
  | zero => exact h.bind fun _ => trivial
  | succ left ih =>
    refine h.bind fun last => ?_
    by_cases hr : last.isRetriable = true
    · rw [if_pos hr]
      exact ⟨hsleep _, fun _ => ih (attempt + 1)⟩
    · rw [if_neg hr]
      trivial

/-- What a sender does is for the message that it is given, and its recipient. -/
theorem built_carries {n : ℕ} {s : Sender} (hs : Built n s) (message : DunningMessage)
    (recipient : DunningRecipient) : (s message recipient).Uses (Carries message recipient) := by
  cases hsendable : assertSendable message recipient with
  | error reason =>
    obtain ⟨r, hr, -⟩ := built_refused hs hsendable
    rw [hr]
    trivial
  | ok _ =>
    induction hs with
    | dryRun sink =>
      unfold dryRun
      rw [hsendable]
      cases sink with
      | false => trivial
      | true => exact ⟨⟨hsendable, rfl, rfl⟩, fun _ => trivial⟩
    | postmark cfg =>
      refine post_carries fun h => ⟨h, .inl ⟨cfg, parse_stringify ?_⟩⟩
      unfold mailFields
      cases recipient.email <;> simp [AllDecimal, AllDecimalFields, Record.opt]
    | twilio cfg =>
      exact post_carries fun h => ⟨h, .inr ⟨cfg, FormUrl.decodeTexts_encodeTexts _⟩⟩
    | @composite m n email sms _ _ ihemail ihsms =>
      unfold composite
      cases htarget : (match message.channel with | .email => email | .sms => sms) with
      | none => trivial
      | some target =>
        cases hchannel : message.channel with
        | email =>
          rw [hchannel] at htarget
          exact ihemail target htarget
        | sms =>
          rw [hchannel] at htarget
          exact ihsms target htarget
    | retrying _ opts ih => exact tries_uses ih (fun _ => hsendable) _ _

/-- A mail is for its recipient. -/
theorem built_carries_mail :
    (Sample.sender Sample.mail Sample.recipient).Uses (Carries Sample.mail Sample.recipient) :=
  built_carries Sample.sender_built Sample.mail Sample.recipient

/-! ## The deployed sender -/

theorem truthy_ne {v : Option String} {text : String} (h : truthy v = some text) : text ≠ "" := by
  simpa using (Option.filter_eq_some_iff.1 h).2

/-- The sender of mails that the environment configures. -/
def envEmail (env : String → Option String) : Option Sender :=
  match htoken : truthy (env "POSTMARK_SERVER_TOKEN"),
    hfrom : truthy (env "AX10M_COMMS_FROM_EMAIL") with
  | some serverToken, some fromEmail =>
    some (postmark {
      serverToken, fromEmail
      messageStream := truthy (env "POSTMARK_MESSAGE_STREAM")
      serverToken_ne := truthy_ne htoken
      fromEmail_ne := truthy_ne hfrom })
  | _, _ => none

/-- The sender of text messages that it configures. -/
def envSms (env : String → Option String) : Option Sender :=
  match hsid : truthy (env "TWILIO_ACCOUNT_SID"), htoken : truthy (env "TWILIO_AUTH_TOKEN"),
    hfrom : truthy (env "AX10M_COMMS_FROM_SMS") with
  | some accountSid, some authToken, some fromNumber =>
    some (twilio {
      accountSid, authToken, fromNumber
      accountSid_ne := truthy_ne hsid
      authToken_ne := truthy_ne htoken
      fromNumber_ne := truthy_ne hfrom })
  | _, _, _ => none

/-- Build a send transport from the environment, and whether messages are sent live. -/
def buildDunningSender (env : String → Option String) : Option Sender × Bool :=
  let live := env "AX10M_LIVE_COMMS" = some "true"
  if (envEmail env).isNone && (envSms env).isNone then (none, live)
  else (some (retrying (composite (envEmail env) (envSms env)) {}), live)

/-- The sender of a channel. -/
def envChannel (env : String → Option String) : DunningChannel → Option Sender
  | .email => envEmail env
  | .sms => envSms env

/-- Every run that ends has one request, and its result says what came of it. -/
def Once (p : Prog TransportSig TransportResult) : Prop :=
  ∀ (W : Type) (h : Handler TransportSig W) (w w' : W) (r : TransportResult),
    p.exec h w = (some r, w') →
      ∃ o, p.observed h seen w = [.outcome o] ∧ (r.isRetriable = true ↔ Transient o) ∧
        (r.status = .sent ↔ Accepted o)

theorem once_post (channel : DunningChannel) (provider idField : String)
    (request : DunningMessage → DunningRecipient → HttpRequest) {message : DunningMessage}
    {recipient : DunningRecipient} (h : assertSendable message recipient = .ok ()) :
    Once (post channel provider idField request message recipient) := by
  intro W handler w w' r hexec
  unfold post at hexec ⊢
  rw [h] at hexec ⊢
  simp only at hexec ⊢
  rcases hfetch : handler (.fetch (request message recipient)) w with ⟨_ | o, v⟩
  · rw [Prog.exec_op, hfetch] at hexec
    cases hexec
  · rw [Prog.exec_op_of hfetch] at hexec
    rw [Prog.observed_op_of hfetch]
    refine ⟨o, ?_⟩
    cases o with
    | error thrown =>
      obtain rfl := Option.some.inj (Prod.mk.inj hexec).1
      exact ⟨rfl, by simp [failed, TransportResult.isRetriable, Transient], by
        simp [failed, Accepted]⟩
    | ok res =>
      cases htext : res.text with
      | error thrown =>
        simp only [htext] at hexec ⊢
        obtain rfl := Option.some.inj (Prod.mk.inj hexec).1
        exact ⟨rfl, by simp [failed, TransportResult.isRetriable, Transient, htext], by
          simp [failed, Accepted, htext]⟩
      | ok raw =>
        simp only [htext] at hexec ⊢
        by_cases hok : res.ok = true
        · simp only [hok, Bool.not_true, Bool.false_eq_true, if_false] at hexec ⊢
          obtain rfl := Option.some.inj (Prod.mk.inj hexec).1
          exact ⟨rfl, by simp [TransportResult.isRetriable, Transient, hok, htext], by
            simp [Accepted, hok, htext]⟩
        · simp only [hok, Bool.not_false, if_true] at hexec ⊢
          obtain rfl := Option.some.inj (Prod.mk.inj hexec).1
          exact ⟨rfl, by simp [TransportResult.isRetriable, Transient, hok, htext], by
            simp [Accepted, hok]⟩

/-- Outcomes, with waits between them. -/
def withWaits (backoff : ℕ → ℚ) : ℕ → List Outcome → List Seen
  | _, [] => []
  | _, [o] => [.outcome o]
  | n, o :: os => .outcome o :: .wait (backoff n) :: withWaits backoff (n + 1) os

/-- The tries of a run, from number `attempt` on, at most `left` after it: each but the last failed in
    a way that is worth another, the last one is the result, and it is such a failure only if there
    is no try left. -/
structure Tried (backoff : ℕ → ℚ) (left attempt : ℕ) (l : List Seen) (r : TransportResult)
    (os : List Outcome) (last : Outcome) : Prop where
  sees : l = withWaits backoff attempt (os ++ [last])
  attempts : r.attempts = some (attempt + os.length)
  length : os.length ≤ left
  transient : ∀ o ∈ os, Transient o
  sent : r.status = .sent ↔ Accepted last
  spent : Transient last → os.length = left

theorem once_tries {inner : Prog TransportSig TransportResult} (h : Once inner)
    (backoff : ℕ → ℚ) (left attempt : ℕ) (handler : Handler TransportSig W) {w w' : W}
    {r : TransportResult} (hexec : (tries inner backoff left attempt).exec handler w = (some r, w')) :
    ∃ os last, Tried backoff left attempt ((tries inner backoff left attempt).observed handler seen w)
      r os last := by
  induction left generalizing attempt w with
  | zero =>
    rw [tries, Prog.exec_bind] at hexec
    rw [tries, Prog.observed_bind]
    rcases hinner : inner.exec handler w with ⟨_ | last, v⟩
    · rw [hinner] at hexec
      cases hexec
    · rw [hinner] at hexec
      obtain ⟨o, hsees, -, hsent⟩ := h W handler w v last hinner
      obtain rfl := Option.some.inj (Prod.mk.inj hexec).1
      refine ⟨[], o, ⟨?_, rfl, le_rfl, by simp, hsent, fun _ => rfl⟩⟩
      rw [hsees]
      rfl
  | succ left ih =>
    rw [tries, Prog.exec_bind] at hexec
    rw [tries, Prog.observed_bind]
    rcases hinner : inner.exec handler w with ⟨_ | last, v⟩
    · rw [hinner] at hexec
      cases hexec
    · rw [hinner] at hexec
      obtain ⟨o, hsees, hretriable, hsent⟩ := h W handler w v last hinner
      rw [hsees]
      by_cases hr : last.isRetriable = true
      · simp only [hr, if_true] at hexec ⊢
        rcases hsleep : handler (.sleep (backoff attempt)) v with ⟨_ | u, v'⟩
        · rw [Prog.exec_op, hsleep] at hexec
          cases hexec
        · rw [Prog.exec_op_of hsleep] at hexec
          rw [Prog.observed_op_of hsleep]
          obtain ⟨os, last', htried⟩ := ih (attempt + 1) hexec
          refine ⟨o :: os, last', ⟨?_, ?_, Nat.succ_le_succ htried.length, ?_, htried.sent, ?_⟩⟩
          · rw [htried.sees]
            cases os <;> rfl
          · rw [htried.attempts, List.length_cons]
            congr 1
            omega
          · intro o' ho'
            rcases List.mem_cons.1 ho' with rfl | ho'
            · exact hretriable.1 hr
            · exact htried.transient o' ho'
          · intro hlast
            rw [List.length_cons, htried.spent hlast]
      · simp only [hr, Bool.false_eq_true, if_false] at hexec ⊢
        obtain rfl := Option.some.inj (Prod.mk.inj hexec).1
        refine ⟨[], o, ⟨rfl, rfl, Nat.zero_le _, by simp, hsent, ?_⟩⟩
        exact fun ho => absurd (hretriable.2 ho) hr

theorem once_envChannel {env : String → Option String} {channel : DunningChannel} {s : Sender}
    (hs : envChannel env channel = some s) {message : DunningMessage} {recipient : DunningRecipient}
    (h : assertSendable message recipient = .ok ()) : Once (s message recipient) := by
  cases channel with
  | email =>
    simp only [envChannel, envEmail] at hs
    split at hs
    · obtain rfl := Option.some.inj hs
      exact once_post _ _ _ _ h
    · cases hs
  | sms =>
    simp only [envChannel, envSms] at hs
    split at hs
    · obtain rfl := Option.some.inj hs
      exact once_post _ _ _ _ h
    · cases hs

/-- What the deployed sender does with a message that is not refused, if its channel is configured:
    one to three requests, 200 and 400 ms apart, up to the first outcome that is not worth another;
    `attempts` counts them, and the message is reported as sent if and only if the last one was
    accepted. -/
theorem deployed_tries {env : String → Option String} {s channelSender : Sender} {live : Bool}
    (hs : buildDunningSender env = (some s, live)) {message : DunningMessage}
    {recipient : DunningRecipient} (hsendable : assertSendable message recipient = .ok ())
    (hchannel : envChannel env message.channel = some channelSender) (h : Handler TransportSig W)
    {w w' : W} {r : TransportResult} (hexec : (s message recipient).exec h w = (some r, w')) :
    ∃ os last, Tried defaultBackoff 2 1 ((s message recipient).observed h seen w) r os last := by
  have hbuilt : s = retrying (composite (envEmail env) (envSms env)) {} := by
    unfold buildDunningSender at hs
    simp only at hs
    split_ifs at hs
    · exact absurd (Prod.mk.inj hs).1 (by simp)
    · exact (Option.some.inj (Prod.mk.inj hs).1).symm
  have hcomposite : composite (envEmail env) (envSms env) message recipient =
      channelSender message recipient := by
    unfold composite
    cases hmessage : message.channel with
    | email =>
      rw [hmessage] at hchannel
      rw [show envEmail env = some channelSender from hchannel]
    | sms =>
      rw [hmessage] at hchannel
      rw [show envSms env = some channelSender from hchannel]
  subst hbuilt
  unfold retrying at hexec ⊢
  rw [hcomposite] at hexec ⊢
  exact once_tries (once_envChannel hchannel hsendable) defaultBackoff 2 1 h hexec

namespace Sample

/-- An environment with Postmark. -/
def env (key : String) : Option String :=
  [("POSTMARK_SERVER_TOKEN", "token"), ("AX10M_COMMS_FROM_EMAIL", "billing@merchant.test")].lookup key

end Sample

/-- A mail of the deployed sender is sent at its second try. -/
theorem deployed_tries_retried :
    ∃ s r os last, buildDunningSender Sample.env = (some s, false) ∧
      (s Sample.mail Sample.recipient).exec Sample.network
        [Sample.unavailable, Sample.accepted] = (some r, []) ∧
      Tried defaultBackoff 2 1 ((s Sample.mail Sample.recipient).observed Sample.network seen
        [Sample.unavailable, Sample.accepted]) r os last := by
  have hsendable : assertSendable Sample.mail Sample.recipient = .ok () := by rfl
  have hbuilt : buildDunningSender Sample.env = (some (retrying (composite (envEmail Sample.env)
      (envSms Sample.env)) {}), false) := rfl
  have hchannel : envChannel Sample.env Sample.mail.channel = some (postmark Sample.postmarkConfig) :=
    rfl
  have hexec : ∃ r, (retrying (composite (envEmail Sample.env) (envSms Sample.env)) {} Sample.mail
      Sample.recipient).exec Sample.network [Sample.unavailable, Sample.accepted] = (some r, []) :=
    ⟨_, rfl⟩
  obtain ⟨r, hexec⟩ := hexec
  obtain ⟨os, last, htried⟩ := deployed_tries hbuilt hsendable hchannel Sample.network hexec
  exact ⟨_, r, os, last, hbuilt, hexec, htried⟩

end AX10M.Transport
