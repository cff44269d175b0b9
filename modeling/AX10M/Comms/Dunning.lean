/-
  The dunning agents (`@ax10m/comms`, `dunning.ts`): a language model writes the message, and a
  template does when what the model wrote is not valid or nothing came back.

  The formatter of amounts is that of the platform (`Intl.NumberFormat`), which throws for a
  currency that is none; it and the language model are parameters.
-/
import AX10M.Comms.Sender
import AX10M.Js.Fixed
import AX10M.Js.Keys
import AX10M.Poal.Xml

namespace AX10M

open Js

/-! ## Texts -/

/-- `Intl.NumberFormat` in US English, with the style of a currency. -/
abbrev CurrencyFormat := String → ℚ → Option String

def Comms.money (intl : CurrencyFormat) (amountMinor : MinorUnits) (currency : String) : String :=
  match intl currency (amountMinor / 100) with
  | some text => text
  | none => toFixed 2 (amountMinor / 100) ++ " " ++ currency

/-- The reason a customer is given. -/
def humanReason : DeclineCode → String
  | .expiredCard => "your card on file has expired"
  | .lostCard | .stolenCard => "your card was reported lost or stolen"
  | .closedAccount => "the account for your card is closed"
  | .invalidCard | .pickupCard | .cardNotSupported => "your card can no longer be charged"
  | _ => "we couldn't process your card"

/-! ## Validation -/

/-- What is scanned of a message. -/
def DunningMessage.full (msg : DunningMessage) : String := msg.subject.getD "" ++ "\n" ++ msg.body

/-- The longest body of a channel. -/
def DunningChannel.maxBody : DunningChannel → ℕ
  | sms => 400 | email => 4000

/-- The message says how to opt out; an SMS may just say stop. -/
def hasOptOut (msg : DunningMessage) (ctx : DunningContext) : Bool :=
  includes msg.body ctx.optOutInstruction ||
    (ctx.channel = .sms && includesList "stop".toList (msg.body.toList.map Char.toLower))

/-- Validate a composed message. -/
def validateMessage (msg : DunningMessage) (ctx : DunningContext) : Except String Unit :=
  if trim msg.body = "" then .error "empty body"
  else if containsPanLike msg.full then .error "PAN-like sequence present"
  else if !includes msg.body ctx.updateCardUrl then .error "missing the update-card link"
  else if !hasOptOut msg ctx then .error "missing opt-out instruction"
  else if (utf16 msg.body).length > ctx.channel.maxBody then
    .error ("body too long for " ++ ctx.channel.text)
  else if ctx.channel = .email ∧ trim (msg.subject.getD "") = "" then
    .error "email needs a subject"
  else .ok ()

/-! ## The template -/

/-- The customer, if the name is known. -/
def DunningContext.who (ctx : DunningContext) : String :=
  ((ctx.customerName).filter (· ≠ "")).getD "there"

/-- The last digits of the card, if they are known. -/
def DunningContext.last4 (ctx : DunningContext) : String :=
  match ctx.cardLast4.filter (· ≠ "") with
  | some last4 => " (card ending " ++ last4 ++ ")"
  | none => ""

def composeTemplate (intl : CurrencyFormat) (ctx : DunningContext) : DunningMessage :=
  let amount := Comms.money intl ctx.amountMinor ctx.currency
  let reason := humanReason ctx.declineCode
  match ctx.channel with
  | .sms =>
    { channel := .sms
      body := ctx.merchantName ++ ": your " ++ amount ++ " payment didn't go through — " ++
        reason ++ ctx.last4 ++ ". Update your card: " ++ ctx.updateCardUrl ++ " — " ++
        ctx.optOutInstruction
      generatedBy := .template }
  | .email =>
    { channel := .email
      subject := some ("Action needed: update your payment method for " ++ ctx.merchantName)
      body := "Hi " ++ ctx.who ++ ",\n\n" ++
        "We tried to process your payment of " ++ amount ++ " to " ++ ctx.merchantName ++
        ", but " ++ reason ++ ctx.last4 ++ ".\n\n" ++
        "To keep your subscription active, please update your card here:\n" ++
        ctx.updateCardUrl ++ "\n\n" ++
        ctx.optOutInstruction ++ "\n\n" ++
        "Thanks,\n" ++ ctx.merchantName
      generatedBy := .template }

/-! ## The language model -/

/-- What the language model is asked. -/
structure LlmPrompt where
  system : String
  user : String
  maxTokens : ℕ

/-- The language model: a text, or a failure. -/
abbrev LlmClient := LlmPrompt → Except String String

structure LlmDunningOptions where
  brandVoice : Option String := none
  maxTokens : Option ℕ := none

def systemPrompt (opts : LlmDunningOptions) (channel : DunningChannel) : String :=
  "\n".intercalate ([
    "You write short, warm card-update (dunning) messages for a payments-recovery service.",
    "HARD RULES:",
    "- Never invent or include a full card number (PAN). Only the last 4 may appear, and only if " ++
      "given.",
    "- Include the exact update-card URL provided, verbatim. Do not shorten or alter it.",
    "- Include the exact opt-out instruction provided.",
    "- Be honest and non-threatening: no fake urgency, no legal threats, no guilt.",
    match channel with
    | .sms => "- SMS: one message, under ~300 characters, no subject line. Output ONLY the " ++
        "message text."
    | .email => "- Email: output \"Subject: <line>\" on the first line, then a blank line, then " ++
        "the body.",
    match opts.brandVoice.filter (· ≠ "") with
    | some voice => "BRAND VOICE: " ++ voice
    | none => ""].filter (· ≠ ""))

def userPrompt (intl : CurrencyFormat) (ctx : DunningContext) : String :=
  String.ofList (stringify (.obj [("merchant", .str ctx.merchantName),
    ("reason", .str (humanReason ctx.declineCode)),
    ("amount", .str (Comms.money intl ctx.amountMinor ctx.currency)),
    ("customerName", (ctx.customerName.map .str).getD .null),
    ("cardLast4", (ctx.cardLast4.map .str).getD .null),
    ("updateCardUrl", .str ctx.updateCardUrl),
    ("optOutInstruction", .str ctx.optOutInstruction),
    ("reminderNumber", .num (ctx.reminderNumber.getD 1)),
    ("locale", .str (ctx.locale.getD "en-US"))]))

/-- The end of a line (what `.` does not match). -/
def isLineEnd (c : Char) : Bool :=
  c = '\n' || c = '\r' || c = '\u2028' || c = '\u2029'

/-- Behind one end of a line (`\r?\n`). -/
def lineBreak : List Char → Option (List Char)
  | '\n' :: cs => some cs
  | '\r' :: '\n' :: cs => some cs
  | _ => none

/-- A line, a blank line and a text that is not empty (`(.+?)\r?\n\r?\n([\s\S]+)$`). -/
def subjectAndBody (cs : List Char) : Option (List Char × List Char) :=
  let line := cs.takeWhile fun c => !isLineEnd c
  match ((lineBreak (cs.drop line.length)).bind lineBreak) with
  | some (c :: body) => if line = [] then none else some (line, c :: body)
  | _ => none

/-- The subject of an answer and its body (`^subject:\s*(.+?)\r?\n\r?\n([\s\S]+)$`): behind as much
    white space as leaves a subject. -/
def subjectOf (text : List Char) : Option (List Char × List Char) :=
  (dropCaseless "subject:".toList text).bind fun cs =>
    (List.range ((cs.takeWhile isSpace).length + 1)).reverse.findSome? fun k =>
      subjectAndBody (cs.drop k)

/-- The message of an answer of the language model. -/
def parseLlmOutput (raw : String) (channel : DunningChannel) : Option DunningMessage :=
  let text := trim raw
  if text = "" then none
  else match channel with
    | .sms => some { channel := .sms, body := text, generatedBy := .llm }
    | .email => (subjectOf text.toList).map fun m =>
      { channel := .email
        subject := some (String.ofList (trimList m.1))
        body := String.ofList (trimList m.2)
        generatedBy := .llm }

/-- Compose a message: what the language model writes, if it is valid, or the template. -/
def LlmDunningAgent.compose (intl : CurrencyFormat) (opts : LlmDunningOptions) (llm : LlmClient)
    (ctx : DunningContext) : DunningMessage :=
  let raw := llm ⟨systemPrompt opts ctx.channel, userPrompt intl ctx, opts.maxTokens.getD 400⟩
  match raw.toOption.bind fun raw => parseLlmOutput raw ctx.channel with
  | some msg =>
    match validateMessage msg ctx with
    | .ok () => msg
    | .error _ => composeTemplate intl ctx
  | none => composeTemplate intl ctx

end AX10M
