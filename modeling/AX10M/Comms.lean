/-
  The messages of the dunning agent and their transport (`@ax10m/comms`), as the
  service meets them.

  An agent and a sender are interfaces; the composed text and the answer of the
  provider are theirs.
-/
import AX10M.Canonical
import AX10M.Guardrail
import AX10M.Js.Json

namespace AX10M

open Js

inductive DunningChannel where
  | email | sms
  deriving DecidableEq, Repr

/-- The text of a channel. -/
def DunningChannel.text : DunningChannel → String
  | email => "email" | sms => "sms"

/-- The channel in the vocabulary of the guardrail. -/
def DunningChannel.comms : DunningChannel → CommsChannel
  | email => .email | sms => .sms

/-- What the agent may personalize on. -/
structure DunningContext where
  channel : DunningChannel
  declineCode : DeclineCode
  merchantName : String
  amountMinor : MinorUnits
  currency : String
  updateCardUrl : String
  optOutInstruction : String
  customerName : Option String := none
  cardLast4 : Option String
  locale : Option String := none
  reminderNumber : Option ℕ := none
  deriving DecidableEq

inductive GeneratedBy where
  | template | llm
  deriving DecidableEq, Repr

structure DunningMessage where
  channel : DunningChannel
  subject : Option String := none
  body : String
  generatedBy : GeneratedBy
  deriving DecidableEq

/-- A message as the object a ledger entry carries. -/
def DunningMessage.json (m : DunningMessage) : Json :=
  .obj ([("channel", .str m.channel.text)] ++ Record.opt "subject" (m.subject.map .str) ++
    [("body", .str m.body),
      ("generatedBy", .str (match m.generatedBy with | .template => "template" | .llm => "llm"))])

structure DunningRecipient where
  channel : DunningChannel
  email : Option String
  phone : Option String
  deriving DecidableEq

/-- The address of a recipient on its channel. -/
def DunningRecipient.address (r : DunningRecipient) : Option String :=
  match r.channel with
  | .email => r.email
  | .sms => r.phone

inductive SendStatus where
  | sent | dryRun | failed
  deriving DecidableEq, Repr

structure SendResult where
  status : SendStatus
  provider : String
  providerMessageId : Option String := none
  error : Option String := none
  attempts : Option ℕ := none
  deriving DecidableEq

/-- The configuration of composed messages. -/
structure DunningCommsConfig where
  updateCardUrl : Invoice → String → String
  optOutInstruction : String
  channel : Option DunningChannel := none
  merchantName : String → Option String := fun _ => none

inductive DeliveryStatus where
  | suppressed | skipped | duplicate | dryRun | sent | failed
  deriving DecidableEq, Repr

/-- The text of a delivery status. -/
def DeliveryStatus.text : DeliveryStatus → String
  | suppressed => "suppressed" | skipped => "skipped" | duplicate => "duplicate"
  | dryRun => "dry_run" | sent => "sent" | failed => "failed"

/-- The delivery status of a send. -/
def SendStatus.delivery : SendStatus → DeliveryStatus
  | sent => .sent | dryRun => .dryRun | failed => .failed

/-- What happened to a composed message. -/
structure DunningDeliveryRecord where
  status : DeliveryStatus
  channel : DunningChannel
  provider : Option String := none
  providerMessageId : Option String := none
  attempts : Option ℕ := none
  reason : Option String := none

/-- A delivery as the object a ledger entry carries. -/
def DunningDeliveryRecord.json (d : DunningDeliveryRecord) : Json :=
  .obj ([("status", .str d.status.text), ("channel", .str d.channel.text)] ++
    Record.opt "provider" (d.provider.map .str) ++
    Record.opt "providerMessageId" (d.providerMessageId.map .str) ++
    Record.opt "attempts" (d.attempts.map fun n => .num n) ++
    Record.opt "reason" (d.reason.map .str))

end AX10M
