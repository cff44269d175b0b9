/-
  The boundary of the mail transport (`@ax10m/comms`, `sender.ts`).

  No message with a card number in it is sent.  Where the texts of a message are separated by
  others that no number reaches over, it has one if and only if one of them does
  (`containsPanLike_interleave`).
-/
import AX10M.Comms
import AX10M.Js.DigitRuns

namespace AX10M

open Js

/-- A card number is in the text (`containsPanLike`). -/
def containsPanLike (text : String) : Bool := panWordSomewhere none text.toList

/-- The validation at the transport boundary. -/
def assertSendable (message : DunningMessage) (recipient : DunningRecipient) : Except String Unit :=
  if recipient.channel ≠ message.channel then
    .error ("recipient channel " ++ recipient.channel.text ++ " != message channel " ++
      message.channel.text)
  else if trim message.body = "" then .error "empty body"
  else if containsPanLike (message.subject.getD "" ++ "\n" ++ message.body) then
    .error "PAN-like sequence in payload"
  else if message.channel = .email ∧ recipient.email.getD "" = "" then
    .error "email channel requires recipient.email"
  else if message.channel = .sms ∧ recipient.phone.getD "" = "" then
    .error "sms channel requires recipient.phone"
  else .ok ()

/-- A mail with a text and an address is sendable if and only if it has no card number. -/
theorem assertSendable_email {message : DunningMessage} {recipient : DunningRecipient}
    (hm : message.channel = .email) (hr : recipient.channel = .email)
    (hbody : trim message.body ≠ "") (hemail : recipient.email.getD "" ≠ "") :
    assertSendable message recipient = .ok () ↔
      containsPanLike (message.subject.getD "" ++ "\n" ++ message.body) = false := by
  simp [assertSendable, hm, hr, hbody, hemail]

/-- Texts with something behind each of them, and a last one. -/
def interleave : List (String × String) → String → String
  | [], last => last
  | (text, gap) :: parts, last => text ++ (gap ++ interleave parts last)

theorem interleave_append (parts parts' : List (String × String)) (last : String) :
    interleave (parts ++ parts') last = interleave parts (interleave parts' last) := by
  induction parts with
  | nil => rfl
  | cons p parts ih => simp [interleave, ih]

/-- All texts are gaps. -/
def areGaps (gaps : List String) : Bool := gaps.all fun gap => isGap gap.toList

/-- A card number is in one of the texts, or in the last one. -/
theorem containsPanLike_interleave {parts : List (String × String)} {last : String}
    (h : areGaps (parts.map Prod.snd) = true) :
    containsPanLike (interleave parts last) =
      (parts.any (fun p => containsPanLike p.1) || containsPanLike last) := by
  induction parts with
  | nil => rfl
  | cons p parts ih =>
    rw [List.map_cons, areGaps, List.all_cons, Bool.and_eq_true] at h
    rw [List.any_cons, Bool.or_assoc, ← ih h.2, interleave, containsPanLike, String.toList_append,
      String.toList_append, panWordSomewhere_gap (gap_of_isGap h.1)]
    rfl

/-- A short text has no card number. -/
theorem containsPanLike_short {text : String} (h : text.toList.length ≤ 12) :
    containsPanLike text = false :=
  panWordSomewhere_short h none

end AX10M
