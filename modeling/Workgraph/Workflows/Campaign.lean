import Workgraph.Text.Search
import Workgraph.Walk

/-!
# Email campaigns

Recipients are chosen and checked, each gets a text of their own and a subject line in turn, and the
mails are scheduled and sent.
-/

namespace Workgraph.Campaign

open Step

/-- A user who may receive mails. -/
structure User where
  email : String
  name : String
  segment : String
  subscribed : Bool

namespace User

def toValue (user : User) : Value :=
  .record [("email", user.email), ("name", user.name), ("segment", user.segment),
    ("subscribed", user.subscribed)]

/-- Whether a criterion is absent or asks for this value. -/
def meets (key : String) (v criteria : Value) : Except Fault Bool := do
  if ← (Value.text key).isIn criteria then return v.same (← criteria.field key) else return true

/-- Whether the user is one of those that the criteria ask for. -/
def isWanted (criteria : Value) (user : User) : Except Fault Bool := do
  let segment ← meets "segment" user.segment criteria
  let subscribed ← meets "subscribed" user.subscribed criteria
  return segment && subscribed

end User

def users : List User := [
  ⟨"user1@example.com", "Alice", "active", true⟩,
  ⟨"user2@example.com", "Bob", "inactive", true⟩,
  ⟨"user3@example.com", "Charlie", "active", false⟩,
  ⟨"user4@example.com", "Diana", "active", true⟩]

def loadRecipients : Step Unit := do
  let criteria ← read "segment_criteria"
  let wanted ← users.filterM fun user => user.isWanted criteria
  write "recipients" (.list (wanted.map User.toValue))

/-- Whether a recipient has an address that is not known to bounce, and is subscribed. -/
def isReachable (recipient : Value) : Except Fault Bool := do
  let email ← recipient.fieldOr "email" ""
  if !(← (Value.text "@").isIn email) then return false
  else if !(← (Value.text ".").isIn email) then return false
  else if !(← recipient.fieldOr "subscribed" false).truthy then return false
  else return !(← (Value.text "bounced").isIn email)

def validateRecipients : Step Unit := do
  let reachable ← (← (← read "recipients").members).filterM fun recipient => isReachable recipient
  write "recipients" (.list reachable)

/-- The template with every occurrence of a placeholder replaced by a text. -/
def fill (placeholder : String) (new : Value) (template : List Char) : Except Fault (List Char) :=
  match new with
  | .text s => .ok (Text.replace placeholder.toList s.toList template)
  | _ => .error .wrongKind

/-- The text for a recipient: name, address and last purchase are filled in one after the other. -/
def contentFor (template recipient : Value) : Except Fault Value := do
  let content ← template.chars
  let content ← fill "\x7b\x7bname\x7d\x7d" (← recipient.fieldOr "name" "Valued Customer") content
  let content ← fill "\x7b\x7bemail\x7d\x7d" (← recipient.fieldOr "email" "") content
  let content ←
    if ← (Value.text "last_purchase").isIn recipient then
      fill "\x7b\x7blast_purchase\x7d\x7d" (← recipient.field "last_purchase") content
    else pure content
  return Value.ofChars content

/-- Changes the recipients after those that are done, each with its position. -/
def changeFrom (change : Nat → Value → Except Fault Value) (done : List Value) :
    List Value → Step Unit
  | [] => return
  | recipient :: rest => do
    let changed ← change done.length recipient
    write "recipients" (.list (done ++ changed :: rest))
    changeFrom change (done ++ [changed]) rest

def changeRecipients (change : Nat → Value → Except Fault Value) : Step Unit := do
  changeFrom change [] (← (← read "recipients").members)

def personalize : Step Unit := do
  let template ← read "email_content"
  changeRecipients fun _ recipient => do
    recipient.setField "personalized_content" (← contentFor template recipient)

/-- The subject lines on trial: the plain one, one with a present, and an urgent one. -/
def subjectVariants (subject : Value) : Except Fault (List Value) := do
  let shown ← subject.render
  return [subject, .text (shown ++ " 🎁"), .text ("URGENT: " ++ shown)]

/-- The name of a variant: a capital letter for its position. -/
def variantName (index : Nat) : String := "variant_" ++ (Char.ofNat (65 + index)).toString

/-- Gives a recipient the subject line for their position, in turn. -/
def assignSubject (variants : List Value) (position : Nat) (recipient : Value) :
    Except Fault Value := do
  let index := position % variants.length
  let recipient ← recipient.setField "subject_variant" (variants.getD index .null)
  recipient.setField "variant_name" (variantName index)

def trySubjects : Step Unit := do
  if ← isSet "ab_test_enabled" then
    let variants ← subjectVariants (← read "subject_line")
    write "ab_variants" (.list variants)
    changeRecipients (assignSubject variants)

/-- The number of days from a day of the week to the next Tuesday, zero on a Tuesday. -/
def daysToTuesday (weekday : Nat) : Nat := (8 - weekday) % 7

/-- When to send: newsletters at ten on the next Tuesday, promotions at two in the afternoon, and all
else at once. -/
def sendTime (type : Value) (now : DateTime) : Except Fault DateTime :=
  if type.same "newsletter" then
    let morning := now.atHour ⟨10, by decide⟩
    match morning.date.advance? (daysToTuesday morning.date.weekday) with
    | some date => .ok { morning with date }
    | none => .error .dateOutOfRange
  else if type.same "promotional" then .ok (now.atHour ⟨14, by decide⟩)
  else .ok now

def schedule : Step Unit := do
  let type ← read "campaign_type"
  write "scheduled_time" (.text (← sendTime type (← now)).text)

def deliveryStatus (sent failed : Nat) : Value :=
  .record [("sent", .ofNat sent), ("failed", .ofNat failed), ("bounced", .int 0)]

/-- Sends mails, some of which fail by chance, and counts both. -/
def sendFrom (sent failed : Nat) : List Value → Step (Nat × Nat)
  | [] => return (sent, failed)
  | recipient :: rest => do
    let _email ← recipient.fieldOr "email" ""
    if (← drawRandom) > 0.95 then sendFrom sent (failed + 1) rest
    else sendFrom (sent + 1) failed rest

def send : Step Unit := do
  let (sent, failed) ← sendFrom 0 0 (← (← read "recipients").members)
  write "delivery_status" (deliveryStatus sent failed)

def trackEngagement : Step Unit := do
  let delivered ← (← read "delivery_status").field "sent"
  write "engagement_metrics" (.record [
    ("delivered", delivered), ("opened", .int 0), ("clicked", .int 0), ("unsubscribed", .int 0)])

/-- Stops when there is nobody to send to. -/
def routeAfterValidation : Step Value := do
  if (← (← read "recipients").size) = 0 then
    write "delivery_status" (deliveryStatus 0 0)
    return terminal
  else return "personalize"

def workflow : Workflow where
  schema := "CampaignState"
  fields := ["campaign_id", "campaign_type", "recipients", "segment_criteria", "template_id",
    "personalization_data", "subject_line", "email_content", "scheduled_time", "delivery_status",
    "engagement_metrics", "ab_test_enabled", "ab_variants"]
  entry := "load_recipients"
  nodes := [
    ⟨"load_recipients", "load_recipients", "Load recipient list based on segment criteria.",
      loadRecipients⟩,
    ⟨"validate", "validate_recipients", "Validate recipient email addresses and subscription status.",
      validateRecipients⟩,
    ⟨"personalize", "personalize_content", "Personalize email content for recipients.",
      personalize⟩,
    ⟨"ab_test", "ab_test_subject_lines", "Create A/B test variants for subject lines.",
      trySubjects⟩,
    ⟨"schedule", "schedule_delivery", "Schedule email delivery based on optimal send times.",
      schedule⟩,
    ⟨"send", "send_emails", "Send emails to recipients.", send⟩,
    ⟨"track", "track_engagement", "Initialize engagement tracking.", trackEngagement⟩]
  edges := [
    ("load_recipients", "validate"),
    ("personalize", "ab_test"),
    ("ab_test", "schedule"),
    ("schedule", "send"),
    ("send", "track"),
    ("track", terminal)]
  branchings := [
    ⟨"validate", ⟨"route_after_validation", routeAfterValidation⟩,
      [("personalize", "personalize"), (terminal, terminal)]⟩]

end Workgraph.Campaign
